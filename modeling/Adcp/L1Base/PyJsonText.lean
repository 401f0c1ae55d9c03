import Adcp.L1Base.PyJson
/-!
# The text of a document, and the document of a text

`json.dumps` without ASCII escapes, read back by `json.loads`, over texts of code points: a lone
surrogate is written as it stands.

* `render`: the encoder, with sorted keys and the separators `,` and `:`.
* `loads`: the decoder; the fuel of its parts bounds the nesting and is never short.
* `scan_render`, `loads_render`: the decoder gives the document back with its keys in order.
-/
namespace Adcp.L1.PyJson

open PyText

/-! ## The encoder -/

/-- `json.encoder.encode_basestring` on one code point. -/
def escapeCodePoint (c : CodePoint) : PyText :=
  if c.val = 34 then ofChars ['\\', '"']
  else if c.val = 92 then ofChars ['\\', '\\']
  else if c.val = 10 then ofChars ['\\', 'n']
  else if c.val = 13 then ofChars ['\\', 'r']
  else if c.val = 9 then ofChars ['\\', 't']
  else if c.val = 12 then ofChars ['\\', 'f']
  else if c.val = 8 then ofChars ['\\', 'b']
  else if c.val < 32 then ofChars (Json.unicodeEscaped c.val)
  else [c]

def quoteText (t : PyText) : PyText := ofChar '"' :: (t.flatMap escapeCodePoint ++ [ofChar '"'])

/-- Join with a comma. -/
def joinComma : List PyText → PyText
  | [] => []
  | [x] => x
  | x :: y :: rest => x ++ ofChar ',' :: joinComma (y :: rest)

def renderField (p : PyText × PyText) : PyText := quoteText p.1 ++ ofChar ':' :: p.2

mutual

/-- `json.dumps(value, ensure_ascii=False, sort_keys=True, separators=(",", ":"))`. -/
def render : PyJson → PyText
  | .null => ofString "null"
  | .bool true => ofString "true"
  | .bool false => ofString "false"
  | .int n => ofString (toString n)
  | .float t => t
  | .str t => quoteText t
  | .arr items => ofChar '[' :: (joinComma (renderItems items) ++ [ofChar ']'])
  | .obj fields =>
    ofChar '{' :: (joinComma ((sortFields (renderFields fields)).map renderField) ++ [ofChar '}'])

def renderItems : List PyJson → List PyText
  | [] => []
  | v :: vs => render v :: renderItems vs

def renderFields : List (PyText × PyJson) → List (PyText × PyText)
  | [] => []
  | (k, v) :: rest => (k, render v) :: renderFields rest

end

/-! ## The decoder -/

/-- A code point as the decoder's grammar tells it from others: those outside ASCII are all one. -/
def asChar (c : CodePoint) : Char := if c.val < 128 then Char.ofNat c.val else '\x80'

def isSpace (c : CodePoint) : Bool := c.val = 32 || c.val = 9 || c.val = 10 || c.val = 13

def skipSpace (t : PyText) : PyText := t.dropWhile isSpace

/-- Four hexadecimal digits. -/
def scanHex : PyText → Option (Nat × PyText)
  | a :: b :: c :: d :: rest => do
    let a ← Json.hexVal (asChar a)
    let b ← Json.hexVal (asChar b)
    let c ← Json.hexVal (asChar c)
    let d ← Json.hexVal (asChar d)
    some (((a * 16 + b) * 16 + c) * 16 + d, rest)
  | _ => none

/-- A code unit as a code point. -/
def codeUnit (n : Nat) : CodePoint := ⟨n % 0x110000, Nat.mod_lt n (by decide)⟩

/-- What follows `\u`: a code unit, or the two of a surrogate pair; half a pair stands for itself. -/
def scanUnicode (t : PyText) : Option (CodePoint × PyText) := do
  let (hi, rest) ← scanHex t
  if 0xD800 ≤ hi ∧ hi < 0xDC00 ∧ ofString "\\u" <+: rest then
    let (lo, rest') ← scanHex (rest.drop 2)
    if 0xDC00 ≤ lo ∧ lo < 0xE000 then
      some (codeUnit (0x10000 + (hi - 0xD800) * 0x400 + (lo - 0xDC00)), rest')
    else some (codeUnit hi, rest)
  else some (codeUnit hi, rest)

/-- What follows a backslash. -/
def scanEscape : PyText → Option (CodePoint × PyText)
  | [] => none
  | e :: rest =>
    if e.val = 117 then scanUnicode rest
    else (Json.simpleEscape (asChar e)).map fun c => (ofChar c, rest)

/-- The rest of a string literal, behind its opening quote. -/
def scanString : Nat → PyText → Option (PyText × PyText)
  | 0, _ => none
  | _ + 1, [] => none
  | fuel + 1, c :: t =>
    if c.val = 34 then some ([], t)
    else if c.val = 92 then do
      let (e, rest) ← scanEscape t
      (scanString fuel rest).map fun (s, r) => (e :: s, r)
    else if c.val < 32 then none
    else (scanString fuel t).map fun (s, r) => (c :: s, r)

/-- The integers with more digits than `int.__repr__` writes and `int` reads start here. -/
@[irreducible] def intLimit : Nat := 10 ^ 4300

def IntWritable (n : Int) : Prop := n.natAbs < intLimit

instance (n : Int) : Decidable (IntWritable n) := inferInstanceAs (Decidable (_ < _))

theorem intLimit_eq : intLimit = 10 ^ 4300 := by
  delta intLimit
  rfl

theorem exists_limit : ∃ k, 4300 ≤ k ∧ intLimit = 10 ^ k := by
  delta intLimit
  exact ⟨4300, Nat.le_refl _, rfl⟩

/-- A number of no more digits is written. -/
theorem pow_le_intLimit {n : Nat} (h : n ≤ 4300) : 10 ^ n ≤ intLimit := by
  obtain ⟨k, hk, hlimit⟩ := exists_limit
  rw [hlimit]
  exact Nat.pow_le_pow_right (Nat.succ_pos 9) (h.trans hk)

/-- What `json.loads` raises for a text: `JSONDecodeError`, and `ValueError` for an integer of too
many digits. -/
inductive LoadsFault where
  | invalid
  | digits
  deriving DecidableEq

/-- A literal other than a string, which is in ASCII. -/
def ofLiteral : Json → Except LoadsFault PyJson
  | .null => .ok .null
  | .bool b => .ok (.bool b)
  | .int n => if IntWritable n then .ok (.int n) else .error .digits
  | .float t => .ok (.float (ofString t))
  | _ => .error .invalid

def scanLiteral (t : PyText) : Except LoadsFault (PyJson × PyText) :=
  match Json.parseLiteral (t.map asChar) with
  | none => .error .invalid
  | some (v, rest) => (ofLiteral v).map fun v => (v, t.drop (t.length - rest.length))

/-- What is behind this character. -/
def behind (x : Char) : PyText → Option PyText
  | [] => none
  | c :: t => if c = ofChar x then some t else none

/-- Set a member of an object, replacing an earlier one. -/
def setField (k : PyText) (v : PyJson) : List (PyText × PyJson) → List (PyText × PyJson)
  | [] => [(k, v)]
  | (k', v') :: rest => if k' = k then (k', v) :: rest else (k', v') :: setField k v rest

mutual

def scan : Nat → PyText → Except LoadsFault (PyJson × PyText)
  | 0, _ => .error .invalid
  | _ + 1, [] => .error .invalid
  | fuel + 1, c :: t =>
    if c = ofChar '"' then
      match scanString fuel t with
      | none => .error .invalid
      | some (s, r) => .ok (.str s, r)
    else if c = ofChar '[' then
      match behind ']' (skipSpace t) with
      | some r => .ok (.arr [], r)
      | none => (scanItems fuel (skipSpace t)).map fun (l, r) => (.arr l, r)
    else if c = ofChar '{' then
      match behind '}' (skipSpace t) with
      | some r => .ok (.obj [], r)
      | none => (scanFields fuel [] (skipSpace t)).map fun (l, r) => (.obj l, r)
    else scanLiteral (c :: t)

def scanItems : Nat → PyText → Except LoadsFault (List PyJson × PyText)
  | 0, _ => .error .invalid
  | fuel + 1, t =>
    match scan fuel t with
    | .error e => .error e
    | .ok (v, rest) =>
      match behind ']' (skipSpace rest), behind ',' (skipSpace rest) with
      | some r, _ => .ok ([v], r)
      | none, some r => (scanItems fuel (skipSpace r)).map fun (l, r') => (v :: l, r')
      | none, none => .error .invalid

def scanFields : Nat → List (PyText × PyJson) → PyText →
    Except LoadsFault (List (PyText × PyJson) × PyText)
  | 0, _, _ => .error .invalid
  | fuel + 1, acc, t =>
    match behind '"' t with
    | none => .error .invalid
    | some t₁ =>
      match scanString fuel t₁ with
      | none => .error .invalid
      | some (k, t₂) =>
        match behind ':' (skipSpace t₂) with
        | none => .error .invalid
        | some t₃ =>
          match scan fuel (skipSpace t₃) with
          | .error e => .error e
          | .ok (v, t₄) =>
            match behind '}' (skipSpace t₄), behind ',' (skipSpace t₄) with
            | some r, _ => .ok (setField k v acc, r)
            | none, some r => scanFields fuel (setField k v acc) (skipSpace r)
            | none, none => .error .invalid

end

/-- `json.loads(text)`. A text that begins with a byte order mark is refused. -/
def loads (t : PyText) : Except LoadsFault PyJson :=
  if t.head? = some (ofChar '\uFEFF') then .error .invalid
  else
    match scan (2 * t.length + 2) (skipSpace t) with
    | .ok (v, rest) => if skipSpace rest = [] then .ok v else .error .invalid
    | .error e => .error e

/-! ## String literals -/

theorem asChar_ofChar {x : Char} (h : x.toNat < 128) : asChar (ofChar x) = x := by
  unfold asChar
  rw [if_pos (show (ofChar x).val < 128 from h)]
  exact Char.ofNat_toNat x

theorem codeUnit_of_lt (c : CodePoint) : codeUnit c.val = c :=
  Fin.ext (Nat.mod_eq_of_lt c.isLt)

theorem hexDigit_ascii {n : Nat} (h : n < 16) : (Json.hexDigit n).toNat < 128 := by
  have hall : ∀ i : Fin 16, (Json.hexDigit i.val).toNat < 128 := by decide
  exact hall ⟨n, h⟩

theorem scanHex_hex4Digits {n : Nat} (h : n < 0x10000) (rest : PyText) :
    scanHex (ofChars (Json.hex4Digits n) ++ rest) = some (n, rest) := by
  have hdigit : ∀ m, Json.hexVal (asChar (ofChar (Json.hexDigit (m % 16)))) = some (m % 16) :=
    fun m => by
      have hm : m % 16 < 16 := Nat.mod_lt m (by decide)
      rw [asChar_ofChar (hexDigit_ascii hm), Json.hexVal_hexDigit hm]
  have hval : ((n / 4096 % 16 * 16 + n / 256 % 16) * 16 + n / 16 % 16) * 16 + n % 16 = n := by omega
  simp only [Json.hex4Digits, ofChars, List.map_cons, List.map_nil, List.cons_append,
    List.nil_append, scanHex, hdigit, Option.bind_eq_bind, Option.bind_some, hval]

/-- One code point, read back from its escape. -/
theorem scanString_escape (c : CodePoint) (fuel : Nat) (rest : PyText) :
    scanString (fuel + 1) (escapeCodePoint c ++ rest) =
      (scanString fuel rest).map fun (s, r) => (c :: s, r) := by
  have simple (e x : Char) (hx : (if (ofChar e).val = 117 then none else
      Json.simpleEscape (asChar (ofChar e))) = some x) (hc : c.val = x.toNat) :
      scanString (fuel + 1) (ofChars ['\\', e] ++ rest) =
        (scanString fuel rest).map fun (s, r) => (c :: s, r) := by
    obtain rfl : c = ofChar x := Fin.ext hc
    split_ifs at hx with hu
    simp only [ofChars, List.map_cons, List.map_nil, List.cons_append, List.nil_append, scanString]
    rw [if_neg (by decide), if_pos (by decide)]
    simp only [scanEscape, hu, if_false, hx, Option.map_some, Option.bind_eq_bind, Option.bind_some]
  unfold escapeCodePoint
  split
  · exact simple '"' '"' (by decide) (by assumption)
  split
  · exact simple '\\' '\\' (by decide) (by assumption)
  split
  · exact simple 'n' '\n' (by decide) (by assumption)
  split
  · exact simple 'r' '\r' (by decide) (by assumption)
  split
  · exact simple 't' '\t' (by decide) (by assumption)
  split
  · exact simple 'f' '\x0c' (by decide) (by assumption)
  split
  · exact simple 'b' '\x08' (by decide) (by assumption)
  split
  · rename_i hcontrol
    have hhex := scanHex_hex4Digits (show c.val < 0x10000 by omega) rest
    have hunicode : scanUnicode (ofChars (Json.hex4Digits c.val) ++ rest) = some (c, rest) := by
      unfold scanUnicode
      rw [hhex]
      simp only [Option.bind_eq_bind, Option.bind_some]
      rw [if_neg (by omega), codeUnit_of_lt]
    have htext : ofChars (Json.unicodeEscaped c.val) ++ rest =
        ofChar '\\' :: ofChar 'u' :: (ofChars (Json.hex4Digits c.val) ++ rest) := rfl
    rw [htext, scanString, if_neg (by decide), if_pos (by decide), scanEscape, if_pos (by decide),
      hunicode]
    rfl
  · rename_i hquote hslash _ _ _ _ _ hcontrol
    show scanString (fuel + 1) (c :: rest) = _
    rw [scanString, if_neg hquote, if_neg hslash, if_neg hcontrol]

theorem scanString_quoteText (t rest : PyText) (fuel : Nat) (h : t.length < fuel) :
    scanString fuel (t.flatMap escapeCodePoint ++ ofChar '"' :: rest) = some (t, rest) := by
  induction t generalizing fuel with
  | nil =>
    obtain ⟨f, rfl⟩ : ∃ f, fuel = f + 1 := ⟨fuel - 1, by omega⟩
    exact if_pos (by decide)
  | cons c t ih =>
    obtain ⟨f, rfl⟩ : ∃ f, fuel = f + 1 := ⟨fuel - 1, by omega⟩
    have hf : t.length < f := by
      rw [List.length_cons] at h
      omega
    rw [List.flatMap_cons, List.append_assoc, scanString_escape, ih f hf]
    rfl

theorem quoteText_append (t rest : PyText) :
    quoteText t ++ rest = ofChar '"' :: (t.flatMap escapeCodePoint ++ ofChar '"' :: rest) := by
  simp [quoteText]

theorem quoteText_length (t : PyText) : t.length + 2 ≤ (quoteText t).length := by
  have hone : ∀ c, 1 ≤ (escapeCodePoint c).length := by
    intro c
    unfold escapeCodePoint
    split_ifs <;> simp [ofChars, Json.unicodeEscaped]
  have hall : t.length ≤ (t.flatMap escapeCodePoint).length := by
    induction t with
    | nil => exact Nat.zero_le _
    | cons c t ih =>
      have hc := hone c
      rw [List.flatMap_cons, List.length_append, List.length_cons]
      omega
  simp only [quoteText, List.length_cons, List.length_append, List.length_nil]
  omega

/-! ## Literals -/

/-- Behind a value: nothing, or what ends an item. -/
def EndsText (rest : PyText) : Prop := Json.Ends (rest.map asChar)

theorem endsText_cons {x : Char} (h : x = ',' ∨ x = ']' ∨ x = '}') (rest : PyText) :
    EndsText (ofChar x :: rest) := by
  rcases h with rfl | rfl | rfl
  · exact Or.inl (by decide)
  · exact Or.inr (Or.inl (by decide))
  · exact Or.inr (Or.inr (by decide))

theorem map_asChar_ofChars {cs : List Char} (h : ∀ x ∈ cs, x.toNat < 128) :
    (ofChars cs).map asChar = cs := by
  unfold ofChars
  rw [List.map_map]
  exact (List.map_congr_left fun x hx => asChar_ofChar (h x hx)).trans (List.map_id cs)

theorem ofLiteral_int {n : Int} (h : IntWritable n) : ofLiteral (.int n) = .ok (.int n) := by
  rw [ofLiteral, if_pos h]

theorem scanLiteral_ofChars {cs : List Char} {v : Json} {w : PyJson} {rest : PyText}
    (hascii : ∀ x ∈ cs, x.toNat < 128)
    (h : ∀ r, Json.Ends r → Json.parseLiteral (cs ++ r) = some (v, r))
    (hv : ofLiteral v = .ok w) (hrest : EndsText rest) :
    scanLiteral (ofChars cs ++ rest) = .ok (w, rest) := by
  unfold scanLiteral
  rw [List.map_append, map_asChar_ofChars hascii, h _ hrest]
  have hlength : (ofChars cs ++ rest).length - (rest.map asChar).length = (ofChars cs).length := by
    rw [List.length_append, List.length_map, Nat.add_sub_cancel]
  simp only [hv, Except.map, hlength, List.drop_left]

theorem parseLiteral_int (n : Int) {r : List Char} (h : Json.Ends r) :
    Json.parseLiteral ((toString n).toList ++ r) = some (.int n, r) := by
  obtain ⟨d, ds, hd, hdigit⟩ := Json.toDigits_opens n.natAbs
  rw [show (toString n).toList = _ from Json.render_int n]
  by_cases hn : 0 ≤ n
  · have hparse := Json.parseNat_digits false n.natAbs h
    have hval : ((n.natAbs : Nat) : Int) = n := Int.natAbs_of_nonneg hn
    rw [if_neg Bool.false_ne_true, hval] at hparse
    rw [if_pos hn, List.nil_append, ← hparse, hd]
    exact Json.parseLiteral_digit hdigit
  · have hparse := Json.parseNat_digits true n.natAbs h
    have hval : - ((n.natAbs : Nat) : Int) = n := by omega
    rw [if_pos rfl, hval] at hparse
    rw [if_neg hn, ← hparse, hd]
    exact Json.parseLiteral_minus hdigit

/-! ## Documents that can be written -/

/-- Without floats and without integers that are not written, and no object has a key twice. -/
inductive Canonical : PyJson → Prop
  | null : Canonical .null
  | bool (b : Bool) : Canonical (.bool b)
  | int {n : Int} (writable : IntWritable n) : Canonical (.int n)
  | str (t : PyText) : Canonical (.str t)
  | arr {items : List PyJson} (each : ∀ v ∈ items, Canonical v) : Canonical (.arr items)
  | obj {fields : List (PyText × PyJson)} (keys : (fields.map Prod.fst).Nodup)
      (each : ∀ p ∈ fields, Canonical p.2) : Canonical (.obj fields)

mutual

/-- The document with the keys of its objects in order. -/
def sorted : PyJson → PyJson
  | .arr items => .arr (sortedItems items)
  | .obj fields => .obj (sortFields (sortedFields fields))
  | v => v

def sortedItems : List PyJson → List PyJson
  | [] => []
  | v :: vs => sorted v :: sortedItems vs

def sortedFields : List (PyText × PyJson) → List (PyText × PyJson)
  | [] => []
  | (k, v) :: rest => (k, sorted v) :: sortedFields rest

end

theorem sortedItems_eq (items : List PyJson) : sortedItems items = items.map sorted := by
  induction items with
  | nil => rfl
  | cons v vs ih => rw [sortedItems, ih, List.map_cons]

theorem sortedFields_eq (fields : List (PyText × PyJson)) :
    sortedFields fields = fields.map fun p => (p.1, sorted p.2) := by
  induction fields with
  | nil => rfl
  | cons p ps ih => rw [sortedFields, ih, List.map_cons]

theorem renderItems_eq (items : List PyJson) : renderItems items = items.map render := by
  induction items with
  | nil => rfl
  | cons v vs ih => rw [renderItems, ih, List.map_cons]

theorem renderFields_eq (fields : List (PyText × PyJson)) :
    renderFields fields = fields.map fun p => (p.1, render p.2) := by
  induction fields with
  | nil => rfl
  | cons p ps ih => rw [renderFields, ih, List.map_cons]

section Fields

variable {α β : Type}

theorem sortFields_map (f : α → β) (l : List (PyText × α)) :
    sortFields (l.map fun p => (p.1, f p.2)) = (sortFields l).map fun p => (p.1, f p.2) := by
  unfold sortFields
  exact (List.map_insertionSort (fun p q : PyText × α => p.1 ≤ q.1)
    (fun p q : PyText × β => p.1 ≤ q.1) (fun p => (p.1, f p.2)) l fun _ _ _ _ => Iff.rfl).symm

theorem sortFields_perm (l : List (PyText × α)) : (sortFields l).Perm l :=
  List.perm_insertionSort _ l

theorem sortFields_sortFields (l : List (PyText × α)) : sortFields
    (sortFields l) = sortFields l := by
  have : Std.Total fun p q : PyText × α => p.1 ≤ q.1 := ⟨fun p q => le_total p.1 q.1⟩
  have : IsTrans (PyText × α) fun p q => p.1 ≤ q.1 := ⟨fun p q r h h' => le_trans h h'⟩
  exact (List.pairwise_insertionSort _ l).insertionSort_eq

end Fields

/-- The encoder does not tell a document from the one with its keys in order. -/
theorem render_sorted {v : PyJson} (h : Canonical v) : render (sorted v) = render v := by
  induction h with
  | null => rfl
  | bool => rfl
  | int => rfl
  | str => rfl
  | @arr items _ ih =>
    have hitems : (items.map sorted).map render = items.map render := by
      rw [List.map_map]
      exact List.map_congr_left ih
    simp only [sorted, render, renderItems_eq, sortedItems_eq, hitems]
  | @obj fields _ _ ih =>
    have hfields : (fields.map fun p => (p.1, sorted p.2)).map (fun p => (p.1, render p.2)) =
        fields.map fun p => (p.1, render p.2) := by
      rw [List.map_map]
      refine List.map_congr_left fun p hp => ?_
      simp only [Function.comp_apply, ih p hp]
    simp only [sorted, render, renderFields_eq, sortedFields_eq]
    rw [← sortFields_map render, hfields, sortFields_sortFields]

theorem Canonical.sorted {v : PyJson} (h : Canonical v) : Canonical v.sorted := by
  induction h with
  | null => exact .null
  | bool b => exact .bool b
  | int writable => exact .int writable
  | str t => exact .str t
  | @arr items _ ih =>
    rw [PyJson.sorted, sortedItems_eq]
    refine .arr fun w hw => ?_
    obtain ⟨v, hv, rfl⟩ := List.mem_map.mp hw
    exact ih v hv
  | @obj fields keys _ ih =>
    rw [PyJson.sorted, sortedFields_eq]
    have hperm := sortFields_perm (fields.map fun p => (p.1, p.2.sorted))
    refine .obj ?_ fun q hq => ?_
    · rw [(hperm.map Prod.fst).nodup_iff, List.map_map]
      exact keys
    · obtain ⟨p, hp, rfl⟩ := List.mem_map.mp (hperm.mem_iff.mp hq)
      exact ih p hp

/-! ## The round trip -/

/-- The decoder reads `v` back from its text, in front of what ends a value. -/
def RoundTrips (v : PyJson) : Prop :=
  ∀ (fuel : Nat) (rest : PyText), (render v).length < fuel → EndsText rest →
    scan fuel (render v ++ rest) = .ok (sorted v, rest)

/-- A code point a value can start with: no space, and no bracket that closes. -/
structure Opens (c : CodePoint) : Prop where
  space : isSpace c = false
  bracket : c ≠ ofChar ']'
  brace : c ≠ ofChar '}'
  mark : c ≠ ofChar '\uFEFF'

theorem opens_digit {d : Char} (h : d.isDigit = true) : Opens (ofChar d) := by
  have hrange : 48 ≤ (ofChar d).val ∧ (ofChar d).val ≤ 57 := by
    simp only [Char.isDigit, Bool.and_eq_true, decide_eq_true_eq] at h
    exact h
  refine ⟨?_, ?_, ?_, ?_⟩
  · unfold isSpace
    simp only [Bool.or_eq_false_iff, decide_eq_false_iff_not]
    omega
  · rintro heq
    rw [heq] at hrange
    exact absurd hrange (by decide)
  · rintro heq
    rw [heq] at hrange
    exact absurd hrange (by decide)
  · rintro heq
    rw [heq] at hrange
    exact absurd hrange (by decide)

theorem opens_of {x : Char} (h : x = 'n' ∨ x = 't' ∨ x = 'f' ∨ x = '"' ∨ x = '[' ∨ x = '{' ∨
    x = '-') : Opens (ofChar x) := by
  rcases h with rfl | rfl | rfl | rfl | rfl | rfl | rfl
  all_goals exact ⟨by decide, by decide, by decide, by decide⟩

theorem render_opens {v : PyJson} (h : Canonical v) : ∃ c t, render v = c :: t ∧ Opens c := by
  cases h with
  | null => exact ⟨_, _, rfl, opens_of (x := 'n') (by simp)⟩
  | bool b =>
    cases b
    · exact ⟨_, _, rfl, opens_of (x := 'f') (by simp)⟩
    · exact ⟨_, _, rfl, opens_of (x := 't') (by simp)⟩
  | @int n _ =>
    obtain ⟨d, ds, hd, hdigit⟩ := Json.toDigits_opens n.natAbs
    have htext : render (.int n) = ofChars ((if 0 ≤ n then [] else ['-']) ++ d :: ds) := by
      rw [← hd]
      exact congrArg ofChars (Json.render_int n)
    rw [htext]
    split_ifs
    · exact ⟨_, _, rfl, opens_digit hdigit⟩
    · exact ⟨_, _, rfl, opens_of (x := '-') (by simp)⟩
  | str t => exact ⟨_, _, rfl, opens_of (x := '"') (by simp)⟩
  | arr => exact ⟨_, _, rfl, opens_of (x := '[') (by simp)⟩
  | obj => exact ⟨_, _, rfl, opens_of (x := '{') (by simp)⟩

theorem skipSpace_cons {c : CodePoint} (h : isSpace c = false) (t : PyText) :
    skipSpace (c :: t) = c :: t := by
  unfold skipSpace
  rw [List.dropWhile_cons, h]
  rfl

theorem behind_self (x : Char) (t : PyText) : behind x (ofChar x :: t) = some t := if_pos rfl

theorem behind_ne {x : Char} {c : CodePoint} (h : c ≠ ofChar x) (t : PyText) :
    behind x (c :: t) = none := if_neg h

theorem skipSpace_ends {rest : PyText} (h : EndsText rest) : skipSpace rest = rest := by
  cases rest with
  | nil => rfl
  | cons c t =>
    refine skipSpace_cons ?_ t
    have hc : asChar c = ',' ∨ asChar c = ']' ∨ asChar c = '}' := h
    unfold isSpace
    simp only [Bool.or_eq_false_iff, decide_eq_false_iff_not]
    have hne : ∀ x : Char, x.toNat < 128 → x ≠ ',' → x ≠ ']' → x ≠ '}' → ¬ c.val = x.toNat := by
      intro x hx h₁ h₂ h₃ hval
      obtain rfl : c = ofChar x := Fin.ext hval
      rw [asChar_ofChar hx] at hc
      exact hc.elim h₁ fun hc => hc.elim h₂ h₃
    exact ⟨⟨⟨hne ' ' (by decide) (by decide) (by decide) (by decide),
      hne '\t' (by decide) (by decide) (by decide) (by decide)⟩,
      hne '\n' (by decide) (by decide) (by decide) (by decide)⟩,
      hne '\r' (by decide) (by decide) (by decide) (by decide)⟩

/-- A literal is read by its first character, which no other value begins with. -/
theorem scan_literal (cs : List Char) {v : Json} {w : PyJson} {rest : PyText} {fuel : Nat}
    (hascii : ∀ x ∈ cs, x.toNat < 128) (hne : cs ≠ [])
    (hfirst : ∀ x ∈ cs, x ≠ '"' ∧ x ≠ '[' ∧ x ≠ '{')
    (h : ∀ r, Json.Ends r → Json.parseLiteral (cs ++ r) = some (v, r))
    (hv : ofLiteral v = .ok w) (hrest : EndsText rest) :
    scan (fuel + 1) (ofChars cs ++ rest) = .ok (w, rest) := by
  cases cs with
  | nil => exact absurd rfl hne
  | cons d ds =>
    obtain ⟨h₁, h₂, h₃⟩ := hfirst d (List.mem_cons_self ..)
    have hliteral := scanLiteral_ofChars hascii h hv hrest
    rw [ofChars, List.map_cons, List.cons_append] at hliteral ⊢
    rw [scan, if_neg fun he => h₁ (ofChar_injective he), if_neg fun he => h₂ (ofChar_injective he),
      if_neg fun he => h₃ (ofChar_injective he)]
    exact hliteral

theorem roundTrips_int {n : Int} (h : IntWritable n) : RoundTrips (.int n) := by
  intro fuel rest hfuel hrest
  obtain ⟨f, rfl⟩ : ∃ f, fuel = f + 1 := ⟨fuel - 1, by omega⟩
  have hchars : ∀ x ∈ (toString n).toList, x = '-' ∨ x.isDigit = true := by
    intro x hx
    rw [show (toString n).toList = _ from Json.render_int n] at hx
    rcases List.mem_append.mp hx with hx | hx
    · split_ifs at hx
      · exact nomatch hx
      · exact Or.inl (List.mem_singleton.mp hx)
    · exact Or.inr (Nat.isDigit_of_mem_toDigits (by omega) (by omega) hx)
  refine scan_literal _ (fun x hx => ?_) ?_ (fun x hx => ?_) (fun r hr => parseLiteral_int n hr)
    (ofLiteral_int h) hrest
  · rcases hchars x hx with rfl | hdigit
    · decide
    · have := Json.isDigit_keep hdigit
      omega
  · rw [show (toString n).toList = _ from Json.render_int n]
    exact List.append_ne_nil_of_right_ne_nil _ Nat.toDigits_ne_nil
  · rcases hchars x hx with rfl | hdigit
    · decide
    · refine ⟨?_, ?_, ?_⟩
      all_goals
        rintro rfl
        exact absurd hdigit (by decide)

theorem roundTrips_str (t : PyText) : RoundTrips (.str t) := by
  intro fuel rest hfuel _
  obtain ⟨f, rfl⟩ : ∃ f, fuel = f + 1 := ⟨fuel - 1, by omega⟩
  have hlength := quoteText_length t
  have hf : t.length < f := by
    rw [render] at hfuel
    omega
  rw [render, quoteText_append, scan, if_pos rfl, scanString_quoteText t rest f hf]
  rfl

theorem scanItems_render {items : List PyJson} (hne : items ≠ [])
    (hc : ∀ v ∈ items, Canonical v) (hr : ∀ v ∈ items, RoundTrips v) (fuel : Nat) (rest : PyText)
    (hfuel : (joinComma (items.map render)).length + 1 < fuel) :
    scanItems fuel (joinComma (items.map render) ++ ofChar ']' :: rest) =
      .ok (items.map sorted, rest) := by
  induction items generalizing fuel with
  | nil => exact absurd rfl hne
  | cons v vs ih =>
    obtain ⟨f, rfl⟩ : ∃ f, fuel = f + 1 := ⟨fuel - 1, by omega⟩
    have hv := hr v (List.mem_cons_self ..)
    cases vs with
    | nil =>
      have hparse := hv f (ofChar ']' :: rest)
        (by simp only [List.map_cons, List.map_nil, joinComma] at hfuel; omega)
        (endsText_cons (by simp) rest)
      simp only [List.map_cons, List.map_nil, joinComma, scanItems, hparse]
      rw [skipSpace_cons (by decide), behind_self]
    | cons w ws =>
      simp only [List.map_cons, joinComma, List.length_append, List.length_cons] at hfuel
      have hparse := hv f
        (ofChar ',' :: (joinComma (render w :: ws.map render) ++ ofChar ']' :: rest)) (by omega)
        (endsText_cons (by simp) _)
      have hrest := ih (by simp) (fun u hu => hc u (List.mem_cons_of_mem _ hu))
        (fun u hu => hr u (List.mem_cons_of_mem _ hu)) f (by rw [List.map_cons]; omega)
      obtain ⟨c, t, hopen, hopens⟩ := render_opens (hc w (by simp))
      have hskip : skipSpace (joinComma (render w :: ws.map render) ++ ofChar ']' :: rest) =
          joinComma (render w :: ws.map render) ++ ofChar ']' :: rest := by
        cases ws <;> simp [joinComma, hopen, skipSpace_cons hopens.space]
      rw [List.map_cons] at hrest
      simp only [List.map_cons, joinComma, List.append_assoc, List.cons_append, scanItems, hparse]
      rw [skipSpace_cons (by decide), behind_self, behind_ne (by decide)]
      simp only [hskip, hrest, Except.map, List.map_cons]

theorem roundTrips_arr {items : List PyJson} (hc : ∀ v ∈ items, Canonical v)
    (hr : ∀ v ∈ items, RoundTrips v) : RoundTrips (.arr items) := by
  intro fuel rest hfuel hrest
  obtain ⟨f, rfl⟩ : ∃ f, fuel = f + 1 := ⟨fuel - 1, by omega⟩
  simp only [render, renderItems_eq, List.length_cons, List.length_append, List.length_nil] at hfuel
  simp only [render, renderItems_eq, sorted, sortedItems_eq, List.cons_append, List.append_assoc,
    List.nil_append]
  rw [scan, if_neg (by decide), if_pos rfl]
  cases items with
  | nil =>
    rw [List.map_nil, joinComma, List.nil_append, skipSpace_cons (by decide), behind_self]
    rfl
  | cons v vs =>
    have hitems := scanItems_render (by simp) hc hr f rest (by omega)
    obtain ⟨c, t, hopen, hopens⟩ := render_opens (hc v (List.mem_cons_self ..))
    obtain ⟨u, hu⟩ : ∃ u, joinComma ((v :: vs).map render) ++ ofChar ']' :: rest = c :: u := by
      cases vs <;> simp [joinComma, hopen]
    rw [hu] at hitems ⊢
    rw [skipSpace_cons hopens.space, behind_ne hopens.bracket, hitems]
    rfl

/-! ## Objects -/

theorem setField_fresh {k : PyText} {v : PyJson} {acc : List (PyText × PyJson)}
    (h : k ∉ acc.map Prod.fst) : setField k v acc = acc ++ [(k, v)] := by
  induction acc with
  | nil => rfl
  | cons p ps ih =>
    rw [List.map_cons, List.mem_cons, not_or] at h
    rw [setField, if_neg (Ne.symm h.1), ih h.2, List.cons_append]

theorem renderField_append (k t rest : PyText) : renderField (k, t) ++ rest =
    ofChar '"' :: (k.flatMap escapeCodePoint ++ ofChar '"' :: (ofChar ':' :: (t ++ rest))) := by
  simp [renderField, quoteText]

theorem renderField_length (k t : PyText) :
    (renderField (k, t)).length = (quoteText k).length + t.length + 1 := by
  simp only [renderField, List.length_append, List.length_cons]
  omega

/-- The members of an object, read behind the ones in `acc`. -/
theorem scanFields_render {fields : List (PyText × PyJson)} (hne : fields ≠ [])
    (hc : ∀ p ∈ fields, Canonical p.2) (hr : ∀ p ∈ fields, RoundTrips p.2) (fuel : Nat)
    (acc : List (PyText × PyJson)) (rest : PyText)
    (hkeys : (acc.map Prod.fst ++ fields.map Prod.fst).Nodup)
    (hfuel : (joinComma (fields.map fun p => renderField (p.1, render p.2))).length + 1 < fuel) :
    scanFields fuel acc
        (joinComma (fields.map fun p => renderField (p.1, render p.2)) ++ ofChar '}' :: rest) =
      .ok (acc ++ fields.map fun p => (p.1, sorted p.2), rest) := by
  induction fields generalizing fuel acc with
  | nil => exact absurd rfl hne
  | cons p ps ih =>
    obtain ⟨k, v⟩ := p
    obtain ⟨f, rfl⟩ : ∃ f, fuel = f + 1 := ⟨fuel - 1, by omega⟩
    have hv : RoundTrips v := hr (k, v) (List.mem_cons_self ..)
    obtain ⟨c, t, hopen, hopens⟩ := render_opens (hc (k, v) (List.mem_cons_self ..))
    replace hopen : render v = c :: t := hopen
    have hlength := quoteText_length k
    have hfield := renderField_length k (render v)
    have hfresh : k ∉ acc.map Prod.fst := by
      intro hk
      exact (List.nodup_append.mp hkeys).2.2 k hk k (by simp) rfl
    have hskip (r : PyText) : skipSpace (render v ++ r) = render v ++ r := by
      rw [hopen, List.cons_append, skipSpace_cons hopens.space]
    cases ps with
    | nil =>
      simp only [List.map_cons, List.map_nil, joinComma] at hfuel
      have hkey := scanString_quoteText k (ofChar ':' :: (render v ++ ofChar '}' :: rest)) f
        (by omega)
      have hparse := hv f (ofChar '}' :: rest) (by omega) (endsText_cons (by simp) rest)
      simp only [List.map_cons, List.map_nil, joinComma, renderField_append,
        scanFields, behind_self,
        hkey]
      rw [skipSpace_cons (by decide), behind_self]
      simp only [hskip, hparse]
      rw [skipSpace_cons (by decide), behind_self, setField_fresh hfresh]
    | cons q qs =>
      simp only [List.map_cons, joinComma, List.length_append, List.length_cons] at hfuel
      have hkey := fun r => scanString_quoteText k r f (by omega)
      have hparse := fun r => hv f (ofChar ',' :: r) (by omega) (endsText_cons (by simp) r)
      have hrest := ih (by simp) (fun u hu => hc u (List.mem_cons_of_mem _ hu))
        (fun u hu => hr u (List.mem_cons_of_mem _ hu)) f (acc ++ [(k, sorted v)])
        (by simpa using hkeys) (by rw [List.map_cons]; omega)
      rw [List.map_cons] at hrest
      have hopen (r : PyText) : skipSpace (joinComma (renderField (q.1, render q.2) ::
          qs.map fun p => renderField (p.1, render p.2)) ++ r) =
          joinComma (renderField (q.1, render q.2) ::
            qs.map fun p => renderField (p.1, render p.2)) ++ r := by
        have hquote : isSpace (ofChar '"') = false := by decide
        cases qs <;> simp [joinComma, renderField, quoteText, skipSpace_cons hquote]
      simp only [List.map_cons, joinComma, List.append_assoc, List.cons_append, renderField_append,
        scanFields, behind_self, hkey]
      rw [skipSpace_cons (by decide), behind_self]
      simp only [hskip, hparse]
      rw [skipSpace_cons (by decide), behind_self, behind_ne (by decide), setField_fresh hfresh]
      simp only [hopen, hrest, List.append_assoc, List.cons_append, List.nil_append, List.map_cons]

theorem roundTrips_obj {fields : List (PyText × PyJson)} (hd : (fields.map Prod.fst).Nodup)
    (hc : ∀ p ∈ fields, Canonical p.2) (hr : ∀ p ∈ fields, RoundTrips p.2) :
    RoundTrips (.obj fields) := by
  intro fuel rest hfuel hrest
  obtain ⟨f, rfl⟩ : ∃ f, fuel = f + 1 := ⟨fuel - 1, by omega⟩
  -- the encoder writes the members in key order, and that is how they are read
  have hperm := sortFields_perm fields
  have htext : (sortFields (renderFields fields)).map renderField =
      (sortFields fields).map fun p => renderField (p.1, render p.2) := by
    rw [renderFields_eq, sortFields_map, List.map_map]
    rfl
  have hsorted : sorted (.obj fields) = .obj
    ((sortFields fields).map fun p => (p.1, sorted p.2)) := by
    rw [sorted, sortedFields_eq, sortFields_map]
  rw [render, htext] at hfuel
  simp only [List.length_cons, List.length_append, List.length_nil] at hfuel
  rw [hsorted, render, htext]
  simp only [List.cons_append, List.append_assoc, List.nil_append]
  rw [scan, if_neg (by decide), if_neg (by decide), if_pos rfl]
  cases hfields : sortFields fields with
  | nil =>
    rw [List.map_nil, joinComma, List.nil_append, skipSpace_cons (by decide), behind_self]
    rfl
  | cons p ps =>
    have hnonempty : sortFields fields ≠ [] := by simp [hfields]
    have hfs := scanFields_render hnonempty (fun q hq => hc q (hperm.mem_iff.mp hq))
      (fun q hq => hr q (hperm.mem_iff.mp hq)) f [] rest
      (by simpa using (hperm.map Prod.fst).nodup_iff.mpr hd) (by omega)
    rw [hfields] at hfs
    obtain ⟨u, hu⟩ : ∃ u, joinComma ((p :: ps).map fun p => renderField (p.1, render p.2)) ++
        ofChar '}' :: rest = ofChar '"' :: u := by
      cases ps <;> simp [joinComma, renderField, quoteText]
    rw [hu] at hfs ⊢
    rw [skipSpace_cons (by decide), behind_ne (by decide), hfs]
    rfl

/-- **The round trip.** -/
theorem scan_render {v : PyJson} (h : Canonical v) : RoundTrips v := by
  induction h with
  | null =>
    intro fuel rest hfuel hrest
    obtain ⟨f, rfl⟩ : ∃ f, fuel = f + 1 := ⟨fuel - 1, by omega⟩
    exact scan_literal ['n', 'u', 'l', 'l'] (v := .null) (by simp) (by simp) (by simp)
      (fun _ _ => rfl) rfl hrest
  | bool b =>
    intro fuel rest hfuel hrest
    obtain ⟨f, rfl⟩ : ∃ f, fuel = f + 1 := ⟨fuel - 1, by omega⟩
    cases b with
    | true =>
      exact scan_literal ['t', 'r', 'u', 'e'] (v := .bool true) (by simp) (by simp)
        (by simp) (fun _ _ => rfl) rfl hrest
    | false =>
      exact scan_literal ['f', 'a', 'l', 's', 'e'] (v := .bool false) (by simp) (by simp)
        (by simp) (fun _ _ => rfl) rfl hrest
  | int writable => exact roundTrips_int writable
  | str t => exact roundTrips_str t
  | arr each ih => exact roundTrips_arr each ih
  | obj keys each ih => exact roundTrips_obj keys each ih

/-- A whole document. -/
theorem loads_render {v : PyJson} (h : Canonical v) : loads (render v) = .ok (sorted v) := by
  obtain ⟨c, t, hopen, hopens⟩ := render_opens h
  have hparse := scan_render h (2 * (render v).length + 2) [] (by omega) trivial
  rw [List.append_nil] at hparse
  have hskip : skipSpace (render v) = render v := by rw [hopen, skipSpace_cons hopens.space]
  have hmark : (render v).head? ≠ some (ofChar '\uFEFF') := by
    rw [hopen]
    exact fun he => hopens.mark (Option.some.inj he)
  rw [loads, if_neg hmark, hskip, hparse]
  rfl

/-- Documents of one text are one document, up to the order of their keys. -/
theorem sorted_of_render {v w : PyJson} (hv : Canonical v) (hw : Canonical w)
    (h : render v = render w) : sorted v = sorted w := by
  have hl := loads_render hv
  rw [h, loads_render hw] at hl
  exact (Except.ok.inj hl).symm

/-! ## What is read -/

/-- No object has a key twice, and the integers are short enough to be written again. -/
inductive Loaded : PyJson → Prop
  | null : Loaded .null
  | bool (b : Bool) : Loaded (.bool b)
  | int {n : Int} (writable : IntWritable n) : Loaded (.int n)
  | float (t : PyText) : Loaded (.float t)
  | str (t : PyText) : Loaded (.str t)
  | arr {items : List PyJson} (each : ∀ v ∈ items, Loaded v) : Loaded (.arr items)
  | obj {fields : List (PyText × PyJson)} (keys : (fields.map Prod.fst).Nodup)
      (each : ∀ p ∈ fields, Loaded p.2) : Loaded (.obj fields)

theorem Canonical.loaded {v : PyJson} (h : Canonical v) : Loaded v := by
  induction h with
  | null => exact .null
  | bool b => exact .bool b
  | int writable => exact .int writable
  | str t => exact .str t
  | arr _ ih => exact .arr ih
  | obj keys _ ih => exact .obj keys ih

theorem ofLiteral_loaded {l : Json} {v : PyJson} (h : ofLiteral l = .ok v) : Loaded v := by
  cases l with
  | null => cases h; exact .null
  | bool b => cases h; exact .bool b
  | int n =>
    rw [ofLiteral] at h
    split_ifs at h with hn
    cases h
    exact .int hn
  | float t => cases h; exact .float _
  | _ => cases h

theorem scanLiteral_loaded {t rest : PyText} {v : PyJson} (h : scanLiteral t = .ok (v, rest)) :
    Loaded v := by
  unfold scanLiteral at h
  split at h
  · cases h
  · rename_i l _ _
    cases hl : ofLiteral l with
    | error e =>
      rw [hl] at h
      cases h
    | ok w =>
      rw [hl] at h
      cases h
      exact ofLiteral_loaded hl

theorem keys_setField {k : PyText} {v : PyJson} (fields : List (PyText × PyJson)) :
    (setField k v fields).map Prod.fst = if k ∈ fields.map Prod.fst then fields.map Prod.fst
      else fields.map Prod.fst ++ [k] := by
  induction fields with
  | nil => rfl
  | cons p rest ih =>
    obtain ⟨k', v'⟩ := p
    unfold setField
    by_cases hk : k' = k
    · simp [hk]
    · simp only [if_neg hk, List.map_cons, ih, List.mem_cons, Ne.symm hk, false_or]
      split_ifs <;> rfl

theorem mem_setField {k : PyText} {v : PyJson} {fields : List (PyText × PyJson)}
    {p : PyText × PyJson} (h : p ∈ setField k v fields) : p ∈ fields ∨ p = (k, v) := by
  induction fields with
  | nil => exact Or.inr (List.mem_singleton.mp h)
  | cons q rest ih =>
    unfold setField at h
    split_ifs at h with hk
    · rcases List.mem_cons.mp h with rfl | h
      · exact Or.inr (Prod.ext hk rfl)
      · exact Or.inl (List.mem_cons_of_mem _ h)
    · rcases List.mem_cons.mp h with rfl | h
      · exact Or.inl List.mem_cons_self
      · exact (ih h).imp (List.mem_cons_of_mem _) id

theorem loaded_nil : Loaded (.obj []) :=
  .obj List.nodup_nil fun _ hp => absurd hp List.not_mem_nil

theorem loaded_setField {k : PyText} {v : PyJson} {fields : List (PyText × PyJson)}
    (h : Loaded (.obj fields)) (hv : Loaded v) : Loaded (.obj (setField k v fields)) := by
  cases h with
  | obj keys each =>
    refine .obj ?_ fun p hp => ?_
    · rw [keys_setField]
      split_ifs with hk
      · exact keys
      · exact List.nodup_append.mpr ⟨keys, List.nodup_singleton k, fun a ha b hb heq =>
          hk (List.mem_singleton.mp hb ▸ heq ▸ ha)⟩
    · rcases mem_setField hp with hp | rfl
      · exact each p hp
      · exact hv

theorem map_pair_ok {ε α β γ : Type} {x : Except ε (α × γ)} {f : α → β} {b : β} {r : γ}
    (h : (x.map fun (a, r) => (f a, r)) = .ok (b, r)) : ∃ a, x = .ok (a, r) ∧ f a = b := by
  cases x with
  | error e => cases h
  | ok p =>
    cases h
    exact ⟨p.1, rfl, rfl⟩

/-- Whatever is scanned is loaded. The three scanners go through the text with one fuel. -/
theorem scan_loaded (fuel : Nat) :
    (∀ t v rest, scan fuel t = .ok (v, rest) → Loaded v) ∧
    (∀ t items rest, scanItems fuel t = .ok (items, rest) → ∀ v ∈ items, Loaded v) ∧
    ∀ acc t fields rest, Loaded (.obj acc) → scanFields fuel acc t = .ok (fields, rest) →
      Loaded (.obj fields) := by
  induction fuel with
  | zero =>
    refine ⟨fun t v rest h => ?_, fun t items rest h => ?_, fun acc t fields rest _ h => ?_⟩
    · cases h
    · cases h
    · cases h
  | succ fuel ih =>
    obtain ⟨hscan, hitems, hfields⟩ := ih
    refine ⟨fun t v rest h => ?_, fun t items rest h => ?_, fun acc t fields rest hacc h => ?_⟩
    · cases t with
      | nil => cases h
      | cons c t =>
        unfold scan at h
        split_ifs at h
        · split at h
          · cases h
          · cases h
            exact .str _
        · split at h
          · cases h
            exact .arr fun v hv => absurd hv List.not_mem_nil
          · obtain ⟨items, hscanned, rfl⟩ := map_pair_ok h
            exact .arr (hitems _ _ _ hscanned)
        · split at h
          · cases h
            exact loaded_nil
          · obtain ⟨fields, hscanned, rfl⟩ := map_pair_ok h
            exact hfields _ _ _ _ loaded_nil hscanned
        · exact scanLiteral_loaded h
    · unfold scanItems at h
      split at h
      · cases h
      · rename_i v r hv
        split at h
        · cases h
          exact List.forall_mem_singleton.mpr (hscan _ _ _ hv)
        · obtain ⟨items, hscanned, rfl⟩ := map_pair_ok h
          exact List.forall_mem_cons.mpr ⟨hscan _ _ _ hv, hitems _ _ _ hscanned⟩
        · cases h
    · unfold scanFields at h
      split at h
      · cases h
      split at h
      · cases h
      split at h
      · cases h
      split at h
      · cases h
      rename_i v r hv
      split at h
      · cases h
        exact loaded_setField hacc (hscan _ _ _ hv)
      · exact hfields _ _ _ _ (loaded_setField hacc (hscan _ _ _ hv)) h
      · cases h

theorem loads_loaded {t : PyText} {v : PyJson} (h : loads t = .ok v) : Loaded v := by
  unfold loads at h
  split_ifs at h
  split at h
  · rename_i v' rest hscan
    split_ifs at h
    cases h
    exact (scan_loaded _).1 _ _ _ hscan
  · cases h

end Adcp.L1.PyJson
