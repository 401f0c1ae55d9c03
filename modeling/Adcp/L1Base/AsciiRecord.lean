import Adcp.L1Base.PyJsonText
/-!
# A record as ASCII

`json.dumps(value, sort_keys=True, separators=(",", ":"))` writes what is not printable ASCII as
escapes, one for each code unit. Read back, a high surrogate and a low one that stand side by side
are one code point, so the text of a string is read back exactly when it has no such pair.

* `merge`: what is read back of a text; `merge_unpaired`: the text itself, unless it has a pair.
* `scanString_ascii`: a string is read from its escapes.
* `loads_record`: an object of strings, integers and nulls is read back.
-/
namespace Adcp.L1.PyJson

open PyText

def IsHigh (c : CodePoint) : Prop := 0xD800 ≤ c.val ∧ c.val < 0xDC00
def IsLow (c : CodePoint) : Prop := 0xDC00 ≤ c.val ∧ c.val < 0xE000

instance (c : CodePoint) : Decidable (IsHigh c) := inferInstanceAs (Decidable (_ ∧ _))
instance (c : CodePoint) : Decidable (IsLow c) := inferInstanceAs (Decidable (_ ∧ _))

/-- The code point that a surrogate pair stands for. -/
def joined (hi lo : CodePoint) : CodePoint :=
  codeUnit (0x10000 + (hi.val - 0xD800) * 0x400 + (lo.val - 0xDC00))

/-- The pairs of a text as one code point each. -/
def merge : PyText → PyText
  | [] => []
  | [a] => [a]
  | a :: b :: t => if IsHigh a ∧ IsLow b then joined a b :: merge t else a :: merge (b :: t)

def Unpaired : PyText → Prop
  | [] => True
  | [_] => True
  | a :: b :: t => ¬ (IsHigh a ∧ IsLow b) ∧ Unpaired (b :: t)

theorem Unpaired.tail {c : CodePoint} {t : PyText} (h : Unpaired (c :: t)) : Unpaired t := by
  cases t with
  | nil => trivial
  | cons d t => exact h.2

/-- A text without high surrogates is unpaired. -/
theorem unpaired_of_not_high {t : PyText} (h : ∀ c ∈ t, ¬ IsHigh c) : Unpaired t := by
  induction t with
  | nil => trivial
  | cons c t ih =>
    cases t with
    | nil => trivial
    | cons d t =>
      exact ⟨fun hp => h c (List.mem_cons_self ..) hp.1,
        ih fun e he => h e (List.mem_cons_of_mem _ he)⟩

theorem merge_unpaired {t : PyText} (h : Unpaired t) : merge t = t := by
  fun_induction merge t with
  | case1 => rfl
  | case2 a => rfl
  | case3 a b t hp ih => exact absurd hp h.1
  | case4 a b t hp ih => rw [ih h.2]

/-! ## Strings -/

/-- What follows a high surrogate does not complete it to a pair. -/
def NotLow (r : PyText) : Prop :=
  ofString "\\u" <+: r → ∃ n r', scanHex (r.drop 2) = some (n, r') ∧ ¬ (0xDC00 ≤ n ∧ n < 0xE000)

theorem scanString_unicodeEscaped {n : Nat} (hn : n < 0x10000) (fuel : Nat) (r : PyText)
    (h : ¬ (0xD800 ≤ n ∧ n < 0xDC00) ∨ NotLow r) :
    scanString (fuel + 1) (ofChars (Json.unicodeEscaped n) ++ r) =
      (scanString fuel r).map fun (s, r') => (codeUnit n :: s, r') := by
  have hunicode : scanUnicode (ofChars (Json.hex4Digits n) ++ r) = some (codeUnit n, r) := by
    unfold scanUnicode
    rw [scanHex_hex4Digits hn]
    simp only [Option.bind_eq_bind, Option.bind_some]
    by_cases hpair : 0xD800 ≤ n ∧ n < 0xDC00 ∧ ofString "\\u" <+: r
    · rw [if_pos hpair]
      obtain ⟨m, r', hm, hlow⟩ := (h.resolve_left fun hne => hne ⟨hpair.1, hpair.2.1⟩) hpair.2.2
      rw [hm]
      simp only [Option.bind_some]
      rw [if_neg hlow]
    · rw [if_neg hpair]
  have htext : ofChars (Json.unicodeEscaped n) ++ r =
      ofChar '\\' :: ofChar 'u' :: (ofChars (Json.hex4Digits n) ++ r) := rfl
  rw [htext, scanString, if_neg (by decide), if_pos (by decide), scanEscape, if_pos (by decide),
    hunicode]
  rfl

theorem scanUnicode_pair {hi lo : Nat} (hhi : 0xD800 ≤ hi ∧ hi < 0xDC00)
    (hlo : 0xDC00 ≤ lo ∧ lo < 0xE000) (r : PyText) :
    scanUnicode (ofChars (Json.hex4Digits hi) ++
        (ofChar '\\' :: ofChar 'u' :: (ofChars (Json.hex4Digits lo) ++ r))) =
      some (codeUnit (0x10000 + (hi - 0xD800) * 0x400 + (lo - 0xDC00)), r) := by
  have hprefix : ofString "\\u" <+:
      ofChar '\\' :: ofChar 'u' :: (ofChars (Json.hex4Digits lo) ++ r) :=
    ⟨ofChars (Json.hex4Digits lo) ++ r, rfl⟩
  have hdrop : (ofChar '\\' :: ofChar 'u' :: (ofChars (Json.hex4Digits lo) ++ r)).drop 2 =
      ofChars (Json.hex4Digits lo) ++ r := rfl
  unfold scanUnicode
  rw [scanHex_hex4Digits (by omega)]
  simp only [Option.bind_eq_bind, Option.bind_some]
  rw [if_pos ⟨hhi.1, hhi.2, hprefix⟩, hdrop, scanHex_hex4Digits (by omega)]
  simp only [Option.bind_some]
  rw [if_pos hlo]

/-- A code point beyond the sixteen bits is written as a pair and read as one. -/
theorem scanString_pair {c : CodePoint} (hc : 0x10000 ≤ c.val) (fuel : Nat) (r : PyText) :
    scanString (fuel + 1)
        (ofChars (Json.unicodeEscaped (0xD800 + (c.val - 0x10000) / 0x400) ++
          Json.unicodeEscaped (0xDC00 + (c.val - 0x10000) % 0x400)) ++ r) =
      (scanString fuel r).map fun (s, r') => (c :: s, r') := by
  have hlt : c.val < 0x110000 := c.isLt
  have hhi : 0xD800 ≤ 0xD800 + (c.val - 0x10000) / 0x400 ∧
      0xD800 + (c.val - 0x10000) / 0x400 < 0xDC00 := by omega
  have hlo : 0xDC00 ≤ 0xDC00 + (c.val - 0x10000) % 0x400 ∧
      0xDC00 + (c.val - 0x10000) % 0x400 < 0xE000 := by omega
  have hval : 0x10000 + (0xD800 + (c.val - 0x10000) / 0x400 - 0xD800) * 0x400 +
      (0xDC00 + (c.val - 0x10000) % 0x400 - 0xDC00) = c.val := by omega
  have hunicode := scanUnicode_pair hhi hlo r
  rw [hval, codeUnit_of_lt] at hunicode
  have htext : ∀ m n, ofChars (Json.unicodeEscaped m ++ Json.unicodeEscaped n) ++ r =
      ofChar '\\' :: ofChar 'u' :: (ofChars (Json.hex4Digits m) ++
        (ofChar '\\' :: ofChar 'u' :: (ofChars (Json.hex4Digits n) ++ r))) := fun _ _ => rfl
  rw [htext, scanString, if_neg (by decide), if_pos (by decide), scanEscape, if_pos (by decide),
    hunicode]
  rfl

theorem scanString_asciiCodePoint (c : CodePoint) (fuel : Nat) (r : PyText)
    (h : ¬ IsHigh c ∨ NotLow r) :
    scanString (fuel + 1) (ofChars (asciiCodePoint c) ++ r) =
      (scanString fuel r).map fun (s, r') => (c :: s, r') := by
  have simple (e x : Char) (hx : (if (ofChar e).val = 117 then none else
      Json.simpleEscape (asChar (ofChar e))) = some x) (hc : c.val = x.toNat) :
      scanString (fuel + 1) (ofChars ['\\', e] ++ r) =
        (scanString fuel r).map fun (s, r') => (c :: s, r') := by
    obtain rfl : c = ofChar x := Fin.ext hc
    split_ifs at hx with hu
    simp only [ofChars, List.map_cons, List.map_nil, List.cons_append, List.nil_append, scanString]
    rw [if_neg (by decide), if_pos (by decide)]
    simp only [scanEscape, hu, if_false, hx, Option.map_some, Option.bind_eq_bind, Option.bind_some]
  unfold asciiCodePoint
  split
  · exact simple '"' '"' (by decide) (by assumption)
  split
  · exact simple '\\' '\\' (by decide) (by assumption)
  split
  · exact simple 'n' '\n' (by decide) (by assumption)
  split
  · exact simple 'r' '\r' (by decide) (by assumption)
  split
  · exact simple 't' '\t' (by decide) (by assumption)
  split
  · exact simple 'f' '\x0c' (by decide) (by assumption)
  split
  · exact simple 'b' '\x08' (by decide) (by assumption)
  split
  · rename_i hquote hslash _ _ _ _ _ hprint
    have hchar : ofChar (Char.ofNat c.val) = c := by
      apply Fin.ext
      have hvalid : c.val.isValidChar := Or.inl (by omega)
      show (Char.ofNat c.val).toNat = c.val
      rw [Char.ofNat, dif_pos hvalid]
      rfl
    show scanString (fuel + 1) (ofChar (Char.ofNat c.val) :: r) = _
    rw [hchar, scanString, if_neg hquote, if_neg hslash, if_neg (by omega)]
  split
  · rename_i hlt
    rw [scanString_unicodeEscaped hlt fuel r h, codeUnit_of_lt]
  · rename_i hge
    exact scanString_pair (by omega) fuel r

theorem notLow_quote (r : PyText) : NotLow (ofChar '"' :: r) := by
  rintro ⟨s, hs⟩
  cases hs

theorem notLow_ascii {d : CodePoint} (hd : ¬ IsLow d) (r : PyText) :
    NotLow (ofChars (asciiCodePoint d) ++ r) := by
  have hescape : ∀ n, n < 0x10000 → ¬ (0xDC00 ≤ n ∧ n < 0xE000) → ∀ r,
      NotLow (ofChars (Json.unicodeEscaped n) ++ r) := by
    intro n hn hlow r _
    exact ⟨n, r, scanHex_hex4Digits hn r, hlow⟩
  have hother : ∀ (e : Char) (cs : List Char), e ≠ 'u' →
      NotLow (ofChars ('\\' :: e :: cs) ++ r) := by
    rintro e cs he ⟨s, hs⟩
    have htail := (List.cons.inj hs).2
    exact absurd (ofChar_injective (List.cons.inj htail).1).symm he
  have hplain : ∀ x : Char, x ≠ '\\' → NotLow (ofChars [x] ++ r) := by
    rintro x hx ⟨s, hs⟩
    exact absurd (ofChar_injective (List.cons.inj hs).1).symm hx
  unfold asciiCodePoint
  split
  · exact hother '"' [] (by decide)
  split
  · exact hother '\\' [] (by decide)
  split
  · exact hother 'n' [] (by decide)
  split
  · exact hother 'r' [] (by decide)
  split
  · exact hother 't' [] (by decide)
  split
  · exact hother 'f' [] (by decide)
  split
  · exact hother 'b' [] (by decide)
  split
  · rename_i hslash _ _ _ _ _ hprint
    refine hplain _ fun he => hslash ?_
    have hvalid : d.val.isValidChar := Or.inl (by omega)
    have hval := congrArg Char.toNat he
    rw [Char.ofNat, dif_pos hvalid] at hval
    exact hval
  split
  · rename_i hlt
    exact hescape _ hlt hd r
  · rename_i hge
    have hlt : d.val < 0x110000 := d.isLt
    have htext : ∀ a b, ofChars (Json.unicodeEscaped a ++ Json.unicodeEscaped b) ++ r =
        ofChars (Json.unicodeEscaped a) ++ (ofChars (Json.unicodeEscaped b) ++ r) := fun a b => by
      unfold ofChars
      rw [List.map_append, List.append_assoc]
    rw [htext]
    exact hescape _ (by omega) (by omega) _

theorem ofChars_append (a b : List Char) : ofChars (a ++ b) = ofChars a ++ ofChars b :=
  List.map_append

/-- A high surrogate and a low one are read as one code point. -/
theorem scanString_joined {hi lo : CodePoint} (hhi : IsHigh hi) (hlo : IsLow lo) (fuel : Nat)
    (r : PyText) : scanString (fuel + 1)
        (ofChars (asciiCodePoint hi) ++ (ofChars (asciiCodePoint lo) ++ r)) =
      (scanString fuel r).map fun (s, r') => (joined hi lo :: s, r') := by
  have hescape : ∀ c : CodePoint, 0xD800 ≤ c.val → c.val < 0xE000 →
      asciiCodePoint c = Json.unicodeEscaped c.val := by
    intro c h h'
    unfold asciiCodePoint
    rw [if_neg (by omega), if_neg (by omega), if_neg (by omega), if_neg (by omega),
      if_neg (by omega), if_neg (by omega), if_neg (by omega), if_neg (by omega),
      if_pos (by omega)]
  obtain ⟨h, h'⟩ := hhi
  obtain ⟨hl, hl'⟩ := hlo
  rw [hescape hi h (by omega), hescape lo (by omega) hl']
  have hunicode := scanUnicode_pair ⟨h, h'⟩ ⟨hl, hl'⟩ r
  have htext : ofChars (Json.unicodeEscaped hi.val) ++
        (ofChars (Json.unicodeEscaped lo.val) ++ r) =
      ofChar '\\' :: ofChar 'u' :: (ofChars (Json.hex4Digits hi.val) ++
        (ofChar '\\' :: ofChar 'u' :: (ofChars (Json.hex4Digits lo.val) ++ r))) := rfl
  rw [htext, scanString, if_neg (by decide), if_pos (by decide), scanEscape, if_pos (by decide),
    hunicode]
  rfl

/-- **A string is read from its escapes**, with its pairs joined. -/
theorem scanString_ascii (t rest : PyText) {fuel : Nat} (h : t.length < fuel) :
    scanString fuel (ofChars (t.flatMap asciiCodePoint) ++ ofChar '"' :: rest) =
      some (merge t, rest) := by
  fun_induction merge t generalizing fuel with
  | case1 =>
    obtain ⟨f, rfl⟩ : ∃ f, fuel = f + 1 := ⟨fuel - 1, by omega⟩
    exact if_pos (by decide)
  | case2 a =>
    simp only [List.length_cons, List.length_nil] at h
    obtain ⟨f, rfl⟩ : ∃ f, fuel = f + 1 + 1 := ⟨fuel - 2, by omega⟩
    rw [List.flatMap_cons, List.flatMap_nil, List.append_nil,
      scanString_asciiCodePoint a _ _ (Or.inr (notLow_quote rest))]
    rw [scanString, if_pos (by decide)]
    rfl
  | case3 a b t hp ih =>
    simp only [List.length_cons] at h
    obtain ⟨f, rfl⟩ : ∃ f, fuel = f + 1 := ⟨fuel - 1, by omega⟩
    rw [List.flatMap_cons, List.flatMap_cons, ofChars_append, ofChars_append, List.append_assoc,
      List.append_assoc, scanString_joined hp.1 hp.2, ih (by omega)]
    rfl
  | case4 a b t hp ih =>
    simp only [List.length_cons] at h ih
    obtain ⟨f, rfl⟩ : ∃ f, fuel = f + 1 := ⟨fuel - 1, by omega⟩
    have hnext : ¬ IsHigh a ∨ NotLow
        (ofChars ((b :: t).flatMap asciiCodePoint) ++ ofChar '"' :: rest) := by
      by_cases ha : IsHigh a
      · right
        rw [List.flatMap_cons, ofChars_append, List.append_assoc]
        exact notLow_ascii (fun hb => hp ⟨ha, hb⟩) _
      · exact Or.inl ha
    rw [List.flatMap_cons, ofChars_append, List.append_assoc, scanString_asciiCodePoint a f _ hnext,
      ih (by omega)]
    rfl

/-! ## Records -/

/-- What a field of a record may hold. -/
inductive Scalar : PyJson → Prop
  | null : Scalar .null
  | int {n : Int} (writable : IntWritable n) : Scalar (.int n)
  | str (t : PyText) : Scalar (.str t)

/-- What is read back of a field. -/
def readBack : PyJson → PyJson
  | .str t => .str (merge t)
  | v => v

theorem quote_append (t rest : PyText) : ofChars (quote t) ++ rest =
    ofChar '"' :: (ofChars (t.flatMap asciiCodePoint) ++ ofChar '"' :: rest) := by
  unfold quote
  rw [ofChars, List.map_cons, List.cons_append]
  congr 1
  show ofChars (t.flatMap asciiCodePoint ++ ['"']) ++ rest = _
  rw [ofChars_append, List.append_assoc]
  rfl

theorem quote_length (t : PyText) : t.length + 2 ≤ (ofChars (quote t)).length := by
  have hone : ∀ c, 1 ≤ (asciiCodePoint c).length := by
    intro c
    unfold asciiCodePoint
    split_ifs <;> simp [Json.unicodeEscaped]
  have hall : t.length ≤ (t.flatMap asciiCodePoint).length := by
    induction t with
    | nil => exact Nat.zero_le _
    | cons c t ih =>
      have hc := hone c
      rw [List.flatMap_cons, List.length_append, List.length_cons]
      omega
  unfold quote ofChars
  simp only [List.length_map, List.length_cons, List.length_append, List.length_nil]
  omega

theorem scalar_opens {v : PyJson} (h : Scalar v) :
    ∃ c t, ofChars (dumps v) = c :: t ∧ Opens c := by
  cases h with
  | null => exact ⟨_, _, rfl, @opens_of 'n' (by simp)⟩
  | int writable =>
    obtain ⟨c, t, htext, hopens⟩ := render_opens (.int writable)
    exact ⟨c, t, htext, hopens⟩
  | str => exact ⟨_, _, rfl, @opens_of '"' (by simp)⟩

theorem scan_scalar {v : PyJson} (h : Scalar v) (fuel : Nat) (rest : PyText)
    (hfuel : (ofChars (dumps v)).length < fuel) (hrest : EndsText rest) :
    scan fuel (ofChars (dumps v) ++ rest) = .ok (readBack v, rest) := by
  cases h with
  | null => exact scan_render .null fuel rest hfuel hrest
  | int writable => exact roundTrips_int writable fuel rest hfuel hrest
  | str t =>
    obtain ⟨f, rfl⟩ : ∃ f, fuel = f + 1 := ⟨fuel - 1, by omega⟩
    have hlength := quote_length t
    rw [dumps] at hfuel ⊢
    rw [quote_append, scan, if_pos rfl, scanString_ascii t rest (by omega)]
    rfl

/-- One field of a record as text. -/
def spell (p : PyText × PyJson) : PyText :=
  ofChars (quote p.1) ++ ofChar ':' :: ofChars (dumps p.2)

theorem spell_append (p : PyText × PyJson) (rest : PyText) : spell p ++ rest =
    ofChar '"' :: (ofChars (p.1.flatMap asciiCodePoint) ++
      ofChar '"' :: (ofChar ':' :: (ofChars (dumps p.2) ++ rest))) := by
  unfold spell
  rw [List.append_assoc, quote_append, List.cons_append]

theorem spell_length (p : PyText × PyJson) : p.1.length + (ofChars (dumps p.2)).length + 3 ≤
    (spell p).length := by
  have hlength := quote_length p.1
  unfold spell
  rw [List.length_append, List.length_cons]
  omega

/-- The fields of a record, read behind the ones in `acc`. -/
theorem scanFields_spell {fields : List (PyText × PyJson)} (hne : fields ≠ [])
    (hkeys : ∀ p ∈ fields, Unpaired p.1) (hc : ∀ p ∈ fields, Scalar p.2) (fuel : Nat)
    (acc : List (PyText × PyJson)) (rest : PyText)
    (hd : (acc.map Prod.fst ++ fields.map Prod.fst).Nodup)
    (hfuel : (joinComma (fields.map spell)).length + 1 < fuel) :
    scanFields fuel acc (joinComma (fields.map spell) ++ ofChar '}' :: rest) =
      .ok (acc ++ fields.map fun p => (p.1, readBack p.2), rest) := by
  induction fields generalizing fuel acc with
  | nil => exact absurd rfl hne
  | cons p ps ih =>
    obtain ⟨f, rfl⟩ : ∃ f, fuel = f + 1 := ⟨fuel - 1, by omega⟩
    have hv : Scalar p.2 := hc p (List.mem_cons_self ..)
    have hlength := spell_length p
    have hfresh : p.1 ∉ acc.map Prod.fst := by
      intro hk
      exact (List.nodup_append.mp hd).2.2 p.1 hk p.1 (by simp) rfl
    have hskip (r : PyText) : skipSpace (ofChars (dumps p.2) ++ r) = ofChars (dumps p.2) ++ r := by
      obtain ⟨c, t, htext, hopens⟩ := scalar_opens hv
      rw [htext, List.cons_append, skipSpace_cons hopens.space]
    cases ps with
    | nil =>
      simp only [List.map_cons, List.map_nil, joinComma] at hfuel
      have hkey := fun r => @scanString_ascii p.1 r f (by omega)
      rw [merge_unpaired (hkeys p (List.mem_cons_self ..))] at hkey
      have hparse := scan_scalar hv f (ofChar '}' :: rest) (by omega) (endsText_cons (by simp) rest)
      simp only [List.map_cons, List.map_nil, joinComma, spell_append, scanFields, behind_self, hkey]
      rw [skipSpace_cons (by decide), behind_self]
      simp only [hskip, hparse]
      rw [skipSpace_cons (by decide), behind_self, setField_fresh hfresh]
    | cons q qs =>
      simp only [List.map_cons, joinComma, List.length_append, List.length_cons] at hfuel
      have hkey := fun r => @scanString_ascii p.1 r f (by omega)
      rw [merge_unpaired (hkeys p (List.mem_cons_self ..))] at hkey
      have hparse := fun r => scan_scalar hv f (ofChar ',' :: r) (by omega)
        (endsText_cons (by simp) r)
      have hrest := ih (by simp) (fun u hu => hkeys u (List.mem_cons_of_mem _ hu))
        (fun u hu => hc u (List.mem_cons_of_mem _ hu)) f
        (acc ++ [(p.1, readBack p.2)]) (by simpa using hd) (by rw [List.map_cons]; omega)
      have hopen (r : PyText) : skipSpace (joinComma (spell q :: qs.map spell) ++ r) =
          joinComma (spell q :: qs.map spell) ++ r := by
        have hquote : isSpace (ofChar '"') = false := by decide
        obtain ⟨t, ht⟩ : ∃ t, joinComma (spell q :: qs.map spell) ++ r = ofChar '"' :: t := by
          cases qs with
          | nil => exact ⟨_, spell_append q r⟩
          | cons u us =>
            rw [List.map_cons, joinComma, List.append_assoc]
            exact ⟨_, spell_append q _⟩
        rw [ht, skipSpace_cons hquote]
      rw [List.map_cons] at hrest
      simp only [List.map_cons, joinComma, List.append_assoc, List.cons_append, spell_append,
        scanFields, behind_self, hkey]
      rw [skipSpace_cons (by decide), behind_self]
      simp only [hskip, hparse]
      rw [skipSpace_cons (by decide), behind_self, behind_ne (by decide), setField_fresh hfresh]
      simp only [hopen, hrest, List.append_assoc, List.cons_append, List.nil_append, List.map_cons]

theorem ofChars_commaJoin (l : List (List Char)) :
    ofChars (Json.commaJoin l) = joinComma (l.map ofChars) := by
  induction l with
  | nil => rfl
  | cons a l ih =>
    cases l with
    | nil => rfl
    | cons b l =>
      rw [Json.commaJoin, ofChars_append]
      show ofChars a ++ (ofChar ',' :: ofChars (Json.commaJoin (b :: l))) = _
      rw [ih]
      rfl

theorem dumpsFields_eq (fields : List (PyText × PyJson)) :
    dumpsFields fields = fields.map fun p => (p.1, dumps p.2) := by
  induction fields with
  | nil => rfl
  | cons p ps ih => rw [dumpsFields, ih, List.map_cons]

theorem dumps_record (fields : List (PyText × PyJson)) : ofChars (dumps (.obj fields)) =
    ofChar '{' :: (joinComma ((sortFields fields).map spell) ++ [ofChar '}']) := by
  have hspell : ((sortFields (dumpsFields fields)).map fun p => ofChars (quote p.1 ++ ':' :: p.2)) =
      (sortFields fields).map spell := by
    rw [dumpsFields_eq, sortFields_map, List.map_map]
    refine List.map_congr_left fun p _ => ?_
    exact ofChars_append _ _
  rw [dumps]
  show ofChar '{' :: ofChars (Json.commaJoin _ ++ ['}']) = _
  rw [ofChars_append, ofChars_commaJoin, List.map_map]
  have hmap : ∀ l : List (PyText × List Char),
      l.map (ofChars ∘ fun p => quote p.1 ++ ':' :: p.2) =
        l.map fun p => ofChars (quote p.1 ++ ':' :: p.2) := fun _ => rfl
  exact congrArg (fun t => ofChar '{' :: (joinComma t ++ ofChars ['}'])) ((hmap _).trans hspell)

/-- **A record is read back**, with its fields in the order of their names. -/
theorem loads_record {fields : List (PyText × PyJson)} (hne : fields ≠ [])
    (hd : (fields.map Prod.fst).Nodup) (hkeys : ∀ p ∈ fields, Unpaired p.1)
    (hc : ∀ p ∈ fields, Scalar p.2) {tail : PyText} (htail : skipSpace tail = []) :
    loads (ofChars (dumps (.obj fields)) ++ tail) =
      .ok (.obj ((sortFields fields).map fun p => (p.1, readBack p.2))) := by
  have hperm := sortFields_perm fields
  have hnonempty : sortFields fields ≠ [] := fun h => hne (by
    have := hperm.length_eq
    rw [h] at this
    exact List.length_eq_zero_iff.mp this.symm)
  have htext := dumps_record fields
  have hlen : (joinComma ((sortFields fields).map spell)).length + 2 ≤
      (ofChars (dumps (.obj fields)) ++ tail).length := by
    rw [htext]
    simp only [List.length_append, List.length_cons, List.length_nil]
    omega
  have hfields := scanFields_spell hnonempty (fun p hp => hkeys p (hperm.mem_iff.mp hp))
    (fun p hp => hc p (hperm.mem_iff.mp hp))
    (2 * (ofChars (dumps (.obj fields)) ++ tail).length + 1) [] tail
    (by simpa using (hperm.map Prod.fst).nodup_iff.mpr hd) (by omega)
  obtain ⟨t, ht⟩ : ∃ t, joinComma ((sortFields fields).map spell) ++ ofChar '}' :: tail =
      ofChar '"' :: t := by
    cases hs : sortFields fields with
    | nil => exact absurd hs hnonempty
    | cons p ps =>
      cases ps with
      | nil => exact ⟨_, spell_append p _⟩
      | cons q qs =>
        rw [List.map_cons, List.map_cons, joinComma, List.append_assoc]
        exact ⟨_, spell_append p _⟩
  have hdoc : ofChars (dumps (.obj fields)) ++ tail =
      ofChar '{' :: (joinComma ((sortFields fields).map spell) ++ ofChar '}' :: tail) := by
    rw [htext]
    simp
  have hscan : scan (2 * (ofChars (dumps (.obj fields)) ++ tail).length + 2)
      (ofChars (dumps (.obj fields)) ++ tail) =
        .ok (.obj ((sortFields fields).map fun p => (p.1, readBack p.2)), tail) := by
    have hfuel : 2 * (ofChars (dumps (.obj fields)) ++ tail).length + 2 =
        2 * (ofChars (dumps (.obj fields)) ++ tail).length + 1 + 1 := rfl
    rw [hfuel]
    generalize 2 * (ofChars (dumps (.obj fields)) ++ tail).length + 1 = fuel at hfields ⊢
    rw [hdoc]
    rw [ht] at hfields ⊢
    rw [scan, if_neg (by decide), if_neg (by decide), if_pos rfl, skipSpace_cons (by decide),
      behind_ne (by decide), hfields]
    rfl
  have hskip : skipSpace (ofChars (dumps (.obj fields)) ++ tail) =
      ofChars (dumps (.obj fields)) ++ tail := by
    rw [hdoc, skipSpace_cons (by decide)]
  have hmark : (ofChars (dumps (.obj fields)) ++ tail).head? ≠ some (ofChar '\uFEFF') := by
    rw [hdoc, List.head?_cons]
    decide
  rw [loads, if_neg hmark, hskip, hscan]
  exact if_pos htail

/-! ## Fields of a record -/

theorem lookupKey_eq_some {k : PyText} {v : PyJson} {fields : List (PyText × PyJson)}
    (hd : (fields.map Prod.fst).Nodup) : lookupKey k fields = some v ↔ (k, v) ∈ fields := by
  induction fields with
  | nil => exact iff_of_false (by intro h; cases h) (by intro h; cases h)
  | cons p fields ih =>
    obtain ⟨k', v'⟩ := p
    rw [List.map_cons, List.nodup_cons] at hd
    rw [lookupKey, List.mem_cons, Prod.mk.injEq]
    by_cases hk : k' = k
    · subst hk
      rw [if_pos rfl, Option.some.injEq]
      constructor
      · intro hv
        exact Or.inl ⟨rfl, hv.symm⟩
      · rintro (⟨-, hv⟩ | hmem)
        · exact hv.symm
        · exact absurd (List.mem_map_of_mem hmem) hd.1
    · rw [if_neg hk, ih hd.2]
      constructor
      · intro hmem
        exact Or.inr hmem
      · rintro (⟨heq, -⟩ | hmem)
        · exact absurd heq.symm hk
        · exact hmem

/-- The order of the fields does not matter. -/
theorem lookupKey_perm {fields fields' : List (PyText × PyJson)} (h : fields.Perm fields')
    (hd : (fields.map Prod.fst).Nodup) (k : PyText) : lookupKey k fields = lookupKey k fields' := by
  have hd' : (fields'.map Prod.fst).Nodup := (h.map Prod.fst).nodup_iff.mp hd
  apply Option.ext
  intro v
  rw [lookupKey_eq_some hd, lookupKey_eq_some hd', h.mem_iff]

theorem lookupKey_map (f : PyJson → PyJson) (k : PyText) (fields : List (PyText × PyJson)) :
    lookupKey k (fields.map fun p => (p.1, f p.2)) = (lookupKey k fields).map f := by
  induction fields with
  | nil => rfl
  | cons p fields ih =>
    rw [List.map_cons, lookupKey, lookupKey, ih]
    split <;> rfl

theorem lookupKey_name {k k' : String} {v : PyJson} {fields : List (PyText × PyJson)} :
    lookupKey (ofString k) ((ofString k', v) :: fields) =
      if k' = k then some v else lookupKey (ofString k) fields := by
  rw [lookupKey]
  simp only [ofString_injective.eq_iff]

end Adcp.L1.PyJson
