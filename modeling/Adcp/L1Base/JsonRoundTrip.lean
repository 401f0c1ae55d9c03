import Adcp.L1Base.Json
import Mathlib.Data.String.Basic

/-!
# The decoder reads what the encoder writes

`json.dumps` with sorted keys, read back by `json.loads`, gives the same document
with the keys of every object in order, if no object has a key twice and no
number has a fraction.

* `parseStr_quote`, `parseNat_digits`: the two kinds of token with a length of
  their own.
* `sorted`: the document with its keys in order; `render_sorted` says that the
  encoder does not tell the two apart.
* `parse_render`: the round trip in front of any text that ends a value;
  `loads_render`: the round trip of a whole document.
-/
namespace Adcp.L1.Json

/-! ## String literals -/

theorem hexVal_hexDigit {n : Nat} (h : n < 16) : hexVal (hexDigit n) = some n := by
  have hall : ∀ i : Fin 16, hexVal (hexDigit i.val) = some i.val := by decide
  exact hall ⟨n, h⟩

theorem unicodeEscape_control {c : Char} (h : c.toNat < 32) (rest : List Char) :
    unicodeEscape ('0' :: '0' :: hexDigit (c.toNat / 16) :: hexDigit (c.toNat % 16) :: rest) =
      some (c, rest) := by
  have hz : hexVal '0' = some 0 := by decide
  have hhi : hexVal (hexDigit (c.toNat / 16)) = some (c.toNat / 16) := hexVal_hexDigit (by omega)
  have hlo : hexVal (hexDigit (c.toNat % 16)) = some (c.toNat % 16) := hexVal_hexDigit (by omega)
  have hval : ((0 * 16 + 0) * 16 + c.toNat / 16) * 16 + c.toNat % 16 = c.toNat := by omega
  unfold unicodeEscape hex4
  simp only [hz, hhi, hlo, hval]
  rw [if_neg (by omega), if_neg (by omega), Char.ofNat_toNat]

/-- One character, read back from its escape. -/
theorem parseStr_escapeChar (c : Char) (fuel : Nat) (rest : List Char) :
    parseStr (fuel + 1) (escapeChar c ++ rest) =
      (parseStr fuel rest).map fun (s, r) => (c :: s, r) := by
  have simple (e : Char) (he : e ≠ 'u') (hc : simpleEscape e = some c) :
      parseStr (fuel + 1) ('\\' :: e :: rest) =
        (parseStr fuel rest).map fun (s, r) => (c :: s, r) := by
    conv_lhs => unfold parseStr
    rw [if_neg (by decide), if_pos rfl]
    split
    · rename_i heq
      exact absurd (List.cons.inj heq).1 he
    · rename_i heq
      obtain ⟨rfl, rfl⟩ := List.cons.inj heq
      simp only [hc]
    · rename_i heq
      cases heq
  unfold escapeChar
  split
  · rename_i h; subst h; exact simple '"' (by decide) (by decide)
  split
  · rename_i h; subst h; exact simple '\\' (by decide) (by decide)
  split
  · rename_i h; subst h; exact simple 'n' (by decide) (by decide)
  split
  · rename_i h; subst h; exact simple 'r' (by decide) (by decide)
  split
  · rename_i h; subst h; exact simple 't' (by decide) (by decide)
  split
  · rename_i h; subst h; exact simple 'f' (by decide) (by decide)
  split
  · rename_i h; subst h; exact simple 'b' (by decide) (by decide)
  split
  · rename_i h
    show parseStr (fuel + 1) ('\\' :: 'u' :: '0' :: '0' :: hexDigit (c.toNat / 16) ::
      hexDigit (c.toNat % 16) :: rest) = _
    conv_lhs => unfold parseStr
    rw [if_neg (by decide), if_pos rfl]
    simp only [unicodeEscape_control h]
  · rename_i hq hb _ _ _ _ _ hctl
    show parseStr (fuel + 1) (c :: rest) = _
    rw [parseStr.eq_def]
    simp only [if_neg hq, if_neg hb, if_neg hctl]

theorem parseStr_quote (cs rest : List Char) (fuel : Nat) (h : cs.length < fuel) :
    parseStr fuel (cs.flatMap escapeChar ++ '"' :: rest) = some (cs, rest) := by
  induction cs generalizing fuel with
  | nil =>
    obtain ⟨f, rfl⟩ := Nat.exists_eq_add_of_lt h
    simp [parseStr]
  | cons c cs ih =>
    obtain ⟨f, rfl⟩ : ∃ f, fuel = f + 1 := ⟨fuel - 1, by omega⟩
    have hf : cs.length < f := by
      rw [List.length_cons] at h
      omega
    rw [List.flatMap_cons, List.append_assoc, parseStr_escapeChar, ih f hf]
    rfl

/-! ## Numbers -/

/-- The text behind a value: nothing, or what ends an item. -/
def Ends : List Char → Prop
  | [] => True
  | c :: _ => c = ',' ∨ c = ']' ∨ c = '}'

theorem takeDigits_append (ds rest : List Char) (hd : ∀ c ∈ ds, c.isDigit = true)
    (hrest : Ends rest) : takeDigits (ds ++ rest) = (ds, rest) := by
  induction ds with
  | nil =>
    cases rest with
    | nil => rfl
    | cons c cs =>
      have hc : c.isDigit = false := by rcases hrest with rfl | rfl | rfl <;> decide
      simp [takeDigits, hc]
  | cons d ds ih =>
    have hdigit : d.isDigit = true := hd d (List.mem_cons_self ..)
    have htail := ih fun c hc => hd c (List.mem_cons_of_mem _ hc)
    simp [takeDigits, hdigit, htail]

theorem digitsVal_eq (acc : Nat) (ds : List Char) : digitsVal acc ds = Nat.ofDigitChars 10 ds acc := by
  induction ds generalizing acc with
  | nil => rfl
  | cons d ds ih =>
    show digitsVal (acc * 10 + (d.toNat - 48)) ds = _
    rw [ih, Nat.ofDigitChars_cons, Nat.mul_comm]
    rfl

theorem fracExp_ends {rest : List Char} (h : Ends rest) : fracExp rest = ([], rest) := by
  cases rest with
  | nil => rfl
  | cons c cs =>
    rcases h with rfl | rfl | rfl <;> simp [fracExp]

/-- The first digit of a positive number is not zero. -/
theorem toDigits_head {n : Nat} (h : 0 < n) : (Nat.toDigits 10 n).head? ≠ some '0' := by
  induction n using Nat.strongRecOn with
  | ind n ih =>
    by_cases hn : n < 10
    · rw [Nat.toDigits_of_lt_base hn]
      have hall : ∀ i : Fin 10, 0 < i.val → i.val.digitChar ≠ '0' := by decide
      intro he
      exact hall ⟨n, hn⟩ h (Option.some.inj he)
    · rw [Nat.toDigits_of_base_le (by omega) (by omega), List.head?_append]
      have hq := ih (n / 10) (by omega) (by omega)
      cases hd : Nat.toDigits 10 (n / 10) with
      | nil => exact absurd hd Nat.toDigits_ne_nil
      | cons d ds =>
        rw [hd] at hq
        exact hq

theorem parseNat_digits (neg : Bool) (n : Nat) {rest : List Char} (h : Ends rest) :
    parseNat neg (Nat.toDigits 10 n ++ rest) =
      some (.int (if neg then - (n : Int) else n), rest) := by
  have hdigits : ∀ c ∈ Nat.toDigits 10 n, c.isDigit = true := fun c hc =>
    Nat.isDigit_of_mem_toDigits (by omega) (by omega) hc
  have hval : digitsVal 0 (Nat.toDigits 10 n) = n := by
    rw [digitsVal_eq, Nat.ofDigitChars_ten_toDigits]
  have htake := takeDigits_append _ rest hdigits h
  unfold parseNat
  rcases Nat.eq_zero_or_pos n with rfl | hpos
  · have hzero : Nat.toDigits 10 0 = ['0'] := Nat.toDigits_zero 10
    rw [hzero] at hval
    rw [hzero, List.cons_append, List.nil_append]
    simp [fracExp_ends h, hval]
  · have hhead := toDigits_head hpos
    cases hd : Nat.toDigits 10 n with
    | nil => exact absurd hd Nat.toDigits_ne_nil
    | cons d ds =>
      rw [hd] at htake hhead hval
      have hne : d ≠ '0' := fun he => hhead (congrArg some he)
      rw [List.cons_append] at htake ⊢
      simp [hne, htake, fracExp_ends h, hval]

/-! ## Objects in key order -/

mutual

/-- The document with the keys of its objects in order. -/
def sorted : Json → Json
  | .arr items => .arr (sortedItems items)
  | .obj fields => .obj (sortKeys (sortedFields fields))
  | v => v

def sortedItems : List Json → List Json
  | [] => []
  | v :: vs => sorted v :: sortedItems vs

def sortedFields : List (String × Json) → List (String × Json)
  | [] => []
  | (k, v) :: rest => (k, sorted v) :: sortedFields rest

end

mutual

/-- No object of the document has a key twice. -/
def distinctKeys : Json → Prop
  | .arr items => distinctKeysItems items
  | .obj fields => (fields.map Prod.fst).Nodup ∧ distinctKeysFields fields
  | _ => True

def distinctKeysItems : List Json → Prop
  | [] => True
  | v :: vs => distinctKeys v ∧ distinctKeysItems vs

def distinctKeysFields : List (String × Json) → Prop
  | [] => True
  | (_, v) :: rest => distinctKeys v ∧ distinctKeysFields rest

end

/-- Induction over documents, with the hypothesis for every member. -/
theorem induct {P : Json → Prop} (null : P .null) (bool : ∀ b, P (.bool b))
    (int : ∀ n, P (.int n)) (float : ∀ t, P (.float t)) (str : ∀ s, P (.str s))
    (arr : ∀ items, (∀ v ∈ items, P v) → P (.arr items))
    (obj : ∀ fields, (∀ p ∈ fields, P p.2) → P (.obj fields)) (v : Json) : P v := by
  refine Json.rec (motive_1 := P) (motive_2 := fun items => ∀ v ∈ items, P v)
    (motive_3 := fun fields => ∀ p ∈ fields, P p.2) (motive_4 := fun p => P p.2)
    null bool int float str arr obj ?_ ?_ ?_ ?_ ?_ v
  · simp
  · intro v vs hv hvs w hw
    rcases List.mem_cons.mp hw with rfl | hw
    · exact hv
    · exact hvs w hw
  · simp
  · intro p ps hp hps q hq
    rcases List.mem_cons.mp hq with rfl | hq
    · exact hp
    · exact hps q hq
  · intro k v hv
    exact hv

theorem sortedItems_eq (items : List Json) : sortedItems items = items.map sorted := by
  induction items with
  | nil => rfl
  | cons v vs ih => rw [sortedItems, ih, List.map_cons]

theorem sortedFields_eq (fields : List (String × Json)) :
    sortedFields fields = fields.map fun p => (p.1, sorted p.2) := by
  induction fields with
  | nil => rfl
  | cons p ps ih => rw [sortedFields, ih, List.map_cons]

theorem renderItems_eq (items : List Json) : renderItems items = items.map render := by
  induction items with
  | nil => rfl
  | cons v vs ih => rw [renderItems, ih, List.map_cons]

theorem renderFields_eq (fields : List (String × Json)) :
    renderFields fields = fields.map fun p => (p.1, render p.2) := by
  induction fields with
  | nil => rfl
  | cons p ps ih => rw [renderFields, ih, List.map_cons]

theorem distinctKeysItems_iff {items : List Json} :
    distinctKeysItems items ↔ ∀ v ∈ items, distinctKeys v := by
  induction items with
  | nil => simp [distinctKeysItems]
  | cons v vs ih => simp [distinctKeysItems, ih]

theorem distinctKeysFields_iff {fields : List (String × Json)} :
    distinctKeysFields fields ↔ ∀ p ∈ fields, distinctKeys p.2 := by
  induction fields with
  | nil => simp [distinctKeysFields]
  | cons p ps ih => simp [distinctKeysFields, ih]

theorem noFloatItems_iff {items : List Json} :
    noFloatItems items = true ↔ ∀ v ∈ items, noFloat v = true := by
  induction items with
  | nil => simp [noFloatItems]
  | cons v vs ih => simp [noFloatItems, ih]

theorem noFloatFields_iff {fields : List (String × Json)} :
    noFloatFields fields = true ↔ ∀ p ∈ fields, noFloat p.2 = true := by
  induction fields with
  | nil => simp [noFloatFields]
  | cons p ps ih => simp [noFloatFields, ih]

section Keys

variable {α β : Type}

theorem insertKey_map (f : α → β) (k : String) (v : α) (l : List (String × α)) :
    insertKey (k, f v) (l.map fun p => (p.1, f p.2)) =
      (insertKey (k, v) l).map fun p => (p.1, f p.2) := by
  induction l with
  | nil => rfl
  | cons y ys ih =>
    simp only [List.map_cons, insertKey]
    split
    · rw [ih, List.map_cons]
    · simp

/-- Sorting looks at the keys alone. -/
theorem sortKeys_map (f : α → β) (l : List (String × α)) :
    sortKeys (l.map fun p => (p.1, f p.2)) = (sortKeys l).map fun p => (p.1, f p.2) := by
  induction l with
  | nil => rfl
  | cons p ps ih => rw [List.map_cons, sortKeys, ih, insertKey_map, sortKeys]

theorem insertKey_perm (x : String × α) (l : List (String × α)) : (insertKey x l).Perm (x :: l) := by
  induction l with
  | nil => rfl
  | cons y ys ih =>
    simp only [insertKey]
    split
    · exact (ih.cons y).trans (.swap x y ys)
    · rfl

theorem sortKeys_perm (l : List (String × α)) : (sortKeys l).Perm l := by
  induction l with
  | nil => rfl
  | cons x xs ih => exact (insertKey_perm x (sortKeys xs)).trans (ih.cons x)

/-- Keys in order. -/
def KeysInOrder (l : List (String × α)) : Prop := l.Pairwise fun a b => a.1 ≤ b.1

theorem insertKey_inOrder (x : String × α) {l : List (String × α)} (h : KeysInOrder l) :
    KeysInOrder (insertKey x l) := by
  induction l with
  | nil => exact List.pairwise_singleton _ x
  | cons y ys ih =>
    obtain ⟨hy, hys⟩ := List.pairwise_cons.mp h
    simp only [insertKey]
    split
    · rename_i hlt
      refine List.pairwise_cons.mpr ⟨fun z hz => ?_, ih hys⟩
      rcases List.mem_cons.mp ((insertKey_perm x ys).mem_iff.mp hz) with rfl | hz
      · exact le_of_lt hlt
      · exact hy z hz
    · rename_i hge
      have hxy : x.1 ≤ y.1 := le_of_not_gt hge
      refine List.pairwise_cons.mpr ⟨fun z hz => ?_, h⟩
      rcases List.mem_cons.mp hz with rfl | hz
      · exact hxy
      · exact hxy.trans (hy z hz)

theorem sortKeys_inOrder (l : List (String × α)) : KeysInOrder (sortKeys l) := by
  induction l with
  | nil => exact List.Pairwise.nil
  | cons x xs ih => exact insertKey_inOrder x ih

theorem sortKeys_of_inOrder {l : List (String × α)} (h : KeysInOrder l) : sortKeys l = l := by
  induction l with
  | nil => rfl
  | cons x xs ih =>
    obtain ⟨hx, hxs⟩ := List.pairwise_cons.mp h
    rw [sortKeys, ih hxs]
    cases xs with
    | nil => rfl
    | cons y ys =>
      have hxy : ¬ y.1 < x.1 := not_lt_of_ge (hx y (List.mem_cons_self ..))
      rw [insertKey, if_neg hxy]

end Keys

/-- The encoder does not tell a document from its sorted form. -/
theorem render_sorted (v : Json) : render (sorted v) = render v := by
  induction v using induct with
  | null => rfl
  | bool => rfl
  | int => rfl
  | float => rfl
  | str => rfl
  | arr items ih =>
    have hitems : (items.map sorted).map render = items.map render := by
      rw [List.map_map]
      exact List.map_congr_left ih
    simp only [sorted, render, renderItems_eq, sortedItems_eq, hitems]
  | obj fields ih =>
    have hfields : (fields.map fun p => (p.1, sorted p.2)).map (fun p => (p.1, render p.2)) =
        fields.map fun p => (p.1, render p.2) := by
      rw [List.map_map]
      refine List.map_congr_left fun p hp => ?_
      simp only [Function.comp_apply, ih p hp]
    simp only [sorted, render, renderFields_eq, sortedFields_eq]
    rw [← sortKeys_map render, hfields, sortKeys_of_inOrder (sortKeys_inOrder _)]

theorem noFloat_sorted (v : Json) : noFloat (sorted v) = noFloat v := by
  induction v using induct with
  | null => rfl
  | bool => rfl
  | int => rfl
  | float => rfl
  | str => rfl
  | arr items ih =>
    rw [Bool.eq_iff_iff, sorted, sortedItems_eq, noFloat, noFloat, noFloatItems_iff, noFloatItems_iff]
    refine ⟨fun h v hv => ?_, fun h w hw => ?_⟩
    · rw [← ih v hv]
      exact h _ (List.mem_map.mpr ⟨v, hv, rfl⟩)
    · obtain ⟨v, hv, rfl⟩ := List.mem_map.mp hw
      rw [ih v hv]
      exact h v hv
  | obj fields ih =>
    rw [Bool.eq_iff_iff, sorted, sortedFields_eq, noFloat, noFloat, noFloatFields_iff,
      noFloatFields_iff]
    refine ⟨fun h p hp => ?_, fun h q hq => ?_⟩
    · rw [← ih p hp]
      exact h (p.1, sorted p.2) ((sortKeys_perm _).mem_iff.mpr (List.mem_map.mpr ⟨p, hp, rfl⟩))
    · obtain ⟨p, hp, rfl⟩ := List.mem_map.mp ((sortKeys_perm _).mem_iff.mp hq)
      rw [ih p hp]
      exact h p hp

/-! ## Looking up in a sorted document -/

theorem lookupKey_eq_some {k : String} {v : Json} {l : List (String × Json)}
    (hd : (l.map Prod.fst).Nodup) : lookupKey k l = some v ↔ (k, v) ∈ l := by
  induction l with
  | nil => simp [lookupKey]
  | cons p ps ih =>
    obtain ⟨k', v'⟩ := p
    rw [List.map_cons, List.nodup_cons] at hd
    rw [lookupKey, List.mem_cons]
    by_cases hk : k' = k
    · subst hk
      rw [if_pos rfl]
      refine ⟨fun h => Or.inl (by rw [Option.some.inj h]), ?_⟩
      rintro (h | h)
      · rw [(Prod.mk.inj h).2]
      · exact absurd (List.mem_map.mpr ⟨_, h, rfl⟩) hd.1
    · rw [if_neg hk, ih hd.2]
      refine ⟨Or.inr, ?_⟩
      rintro (h | h)
      · exact absurd (Prod.mk.inj h).1.symm hk
      · exact h

theorem lookupKey_perm {k : String} {l l' : List (String × Json)} (h : l.Perm l')
    (hd : (l.map Prod.fst).Nodup) : lookupKey k l = lookupKey k l' := by
  refine Option.ext fun v => ?_
  rw [lookupKey_eq_some hd, lookupKey_eq_some ((h.map Prod.fst).nodup_iff.mp hd), h.mem_iff]

theorem lookupKey_map (f : Json → Json) (k : String) (l : List (String × Json)) :
    lookupKey k (l.map fun p => (p.1, f p.2)) = (lookupKey k l).map f := by
  induction l with
  | nil => rfl
  | cons p ps ih =>
    rw [List.map_cons, lookupKey, lookupKey]
    split
    · rfl
    · exact ih

/-- A member of the sorted document is the sorted member. -/
theorem get?_sorted {v : Json} (hd : v.distinctKeys) (k : String) :
    (sorted v).get? k = (v.get? k).map sorted := by
  cases v with
  | obj fields =>
    have hkeys : ((fields.map fun p => (p.1, sorted p.2)).map Prod.fst).Nodup := by
      rw [List.map_map]
      exact hd.1
    rw [sorted, sortedFields_eq]
    show lookupKey k _ = (lookupKey k fields).map sorted
    rw [lookupKey_perm (sortKeys_perm _) ((((sortKeys_perm _).map Prod.fst).nodup_iff).mpr hkeys),
      lookupKey_map]
  | _ => rfl

/-! ## The round trip -/

/-- The decoder reads `v` back from its text, in front of what ends a value. -/
def RoundTrips (v : Json) : Prop :=
  ∀ (fuel : Nat) (rest : List Char), (render v).length < fuel → Ends rest →
    parse fuel (render v ++ rest) = some (sorted v, rest)

/-- A character a value can start with. -/
def Opens (c : Char) : Prop :=
  c = 'n' ∨ c = 't' ∨ c = 'f' ∨ c = '"' ∨ c = '[' ∨ c = '{' ∨ c = '-' ∨ c.isDigit = true

theorem toDigits_opens (n : Nat) : ∃ d ds, Nat.toDigits 10 n = d :: ds ∧ d.isDigit = true := by
  cases hd : Nat.toDigits 10 n with
  | nil => exact absurd hd Nat.toDigits_ne_nil
  | cons d ds =>
    refine ⟨d, ds, rfl, Nat.isDigit_of_mem_toDigits (b := 10) (n := n) (by omega) (by omega) ?_⟩
    rw [hd]
    exact List.mem_cons_self ..

/-- The text of an integer. -/
theorem render_int (n : Int) : render (.int n) =
    (if 0 ≤ n then [] else ['-']) ++ Nat.toDigits 10 n.natAbs := by
  cases n with
  | ofNat n =>
    have hn : (0 : Int) ≤ Int.ofNat n := Int.natCast_nonneg n
    rw [if_pos hn]
    exact Nat.toList_repr
  | negSucc n =>
    rw [if_neg (by omega)]
    show ("-" ++ (n + 1).repr).toList = _
    rw [String.toList_append, Nat.toList_repr]
    rfl

theorem render_opens (v : Json) (h : v.noFloat = true) : ∃ c cs, render v = c :: cs ∧ Opens c := by
  cases v with
  | null => exact ⟨_, _, rfl, by simp [Opens]⟩
  | bool b => cases b <;> exact ⟨_, _, rfl, by simp [Opens]⟩
  | int n =>
    obtain ⟨d, ds, hd, hdigit⟩ := toDigits_opens n.natAbs
    rw [render_int, hd]
    split
    · exact ⟨d, ds, rfl, by simp [Opens, hdigit]⟩
    · exact ⟨'-', d :: ds, rfl, by simp [Opens]⟩
  | float t => cases h
  | str s => exact ⟨_, _, rfl, by simp [Opens]⟩
  | arr items => exact ⟨_, _, rfl, by simp [Opens]⟩
  | obj fields => exact ⟨_, _, rfl, by simp [Opens]⟩

/-- Space, and the closing brackets, are no such character. -/
theorem Opens.ne {c : Char} (h : Opens c) :
    ¬ (c = ' ' ∨ c = '\t' ∨ c = '\n' ∨ c = '\r') ∧ c ≠ ']' ∧ c ≠ '}' := by
  rcases h with rfl | rfl | rfl | rfl | rfl | rfl | rfl | hdigit
  · decide
  · decide
  · decide
  · decide
  · decide
  · decide
  · decide
  · refine ⟨?_, ?_, ?_⟩
    · rintro (rfl | rfl | rfl | rfl) <;> exact absurd hdigit (by decide)
    · rintro rfl
      exact absurd hdigit (by decide)
    · rintro rfl
      exact absurd hdigit (by decide)

theorem skipWs_opens {c : Char} (h : Opens c) (cs : List Char) : skipWs (c :: cs) = c :: cs := by
  rw [skipWs, if_neg h.ne.1]

theorem skipWs_ends {rest : List Char} (h : Ends rest) : skipWs rest = rest := by
  cases rest with
  | nil => rfl
  | cons c cs =>
    rw [skipWs, if_neg]
    rcases h with rfl | rfl | rfl <;> decide

theorem roundTrips_int (n : Int) : RoundTrips (.int n) := by
  intro fuel rest hfuel hrest
  obtain ⟨f, rfl⟩ : ∃ f, fuel = f + 1 := ⟨fuel - 1, by omega⟩
  obtain ⟨d, ds, hd, hdigit⟩ := toDigits_opens n.natAbs
  have hne : ∀ c : Char, c.isDigit = false → d ≠ c := by
    rintro c hc rfl
    rw [hdigit] at hc
    cases hc
  rw [render_int]
  by_cases hn : 0 ≤ n
  · have hparse := parseNat_digits false n.natAbs hrest
    rw [hd] at hparse
    rw [if_pos hn, hd, List.nil_append]
    have hval : ((n.natAbs : Nat) : Int) = n := Int.natAbs_of_nonneg hn
    rw [if_neg Bool.false_ne_true, hval, List.cons_append] at hparse
    rw [List.cons_append]
    simp [parse, parseLiteral, hne _ (by decide : ('"').isDigit = false),
      hne _ (by decide : ('[').isDigit = false), hne _ (by decide : ('{').isDigit = false),
      hne _ (by decide : ('n').isDigit = false), hne _ (by decide : ('t').isDigit = false),
      hne _ (by decide : ('f').isDigit = false), hne _ (by decide : ('N').isDigit = false),
      hne _ (by decide : ('I').isDigit = false), hne _ (by decide : ('-').isDigit = false), hparse,
      sorted]
  · have hparse := parseNat_digits true n.natAbs hrest
    rw [hd] at hparse
    rw [if_neg hn, hd]
    have hval : - ((n.natAbs : Nat) : Int) = n := by omega
    rw [if_pos rfl, hval, List.cons_append] at hparse
    simp [parse, parseLiteral, hne _ (by decide : ('I').isDigit = false), hparse, sorted]

theorem quote_append (s : String) (rest : List Char) :
    quote s ++ rest = '"' :: (s.toList.flatMap escapeChar ++ '"' :: rest) := by
  simp [quote]

theorem escapeChar_length (c : Char) : 1 ≤ (escapeChar c).length := by
  unfold escapeChar
  split_ifs <;> simp

theorem quote_length (s : String) : s.toList.length + 2 ≤ (quote s).length := by
  have h : ∀ cs : List Char, cs.length ≤ (cs.flatMap escapeChar).length := by
    intro cs
    induction cs with
    | nil => simp
    | cons c cs ih =>
      have hc := escapeChar_length c
      rw [List.flatMap_cons, List.length_append, List.length_cons]
      omega
  have hs := h s.toList
  simp only [quote, List.length_cons, List.length_append, List.length_nil]
  omega

theorem roundTrips_str (s : String) : RoundTrips (.str s) := by
  intro fuel rest hfuel _
  obtain ⟨f, rfl⟩ : ∃ f, fuel = f + 1 := ⟨fuel - 1, by omega⟩
  have hlen := quote_length s
  have hf : s.toList.length < f := by
    rw [render] at hfuel
    omega
  rw [render, quote_append, parse]
  rw [parseStr_quote _ _ f hf]
  simp [sorted]

theorem Ends.comma (cs : List Char) : Ends (',' :: cs) := Or.inl rfl

theorem Ends.bracket (cs : List Char) : Ends (']' :: cs) := Or.inr (Or.inl rfl)

theorem Ends.brace (cs : List Char) : Ends ('}' :: cs) := Or.inr (Or.inr rfl)

theorem commaJoin_length (x : List Char) (l : List (List Char)) :
    (commaJoin (x :: l)).length = x.length + (l.flatMap fun y => ',' :: y).length := by
  induction l generalizing x with
  | nil => simp [commaJoin]
  | cons y ys ih =>
    rw [commaJoin, List.length_append, List.length_cons, ih, List.flatMap_cons, List.length_append,
      List.length_cons]
    omega

theorem parseItems_render {items : List Json} (hne : items ≠ [])
    (hf : ∀ v ∈ items, v.noFloat = true) (hr : ∀ v ∈ items, RoundTrips v) (fuel : Nat)
    (rest : List Char) (hfuel : (commaJoin (items.map render)).length + 1 < fuel) :
    parseItems fuel (commaJoin (items.map render) ++ ']' :: rest) =
      some (items.map sorted, rest) := by
  induction items generalizing fuel with
  | nil => exact absurd rfl hne
  | cons v vs ih =>
    obtain ⟨f, rfl⟩ : ∃ f, fuel = f + 1 := ⟨fuel - 1, by omega⟩
    have hv := hr v (List.mem_cons_self ..)
    cases vs with
    | nil =>
      have hparse := hv f (']' :: rest)
        (by simp only [List.map_cons, List.map_nil, commaJoin] at hfuel; omega) (.bracket rest)
      simp only [List.map_cons, List.map_nil, commaJoin, parseItems, hparse]
      simp [skipWs]
    | cons w ws =>
      simp only [List.map_cons, commaJoin, List.length_append, List.length_cons] at hfuel
      have hparse := hv f (',' :: (commaJoin (render w :: ws.map render) ++ ']' :: rest))
        (by omega) (.comma _)
      have hrest := ih (by simp) (fun u hu => hf u (List.mem_cons_of_mem _ hu))
        (fun u hu => hr u (List.mem_cons_of_mem _ hu)) f (by rw [List.map_cons]; omega)
      obtain ⟨c, cs, hc, hopens⟩ := render_opens w (hf w (by simp))
      have hskip : skipWs (commaJoin (render w :: ws.map render) ++ ']' :: rest) =
          commaJoin (render w :: ws.map render) ++ ']' :: rest := by
        cases ws <;> simp [commaJoin, hc, skipWs_opens hopens]
      rw [List.map_cons] at hrest
      simp only [List.map_cons, commaJoin, List.append_assoc, List.cons_append, parseItems, hparse]
      simp [skipWs, hskip, hrest]

theorem roundTrips_arr {items : List Json} (hf : ∀ v ∈ items, v.noFloat = true)
    (hr : ∀ v ∈ items, RoundTrips v) : RoundTrips (.arr items) := by
  intro fuel rest hfuel hrest
  obtain ⟨f, rfl⟩ : ∃ f, fuel = f + 1 := ⟨fuel - 1, by omega⟩
  simp only [render, renderItems_eq, List.length_cons, List.length_append, List.length_nil] at hfuel
  cases items with
  | nil => simp [render, renderItems, commaJoin, parse, skipWs, sorted, sortedItems]
  | cons v vs =>
    have hitems := parseItems_render (by simp) hf hr f rest (by omega)
    obtain ⟨c, cs, hc, hopens⟩ := render_opens v (hf v (List.mem_cons_self ..))
    obtain ⟨ds, hds⟩ : ∃ ds, commaJoin ((v :: vs).map render) ++ ']' :: rest = c :: ds := by
      cases vs <;> simp [commaJoin, hc]
    simp only [render, renderItems_eq, sorted, sortedItems_eq, List.cons_append, List.append_assoc,
      List.nil_append, parse]
    rw [hds] at hitems ⊢
    rw [skipWs_opens hopens]
    split
    · rename_i heq
      exact absurd (List.cons.inj heq).1 hopens.ne.2.1
    · rw [hitems, Option.map_some]

/-! ## Objects -/

theorem setKey_fresh {k : String} {v : Json} {acc : List (String × Json)}
    (h : k ∉ acc.map Prod.fst) : setKey k v acc = acc ++ [(k, v)] := by
  induction acc with
  | nil => rfl
  | cons p ps ih =>
    rw [List.map_cons, List.mem_cons, not_or] at h
    rw [setKey, if_neg (Ne.symm h.1), ih h.2, List.cons_append]

theorem renderField_append (k : String) (t rest : List Char) : renderField (k, t) ++ rest =
    '"' :: (k.toList.flatMap escapeChar ++ '"' :: (':' :: (t ++ rest))) := by
  simp [renderField, quote]

/-- The members of an object, read behind the ones in `acc`. -/
theorem parseFields_render {fields : List (String × Json)} (hne : fields ≠ [])
    (hf : ∀ p ∈ fields, p.2.noFloat = true) (hr : ∀ p ∈ fields, RoundTrips p.2) (fuel : Nat)
    (acc : List (String × Json)) (rest : List Char)
    (hkeys : (acc.map Prod.fst ++ fields.map Prod.fst).Nodup)
    (hfuel : (commaJoin (fields.map fun p => renderField (p.1, render p.2))).length + 1 < fuel) :
    parseFields fuel acc
        (commaJoin (fields.map fun p => renderField (p.1, render p.2)) ++ '}' :: rest) =
      some (acc ++ fields.map fun p => (p.1, sorted p.2), rest) := by
  induction fields generalizing fuel acc with
  | nil => exact absurd rfl hne
  | cons p ps ih =>
    obtain ⟨k, v⟩ := p
    obtain ⟨f, rfl⟩ : ∃ f, fuel = f + 1 := ⟨fuel - 1, by omega⟩
    have hv : RoundTrips v := hr (k, v) (List.mem_cons_self ..)
    obtain ⟨c, cs, hc, hopens⟩ := render_opens v (hf (k, v) (List.mem_cons_self ..))
    have hlen := quote_length k
    have hfresh : k ∉ acc.map Prod.fst := by
      intro hk
      exact (List.nodup_append.mp hkeys).2.2 k hk k (by simp) rfl
    have hskip (r : List Char) : skipWs (render v ++ r) = render v ++ r := by
      rw [hc, List.cons_append, skipWs_opens hopens]
    cases ps with
    | nil =>
      simp only [List.map_cons, List.map_nil, commaJoin, renderField, List.length_append,
        List.length_cons] at hfuel
      have hkey := parseStr_quote k.toList (':' :: (render v ++ '}' :: rest)) f (by omega)
      have hparse := hv f ('}' :: rest) (by omega) (.brace rest)
      simp only [List.map_cons, List.map_nil, commaJoin, renderField_append, parseFields, hkey]
      simp [skipWs, hskip, hparse, setKey_fresh hfresh]
    | cons q qs =>
      simp only [List.map_cons, commaJoin, List.length_append, List.length_cons] at hfuel
      have hquote : (renderField (k, render v)).length = (quote k).length + (render v).length + 1 := by
        simp only [renderField, List.length_append, List.length_cons]
        omega
      have hkey := fun r => parseStr_quote k.toList r f (by omega)
      have hparse := fun r => hv f (',' :: r) (by omega) (.comma r)
      have hrest := ih (by simp) (fun u hu => hf u (List.mem_cons_of_mem _ hu))
        (fun u hu => hr u (List.mem_cons_of_mem _ hu)) f (acc ++ [(k, sorted v)])
        (by simpa using hkeys) (by rw [List.map_cons]; omega)
      rw [List.map_cons] at hrest
      have hopen (r : List Char) : skipWs (commaJoin (renderField (q.1, render q.2) ::
          qs.map fun p => renderField (p.1, render p.2)) ++ r) =
          commaJoin (renderField (q.1, render q.2) ::
            qs.map fun p => renderField (p.1, render p.2)) ++ r := by
        cases qs <;> simp [commaJoin, renderField, quote, skipWs]
      simp only [List.map_cons, commaJoin, List.append_assoc, List.cons_append, renderField_append,
        parseFields, hkey]
      simp [skipWs, hskip, hparse, setKey_fresh hfresh, hopen, hrest]

theorem roundTrips_obj {fields : List (String × Json)} (hd : (fields.map Prod.fst).Nodup)
    (hf : ∀ p ∈ fields, p.2.noFloat = true) (hr : ∀ p ∈ fields, RoundTrips p.2) :
    RoundTrips (.obj fields) := by
  intro fuel rest hfuel hrest
  obtain ⟨f, rfl⟩ : ∃ f, fuel = f + 1 := ⟨fuel - 1, by omega⟩
  -- the encoder writes the members in key order, and that is how they are read
  have hperm := sortKeys_perm fields
  have htext : (sortKeys (renderFields fields)).map renderField =
      (sortKeys fields).map fun p => renderField (p.1, render p.2) := by
    rw [renderFields_eq, sortKeys_map, List.map_map]
    rfl
  have hsorted : sorted (.obj fields) = .obj ((sortKeys fields).map fun p => (p.1, sorted p.2)) := by
    rw [sorted, sortedFields_eq, sortKeys_map]
  rw [render, htext] at hfuel
  simp only [List.length_cons, List.length_append, List.length_nil] at hfuel
  rw [hsorted, render, htext]
  cases hfields : sortKeys fields with
  | nil => simp [commaJoin, parse, skipWs]
  | cons p ps =>
    have hnonempty : sortKeys fields ≠ [] := by simp [hfields]
    have hfs := parseFields_render hnonempty (fun q hq => hf q (hperm.mem_iff.mp hq))
      (fun q hq => hr q (hperm.mem_iff.mp hq)) f [] rest
      (by simpa using (hperm.map Prod.fst).nodup_iff.mpr hd) (by omega)
    rw [hfields] at hfs
    obtain ⟨ds, hds⟩ : ∃ ds, commaJoin ((p :: ps).map fun p => renderField (p.1, render p.2)) ++
        '}' :: rest = '"' :: ds := by
      cases ps <;> simp [commaJoin, renderField, quote]
    simp only [List.cons_append, List.append_assoc, List.nil_append, parse]
    rw [hds] at hfs ⊢
    simp [skipWs, hfs]

/-- **The round trip.** -/
theorem parse_render (v : Json) (hf : v.noFloat = true) (hd : v.distinctKeys) : RoundTrips v := by
  induction v using induct with
  | null =>
    intro fuel rest hfuel _
    obtain ⟨f, rfl⟩ : ∃ f, fuel = f + 1 := ⟨fuel - 1, by omega⟩
    simp [render, parse, parseLiteral, sorted]
  | bool b =>
    intro fuel rest hfuel _
    obtain ⟨f, rfl⟩ : ∃ f, fuel = f + 1 := ⟨fuel - 1, by omega⟩
    cases b <;> simp [render, parse, parseLiteral, sorted]
  | int n => exact roundTrips_int n
  | float t => cases hf
  | str s => exact roundTrips_str s
  | arr items ih =>
    rw [noFloat, noFloatItems_iff] at hf
    rw [distinctKeys, distinctKeysItems_iff] at hd
    exact roundTrips_arr hf fun v hv => ih v hv (hf v hv) (hd v hv)
  | obj fields ih =>
    rw [noFloat, noFloatFields_iff] at hf
    rw [distinctKeys, distinctKeysFields_iff] at hd
    exact roundTrips_obj hd.1 hf fun p hp => ih p hp (hf p hp) (hd.2 p hp)

/-- A whole document. -/
theorem loads_render {v : Json} (hf : v.noFloat = true) (hd : v.distinctKeys) :
    loads (render v) = some (sorted v) := by
  obtain ⟨c, cs, hc, hopens⟩ := render_opens v hf
  have hparse := parse_render v hf hd (2 * (render v).length + 2) [] (by omega) trivial
  rw [List.append_nil] at hparse
  have hskip : skipWs (render v) = render v := by rw [hc, skipWs_opens hopens]
  rw [loads, hskip, hparse]
  simp [skipWs]

/-! ## What the decoder reads -/

theorem mem_setKey {k : String} {v : Json} {l : List (String × Json)} {p : String × Json}
    (h : p ∈ setKey k v l) : p = (k, v) ∨ p ∈ l := by
  induction l with
  | nil => exact Or.inl (List.mem_singleton.mp h)
  | cons q rest ih =>
    obtain ⟨k', v'⟩ := q
    rw [setKey] at h
    split at h
    · rcases List.mem_cons.mp h with h | h
      · exact Or.inl h
      · exact Or.inr (List.mem_cons_of_mem _ h)
    · rcases List.mem_cons.mp h with h | h
      · exact Or.inr (h ▸ List.mem_cons_self ..)
      · rcases ih h with h | h
        · exact Or.inl h
        · exact Or.inr (List.mem_cons_of_mem _ h)

/-- The keys of an object that is being read, and their values. -/
def Members (l : List (String × Json)) : Prop :=
  (l.map Prod.fst).Nodup ∧ ∀ p ∈ l, distinctKeys p.2

theorem setKey_nodup {k : String} {v : Json} {l : List (String × Json)}
    (h : (l.map Prod.fst).Nodup) : ((setKey k v l).map Prod.fst).Nodup := by
  induction l with
  | nil => simp [setKey]
  | cons q rest ih =>
    obtain ⟨k', v'⟩ := q
    rw [List.map_cons, List.nodup_cons] at h
    rw [setKey]
    split
    · rename_i heq
      subst heq
      rw [List.map_cons, List.nodup_cons]
      exact h
    · rename_i hne
      rw [List.map_cons, List.nodup_cons]
      refine ⟨fun hmem => ?_, ih h.2⟩
      obtain ⟨p, hp, hpk⟩ := List.mem_map.mp hmem
      rcases mem_setKey hp with rfl | hp
      · exact hne hpk.symm
      · exact h.1 (List.mem_map.mpr ⟨p, hp, hpk⟩)

theorem Members.nil : Members [] := ⟨List.nodup_nil, by simp⟩

theorem Members.setKey {k : String} {v : Json} {l : List (String × Json)} (h : Members l)
    (hv : distinctKeys v) : Members (setKey k v l) := by
  refine ⟨setKey_nodup h.1, fun p hp => ?_⟩
  rcases mem_setKey hp with rfl | hp
  · exact hv
  · exact h.2 p hp

theorem Members.obj {l : List (String × Json)} (h : Members l) : distinctKeys (.obj l) :=
  ⟨h.1, distinctKeysFields_iff.mpr h.2⟩

theorem parseNat_distinctKeys {neg : Bool} {cs rest : List Char} {v : Json}
    (h : parseNat neg cs = some (v, rest)) : distinctKeys v := by
  unfold parseNat at h
  dsimp only at h
  repeat' split at h
  all_goals cases h
  all_goals trivial

theorem parseLiteral_distinctKeys {cs rest : List Char} {v : Json}
    (h : parseLiteral cs = some (v, rest)) : distinctKeys v := by
  unfold parseLiteral at h
  split at h
  all_goals first
    | exact parseNat_distinctKeys h
    | (cases h; trivial)

/-- What each of the three readers gives, at one depth. -/
structure ReadsDistinct (fuel : Nat) : Prop where
  value : ∀ {cs rest v}, parse fuel cs = some (v, rest) → distinctKeys v
  items : ∀ {cs rest l}, parseItems fuel cs = some (l, rest) → ∀ v ∈ l, distinctKeys v
  fields : ∀ {acc cs rest l}, Members acc → parseFields fuel acc cs = some (l, rest) → Members l

theorem readsDistinct (fuel : Nat) : ReadsDistinct fuel := by
  induction fuel with
  | zero =>
    refine ⟨fun h => ?_, fun h => ?_, fun _ h => ?_⟩
    · rw [parse] at h; cases h
    · rw [parseItems] at h; cases h
    · rw [parseFields] at h; cases h
  | succ fuel ih =>
    refine ⟨fun h => ?_, fun {cs rest l} h => ?_, fun {acc cs rest l} hacc h => ?_⟩
    · unfold parse at h
      split at h
      · obtain ⟨p, -, hp⟩ := Option.map_eq_some_iff.mp h
        cases hp
        trivial
      · split at h
        · cases h
          trivial
        · obtain ⟨p, hp, hv⟩ := Option.map_eq_some_iff.mp h
          cases hv
          exact distinctKeysItems_iff.mpr (ih.items hp)
      · split at h
        · cases h
          exact ⟨List.nodup_nil, trivial⟩
        · obtain ⟨p, hp, hv⟩ := Option.map_eq_some_iff.mp h
          cases hv
          exact (ih.fields .nil hp).obj
      · exact parseLiteral_distinctKeys h
    · unfold parseItems at h
      split at h
      · cases h
      · rename_i v r hv
        split at h
        · obtain ⟨p, hp, hl⟩ := Option.map_eq_some_iff.mp h
          cases hl
          intro w hw
          rcases List.mem_cons.mp hw with rfl | hw
          · exact ih.value hv
          · exact ih.items hp w hw
        · cases h
          intro w hw
          rw [List.mem_singleton] at hw
          exact hw ▸ ih.value hv
        · cases h
    · unfold parseFields at h
      split at h
      · split at h
        · cases h
        · split at h
          · split at h
            · cases h
            · rename_i hv
              split at h
              · exact ih.fields (hacc.setKey (ih.value hv)) h
              · cases h
                exact hacc.setKey (ih.value hv)
              · cases h
          · cases h
      · cases h

/-- A decoded document has no key twice. -/
theorem loads_distinctKeys {text : List Char} {v : Json} (h : loads text = some v) :
    distinctKeys v := by
  unfold loads at h
  split at h
  · rename_i w rest hp
    split at h
    · cases h
      exact (readsDistinct _).value hp
    · cases h
  · cases h

/-- Documents of one text are one document, up to the order of their keys. -/
theorem sorted_of_render {v w : Json} (hv : v.noFloat = true) (hdv : v.distinctKeys)
    (hw : w.noFloat = true) (hdw : w.distinctKeys) (h : render v = render w) :
    sorted v = sorted w := by
  have hl := loads_render hv hdv
  rw [h, loads_render hw hdw] at hl
  exact (Option.some.inj hl).symm

end Adcp.L1.Json
