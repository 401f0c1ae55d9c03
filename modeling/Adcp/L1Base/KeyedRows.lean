import Mathlib
/-!
# Rows folded into a dictionary

A program that folds a list of keyed rows into a dictionary keeps the last row of each key. The
dictionary is an `AList`, which has no key twice; `agrees` is `==` on two dictionaries, with a
comparison of the values of its own.

Results:
* `lookup_fold`: the value of a key in the fold is that of the last row with the key.
* `agrees_fold_iff`: what the comparison of a fold with a fixed dictionary says of the rows.
* `agrees_fold_perm`: for rows with distinct keys it says that their keys are a permutation of
  the dictionary's and every value compares equal.
-/
namespace Adcp.L1.KeyedRows

variable {κ ν μ : Type} [DecidableEq κ]

/-- `{key: value for ...}` over the rows. -/
def fold (rows : List (κ × ν)) : AList fun _ : κ => ν :=
  rows.foldl (fun d row => d.insert row.1 row.2) ∅

/-- The value of the last row with the key. -/
def lastValue (key : κ) : List (κ × ν) → Option ν
  | [] => none
  | row :: rest => (lastValue key rest).or (if row.1 = key then some row.2 else none)

/-- `a == b` on dictionaries, values compared by `same`. -/
def agrees (same : ν → μ → Bool) (a : AList fun _ : κ => ν) (b : AList fun _ : κ => μ) : Bool :=
  a.keys.length = b.keys.length && a.keys.all fun key =>
    match a.lookup key, b.lookup key with
    | some v, some w => same v w
    | _, _ => false

/-! ## The last row of a key -/

theorem lastValue_mem {key : κ} {rows : List (κ × ν)} {v : ν} (h : lastValue key rows = some v) :
    (key, v) ∈ rows := by
  induction rows with
  | nil => exact nomatch h
  | cons row rest ih =>
    unfold lastValue at h
    cases hrest : lastValue key rest with
    | some w =>
      rw [hrest, Option.some_or] at h
      obtain rfl := Option.some.inj h
      exact List.mem_cons_of_mem _ (ih hrest)
    | none =>
      rw [hrest, Option.none_or] at h
      by_cases hkey : row.1 = key
      · rw [if_pos hkey] at h
        obtain rfl := Option.some.inj h
        rw [← hkey]
        exact List.mem_cons_self
      · rw [if_neg hkey] at h
        exact nomatch h

theorem lastValue_eq_none {key : κ} {rows : List (κ × ν)} :
    lastValue key rows = none ↔ key ∉ rows.map Prod.fst := by
  induction rows with
  | nil => simp [lastValue]
  | cons row rest ih =>
    rw [lastValue, Option.or_eq_none_iff, ih, List.map_cons, List.mem_cons]
    by_cases hkey : row.1 = key
    · simp [hkey]
    · simp [hkey, Ne.symm hkey]

/-- Among rows with distinct keys every row is the last of its key. -/
theorem lastValue_of_mem {rows : List (κ × ν)} (hd : (rows.map Prod.fst).Nodup) {row : κ × ν}
    (h : row ∈ rows) : lastValue row.1 rows = some row.2 := by
  induction rows with
  | nil => exact nomatch h
  | cons first rest ih =>
    rw [List.map_cons, List.nodup_cons] at hd
    unfold lastValue
    rcases List.mem_cons.mp h with rfl | h
    · rw [lastValue_eq_none.mpr hd.1, if_pos rfl, Option.none_or]
    · rw [ih hd.2 h, Option.some_or]

theorem lookup_foldl (key : κ) (rows : List (κ × ν)) : ∀ d : AList fun _ : κ => ν,
    (rows.foldl (fun d row => d.insert row.1 row.2) d).lookup key =
      (lastValue key rows).or (d.lookup key) := by
  induction rows with
  | nil =>
    intro d
    rw [List.foldl_nil, lastValue, Option.none_or]
  | cons row rest ih =>
    intro d
    rw [List.foldl_cons, ih, lastValue, Option.or_assoc]
    by_cases hkey : row.1 = key
    · subst hkey
      rw [AList.lookup_insert, if_pos rfl, Option.some_or]
    · rw [AList.lookup_insert_ne (Ne.symm hkey), if_neg hkey, Option.none_or]

/-- **A fold keeps the last row of a key.** -/
theorem lookup_fold (key : κ) (rows : List (κ × ν)) :
    (fold rows).lookup key = lastValue key rows := by
  unfold fold
  rw [lookup_foldl, AList.lookup_empty, Option.or_none]

theorem mem_fold {key : κ} {rows : List (κ × ν)} :
    key ∈ fold rows ↔ key ∈ rows.map Prod.fst := by
  have hnone : key ∉ fold rows ↔ key ∉ rows.map Prod.fst := by
    rw [← AList.lookup_eq_none, lookup_fold, lastValue_eq_none]
  exact not_iff_not.mp hnone

/-! ## Comparison with a dictionary -/

theorem agrees_iff {same : ν → μ → Bool} {a : AList fun _ : κ => ν} {b : AList fun _ : κ => μ} :
    agrees same a b = true ↔ (∀ key, key ∈ a ↔ key ∈ b) ∧
      ∀ key v w, a.lookup key = some v → b.lookup key = some w → same v w = true := by
  unfold agrees
  rw [Bool.and_eq_true, decide_eq_true_eq, List.all_eq_true]
  constructor
  · rintro ⟨hlen, hall⟩
    have hsub : a.keys ⊆ b.keys := by
      intro key hkey
      have hone := hall key hkey
      cases hb : b.lookup key with
      | none =>
        rw [hb] at hone
        split at hone <;> contradiction
      | some w => exact AList.mem_keys.mp (AList.lookup_isSome.mp (by rw [hb]; rfl))
    have hperm : a.keys.Perm b.keys :=
      (List.subperm_of_subset a.keys_nodup hsub).perm_of_length_le (Nat.le_of_eq hlen.symm)
    refine ⟨fun key => ?_, fun key v w hv hw => ?_⟩
    · rw [AList.mem_keys, AList.mem_keys]
      exact hperm.mem_iff
    · have hkey : key ∈ a.keys := AList.mem_keys.mp (AList.lookup_isSome.mp (by rw [hv]; rfl))
      have hone := hall key hkey
      rw [hv, hw] at hone
      exact hone
  · rintro ⟨hmem, hsame⟩
    have hperm : a.keys.Perm b.keys := by
      rw [List.perm_ext_iff_of_nodup a.keys_nodup b.keys_nodup]
      intro key
      rw [← AList.mem_keys, ← AList.mem_keys]
      exact hmem key
    refine ⟨hperm.length_eq, fun key hkey => ?_⟩
    obtain ⟨v, hv⟩ := Option.isSome_iff_exists.mp
      (AList.lookup_isSome.mpr (AList.mem_keys.mpr hkey))
    obtain ⟨w, hw⟩ := Option.isSome_iff_exists.mp
      (AList.lookup_isSome.mpr ((hmem key).mp (AList.mem_keys.mpr hkey)))
    rw [hv, hw]
    exact hsame key v w hv hw

/-- **Folded rows against folded rows**: the same keys, and the last values compare equal. -/
theorem agrees_fold_iff {same : ν → μ → Bool} {rows : List (κ × ν)} {expected : List (κ × μ)}
    (hd : (expected.map Prod.fst).Nodup) :
    agrees same (fold rows) (fold expected) = true ↔
      (∀ row ∈ rows, row.1 ∈ expected.map Prod.fst) ∧
        ∀ e ∈ expected, ∃ v, lastValue e.1 rows = some v ∧ same v e.2 = true := by
  rw [agrees_iff]
  simp only [mem_fold, lookup_fold]
  constructor
  · rintro ⟨hkeys, hsame⟩
    refine ⟨fun row hrow => (hkeys row.1).mp (List.mem_map_of_mem hrow), fun e he => ?_⟩
    have hkey := (hkeys e.1).mpr (List.mem_map_of_mem he)
    obtain ⟨v, hv⟩ := Option.ne_none_iff_exists'.mp fun hn => lastValue_eq_none.mp hn hkey
    exact ⟨v, hv, hsame e.1 v e.2 hv (lastValue_of_mem hd he)⟩
  · rintro ⟨hrows, hexpected⟩
    refine ⟨fun key => ⟨fun hkey => ?_, fun hkey => ?_⟩, fun key v w hv hw => ?_⟩
    · obtain ⟨row, hrow, rfl⟩ := List.mem_map.mp hkey
      exact hrows row hrow
    · obtain ⟨e, he, rfl⟩ := List.mem_map.mp hkey
      obtain ⟨v, hv, -⟩ := hexpected e he
      exact List.mem_map_of_mem (lastValue_mem hv)
    · obtain ⟨v', hv', hsame⟩ := hexpected _ (lastValue_mem hw)
      rw [hv] at hv'
      obtain rfl := Option.some.inj hv'
      exact hsame

/-- Rows with distinct keys are compared one by one. -/
theorem agrees_fold_perm {same : ν → μ → Bool} {rows : List (κ × ν)} {expected : List (κ × μ)}
    (hd : (expected.map Prod.fst).Nodup) (hrows : (rows.map Prod.fst).Nodup) :
    agrees same (fold rows) (fold expected) = true ↔
      (rows.map Prod.fst).Perm (expected.map Prod.fst) ∧
        ∀ row ∈ rows, ∀ e ∈ expected, row.1 = e.1 → same row.2 e.2 = true := by
  rw [agrees_fold_iff hd]
  constructor
  · rintro ⟨hkeys, hexpected⟩
    refine ⟨?_, fun row hrow e he heq => ?_⟩
    · rw [List.perm_ext_iff_of_nodup hrows hd]
      refine fun key => ⟨fun hkey => ?_, fun hkey => ?_⟩
      · obtain ⟨row, hrow, rfl⟩ := List.mem_map.mp hkey
        exact hkeys row hrow
      · obtain ⟨e, he, rfl⟩ := List.mem_map.mp hkey
        obtain ⟨v, hv, -⟩ := hexpected e he
        exact List.mem_map_of_mem (lastValue_mem hv)
    · obtain ⟨v, hv, hsame⟩ := hexpected e he
      rw [← heq, lastValue_of_mem hrows hrow] at hv
      obtain rfl := Option.some.inj hv
      exact hsame
  · rintro ⟨hperm, hsame⟩
    refine ⟨fun row hrow => hperm.mem_iff.mp (List.mem_map_of_mem hrow), fun e he => ?_⟩
    obtain ⟨row, hrow, heq⟩ := List.mem_map.mp (hperm.mem_iff.mpr (List.mem_map_of_mem he))
    refine ⟨row.2, ?_, hsame row hrow e he heq⟩
    rw [← heq]
    exact lastValue_of_mem hrows hrow

/-! ## Rows read one by one -/

/-- Rows whose keys are the expected ones, each read as the value of its key. -/
theorem perm_read {α β : Type} {xs : List α} {key : α → κ} {read : α → Option β}
    {expected : List (κ × β)} (hd : (expected.map Prod.fst).Nodup)
    (hperm : (xs.map key).Perm (expected.map Prod.fst))
    (hread : ∀ x ∈ xs, ∀ e ∈ expected, key x = e.1 → read x = some e.2) :
    (xs.map read).Perm (expected.map fun e => some e.2) := by
  have hxs : xs.map read = (xs.map key).map fun k => lastValue k expected := by
    rw [List.map_map]
    refine List.map_congr_left fun x hx => ?_
    obtain ⟨e, he, heq⟩ := List.mem_map.mp (hperm.mem_iff.mp (List.mem_map_of_mem hx))
    rw [Function.comp_apply, ← heq, lastValue_of_mem hd he]
    exact hread x hx e he heq.symm
  have hexpected : (expected.map fun e => some e.2) =
      (expected.map Prod.fst).map fun k => lastValue k expected := by
    rw [List.map_map]
    refine List.map_congr_left fun e he => ?_
    exact (lastValue_of_mem hd he).symm
  rw [hxs, hexpected]
  exact hperm.map _

omit [DecidableEq κ] in
/-- Rows that read as the expected values have the expected keys. -/
theorem perm_key {α β : Type} {xs : List α} {key : α → κ} {read : α → Option β}
    {expected : List (κ × β)} (keyOf : β → κ) (hof : ∀ e ∈ expected, keyOf e.2 = e.1)
    (hperm : (xs.map read).Perm (expected.map fun e => some e.2))
    (hkey : ∀ x ∈ xs, ∀ e ∈ expected, read x = some e.2 → key x = e.1) :
    (xs.map key).Perm (expected.map Prod.fst) := by
  have hsome : (xs.map fun x => some (key x)).Perm (expected.map fun e => some e.1) := by
    have hmap := hperm.map (Option.map keyOf)
    rw [List.map_map, List.map_map] at hmap
    have hxs : xs.map (Option.map keyOf ∘ read) = xs.map fun x => some (key x) := by
      refine List.map_congr_left fun x hx => ?_
      obtain ⟨e, he, heq⟩ := List.mem_map.mp (hperm.mem_iff.mp (List.mem_map_of_mem hx))
      rw [Function.comp_apply, ← heq, Option.map_some, hof e he, hkey x hx e he heq.symm]
    have hexpected : expected.map (Option.map keyOf ∘ fun e => some e.2) =
        expected.map fun e => some e.1 := by
      refine List.map_congr_left fun e he => ?_
      rw [Function.comp_apply, Option.map_some, hof e he]
    rwa [hxs, hexpected] at hmap
  have hunsome := hsome.filterMap id
  rwa [List.filterMap_map, List.filterMap_map, show (id ∘ fun x => some (key x)) =
    some ∘ key from rfl,
    show (id ∘ fun e : κ × β => some e.1) = some ∘ Prod.fst from rfl, List.filterMap_eq_map,
    List.filterMap_eq_map] at hunsome

end Adcp.L1.KeyedRows
