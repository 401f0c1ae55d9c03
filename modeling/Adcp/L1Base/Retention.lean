import Mathlib
/-!
# Keeping the first of an order

A set is pruned to the first `k` of its elements by a key, in descending order. The key need not
be the order one means to keep by.

* `later`: how many elements have a greater key.
* `mem_take_iff_later`: what is kept are the elements with fewer than `k` later ones.
* `keepsNewest_iff`: the newest are kept exactly when no two elements that the key puts in the
  wrong order stand on the two sides of the cut.
-/
namespace Adcp.L1.Retention

variable {α β τ : Type*} [LinearOrder α]

/-- In a descending list an element is among the first `k` when fewer than `k` are greater. -/
theorem mem_take_iff {l : List α} (h : l.Pairwise (· > ·)) {x : α} (hx : x ∈ l) (k : Nat) :
    x ∈ l.take k ↔ (l.filter (x < ·)).length < k := by
  induction l generalizing k with
  | nil => exact nomatch hx
  | cons a l ih =>
    obtain ⟨ha, hl⟩ := List.pairwise_cons.mp h
    cases k with
    | zero => simp
    | succ k =>
      rw [List.take_succ_cons, List.mem_cons]
      rcases List.mem_cons.mp hx with rfl | hx
      · have hnone : (x :: l).filter (x < ·) = [] := by
          refine List.filter_eq_nil_iff.mpr fun y hy => ?_
          rcases List.mem_cons.mp hy with rfl | hy
          · simp
          · have hle : ¬ x < y := lt_asymm (ha y hy)
            simpa using hle
        rw [hnone]
        exact ⟨fun _ => Nat.succ_pos k, fun _ => Or.inl rfl⟩
      · have hxa : x < a := ha x hx
        rw [List.filter_cons_of_pos (by simpa using hxa), List.length_cons,
          Nat.add_lt_add_iff_right, ← ih hl hx k]
        exact ⟨fun h => h.resolve_left (ne_of_lt hxa), Or.inr⟩

variable (key : β → α)

/-- How many elements of the set have a greater key. -/
def later (s : Finset β) (x : β) : Nat := (s.filter fun y => key x < key y).card

variable {key}

theorem later_le {s : Finset β} {x y : β} (h : key x ≤ key y) : later key s y ≤ later key s x :=
  Finset.card_le_card fun z hz => by
    obtain ⟨hz, hlt⟩ := Finset.mem_filter.mp hz
    exact Finset.mem_filter.mpr ⟨hz, lt_of_le_of_lt h hlt⟩

theorem mem_take_iff_later [DecidableEq β] (hkey : Function.Injective key) {s : Finset β}
    {l : List α} (hl : l.Pairwise (· > ·)) (hmem : ∀ a, a ∈ l ↔ ∃ y ∈ s, key y = a) {x : β}
    (hx : x ∈ s) (k : Nat) : key x ∈ l.take k ↔ later key s x < k := by
  have hset : (l.filter (key x < ·)).toFinset = (s.filter fun y => key x < key y).image key := by
    ext a
    simp only [List.mem_toFinset, List.mem_filter, decide_eq_true_eq, Finset.mem_image,
      Finset.mem_filter, hmem]
    constructor
    · rintro ⟨⟨y, hy, rfl⟩, hlt⟩
      exact ⟨y, ⟨hy, hlt⟩, rfl⟩
    · rintro ⟨y, ⟨hy, hlt⟩, rfl⟩
      exact ⟨⟨y, hy, rfl⟩, hlt⟩
  have hnodup : (l.filter (key x < ·)).Nodup := (hl.imp fun h => ne_of_gt h).filter _
  rw [mem_take_iff hl ((hmem _).mpr ⟨x, hx, rfl⟩) k, ← List.toFinset_card_of_nodup hnodup, hset,
    Finset.card_image_of_injective _ hkey]
  rfl

/-- No element that is kept is older than one that is not. -/
def KeepsNewest [LT τ] (created : β → τ) (s : Finset β) (kept : β → Prop) : Prop :=
  ∀ x ∈ s, ∀ y ∈ s, kept x → ¬ kept y → ¬ created x < created y

/-- Where the key of two elements of a kind follows their creation, only elements of different
kinds can be kept in the wrong order. -/
theorem keepsNewest_iff [LT τ] {created : β → τ} {kind : β → β → Prop}
    (hkind : ∀ x y, kind x y → created x < created y → key x < key y) (s : Finset β) (k : Nat) :
    KeepsNewest created s (fun x => later key s x < k) ↔
      ∀ x ∈ s, ∀ y ∈ s, ¬ kind x y → later key s x < k → k ≤ later key s y →
        ¬ created x < created y := by
  constructor
  · intro h x hx y hy _ hkept hgone
    exact h x hx y hy hkept (Nat.not_lt.mpr hgone)
  · intro h x hx y hy hkept hgone hlt
    have hle : later key s y ≤ later key s x → False := fun hle =>
      hgone (lt_of_le_of_lt hle hkept)
    by_cases hxy : kind x y
    · exact hle (later_le (le_of_lt (hkind x y hxy hlt)))
    · exact h x hx y hy hxy hkept (Nat.not_lt.mp hgone) hlt

end Adcp.L1.Retention
