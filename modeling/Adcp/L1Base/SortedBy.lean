import Mathlib
import Adcp.L1Base.Tx
/-!
# Sorting by a key

`sorted(items, key=key)`: every key is computed first, and each of them may fail; then the items are
sorted by their keys, and the items of one key stay in their order.

* `decorated`: the items with their keys.
* `sortedBy_of_perm`: where no two items share a key, the order of the items does not matter.
* `sortedBy_self`: what is sorted is sorted again as it is.
-/
namespace Adcp.L1

variable {ε κ α : Type}

def decorate (key : α → Except ε κ) (a : α) : Except ε (κ × α) := do
  let k ← key a
  pure (k, a)

def decorated (key : α → Except ε κ) (items : List α) : Except ε (List (κ × α)) :=
  items.mapM (decorate key)

def sortedBy [LinearOrder κ] (key : α → Except ε κ) (items : List α) : Except ε (List α) := do
  let keyed ← decorated key items
  pure ((keyed.insertionSort fun p q => p.1 ≤ q.1).map Prod.snd)

variable {key : α → Except ε κ} {items : List α}

theorem decorate_ok {a : α} {p : κ × α} :
    decorate key a = .ok p ↔ key a = .ok p.1 ∧ p.2 = a := by
  unfold decorate
  rw [except_bind_ok]
  constructor
  · rintro ⟨k, hk, h⟩
    cases h
    exact ⟨hk, rfl⟩
  · rintro ⟨hk, rfl⟩
    exact ⟨p.1, hk, rfl⟩

theorem decorated_ok {keyed : List (κ × α)} : decorated key items = .ok keyed ↔
    keyed.map Prod.snd = items ∧ ∀ p ∈ keyed, key p.2 = .ok p.1 := by
  unfold decorated
  rw [except_mapM_ok]
  constructor
  · intro h
    induction h with
    | nil => exact ⟨rfl, fun p hp => absurd hp List.not_mem_nil⟩
    | cons ha _ ih =>
      obtain ⟨hkey, hitem⟩ := decorate_ok.mp ha
      refine ⟨by rw [List.map_cons, hitem, ih.1], List.forall_mem_cons.mpr ⟨?_, ih.2⟩⟩
      rw [hitem]
      exact hkey
  · rintro ⟨rfl, h⟩
    rw [List.forall₂_map_left_iff, List.forall₂_same]
    exact fun p hp => decorate_ok.mpr ⟨h p hp, rfl⟩

theorem decorated_perm {items' : List α} {keyed : List (κ × α)} (hperm : items.Perm items')
    (h : decorated key items = .ok keyed) :
    ∃ keyed', decorated key items' = .ok keyed' ∧ keyed'.Perm keyed := by
  unfold decorated at h ⊢
  obtain ⟨keyed', hkeyed, hp⟩ := List.perm_comp_forall₂ hperm.symm (except_mapM_ok.mp h)
  exact ⟨keyed', except_mapM_ok.mpr hkeyed, hp⟩

variable [LinearOrder κ]

theorem pairwise_keyed (keyed : List (κ × α)) :
    (keyed.insertionSort fun p q => p.1 ≤ q.1).Pairwise fun p q => p.1 ≤ q.1 := by
  have : Std.Total fun p q : κ × α => p.1 ≤ q.1 := ⟨fun p q => le_total p.1 q.1⟩
  have : IsTrans (κ × α) fun p q => p.1 ≤ q.1 := ⟨fun p q r h h' => le_trans h h'⟩
  exact List.pairwise_insertionSort _ keyed

theorem sortedBy_ok {s : List α} : sortedBy key items = .ok s ↔
    ∃ keyed, decorated key items = .ok keyed ∧
      (keyed.insertionSort fun p q => p.1 ≤ q.1).map Prod.snd = s := by
  unfold sortedBy
  rw [except_bind_ok]
  refine exists_congr fun keyed => and_congr_right fun _ => ?_
  exact ⟨Except.ok.inj, congrArg _⟩

theorem sortedBy_perm {s : List α} (h : sortedBy key items = .ok s) : s.Perm items := by
  obtain ⟨keyed, hkeyed, rfl⟩ := sortedBy_ok.mp h
  have hperm := (List.perm_insertionSort (fun p q => p.1 ≤ q.1) keyed).map Prod.snd
  rwa [(decorated_ok.mp hkeyed).1] at hperm

/-- Where no two items share a key, the order of the items does not matter. -/
theorem sortedBy_of_perm {items' s : List α} (hperm : items.Perm items')
    (hkeys : ∀ a ∈ items, ∀ b ∈ items, ∀ k, key a = .ok k → key b = .ok k → a = b)
    (h : sortedBy key items = .ok s) : sortedBy key items' = .ok s := by
  obtain ⟨keyed, hkeyed, rfl⟩ := sortedBy_ok.mp h
  obtain ⟨keyed', hkeyed', hp⟩ := decorated_perm hperm hkeyed
  refine sortedBy_ok.mpr ⟨keyed', hkeyed', congrArg _ ?_⟩
  obtain ⟨hitems, hkey⟩ := decorated_ok.mp hkeyed
  have hsorted := List.perm_insertionSort (fun p q => p.1 ≤ q.1) keyed
  have hsorted' := List.perm_insertionSort (fun p q => p.1 ≤ q.1) keyed'
  refine List.Perm.eq_of_pairwise (fun p q hpm hqm hle hge => ?_) (pairwise_keyed keyed')
    (pairwise_keyed keyed) (hsorted'.trans (hp.trans hsorted.symm))
  have hpm : p ∈ keyed := hp.mem_iff.mp (hsorted'.mem_iff.mp hpm)
  have hqm : q ∈ keyed := hsorted.mem_iff.mp hqm
  have hsame : p.1 = q.1 := le_antisymm hle hge
  have hmem : ∀ r ∈ keyed, r.2 ∈ items := fun r hr => hitems ▸ List.mem_map_of_mem hr
  refine Prod.ext hsame (hkeys _ (hmem p hpm) _ (hmem q hqm) p.1 (hkey p hpm) ?_)
  rw [hsame]
  exact hkey q hqm

/-- What is sorted is sorted again as it is. -/
theorem sortedBy_self {s : List α} (h : sortedBy key items = .ok s) :
    sortedBy key s = .ok s := by
  obtain ⟨keyed, hkeyed, rfl⟩ := sortedBy_ok.mp h
  have hperm := List.perm_insertionSort (fun p q => p.1 ≤ q.1) keyed
  refine sortedBy_ok.mpr ⟨_, decorated_ok.mpr ⟨rfl, fun p hp => ?_⟩, ?_⟩
  · exact (decorated_ok.mp hkeyed).2 p (hperm.mem_iff.mp hp)
  · rw [(pairwise_keyed keyed).insertionSort_eq]

end Adcp.L1
