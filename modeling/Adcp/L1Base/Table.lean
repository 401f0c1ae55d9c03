import Mathlib
/-!
# Tables with a primary key

A table is the list of its rows in insertion order, over an arbitrary row type
and key. `lookup` is `SELECT … WHERE key = ?`, `update` is `UPDATE … WHERE
key = ?`, and an insertion appends a row.

* `lookup_update`, `lookup_append`, `lookup_prefix`: what a query finds after each
  statement.
* `mem_iff_lookup`: with distinct keys, the rows of the table are exactly what
  its queries find.
* `distinct_update`, `distinct_append`: the statements keep the keys distinct.
* `newest_append`: the row with the greatest time, the last among equals, is the last
  one appended while times do not go back.
-/
namespace Adcp.L1.Table

variable {ρ κ : Type} [DecidableEq κ]

def lookup (key : ρ → κ) (t : List ρ) (k : κ) : Option ρ := t.find? fun r => key r = k

def update (key : ρ → κ) (t : List ρ) (k : κ) (f : ρ → ρ) : List ρ :=
  t.map fun r => if key r = k then f r else r

/-- `ORDER BY time DESC, rowid DESC LIMIT 1`. -/
def newest (time : ρ → Nat) : List ρ → Option ρ
  | [] => none
  | r :: t =>
    match newest time t with
    | some b => if time b < time r then some r else some b
    | none => some r

variable {key : ρ → κ} {t : List ρ} {k k' : κ} {f : ρ → ρ} {r : ρ}

theorem lookup_key (h : lookup key t k = some r) : key r = k := by
  simpa using List.find?_some h

theorem lookup_mem (h : lookup key t k = some r) : r ∈ t := List.mem_of_find?_eq_some h

theorem lookup_eq_none : lookup key t k = none ↔ ∀ r ∈ t, key r ≠ k := by
  simp [lookup]

/-- After an update that keeps keys, the key's row is the updated one and every
other row is as before. -/
theorem lookup_update (hf : ∀ r, key r = k → key (f r) = k) :
    lookup key (update key t k f) k' = if k' = k then (lookup key t k).map f else lookup key t k' := by
  unfold lookup update
  induction t with
  | nil => split <;> rfl
  | cons r t ih =>
    by_cases hr : key r = k
    · have hfr := hf r hr
      by_cases hk : k' = k
      · simp [hr, hk, hfr]
      · have hne : ¬ k = k' := fun h => hk h.symm
        simpa [hr, hk, hfr, hne] using ih
    · by_cases hk' : key r = k'
      · have hk : ¬ k' = k := fun h => hr (hk'.trans h)
        simp [hk', hk]
      · simpa [hr, hk'] using ih

theorem lookup_update_self (hf : ∀ r, key r = k → key (f r) = k) (h : lookup key t k = some r) :
    lookup key (update key t k f) k = some (f r) := by
  rw [lookup_update hf, if_pos rfl, h, Option.map_some]

theorem lookup_update_ne (hf : ∀ r, key r = k → key (f r) = k) (hk : k' ≠ k) :
    lookup key (update key t k f) k' = lookup key t k' := by
  rw [lookup_update hf, if_neg hk]

/-- After inserting a row with a free key, its key finds it and every other row
is as before. -/
theorem lookup_append (hfree : lookup key t (key r) = none) :
    lookup key (t ++ [r]) k = if k = key r then some r else lookup key t k := by
  unfold lookup at *
  rw [List.find?_append]
  by_cases hk : k = key r
  · subst hk
    rw [hfree, if_pos rfl]
    simp
  · have hne : ¬ key r = k := fun h => hk h.symm
    simp [hk, hne]

/-- Appended rows hide no row that was found. -/
theorem lookup_prefix {t' : List ρ} (ht : t <+: t') (h : lookup key t k = some r) :
    lookup key t' k = some r := by
  obtain ⟨rest, rfl⟩ := ht
  unfold lookup at h ⊢
  rw [List.find?_append, h]
  rfl

theorem mem_iff_lookup (hd : (t.map key).Nodup) : r ∈ t ↔ lookup key t (key r) = some r := by
  refine ⟨fun hr => ?_, lookup_mem⟩
  unfold lookup
  induction t with
  | nil => cases hr
  | cons s t ih =>
    rw [List.map_cons, List.nodup_cons] at hd
    rcases List.mem_cons.mp hr with rfl | hm
    · simp
    · have hne : ¬ key s = key r := fun h =>
        hd.1 (List.mem_map.mpr ⟨r, hm, h.symm⟩)
      simpa [hne] using ih hd.2 hm

theorem keys_update (hf : ∀ r, key r = k → key (f r) = k) : (update key t k f).map key = t.map key := by
  unfold update
  rw [List.map_map]
  refine List.map_congr_left fun r _ => ?_
  simp only [Function.comp]
  split
  · rename_i hr
    rw [hf r hr, hr]
  · rfl

theorem distinct_update (hf : ∀ r, key r = k → key (f r) = k) (hd : (t.map key).Nodup) :
    ((update key t k f).map key).Nodup := by
  rw [keys_update hf]
  exact hd

theorem distinct_append (hfree : lookup key t (key r) = none) (hd : (t.map key).Nodup) :
    ((t ++ [r]).map key).Nodup := by
  rw [List.map_append, List.nodup_append]
  refine ⟨hd, by simp, ?_⟩
  intro a ha b hb
  obtain ⟨s, hs, rfl⟩ := List.mem_map.mp ha
  obtain rfl : b = key r := by simpa using hb
  exact lookup_eq_none.mp hfree s hs

/-! ## The newest row -/

variable {time : ρ → Nat}

/-- An appended row is the newest, unless its time is behind that of the newest
before it. -/
theorem newest_append : newest time (t ++ [r]) = match newest time t with
    | some b => if time r < time b then some b else some r
    | none => some r := by
  induction t with
  | nil => rfl
  | cons s t ih =>
    simp only [List.cons_append, newest, ih]
    cases newest time t with
    | none => simp only
    | some b =>
      simp only
      by_cases hrb : time r < time b
      · by_cases hbs : time b < time s
        · have hrs : time r < time s := by omega
          simp [hrb, hbs, hrs]
        · simp [hrb, hbs]
      · by_cases hbs : time b < time s
        · by_cases hrs : time r < time s <;> simp [hrb, hbs, hrs]
        · have hrs : ¬ time r < time s := by omega
          simp [hrb, hbs, hrs]

theorem newest_mem {b : ρ} (h : newest time t = some b) : b ∈ t := by
  induction t with
  | nil => cases h
  | cons s t ih =>
    unfold newest at h
    cases hc : newest time t with
    | none =>
      rw [hc] at h
      cases h
      exact List.mem_cons_self ..
    | some c =>
      simp only [hc] at h
      split at h
      · cases h
        exact List.mem_cons_self ..
      · cases h
        exact List.mem_cons_of_mem _ (ih hc)

end Adcp.L1.Table
