import Mathlib
/-!
# Write-ahead logs

A file of pages with a log of the pages that transactions have written since: a reader sees
the logged pages over those of the file, so a commit changes what is read and leaves the
file alone. A checkpoint copies logged pages to the file, and a log whose pages are all in
the file may start afresh.

* `overlay_congr`: pages that are written over do not matter.
* `WalMove.content`: neither a checkpoint nor a fresh log changes what is read.
-/
namespace Adcp.L1

/-- The pages of a file; `none` behind its end. -/
abbrev Pages (Page : Type) : Type := Nat → Option Page

variable {Page : Type}

/-- The pages of `m` with the writes of a log over them, the last one on top. -/
def overlay : List (Nat × Option Page) → Pages Page → Pages Page
  | [], m => m
  | (i, p) :: ws, m => overlay ws (Function.update m i p)

theorem overlay_append (ws ws' : List (Nat × Option Page)) (m : Pages Page) :
    overlay (ws ++ ws') m = overlay ws' (overlay ws m) := by
  induction ws generalizing m with
  | nil => rfl
  | cons w ws ih => exact ih _

theorem overlay_of_notMem {ws : List (Nat × Option Page)} {i : Nat} (h : i ∉ ws.map Prod.fst)
    (m : Pages Page) : overlay ws m i = m i := by
  induction ws generalizing m with
  | nil => rfl
  | cons w ws ih =>
    rw [List.map_cons, List.mem_cons, not_or] at h
    show overlay ws (Function.update m w.1 w.2) i = m i
    rw [ih h.2, Function.update_of_ne h.1]

/-- Pages that are written over do not matter. -/
theorem overlay_congr {ws : List (Nat × Option Page)} {m m' : Pages Page}
    (h : ∀ i, i ∉ ws.map Prod.fst → m i = m' i) : overlay ws m = overlay ws m' := by
  induction ws generalizing m m' with
  | nil => exact funext fun i => h i List.not_mem_nil
  | cons w ws ih =>
    refine ih fun i hi => ?_
    by_cases hw : i = w.1
    · rw [hw, Function.update_self, Function.update_self]
    · rw [Function.update_of_ne hw, Function.update_of_ne hw]
      refine h i ?_
      rw [List.map_cons, List.mem_cons, not_or]
      exact ⟨hw, hi⟩

/-- Writes that are already there can be made again. -/
theorem overlay_take (ws : List (Nat × Option Page)) (n : Nat) (m : Pages Page) :
    overlay ws (overlay (ws.take n) m) = overlay ws m := by
  refine overlay_congr fun i hi => overlay_of_notMem (fun hmem => hi ?_) m
  obtain ⟨w, hw, rfl⟩ := List.mem_map.mp hmem
  exact List.mem_map_of_mem (List.mem_of_mem_take hw)

/-- A file, and the log behind it. -/
structure WalFile (Page : Type) where
  main : Pages Page
  wal : List (Nat × Option Page)

namespace WalFile

/-- What a reader sees. -/
def content (f : WalFile Page) : Pages Page := overlay f.wal f.main

/-- A transaction writes these pages. -/
def commit (f : WalFile Page) (ws : List (Nat × Option Page)) : WalFile Page :=
  { f with wal := f.wal ++ ws }

/-- The first pages of the log are copied to the file. -/
def checkpoint (f : WalFile Page) (n : Nat) : WalFile Page :=
  { f with main := overlay (f.wal.take n) f.main }

/-- The log starts afresh. -/
def restart (f : WalFile Page) : WalFile Page := { f with wal := [] }

@[simp] theorem commit_main (f : WalFile Page) (ws : List (Nat × Option Page)) :
    (f.commit ws).main = f.main := rfl

theorem commit_content (f : WalFile Page) (ws : List (Nat × Option Page)) :
    (f.commit ws).content = overlay ws f.content := overlay_append ..

end WalFile

/-- What happens to the file without a commit. -/
inductive WalMove (f : WalFile Page) : WalFile Page → Prop
  | checkpoint (n : Nat) : WalMove f (f.checkpoint n)
  | restart (copied : f.content = f.main) : WalMove f f.restart

/-- **Readers are not disturbed.** -/
theorem WalMove.content {f f' : WalFile Page} (h : WalMove f f') : f'.content = f.content := by
  cases h with
  | checkpoint n => exact overlay_take ..
  | restart copied => exact copied.symm

end Adcp.L1
