import Mathlib
/-!
# Fencing tokens

A lease with a fencing token, over an arbitrary type of owners: a counter, and
the owner that currently holds it, if any. The counter moves up by one when the
lease is granted (to a free lease or over an expired holder) and when it is
revoked; a release frees it and keeps the counter.

* `FenceStep.token_le`: the token never decreases.
* `FenceStep.holder`: a step that keeps the token keeps the holder or clears it.
* `Past.step`, `Past.run`: once the grant of a token is over it stays over.
* `FenceRun.increasing`: the tokens granted along a run are strictly increasing,
  and all of them lie above the token the run started from.
* `FenceRun.held`: a held token was granted to its holder.
* `FenceRun.one_holder`: two states of a run with the same token and a holder
  each have the same holder.
-/
namespace Adcp.L1

structure Fence (Owner : Type) where
  token : Int
  holder : Option Owner

variable {Owner : Type}

/-- One step, labelled with the grant it makes, if it makes one. -/
inductive FenceStep : Fence Owner → Option (Owner × Int) → Fence Owner → Prop
  | keep (f : Fence Owner) : FenceStep f none f
  | grant (f : Fence Owner) (o : Owner) : FenceStep f (some (o, f.token + 1)) ⟨f.token + 1, some o⟩
  | release (f : Fence Owner) : FenceStep f none ⟨f.token, none⟩
  | revoke (f : Fence Owner) : FenceStep f none ⟨f.token + 1, none⟩

/-- A run, with the grants made along it in order. -/
inductive FenceRun : Fence Owner → List (Owner × Int) → Fence Owner → Prop
  | nil (f : Fence Owner) : FenceRun f [] f
  | cons {f f' f'' : Fence Owner} {g : Option (Owner × Int)} {gs : List (Owner × Int)}
      (step : FenceStep f g f') (run : FenceRun f' gs f'') : FenceRun f (g.toList ++ gs) f''

/-- The grant with token `t` is over. -/
def Past (t : Int) (f : Fence Owner) : Prop := t < f.token ∨ (t = f.token ∧ f.holder = none)

variable {f f' : Fence Owner}

theorem FenceStep.token_le {g : Option (Owner × Int)} (h : FenceStep f g f') :
    f.token ≤ f'.token := by
  cases h with
  | keep => exact Int.le_refl _
  | grant o => simp only; omega
  | release => exact Int.le_refl _
  | revoke => simp only; omega

/-- A grant carries the next token, and its state carries the grant. -/
theorem FenceStep.granted {o : Owner} {t : Int} (h : FenceStep f (some (o, t)) f') :
    t = f.token + 1 ∧ f'.token = t ∧ f'.holder = some o := by
  cases h with
  | grant => exact ⟨rfl, rfl, rfl⟩

/-- A step that keeps the token keeps the holder or clears it. -/
theorem FenceStep.holder {g : Option (Owner × Int)} (h : FenceStep f g f')
    (ht : f'.token = f.token) : f'.holder = f.holder ∨ f'.holder = none := by
  cases h with
  | keep => exact Or.inl rfl
  | grant o => simp only at ht; omega
  | release => exact Or.inr rfl
  | revoke => simp only at ht; omega

theorem Past.step {t : Int} {g : Option (Owner × Int)} (hp : Past t f) (h : FenceStep f g f') :
    Past t f' := by
  have hle := h.token_le
  rcases hp with hlt | ⟨rfl, hnone⟩
  · exact Or.inl (by omega)
  · by_cases he : f'.token = f.token
    · refine Or.inr ⟨he.symm, ?_⟩
      rcases h.holder he with hh | hh
      · rw [hh, hnone]
      · exact hh
    · exact Or.inl (by omega)

theorem Past.run {t : Int} {gs : List (Owner × Int)} (hp : Past t f) (h : FenceRun f gs f') :
    Past t f' := by
  induction h with
  | nil => exact hp
  | cons step _ ih => exact ih (hp.step step)

/-- A grant of token `t` in a state where `t` is past cannot be current. -/
theorem Past.not_held {t : Int} (hp : Past t f) (ht : f.token = t) : f.holder = none := by
  rcases hp with hlt | ⟨-, hn⟩
  · omega
  · exact hn

theorem FenceRun.token_le {gs : List (Owner × Int)} (h : FenceRun f gs f') :
    f.token ≤ f'.token := by
  induction h with
  | nil => exact Int.le_refl _
  | cons step _ ih => exact Int.le_trans step.token_le ih

/-- Every grant of a run carries a token above the one the run started from. -/
theorem FenceRun.above {gs : List (Owner × Int)} (h : FenceRun f gs f') :
    ∀ g ∈ gs, f.token < g.2 := by
  induction h with
  | nil => intro g hg; cases hg
  | cons step _ ih =>
    rename_i f1 f2 _ g0 gs0 _
    intro g hg
    have hle := step.token_le
    rcases List.mem_append.mp hg with hg | hg
    · cases g0 with
      | none => cases hg
      | some p =>
        have hp : g = p := by simpa using hg
        subst hp
        have := (step.granted (o := g.1) (t := g.2)).1
        omega
    · exact Int.lt_of_le_of_lt hle (ih g hg)

/-- No grant of a run is ahead of the token the run ends with. -/
theorem FenceRun.granted_le {gs : List (Owner × Int)} (h : FenceRun f gs f') {g : Owner × Int}
    (hg : g ∈ gs) : g.2 ≤ f'.token := by
  induction h with
  | nil => cases hg
  | cons step run ih =>
    rename_i f1 f2 _ g0 gs0
    rcases List.mem_append.mp hg with hg | hg
    · cases g0 with
      | none => cases hg
      | some p =>
        have hp : g = p := by simpa using hg
        subst hp
        have hgranted := (step.granted (o := g.1) (t := g.2)).2.1
        have hle := run.token_le
        omega
    · exact ih hg

/-- The tokens granted along a run are strictly increasing. -/
theorem FenceRun.increasing {gs : List (Owner × Int)} (h : FenceRun f gs f') :
    (gs.map Prod.snd).Pairwise (· < ·) := by
  induction h with
  | nil => exact List.Pairwise.nil
  | cons step run ih =>
    rename_i f1 f2 _ g0 gs0
    cases g0 with
    | none => simpa using ih
    | some p =>
      have hp := step.granted (o := p.1) (t := p.2)
      simp only [Option.toList_some, List.cons_append, List.nil_append, List.map_cons,
        List.pairwise_cons]
      refine ⟨fun t ht => ?_, ih⟩
      obtain ⟨q, hq, rfl⟩ := List.mem_map.mp ht
      have := run.above q hq
      omega

/-- Each token of a run is granted once, so to one owner. -/
theorem FenceRun.unique {gs : List (Owner × Int)} (h : FenceRun f gs f') {o o' : Owner} {t : Int}
    (ho : (o, t) ∈ gs) (ho' : (o', t) ∈ gs) : o = o' := by
  have hinc := h.increasing
  clear h
  induction gs with
  | nil => cases ho
  | cons g gs ih =>
    simp only [List.map_cons, List.pairwise_cons] at hinc
    rcases List.mem_cons.mp ho with rfl | hm
    · rcases List.mem_cons.mp ho' with he | hm'
      · exact (congrArg Prod.fst he).symm
      · have := hinc.1 t (List.mem_map.mpr ⟨(o', t), hm', rfl⟩)
        simp only at this
        omega
    · rcases List.mem_cons.mp ho' with rfl | hm'
      · have := hinc.1 t (List.mem_map.mpr ⟨(o, t), hm, rfl⟩)
        simp only at this
        omega
      · exact ih hm hm' hinc.2

/-- Between two states of a run with the same token the holder is kept or
cleared. -/
theorem FenceRun.holder {gs : List (Owner × Int)} (h : FenceRun f gs f')
    (ht : f'.token = f.token) : f'.holder = f.holder ∨ f'.holder = none := by
  induction h with
  | nil => exact Or.inl rfl
  | cons step run ih =>
    rename_i f1 f2 f3 _ _
    have h1 := step.token_le
    have h2 := run.token_le
    have he : f2.token = f1.token := by omega
    rcases ih (by omega) with hh | hh
    · rcases step.holder he with hs | hs
      · exact Or.inl (hh.trans hs)
      · exact Or.inr (hh.trans hs)
    · exact Or.inr hh

/-- A held token was granted to its holder along the run, or the run started with
it. -/
theorem FenceRun.held {gs : List (Owner × Int)} (h : FenceRun f gs f') {o : Owner}
    (ho : f'.holder = some o) :
    (o, f'.token) ∈ gs ∨ (f.token = f'.token ∧ f.holder = some o) := by
  induction h with
  | nil => exact Or.inr ⟨rfl, ho⟩
  | cons step run ih =>
    rcases ih ho with hm | ⟨ht, hh⟩
    · exact Or.inl (List.mem_append_right _ hm)
    · cases step with
      | keep => exact Or.inr ⟨ht, hh⟩
      | grant o' =>
        simp only [Option.some.injEq] at hh
        rw [← ht, hh]
        exact Or.inl (List.mem_append_left _ (List.mem_singleton.mpr rfl))
      | release => cases hh
      | revoke => cases hh

/-- Two states of a run with the same token and a holder each have the same
holder. -/
theorem FenceRun.one_holder {gs : List (Owner × Int)} (h : FenceRun f gs f')
    (ht : f'.token = f.token) {o o' : Owner} (ho : f.holder = some o) (ho' : f'.holder = some o') :
    o = o' := by
  rcases h.holder ht with hh | hh
  · rw [hh, ho] at ho'; exact Option.some.inj ho'
  · rw [hh] at ho'; cases ho'

end Adcp.L1
