import Mathlib
/-!
# Computations that return

A computation in `Except` may raise. `Yields x P` says that `x` does not, and that what it returns
is as `P` says; the rules follow how `x` is put together.
-/
namespace Adcp.L1

variable {ε α β : Type}

def Yields (x : Except ε α) (P : α → Prop) : Prop := ∃ a, x = .ok a ∧ P a

namespace Yields

theorem pure {P : α → Prop} {a : α} (h : P a) : Yields (pure a : Except ε α) P := ⟨a, rfl, h⟩

theorem bind {x : Except ε α} {f : α → Except ε β} {P : α → Prop} {Q : β → Prop}
    (hx : Yields x P) (hf : ∀ a, P a → Yields (f a) Q) : Yields (x >>= f) Q := by
  obtain ⟨a, rfl, ha⟩ := hx
  exact hf a ha

theorem mono {x : Except ε α} {P Q : α → Prop} (hx : Yields x P) (h : ∀ a, P a → Q a) :
    Yields x Q := by
  obtain ⟨a, rfl, ha⟩ := hx
  exact ⟨a, rfl, h a ha⟩

/-- What every step keeps, the loop keeps. -/
theorem foldlM {f : β → α → Except ε β} {P : β → Prop} {l : List α}
    (hf : ∀ b, P b → ∀ a ∈ l, Yields (f b a) P) : ∀ {b : β}, P b → Yields (l.foldlM f b) P := by
  induction l with
  | nil => exact fun hb => .pure hb
  | cons a l ih =>
    intro b hb
    rw [List.foldlM_cons]
    exact (hf b hb a List.mem_cons_self).bind fun b' hb' =>
      ih (fun b hb a ha => hf b hb a (List.mem_cons_of_mem _ ha)) hb'

/-- An entry by entry translation. -/
theorem mapM {f : α → Except ε β} {R : α → β → Prop} {l : List α}
    (hf : ∀ a ∈ l, Yields (f a) (R a)) : Yields (l.mapM f) (List.Forall₂ R l) := by
  induction l with
  | nil => exact .pure .nil
  | cons a l ih =>
    rw [List.mapM_cons]
    refine (hf a List.mem_cons_self).bind fun b hb => ?_
    exact (ih fun a ha => hf a (List.mem_cons_of_mem _ ha)).bind fun bs hbs => .pure (.cons hb hbs)

end Yields
end Adcp.L1
