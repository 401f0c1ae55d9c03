import Adcp.L1Base.Tx
/-!
# What a transaction can raise

`Tx.bind_ok` reads a run that succeeded. Here is the counterpart for one that failed: a bound on the
errors of a program, from bounds on the errors of its parts.

* `Raises x s P`: every error of `x` from the state `s` is in `P`.
* `Raises.bind`: the rest of a program is only asked about where its first part succeeded.
-/
namespace Adcp.L1.Tx

variable {ε ε' σ α β : Type} {P Q : ε → Prop} {s : σ}

/-- Every error of `x` from `s` is in `P`. -/
def Raises (x : Tx ε σ α) (s : σ) (P : ε → Prop) : Prop := ∀ e, x s = .error e → P e

namespace Raises

theorem mono {x : Tx ε σ α} (h : Raises x s P) (hPQ : ∀ e, P e → Q e) : Raises x s Q := by
  intro e he
  exact hPQ e (h e he)

theorem bind {x : Tx ε σ α} {f : α → Tx ε σ β} (hx : Raises x s P)
    (hf : ∀ a t, x s = .ok (a, t) → Raises (f a) t P) : Raises (x >>= f) s P := by
  intro e he
  rcases bind_error.mp he with h | ⟨a, t, hok, h⟩
  · exact hx e h
  · exact hf a t hok e h

theorem pure {a : α} : Raises (Pure.pure a : Tx ε σ α) s P := by
  intro e he
  cases he

theorem require {c : Prop} [Decidable c] {e : ε} (h : ¬ c → P e) :
    Raises (require c e : Tx ε σ Unit) s P := by
  intro e' he
  obtain ⟨hc, rfl⟩ := require_error.mp he
  exact h hc

theorem require_bind {c : Prop} [Decidable c] {e : ε} {f : Unit → Tx ε σ β} (h : ¬ c → P e)
    (hf : c → Raises (f ()) s P) : Raises (Tx.require c e >>= f) s P := by
  refine bind (require h) fun _ _ hok => ?_
  obtain ⟨hc, heq⟩ := require_ok.mp hok
  cases heq
  exact hf hc

theorem requireAll {err : String → ε} {l : List (String × Bool)} (h : ∀ name, P (err name)) :
    Raises (requireAll err l : Tx ε σ Unit) s P := by
  induction l with
  | nil => exact pure
  | cons p l ih =>
    exact require_bind (fun _ => h p.1) fun _ => ih

theorem read {g : σ → α} : Raises (read g : Tx ε σ α) s P := by
  intro e he
  cases he

theorem read_bind {g : σ → α} {f : α → Tx ε σ β} (hf : Raises (f (g s)) s P) :
    Raises (Tx.read g >>= f) s P := hf

theorem write {g : σ → σ} : Raises (write g : Tx ε σ Unit) s P := by
  intro e he
  cases he

theorem lift {x : Except ε α} (h : ∀ e, x = .error e → P e) : Raises (lift x : Tx ε σ α) s P := by
  intro e he
  cases x with
  | error e' =>
    cases he
    exact h e rfl
  | ok a => cases he

theorem lift_bind {x : Except ε α} {f : α → Tx ε σ β} (h : ∀ e, x = .error e → P e)
    (hf : ∀ a, x = .ok a → Raises (f a) s P) : Raises (Tx.lift x >>= f) s P := by
  refine bind (lift h) fun a t hok => ?_
  obtain ⟨ha, heq⟩ := lift_ok.mp hok
  simp only at ha heq
  rw [heq]
  exact hf a ha

theorem mapError {x : Tx ε σ α} {g : ε → ε'} {P : ε' → Prop} (h : Raises x s fun e => P (g e)) :
    Raises (mapError g x) s P := by
  intro e he
  unfold Tx.mapError at he
  cases hx : x s with
  | error e' =>
    rw [hx] at he
    cases he
    exact h e' hx
  | ok p =>
    rw [hx] at he
    cases he

end Raises

end Adcp.L1.Tx
