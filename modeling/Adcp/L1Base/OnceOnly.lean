import Adcp.L1Base.Tx

/-!
# Programs that take effect once

A key makes an operation take effect at most once when the operation leaves the
key spent, and finds it unspent, whenever it changes anything at all. `P` says of
a state that the key is spent there.

* `Tx.Keeps P x`: a run of `x` that succeeds does not lose `P`.
* `Tx.Sets P x`: it ends with `P`.
* `Tx.Claims P x`: it also started without `P`.
* `Tx.Once P x`: it changes nothing, or it claims.
* `Tx.Once.again`: where `P` holds, a transaction over such a program leaves the
  state as it is.

A program is put together from read-only statements, which each of the four lets
through, from writes that keep `P` and from one that claims it.
-/
namespace Adcp.L1.Tx

variable {ε ε' σ α β : Type}

/-- A run that succeeds does not lose `P`. -/
def Keeps (P : σ → Prop) (x : Tx ε σ α) : Prop := ∀ s a s', x s = .ok (a, s') → P s → P s'

/-- A run that succeeds ends with `P`. -/
def Sets (P : σ → Prop) (x : Tx ε σ α) : Prop := ∀ s a s', x s = .ok (a, s') → P s'

/-- A run that succeeds starts without `P` and ends with it. -/
def Claims (P : σ → Prop) (x : Tx ε σ α) : Prop :=
  ∀ s a s', x s = .ok (a, s') → ¬ P s ∧ P s'

/-- A run that succeeds changes nothing, or starts without `P` and ends with it. -/
def Once (P : σ → Prop) (x : Tx ε σ α) : Prop :=
  ∀ s a s', x s = .ok (a, s') → s' = s ∨ (¬ P s ∧ P s')

variable {P : σ → Prop} {x : Tx ε σ α} {f : α → Tx ε σ β}

theorem ReadOnly.keeps (h : ReadOnly x) : Keeps P x := by
  intro s a s' hx hP
  rw [h s a s' hx]
  exact hP

theorem Keeps.bind (hx : Keeps P x) (hf : ∀ a, Keeps P (f a)) : Keeps P (x >>= f) := by
  intro s b s' h hP
  obtain ⟨a, t, h1, h2⟩ := bind_ok.mp h
  exact hf a t b s' h2 (hx s a t h1 hP)

theorem Sets.after (hf : ∀ a, Sets P (f a)) : Sets P (x >>= f) := by
  intro s b s' h
  obtain ⟨a, t, -, h2⟩ := bind_ok.mp h
  exact hf a t b s' h2

theorem Sets.bind (hx : Sets P x) (hf : ∀ a, Keeps P (f a)) : Sets P (x >>= f) := by
  intro s b s' h
  obtain ⟨a, t, h1, h2⟩ := bind_ok.mp h
  exact hf a t b s' h2 (hx s a t h1)

theorem Claims.sets (h : Claims P x) : Sets P x := by
  intro s a s' hx
  exact (h s a s' hx).2

theorem Claims.once (h : Claims P x) : Once P x := by
  intro s a s' hx
  exact Or.inr (h s a s' hx)

/-- A claim stands behind anything that keeps `P`: had `P` held before, it would
still hold there. -/
theorem Claims.past (hx : Keeps P x) (hf : ∀ a, Claims P (f a)) : Claims P (x >>= f) := by
  intro s b s' h
  obtain ⟨a, t, h1, h2⟩ := bind_ok.mp h
  obtain ⟨hfree, hset⟩ := hf a t b s' h2
  exact ⟨fun hP => hfree (hx s a t h1 hP), hset⟩

theorem Claims.after (hx : ReadOnly x) (hf : ∀ a, Claims P (f a)) : Claims P (x >>= f) :=
  .past hx.keeps hf

/-- And it stands in front of anything that keeps `P`. -/
theorem Claims.bind (hx : Claims P x) (hf : ∀ a, Keeps P (f a)) : Claims P (x >>= f) := by
  intro s b s' h
  obtain ⟨a, t, h1, h2⟩ := bind_ok.mp h
  obtain ⟨hfree, hset⟩ := hx s a t h1
  exact ⟨hfree, hf a t b s' h2 hset⟩

theorem Claims.fail {e : ε} : Claims P (fail e : Tx ε σ α) := by
  intro s a s' h
  exact (fail_ok.mp h).elim

theorem ReadOnly.once (h : ReadOnly x) : Once P x := by
  intro s a s' hx
  exact Or.inl (h s a s' hx)

theorem Once.after (hx : ReadOnly x) (hf : ∀ a, Once P (f a)) : Once P (x >>= f) := by
  intro s b s' h
  obtain ⟨a, -, h2⟩ := hx.bind_ok h
  exact hf a s b s' h2

theorem Once.bind (hx : Once P x) (hf : ∀ a, ReadOnly (f a)) : Once P (x >>= f) := by
  intro s b s' h
  obtain ⟨a, t, h1, h2⟩ := bind_ok.mp h
  rw [hf a t b s' h2]
  exact hx s a t h1

theorem Once.ite {c : Prop} [Decidable c] {y : Tx ε σ α} (hx : Once P x) (hy : Once P y) :
    Once P (if c then x else y) := by
  split
  · exact hx
  · exact hy

theorem Once.mapError {g : ε → ε'} (hx : Once P x) : Once P (mapError g x) := by
  intro s a s' h
  exact hx s a s' (mapError_ok.mp h)

/-- A program that looks its key up, answers when it finds it and sets it otherwise. -/
theorem Once.lookup {g : σ → Option α} {f : Option α → Tx ε σ β} (hg : ∀ s, g s = none → ¬ P s)
    (hsome : ∀ a, ReadOnly (f (some a))) (hnone : Sets P (f none)) : Once P (read g >>= f) := by
  intro s b s' h
  rcases read_option_bind_ok h with ⟨a, -, h⟩ | ⟨hfree, h⟩
  · exact Or.inl (hsome a s b s' h)
  · exact Or.inr ⟨hg s hfree, hnone s b s' h⟩

/-- A transaction whose key is spent leaves the state as it is. -/
theorem Once.again {s : σ} (hx : Once P x) (hP : P s) : (atomically x s).2 = s := by
  rcases atomically_state x s with h | ⟨a, h⟩
  · exact h
  · rcases hx s a _ h with h | ⟨hfree, -⟩
    · exact h
    · exact (hfree hP).elim

/-- A transaction that changes the state spends its key. -/
theorem Once.spent {s : σ} (hx : Once P x) (hne : (atomically x s).2 ≠ s) :
    ¬ P s ∧ P (atomically x s).2 := by
  rcases atomically_state x s with h | ⟨a, h⟩
  · exact (hne h).elim
  · rcases hx s a _ h with h | h
    · exact (hne h).elim
    · exact h

end Adcp.L1.Tx
