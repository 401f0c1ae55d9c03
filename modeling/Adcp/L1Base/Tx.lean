import Mathlib
/-!
# Database transactions as state-passing programs

A transaction body reads and writes a database state `σ` and may raise an
error `ε`. `Tx.atomically` is what `BEGIN IMMEDIATE … COMMIT` with a rollback
handler does with it: on success the new state is kept, on any error the old
one is.

Every lemma here is an inversion: it turns "this program ended in `.ok`" into
what its first statement must have found, so that an operation is taken apart
by one `simp only` and its callers never unfold it.

* `except_bind_ok`, `except_mapM_ok`: pure computations that succeeded.
* `bind_ok`: a sequence succeeded iff its parts did.
* `require_bind_ok`, `read_bind_ok`, `write_bind_ok`, `lift_bind_ok`,
  `find_bind_ok`: the same for one primitive statement followed by a rest.
* `ReadOnly.bind_ok`: what a read-only program leaves to the rest.
* `mapError_bind` and the like, `commitThen_mapError`: the same program under
  other errors.
* `bind_error`, `require_bind_error`, `find_bind_error` and the like: which
  statement a failing sequence failed in.
* `atomically_error`: a failed transaction leaves the state as it was.
-/
namespace Adcp.L1

instance exceptDecidableEq {ε α : Type} [DecidableEq ε] [DecidableEq α] :
    DecidableEq (Except ε α)
  | .error e, .error e' => decidable_of_iff (e = e') ⟨congrArg _, Except.error.inj⟩
  | .ok a, .ok a' => decidable_of_iff (a = a') ⟨congrArg _, Except.ok.inj⟩
  | .error _, .ok _ => isFalse (by intro h; cases h)
  | .ok _, .error _ => isFalse (by intro h; cases h)

/-- A sequence of fallible computations succeeded iff its parts did. -/
theorem except_bind_ok {ε α β : Type} {x : Except ε α} {f : α → Except ε β} {b : β} :
    (x >>= f) = .ok b ↔ ∃ a, x = .ok a ∧ f a = .ok b := by
  cases x with
  | error e => exact ⟨fun h => (by cases h), fun ⟨_, h, _⟩ => (by cases h)⟩
  | ok a => exact ⟨fun h => ⟨a, rfl, h⟩, fun ⟨_, h, hf⟩ => by cases h; exact hf⟩

/-- A `mapM` answers when each of its steps does. -/
theorem except_mapM_ok {ε α β : Type} {f : α → Except ε β} {l : List α} {l' : List β} :
    l.mapM f = .ok l' ↔ List.Forall₂ (fun a b => f a = .ok b) l l' := by
  induction l generalizing l' with
  | nil =>
    rw [List.mapM_nil, List.forall₂_nil_left_iff]
    exact ⟨fun h => (Except.ok.inj h).symm, fun h => h ▸ rfl⟩
  | cons a l ih =>
    rw [List.mapM_cons, except_bind_ok, List.forall₂_cons_left_iff]
    constructor
    · rintro ⟨b, hb, h⟩
      obtain ⟨bs, hbs, h⟩ := except_bind_ok.mp h
      exact ⟨b, bs, hb, ih.mp hbs, (Except.ok.inj h).symm⟩
    · rintro ⟨b, bs, hb, hbs, rfl⟩
      exact ⟨b, hb, except_bind_ok.mpr ⟨bs, ih.mpr hbs, rfl⟩⟩

theorem forall₂_mem_left {α β : Type} {R : α → β → Prop} {l : List α} {l' : List β}
    (h : List.Forall₂ R l l') {a : α} (ha : a ∈ l) : ∃ b ∈ l', R a b := by
  induction h with
  | nil => cases ha
  | cons hab _ ih =>
    rcases List.mem_cons.mp ha with rfl | ha
    · exact ⟨_, List.mem_cons_self .., hab⟩
    · obtain ⟨b, hb, hr⟩ := ih ha
      exact ⟨b, List.mem_cons_of_mem _ hb, hr⟩

theorem forall₂_mem_right {α β : Type} {R : α → β → Prop} {l : List α} {l' : List β}
    (h : List.Forall₂ R l l') {b : β} (hb : b ∈ l') : ∃ a ∈ l, R a b :=
  forall₂_mem_left h.flip hb

theorem except_mapError_ok {ε ε' α : Type} {x : Except ε α} {f : ε → ε'} {a : α} :
    x.mapError f = .ok a ↔ x = .ok a := by
  cases x with
  | error e => exact iff_of_false (by intro h; cases h) (by intro h; cases h)
  | ok b => exact ⟨fun h => congrArg _ (Except.ok.inj h), fun h => congrArg _ (Except.ok.inj h)⟩

/-- A transaction body over the state `σ` with errors `ε`. -/
def Tx (ε σ α : Type) : Type := σ → Except ε (α × σ)

namespace Tx

variable {ε ε' ε'' σ α β : Type}

protected def pure (a : α) : Tx ε σ α := fun s => .ok (a, s)

protected def bind (x : Tx ε σ α) (f : α → Tx ε σ β) : Tx ε σ β := fun s =>
  match x s with
  | .ok (a, s') => f a s'
  | .error e => .error e

instance : Monad (Tx ε σ) where
  pure := Tx.pure
  bind := Tx.bind

/-- Raise. -/
def fail (e : ε) : Tx ε σ α := fun _ => .error e

/-- A guard: go on when `c` holds, raise `e` otherwise. -/
def require (c : Prop) [Decidable c] (e : ε) : Tx ε σ Unit := fun s =>
  if c then .ok ((), s) else .error e

/-- A query. -/
def read (f : σ → α) : Tx ε σ α := fun s => .ok (f s, s)

/-- A statement that changes the state and cannot fail. -/
def write (f : σ → σ) : Tx ε σ Unit := fun s => .ok ((), f s)

/-- A computation that does not touch the database. -/
def lift (x : Except ε α) : Tx ε σ α := fun s => x.map fun a => (a, s)

/-- A query that must find a row. -/
def find (f : σ → Option α) (e : ε) : Tx ε σ α := fun s =>
  match f s with
  | some a => .ok (a, s)
  | none => .error e

/-- `BEGIN IMMEDIATE … COMMIT`, rolled back on every error. -/
def atomically (x : Tx ε σ α) (s : σ) : Except ε α × σ :=
  match x s with
  | .ok (a, s') => (.ok a, s')
  | .error e => (.error e, s)

/-- A transaction followed by a read-only epilogue: a failing epilogue reports
its error, and the committed state stays. -/
def commitThen (x : Tx ε σ α) (post : α → Tx ε σ β) (s : σ) : Except ε β × σ :=
  match x s with
  | .ok (a, s') => ((post a s').map Prod.fst, s')
  | .error e => (.error e, s)

/-- Re-raise under another error. -/
def mapError (f : ε → ε') (x : Tx ε σ α) : Tx ε' σ α := fun s => (x s).mapError f

/-- Guards on a list of named conditions, in order. -/
def requireAll (err : String → ε) : List (String × Bool) → Tx ε σ Unit
  | [] => Tx.pure ()
  | (name, c) :: rest => require (c = true) (err name) >>= fun _ => requireAll err rest

/-! ## Inversion -/

theorem bind_ok {x : Tx ε σ α} {f : α → Tx ε σ β} {s : σ} {r : β × σ} :
    (x >>= f) s = .ok r ↔ ∃ a s', x s = .ok (a, s') ∧ f a s' = .ok r := by
  show Tx.bind x f s = .ok r ↔ _
  unfold Tx.bind
  cases h : x s with
  | error e => simp
  | ok p =>
    obtain ⟨a, s'⟩ := p
    refine ⟨fun hf => ⟨a, s', rfl, hf⟩, ?_⟩
    rintro ⟨b, t, he, hf⟩
    cases he
    exact hf

theorem bind_of_ok {x : Tx ε σ α} {f : α → Tx ε σ β} {s s' : σ} {a : α} (h : x s = .ok (a, s')) :
    (x >>= f) s = f a s' := by
  show Tx.bind x f s = _
  unfold Tx.bind
  rw [h]

theorem bind_of_error {x : Tx ε σ α} {f : α → Tx ε σ β} {s : σ} {e : ε} (h : x s = .error e) :
    (x >>= f) s = .error e := by
  show Tx.bind x f s = _
  unfold Tx.bind
  rw [h]

theorem pure_ok {a : α} {s : σ} {r : α × σ} :
    (pure a : Tx ε σ α) s = .ok r ↔ r = (a, s) := by
  show Except.ok (a, s) = .ok r ↔ _
  simp [eq_comm]

theorem fail_ok {e : ε} {s : σ} {r : α × σ} : (fail e : Tx ε σ α) s = .ok r ↔ False := by
  simp [fail]

theorem require_ok {c : Prop} [Decidable c] {e : ε} {s : σ} {r : Unit × σ} :
    (require c e : Tx ε σ Unit) s = .ok r ↔ c ∧ r = ((), s) := by
  unfold require
  split <;> simp [*, eq_comm]

theorem read_ok {g : σ → α} {s : σ} {r : α × σ} :
    (read g : Tx ε σ α) s = .ok r ↔ r = (g s, s) := by
  simp [read, eq_comm]

theorem write_ok {g : σ → σ} {s : σ} {r : Unit × σ} :
    (write g : Tx ε σ Unit) s = .ok r ↔ r = ((), g s) := by
  simp [write, eq_comm]

theorem lift_ok {x : Except ε α} {s : σ} {r : α × σ} :
    (lift x : Tx ε σ α) s = .ok r ↔ x = .ok r.1 ∧ r.2 = s := by
  obtain ⟨a, s'⟩ := r
  cases x <;> simp [lift, Except.map, eq_comm]

theorem find_ok {g : σ → Option α} {e : ε} {s : σ} {r : α × σ} :
    (find g e : Tx ε σ α) s = .ok r ↔ g s = some r.1 ∧ r.2 = s := by
  obtain ⟨a, s'⟩ := r
  unfold find
  cases g s <;> simp [eq_comm]

/-- A statement that only checks: it succeeds iff `P` and leaves the state. -/
theorem check_bind_ok {x : Tx ε σ Unit} {P : Prop} {f : Unit → Tx ε σ β} {s : σ} {r : β × σ}
    (hx : ∀ p, x s = .ok p ↔ P ∧ p = ((), s)) : (x >>= f) s = .ok r ↔ P ∧ f () s = .ok r := by
  rw [bind_ok]
  constructor
  · rintro ⟨a, s', h, hf⟩
    obtain ⟨hP, he⟩ := (hx _).mp h
    cases he
    exact ⟨hP, hf⟩
  · rintro ⟨hP, hf⟩
    exact ⟨(), s, (hx _).mpr ⟨hP, rfl⟩, hf⟩

theorem fail_bind_ok {e : ε} {f : α → Tx ε σ β} {s : σ} {r : β × σ} :
    ((fail e : Tx ε σ α) >>= f) s = .ok r ↔ False := by
  simp [bind_ok, fail_ok]

theorem pure_bind_ok {a : α} {f : α → Tx ε σ β} {s : σ} {r : β × σ} :
    ((pure a : Tx ε σ α) >>= f) s = .ok r ↔ f a s = .ok r := by
  simp [bind_ok, pure_ok, and_assoc]

theorem require_bind_ok {c : Prop} [Decidable c] {e : ε} {f : Unit → Tx ε σ β} {s : σ}
    {r : β × σ} : (require c e >>= f) s = .ok r ↔ c ∧ f () s = .ok r :=
  check_bind_ok fun _ => require_ok

theorem read_bind_ok {g : σ → α} {f : α → Tx ε σ β} {s : σ} {r : β × σ} :
    (read g >>= f) s = .ok r ↔ f (g s) s = .ok r := by
  simp [bind_ok, read_ok, and_assoc]

/-- A query that may find a row, and what is done in each case. -/
theorem read_option_bind_ok {g : σ → Option α} {f : Option α → Tx ε σ β} {s : σ} {r : β × σ}
    (h : (read g >>= f) s = .ok r) :
    (∃ a, g s = some a ∧ f (some a) s = .ok r) ∨ (g s = none ∧ f none s = .ok r) := by
  have h := read_bind_ok.mp h
  cases hg : g s with
  | none => exact Or.inr ⟨rfl, hg ▸ h⟩
  | some a => exact Or.inl ⟨a, rfl, hg ▸ h⟩

theorem write_bind_ok {g : σ → σ} {f : Unit → Tx ε σ β} {s : σ} {r : β × σ} :
    (write g >>= f) s = .ok r ↔ f () (g s) = .ok r :=
  bind_ok.trans ⟨fun ⟨_, _, h, hf⟩ => by cases write_ok.mp h; exact hf,
    fun hf => ⟨(), g s, write_ok.mpr rfl, hf⟩⟩

theorem lift_bind_ok {x : Except ε α} {f : α → Tx ε σ β} {s : σ} {r : β × σ} :
    (lift x >>= f) s = .ok r ↔ ∃ a, x = .ok a ∧ f a s = .ok r := by
  simp [bind_ok, lift_ok, and_assoc]

theorem find_bind_ok {g : σ → Option α} {e : ε} {f : α → Tx ε σ β} {s : σ} {r : β × σ} :
    (find g e >>= f) s = .ok r ↔ ∃ a, g s = some a ∧ f a s = .ok r := by
  simp [bind_ok, find_ok, and_assoc]

/-! ## Read-only programs -/

/-- The program changes nothing. -/
def ReadOnly (x : Tx ε σ α) : Prop := ∀ s a s', x s = .ok (a, s') → s' = s

theorem ReadOnly.pure {a : α} : ReadOnly (Pure.pure a : Tx ε σ α) := fun _ _ _ h => by
  cases pure_ok.mp h; rfl

theorem ReadOnly.fail {e : ε} : ReadOnly (fail e : Tx ε σ α) := fun _ _ _ h =>
  (fail_ok.mp h).elim

theorem ReadOnly.require {c : Prop} [Decidable c] {e : ε} : ReadOnly (require c e : Tx ε σ Unit) :=
  fun _ _ _ h => by cases (require_ok.mp h).2; rfl

theorem ReadOnly.read {g : σ → α} : ReadOnly (read g : Tx ε σ α) := fun _ _ _ h => by
  cases read_ok.mp h; rfl

theorem ReadOnly.lift {x : Except ε α} : ReadOnly (lift x : Tx ε σ α) := fun _ _ _ h =>
  (lift_ok.mp h).2

theorem ReadOnly.find {g : σ → Option α} {e : ε} : ReadOnly (find g e : Tx ε σ α) :=
  fun _ _ _ h => (find_ok.mp h).2

theorem ReadOnly.bind {x : Tx ε σ α} {f : α → Tx ε σ β} (hx : ReadOnly x)
    (hf : ∀ a, ReadOnly (f a)) : ReadOnly (x >>= f) := by
  intro s b s' h
  obtain ⟨a, t, h1, h2⟩ := bind_ok.mp h
  rw [hf a t b s' h2, hx s a t h1]

theorem ReadOnly.ite {c : Prop} [Decidable c] {x y : Tx ε σ α} (hx : ReadOnly x)
    (hy : ReadOnly y) : ReadOnly (if c then x else y) := by
  split
  · exact hx
  · exact hy

/-- What follows a read-only program starts from the same state. -/
theorem ReadOnly.bind_ok {x : Tx ε σ α} {f : α → Tx ε σ β} {s : σ} {r : β × σ} (hx : ReadOnly x)
    (h : (x >>= f) s = .ok r) : ∃ a, x s = .ok (a, s) ∧ f a s = .ok r := by
  obtain ⟨a, t, h1, h2⟩ := Tx.bind_ok.mp h
  cases hx s a t h1
  exact ⟨a, h1, h2⟩

/-! ## Errors and whole transactions -/

theorem mapError_ok {g : ε → ε'} {x : Tx ε σ α} {s : σ} {r : α × σ} :
    mapError g x s = .ok r ↔ x s = .ok r := by
  unfold mapError
  cases x s <;> simp [Except.mapError]

theorem ite_ok {c : Prop} [Decidable c] {x y : Tx ε σ α} {s : σ} {r : α × σ} :
    (if c then x else y) s = .ok r ↔ (c ∧ x s = .ok r) ∨ (¬ c ∧ y s = .ok r) := by
  split <;> simp [*]

theorem ite_bind_ok {c : Prop} [Decidable c] {x y : Tx ε σ α} {f : α → Tx ε σ β} {s : σ}
    {r : β × σ} : ((if c then x else y) >>= f) s = .ok r ↔
      (c ∧ (x >>= f) s = .ok r) ∨ (¬ c ∧ (y >>= f) s = .ok r) := by
  split <;> simp [*]

theorem requireAll_ok {err : String → ε} {l : List (String × Bool)} {s : σ} {r : Unit × σ} :
    (requireAll err l : Tx ε σ Unit) s = .ok r ↔ (∀ p ∈ l, p.2 = true) ∧ r = ((), s) := by
  induction l with
  | nil => exact pure_ok.trans (by simp)
  | cons p l ih =>
    obtain ⟨name, c⟩ := p
    show (require (c = true) (err name) >>= fun _ => requireAll err l) s = .ok r ↔ _
    rw [require_bind_ok, ih]
    simp [and_assoc]

theorem requireAll_append (err : String → ε) (l l' : List (String × Bool)) :
    (requireAll err (l ++ l') : Tx ε σ Unit) =
      (requireAll err l >>= fun _ => requireAll err l') := by
  induction l with
  | nil => rfl
  | cons p l ih =>
    obtain ⟨name, c⟩ := p
    funext s
    show Tx.bind _ _ s = Tx.bind (Tx.bind _ _) _ s
    unfold Tx.bind
    cases require (c = true) (err name) s with
    | error e => rfl
    | ok q => exact congrFun ih q.2

theorem ReadOnly.requireAll {err : String → ε} {l : List (String × Bool)} :
    ReadOnly (requireAll err l : Tx ε σ Unit) := fun _ _ _ h => by
  cases (requireAll_ok.mp h).2; rfl

theorem requireAll_bind_ok {err : String → ε} {l : List (String × Bool)} {f : Unit → Tx ε σ β}
    {s : σ} {r : β × σ} : (requireAll err l >>= f) s = .ok r ↔
      (∀ p ∈ l, p.2 = true) ∧ f () s = .ok r :=
  check_bind_ok fun _ => requireAll_ok

theorem atomically_ok {x : Tx ε σ α} {s s' : σ} {a : α} :
    atomically x s = (.ok a, s') ↔ x s = .ok (a, s') := by
  unfold atomically
  cases h : x s with
  | error e => simp
  | ok p => obtain ⟨b, t⟩ := p; simp

/-- A failed transaction leaves the state as it was. -/
theorem atomically_error {x : Tx ε σ α} {s s' : σ} {e : ε}
    (h : atomically x s = (.error e, s')) : s' = s := by
  unfold atomically at h
  cases hx : x s with
  | error e' => simp [hx] at h; exact h.2.symm
  | ok p => simp [hx] at h

theorem bind_error {x : Tx ε σ α} {f : α → Tx ε σ β} {s : σ} {e : ε} :
    (x >>= f) s = .error e ↔ x s = .error e ∨ ∃ a s', x s = .ok (a, s') ∧ f a s' = .error e := by
  show Tx.bind x f s = .error e ↔ _
  unfold Tx.bind
  cases h : x s with
  | error e' => simp
  | ok p =>
    obtain ⟨a, s'⟩ := p
    refine ⟨fun hf => Or.inr ⟨a, s', rfl, hf⟩, ?_⟩
    rintro (hf | ⟨b, t, he, hf⟩)
    · cases hf
    · cases he
      exact hf

theorem require_error {c : Prop} [Decidable c] {e e' : ε} {s : σ} :
    (require c e : Tx ε σ Unit) s = .error e' ↔ ¬ c ∧ e = e' := by
  unfold require
  split <;> simp [*]

theorem require_bind_error {c : Prop} [Decidable c] {e e' : ε} {f : Unit → Tx ε σ β} {s : σ} :
    (require c e >>= f) s = .error e' ↔ (¬ c ∧ e = e') ∨ (c ∧ f () s = .error e') := by
  rw [bind_error, require_error]
  refine or_congr_right ⟨?_, fun ⟨hc, hf⟩ => ⟨(), s, require_ok.mpr ⟨hc, rfl⟩, hf⟩⟩
  rintro ⟨_, _, h, hf⟩
  obtain ⟨hc, he⟩ := require_ok.mp h
  cases he
  exact ⟨hc, hf⟩

theorem read_bind_error {g : σ → α} {f : α → Tx ε σ β} {s : σ} {e : ε} :
    (read g >>= f) s = .error e ↔ f (g s) s = .error e := Iff.rfl

theorem write_bind_error {g : σ → σ} {f : Unit → Tx ε σ β} {s : σ} {e : ε} :
    (write g >>= f) s = .error e ↔ f () (g s) = .error e := Iff.rfl

theorem lift_bind_error {x : Except ε α} {f : α → Tx ε σ β} {s : σ} {e : ε} :
    (lift x >>= f) s = .error e ↔ x = .error e ∨ ∃ a, x = .ok a ∧ f a s = .error e := by
  cases x with
  | error e' =>
    show Except.error e' = .error e ↔ _
    simp
  | ok a =>
    show f a s = .error e ↔ _
    simp

theorem find_bind_error {g : σ → Option α} {e e' : ε} {f : α → Tx ε σ β} {s : σ} :
    (find g e >>= f) s = .error e' ↔
      (g s = none ∧ e = e') ∨ ∃ a, g s = some a ∧ f a s = .error e' := by
  rw [bind_error]
  unfold find
  cases g s with
  | none => simp
  | some a =>
    refine or_congr (by simp) ⟨?_, fun ⟨b, hb, hf⟩ => ⟨b, s, by cases hb; rfl, hf⟩⟩
    rintro ⟨b, t, he, hf⟩
    cases he
    exact ⟨a, rfl, hf⟩

/-- What a transaction leaves behind is the state it started from or the one
its body ended in. -/
theorem atomically_state (x : Tx ε σ α) (s : σ) :
    (atomically x s).2 = s ∨ ∃ a, x s = .ok (a, (atomically x s).2) := by
  unfold atomically
  cases h : x s with
  | error e => exact Or.inl rfl
  | ok p => obtain ⟨a, t⟩ := p; exact Or.inr ⟨a, rfl⟩

/-- What `commitThen` leaves behind is the state it started from or the one its
body ended in. -/
theorem commitThen_state (x : Tx ε σ α) (post : α → Tx ε σ β) (s : σ) :
    (commitThen x post s).2 = s ∨ ∃ a, x s = .ok (a, (commitThen x post s).2) := by
  unfold commitThen
  cases h : x s with
  | error e => exact Or.inl rfl
  | ok p => obtain ⟨a, t⟩ := p; exact Or.inr ⟨a, rfl⟩

/-- A read-only epilogue leaves what the transaction alone leaves. -/
theorem commitThen_snd (x : Tx ε σ α) (post : α → Tx ε σ β) (s : σ) :
    (commitThen x post s).2 = (atomically x s).2 := by
  unfold commitThen atomically
  cases x s <;> rfl

/-- A successful `commitThen` committed its body and passed its epilogue. -/
theorem commitThen_ok {x : Tx ε σ α} {post : α → Tx ε σ β} {s s' : σ} {b : β}
    (h : commitThen x post s = (.ok b, s')) :
    ∃ a t, x s = .ok (a, s') ∧ post a s' = .ok (b, t) := by
  unfold commitThen at h
  cases hx : x s with
  | error e => simp [hx] at h
  | ok p =>
    obtain ⟨a, t⟩ := p
    simp only [hx, Prod.mk.injEq] at h
    obtain ⟨hp, rfl⟩ := h
    cases hq : post a t with
    | error e => simp [hq, Except.map] at hp
    | ok q =>
      simp only [hq, Except.map, Except.ok.injEq] at hp
      exact ⟨a, q.2, rfl, by rw [hq, ← hp]⟩

/-- A failed `commitThen` left the state as it was, or its epilogue failed after
the commit. -/
theorem commitThen_error {x : Tx ε σ α} {post : α → Tx ε σ β} {s s' : σ} {e : ε}
    (h : commitThen x post s = (.error e, s')) :
    (x s = .error e ∧ s' = s) ∨ ∃ a, x s = .ok (a, s') ∧ post a s' = .error e := by
  unfold commitThen at h
  cases hx : x s with
  | error e' =>
    simp only [hx, Prod.mk.injEq, Except.error.injEq] at h
    obtain ⟨rfl, rfl⟩ := h
    exact Or.inl ⟨rfl, rfl⟩
  | ok p =>
    obtain ⟨a, t⟩ := p
    simp only [hx, Prod.mk.injEq] at h
    obtain ⟨hp, rfl⟩ := h
    refine Or.inr ⟨a, rfl, ?_⟩
    cases hq : post a t with
    | error e' =>
      simp only [hq, Except.map, Except.error.injEq] at hp
      rw [hp]
    | ok q => simp [hq, Except.map] at hp

/-! ## The same program under other errors

A program whose every statement raises what the statement of another raises,
translated by `g`, is the other one translated. -/

section Translation

variable (g : ε → ε')

theorem mapError_bind (x : Tx ε σ α) (f : α → Tx ε σ β) :
    mapError g (x >>= f) = mapError g x >>= fun a => mapError g (f a) := by
  funext s
  show (Tx.bind x f s).mapError g = Tx.bind (mapError g x) _ s
  unfold Tx.bind mapError
  cases x s with
  | error e => rfl
  | ok p => rfl

theorem mapError_pure (a : α) : mapError g (pure a : Tx ε σ α) = pure a := rfl

theorem mapError_fail (e : ε) : mapError g (fail e : Tx ε σ α) = fail (g e) := rfl

theorem mapError_require (c : Prop) [Decidable c] (e : ε) :
    mapError g (require c e : Tx ε σ Unit) = require c (g e) := by
  funext s
  unfold mapError require
  by_cases hc : c
  · rw [if_pos hc, if_pos hc]
    rfl
  · rw [if_neg hc, if_neg hc]
    rfl

theorem mapError_requireAll (err : String → ε) (l : List (String × Bool)) :
    mapError g (requireAll err l : Tx ε σ Unit) = requireAll (fun name => g (err name)) l := by
  induction l with
  | nil => rfl
  | cons p l ih =>
    obtain ⟨name, c⟩ := p
    simp only [requireAll, mapError_bind, mapError_require, ih]

theorem mapError_read (f : σ → α) : mapError g (read f : Tx ε σ α) = read f := rfl

theorem mapError_write (f : σ → σ) : mapError g (write f : Tx ε σ Unit) = write f := rfl

theorem mapError_lift (x : Except ε α) :
    mapError g (lift x : Tx ε σ α) = lift (x.mapError g) := by
  cases x <;> rfl

theorem mapError_mapError (g' : ε' → ε'') (x : Tx ε σ α) :
    mapError g' (mapError g x) = mapError (fun e => g' (g e)) x := by
  funext s
  unfold mapError
  cases x s <;> rfl

theorem require_congr {c c' : Prop} [Decidable c] [Decidable c'] {e : ε} (h : c ↔ c') :
    (require c e : Tx ε σ Unit) = require c' e := by
  funext s
  unfold require
  by_cases hc : c
  · rw [if_pos hc, if_pos (h.mp hc)]
  · rw [if_neg hc, if_neg fun hc' => hc (h.mpr hc')]

/-- A test that raises, as a guard. -/
theorem ite_fail_eq {c : Prop} [Decidable c] {e : ε} {x : Tx ε σ α} :
    (if c then fail e else x) = (require (¬ c) e >>= fun _ => x) := by
  funext s
  show _ = Tx.bind _ _ s
  unfold Tx.bind require
  by_cases hc : c
  · rw [if_pos hc, if_neg (not_not_intro hc)]
    rfl
  · rw [if_neg hc, if_pos hc]

/-- A computation that cannot fail is its value. -/
theorem lift_ok_bind (a : α) (f : α → Tx ε σ β) : (lift (.ok a) >>= f) = f a := rfl

theorem commitThen_mapError (x : Tx ε σ α) (post : α → Tx ε σ β) (s : σ) :
    commitThen (mapError g x) (fun a => mapError g (post a)) s =
      ((commitThen x post s).1.mapError g, (commitThen x post s).2) := by
  unfold commitThen mapError
  cases x s with
  | error e => rfl
  | ok p =>
    obtain ⟨a, t⟩ := p
    simp only [Except.mapError]
    cases post a t <;> rfl

theorem atomically_mapError (x : Tx ε σ α) (s : σ) :
    atomically (mapError g x) s = ((atomically x s).1.mapError g, (atomically x s).2) := by
  unfold atomically mapError
  cases x s <;> rfl

end Translation

/-! ## Running on a concrete state

`simp -dsimp` with the lemmas of this section executes a program whose state is
given: each statement is replaced by what it returns, and the rest of the program
is not touched before its turn comes. None of them is proved by `rfl`, which
would leave the whole execution to the kernel. -/

def run (x : Tx ε σ α) (s : σ) : Except ε (α × σ) := x s

theorem run_ok {x : Tx ε σ α} {s : σ} {r : α × σ} : run x s = .ok r ↔ x s = .ok r := Iff.rfl

/-- The rest of a program, after its first part ended in `r`. -/
def next (r : Except ε (α × σ)) (f : α → Tx ε σ β) : Except ε (β × σ) :=
  match r with
  | .ok (a, s) => run (f a) s
  | .error e => .error e

/-- What `find` makes of what it found. -/
def found (o : Option α) (e : ε) (s : σ) : Except ε (α × σ) :=
  match o with
  | some a => .ok (a, s)
  | none => .error e

@[congr]
theorem next_congr {r r' : Except ε (α × σ)} {f : α → Tx ε σ β} (h : r = r') :
    next r f = next r' f := by rw [h]

@[simp]
theorem next_ok (a : α) (s : σ) (f : α → Tx ε σ β) : next (.ok (a, s)) f = run (f a) s :=
  (Eq.refl _).trans (Eq.refl _)

@[simp]
theorem next_error (e : ε) (f : α → Tx ε σ β) :
    next (.error e : Except ε (α × σ)) f = .error e := (Eq.refl _).trans (Eq.refl _)

@[simp]
theorem found_some (a : α) (e : ε) (s : σ) : found (some a) e s = .ok (a, s) :=
  (Eq.refl _).trans (Eq.refl _)

@[simp]
theorem found_none (e : ε) (s : σ) : (found none e s : Except ε (α × σ)) = .error e :=
  (Eq.refl _).trans (Eq.refl _)

@[simp ↓]
theorem run_bind (x : Tx ε σ α) (f : α → Tx ε σ β) (s : σ) : run (x >>= f) s = next (run x s) f :=
  (Eq.refl _).trans (Eq.refl _)

@[simp ↓]
theorem run_pure (a : α) (s : σ) : run (pure a : Tx ε σ α) s = .ok (a, s) :=
  (Eq.refl _).trans (Eq.refl _)

@[simp ↓]
theorem run_fail (e : ε) (s : σ) : run (fail e : Tx ε σ α) s = .error e :=
  (Eq.refl _).trans (Eq.refl _)

open Classical in
@[simp ↓]
theorem run_require (c : Prop) [d : Decidable c] (e : ε) (s : σ) :
    run (require c e) s = @ite _ c (Classical.propDecidable c) (.ok ((), s)) (.error e) := by
  unfold run require
  by_cases h : c <;> simp [h]

@[simp ↓]
theorem run_read (g : σ → α) (s : σ) : run (read g : Tx ε σ α) s = .ok (g s, s) :=
  (Eq.refl _).trans (Eq.refl _)

@[simp ↓]
theorem run_write (g : σ → σ) (s : σ) : run (write g : Tx ε σ Unit) s = .ok ((), g s) :=
  (Eq.refl _).trans (Eq.refl _)

@[simp]
theorem run_lift_ok (a : α) (s : σ) : run (lift (.ok a) : Tx ε σ α) s = .ok (a, s) :=
  (Eq.refl _).trans (Eq.refl _)

@[simp]
theorem run_lift_error (e : ε) (s : σ) : run (lift (.error e) : Tx ε σ α) s = .error e :=
  (Eq.refl _).trans (Eq.refl _)

@[simp ↓]
theorem run_find (g : σ → Option α) (e : ε) (s : σ) : run (find g e) s = found (g s) e s :=
  (Eq.refl _).trans (Eq.refl _)

@[simp ↓]
theorem run_requireAll_nil (err : String → ε) (s : σ) : run (requireAll err []) s = .ok ((), s) :=
  (Eq.refl _).trans (Eq.refl _)

@[simp]
theorem run_requireAll_cons (err : String → ε) (name : String) (c : Bool) (l : List (String × Bool))
    (s : σ) : run (requireAll err ((name, c) :: l)) s =
      if c = true then run (requireAll err l) s else .error (err name) := by
  cases c <;> rfl

@[simp ↓]
theorem run_mapError (g : ε → ε') (x : Tx ε σ α) (s : σ) :
    run (mapError g x) s = (run x s).mapError g := (Eq.refl _).trans (Eq.refl _)

@[simp]
theorem mapError_run_ok (g : ε → ε') (p : α × σ) :
    (.ok p : Except ε (α × σ)).mapError g = .ok p := (Eq.refl _).trans (Eq.refl _)

/-- A program that ran to the end committed. -/
theorem atomically_run {x : Tx ε σ α} {s s' : σ} {a : α} (h : run x s = .ok (a, s')) :
    (atomically x s).2 = s' := by
  have h : x s = .ok (a, s') := h
  rw [atomically_ok.mpr h]

/-- A transaction that ran to the end commits, and then its epilogue runs. -/
theorem commitThen_run {x : Tx ε σ α} {post : α → Tx ε σ β} {s s' : σ} {a : α}
    (h : run x s = .ok (a, s')) :
    commitThen x post s = ((run (post a) s').map Prod.fst, s') := by
  have h : x s = .ok (a, s') := h
  unfold commitThen run
  rw [h]

/-- What a program answers on one state, lifted into another. -/
theorem run_lift_run {σ' : Type} {x : Tx ε σ α} {s t : σ} {a : α} (h : run x s = .ok (a, t))
    (s' : σ') : run (lift ((x s).map Prod.fst)) s' = .ok (a, s') := by
  have h : x s = .ok (a, t) := h
  rw [h]
  exact run_lift_ok _ _

end Tx
end Adcp.L1
