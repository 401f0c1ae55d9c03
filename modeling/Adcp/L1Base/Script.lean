import Mathlib.Data.List.Forall2
import Adcp.L1Base.VersionedLog

/-!
# Programs that call outside

A `Script` is a program that makes calls and goes on with their answers, each of
which is a value or an exception. What answers it is a relation on the states of a
world; the program itself has no other state.

* `Steps`: the runs of a program in a world, complete or cut short at any call.
* `Meets`: every call is made in a state that allows it, and the program ends as
  promised. `meets_bind`, `meets_attempt`, `meets_invoke` compute it; `Meets.steps`
  says that it is kept along a run.
* `Event`, `logged`: the world that remembers the calls; `Steps.each`: what every
  call of a run finds before it.
* `InOrder`: entries of a log, one after the other; `Returns`: what a log shows of a
  program that has returned, by `InOrder.skip` and `InOrder.invoke` along the program.
* `Within`: the calls a program may make at all; `Within.meets`: what it adds to a log.
-/
namespace Adcp.L1

/-- A program over the calls `ι`; the call `c` answers a `ρ c`, or raises. -/
inductive Script (ε : Type) {ι : Type} (ρ : ι → Type) (α : Type) where
  | done (r : Except ε α)
  | call (c : ι) (next : Except ε (ρ c) → Script ε ρ α)

namespace Script

variable {ε ι α β ω : Type} {ρ : ι → Type}

/-! ## Building programs -/

protected def bind : Script ε ρ α → (α → Script ε ρ β) → Script ε ρ β
  | done (.ok a), f => f a
  | done (.error e), _ => done (.error e)
  | call c k, f => call c fun r => (k r).bind f

instance : Monad (Script ε ρ) where
  pure a := done (.ok a)
  bind := Script.bind

/-- Make the call. -/
def invoke (c : ι) : Script ε ρ (ρ c) := call c done

/-- Raise. -/
def fail (e : ε) : Script ε ρ α := done (.error e)

/-- A computation that calls nothing. -/
def lift (x : Except ε α) : Script ε ρ α := done x

/-- Go on when `c` holds, raise `e` otherwise. -/
def require (c : Prop) [Decidable c] (e : ε) : Script ε ρ Unit :=
  if c then done (.ok ()) else done (.error e)

/-- The program with its exception handed on as a value: what `try` does before it
chooses a handler. -/
def attempt : Script ε ρ α → Script ε ρ (Except ε α)
  | done r => done (.ok r)
  | call c k => call c fun r => (k r).attempt

/-- `try: x`, `finally: last`: the last part is run in either case, and its own exception is
the one that leaves. -/
def ensuring (x : Script ε ρ α) (last : Script ε ρ Unit) : Script ε ρ α := do
  let r ← x.attempt
  last
  lift r

/-- Each program of a list in turn. -/
def each (f : β → Script ε ρ Unit) : List β → Script ε ρ Unit
  | [] => pure ()
  | b :: bs => f b >>= fun _ => each f bs

/-! ## Runs -/

/-- From the state `w`, answered by `serve`, the program `p` gets to `p'` in `w'`. -/
inductive Steps (serve : ω → (c : ι) → Except ε (ρ c) → ω → Prop) :
    Script ε ρ α → ω → Script ε ρ α → ω → Prop
  | refl (p : Script ε ρ α) (w : ω) : Steps serve p w p w
  | call {c : ι} {k : Except ε (ρ c) → Script ε ρ α} {w w' w'' : ω} {a : Except ε (ρ c)}
      {p : Script ε ρ α} (served : serve w c a w') (rest : Steps serve (k a) w' p w'') :
      Steps serve (.call c k) w p w''

variable {serve : ω → (c : ι) → Except ε (ρ c) → ω → Prop} {ok : ω → ι → Prop}
  {post post' : Except ε α → ω → Prop} {w w' : ω} {p p' : Script ε ρ α}

theorem Steps.trans {p'' : Script ε ρ α} {w'' : ω} (h : Steps serve p w p' w')
    (h' : Steps serve p' w' p'' w'') : Steps serve p w p'' w'' := by
  induction h with
  | refl => exact h'
  | call served _ ih => exact .call served (ih h')

/-- A run goes on with an answer to the call it has got to. -/
theorem Steps.answer {c : ι} {k : Except ε (ρ c) → Script ε ρ α} {a : Except ε (ρ c)} {w'' : ω}
    (h : Steps serve p w (.call c k) w') (served : serve w' c a w'') :
    Steps serve p w (k a) w'' :=
  h.trans (.call served (.refl _ _))

/-! ## What a program meets -/

/-- Started in a state, the program makes every call in a state that `ok` allows, and
ends as `post` says. -/
def Meets (serve : ω → (c : ι) → Except ε (ρ c) → ω → Prop) (ok : ω → ι → Prop) :
    Script ε ρ α → (Except ε α → ω → Prop) → ω → Prop
  | done r, post, w => post r w
  | call c k, post, w => ok w c ∧ ∀ a w', serve w c a w' → Meets serve ok (k a) post w'

/-- The rest of the program, when there is one. -/
def After (serve : ω → (c : ι) → Except ε (ρ c) → ω → Prop) (ok : ω → ι → Prop)
    (f : α → Script ε ρ β) (post : Except ε β → ω → Prop) : Except ε α → ω → Prop
  | .ok a, w => Meets serve ok (f a) post w
  | .error e, w => post (.error e) w

theorem meets_pure {a : α} : Meets serve ok (pure a) post w ↔ post (.ok a) w := Iff.rfl

theorem meets_done {r : Except ε α} : Meets serve ok (.done r) post w ↔ post r w := Iff.rfl

theorem meets_fail {e : ε} : Meets serve ok (fail e) post w ↔ post (.error e) w := Iff.rfl

theorem meets_lift {x : Except ε α} : Meets serve ok (lift x) post w ↔ post x w := Iff.rfl

theorem meets_invoke {c : ι} {post : Except ε (ρ c) → ω → Prop} :
    Meets serve ok (invoke c) post w ↔ ok w c ∧ ∀ a w', serve w c a w' → post a w' := Iff.rfl

theorem meets_require {c : Prop} [Decidable c] {e : ε} {post : Except ε Unit → ω → Prop} :
    Meets serve ok (require c e) post w ↔
      (c → post (.ok ()) w) ∧ (¬ c → post (.error e) w) := by
  unfold require
  by_cases hc : c
  · rw [if_pos hc]
    exact ⟨fun h => ⟨fun _ => h, fun hn => (hn hc).elim⟩, fun h => h.1 hc⟩
  · rw [if_neg hc]
    exact ⟨fun h => ⟨fun hn => (hc hn).elim, fun _ => h⟩, fun h => h.2 hc⟩

theorem meets_bind {f : α → Script ε ρ β} {post : Except ε β → ω → Prop}
    {x : Script ε ρ α} {w : ω} :
    Meets serve ok (x >>= f) post w ↔ Meets serve ok x (After serve ok f post) w := by
  induction x generalizing w with
  | done r =>
    cases r with
    | ok a => exact Iff.rfl
    | error e => exact Iff.rfl
  | call c k ih => exact and_congr_right fun _ => forall_congr' fun a => forall_congr' fun w' =>
      imp_congr_right fun _ => ih a

theorem meets_attempt {post : Except ε (Except ε α) → ω → Prop} {x : Script ε ρ α} {w : ω} :
    Meets serve ok x.attempt post w ↔ Meets serve ok x (fun r => post (.ok r)) w := by
  induction x generalizing w with
  | done r => exact Iff.rfl
  | call c k ih => exact and_congr_right fun _ => forall_congr' fun a => forall_congr' fun w' =>
      imp_congr_right fun _ => ih a

theorem Meets.mono (h : Meets serve ok p post w) (hle : ∀ r w, post r w → post' r w) :
    Meets serve ok p post' w := by
  induction p generalizing w with
  | done r => exact hle r w h
  | call c k ih => exact ⟨h.1, fun a w' hs => ih a (h.2 a w' hs)⟩

theorem meets_trivial (x : Script ε ρ α) (w : ω) :
    Meets serve (fun _ _ => True) x (fun _ _ => True) w := by
  induction x generalizing w with
  | done r => trivial
  | call c k ih => exact ⟨trivial, fun a w' _ => ih a w'⟩

theorem Meets.allow {ok' : ω → ι → Prop} (h : Meets serve ok p post w)
    (hle : ∀ w c, ok w c → ok' w c) : Meets serve ok' p post w := by
  induction p generalizing w with
  | done r => exact h
  | call c k ih => exact ⟨hle _ _ h.1, fun a w' hs => ih a (h.2 a w' hs)⟩

/-- The rule of a sequence: what the first part ends in, the rest starts from. -/
theorem Meets.bind {f : α → Script ε ρ β} {x : Script ε ρ α} {mid : Except ε α → ω → Prop}
    {post : Except ε β → ω → Prop} (hx : Meets serve ok x mid w)
    (hf : ∀ a w, mid (.ok a) w → Meets serve ok (f a) post w)
    (he : ∀ e w, mid (.error e) w → post (.error e) w) : Meets serve ok (x >>= f) post w := by
  refine meets_bind.mpr (hx.mono fun r w hr => ?_)
  cases r with
  | ok a => exact hf a w hr
  | error e => exact he e w hr

/-- What stands under `try`, and what follows its value or its exception. -/
theorem Meets.attemptBind {x : Script ε ρ α} {f : Except ε α → Script ε ρ β}
    {mid : Except ε α → ω → Prop} {post : Except ε β → ω → Prop} (hx : Meets serve ok x mid w)
    (hf : ∀ r w, mid r w → Meets serve ok (f r) post w) :
    Meets serve ok (x.attempt >>= f) post w := by
  have hattempt : Meets serve ok x.attempt (fun r w => ∃ r', r = .ok r' ∧ mid r' w) w :=
    meets_attempt.mpr (hx.mono fun r w hr => ⟨r, rfl, hr⟩)
  refine hattempt.bind ?_ ?_
  · rintro r w ⟨r', hr, hmid⟩
    cases hr
    exact hf r w hmid
  · rintro e w ⟨r', hr, -⟩
    cases hr

theorem Meets.ensuring {x : Script ε ρ α} {last : Script ε ρ Unit} {mid : Except ε α → ω → Prop}
    (hx : Meets serve ok x mid w)
    (hlast : ∀ r w, mid r w → Meets serve ok last (fun r' w' =>
      match r' with
      | .ok _ => post r w'
      | .error e => post (.error e) w') w) : Meets serve ok (x.ensuring last) post w := by
  refine Meets.attemptBind hx fun r w hr => (hlast r w hr).bind
    (fun _ w' hw' => ?_) fun e w' hw' => hw'
  exact meets_lift.mpr hw'

/-- Every program of a list, from an invariant of the states between them. -/
theorem Meets.each {f : β → Script ε ρ Unit} {l : List β} {inv : List β → ω → Prop}
    {fails : ε → ω → Prop} (h : inv l w)
    (hf : ∀ b bs w, inv (b :: bs) w → Meets serve ok (f b) (fun r w =>
      match r with
      | .ok _ => inv bs w
      | .error e => fails e w) w) :
    Meets serve ok (each f l) (fun r w =>
      match r with
      | .ok _ => inv [] w
      | .error e => fails e w) w := by
  induction l generalizing w with
  | nil => exact h
  | cons b bs ih => exact (hf b bs w h).bind (fun _ w hw => ih hw) fun _ _ he => he

/-- What a program meets in two ways. -/
theorem Meets.and {ok' : ω → ι → Prop} (h : Meets serve ok p post w)
    (h' : Meets serve ok' p post' w) : Meets serve ok p (fun r w => post r w ∧ post' r w) w := by
  induction p generalizing w with
  | done r => exact ⟨h, h'⟩
  | call c k ih => exact ⟨h.1, fun a w' hs => ih a (h.2 a w' hs) (h'.2 a w' hs)⟩

/-- What a program meets, what is left of it meets at every point of a run. -/
theorem Meets.steps (h : Meets serve ok p post w) (hs : Steps serve p w p' w') :
    Meets serve ok p' post w' := by
  induction hs with
  | refl => exact h
  | call served _ ih => exact ih (h.2 _ _ served)

/-- What every served call keeps holds at the end of a run. -/
theorem Steps.invariant {P : ω → Prop} (hs : Steps serve p w p' w') (h : P w)
    (hserve : ∀ w c a w', P w → serve w c a w' → P w') : P w' := by
  induction hs with
  | refl => exact h
  | call served _ ih => exact ih (hserve _ _ _ _ h served)

/-- What the calls a program makes keep, in states that allow them, holds at the end of a run. -/
theorem Meets.invariant {P : ω → Prop} (h : Meets serve ok p post w) (hs : Steps serve p w p' w')
    (hP : P w) (hserve : ∀ w c a w', P w → ok w c → serve w c a w' → P w') : P w' := by
  induction hs with
  | refl => exact hP
  | call served _ ih => exact ih (h.2 _ _ served) (hserve _ _ _ _ hP h.1 served)

theorem Steps.mono {serve' : ω → (c : ι) → Except ε (ρ c) → ω → Prop} (hs : Steps serve p w p' w')
    (h : ∀ w c a w', serve w c a w' → serve' w c a w') : Steps serve' p w p' w' := by
  induction hs with
  | refl p w => exact .refl p w
  | call served _ ih => exact .call (h _ _ _ _ served) ih

/-- The state a finished run ends in. -/
theorem Meets.ended {r : Except ε α} (h : Meets serve ok p post w)
    (hs : Steps serve p w (.done r) w') : post r w' := h.steps hs

/-! ## Remembering the calls -/

/-- A call and its answer, with the state of the world it was made in. -/
structure Event (ω ε : Type) {ι : Type} (ρ : ι → Type) where
  world : ω
  made : ι
  answer : Except ε (ρ made)

/-- The world that remembers its calls. What happens between two of them is not the
program's business, so the next call may find the world in any state. -/
def logged (serve : ω → (c : ι) → Except ε (ρ c) → ω → Prop) (log : List (Event ω ε ρ)) (c : ι)
    (a : Except ε (ρ c)) (log' : List (Event ω ε ρ)) : Prop :=
  ∃ w w', serve w c a w' ∧ log' = log ++ [⟨w, c, a⟩]

variable {allowed : List (Event ω ε ρ) → ι → Prop} {log log' : List (Event ω ε ρ)}
  {ends : Except ε α → List (Event ω ε ρ) → Prop}

/-- Every call of a run is one that the calls before it allow. -/
theorem Steps.each (h : Meets (logged serve) allowed p ends log)
    (hlog : Each (fun before e => allowed before e.made) log)
    (hs : Steps (logged serve) p log p' log') :
    Each (fun before e => allowed before e.made) log' := by
  induction hs with
  | refl => exact hlog
  | call served _ ih =>
    refine ih (h.2 _ _ served) ?_
    obtain ⟨w, w', -, rfl⟩ := served
    exact hlog.append h.1

/-! ## Entries in order -/

section InOrder

variable {η : Type}

/-- Entries with the properties `Ps`, one after the other, with any others between. -/
def InOrder : List (η → Prop) → List η → Prop
  | [], _ => True
  | P :: Ps, log => ∃ before e after, log = before ++ e :: after ∧ P e ∧ InOrder Ps after

variable {Ps : List (η → Prop)} {P : η → Prop} {log : List η} {e : η}

theorem InOrder.append (h : InOrder Ps log) (more : List η) : InOrder Ps (log ++ more) := by
  induction Ps generalizing log with
  | nil => trivial
  | cons Q Ps ih =>
    obtain ⟨before, e, after, rfl, he, hafter⟩ := h
    exact ⟨before, e, after ++ more, by simp, he, ih hafter⟩

/-- The next entry has the next property. -/
theorem InOrder.snoc (h : InOrder Ps log) (he : P e) : InOrder (Ps ++ [P]) (log ++ [e]) := by
  induction Ps generalizing log with
  | nil => exact ⟨log, e, [], rfl, he, trivial⟩
  | cons Q Ps ih =>
    obtain ⟨before, q, after, rfl, hq, hafter⟩ := h
    exact ⟨before, q, after ++ [e], by simp, hq, ih hafter⟩

theorem inOrder_single : InOrder [P] log ↔ ∃ e ∈ log, P e := by
  constructor
  · rintro ⟨before, e, after, rfl, he, -⟩
    exact ⟨e, List.mem_append_right _ (List.mem_cons_self ..), he⟩
  · rintro ⟨e, hmem, he⟩
    obtain ⟨before, after, rfl⟩ := List.append_of_mem hmem
    exact ⟨before, e, after, rfl, he, trivial⟩

/-- Either the entries before the last one are enough, or it has the last property. -/
theorem InOrder.of_snoc (h : InOrder (Ps ++ [P]) (log ++ [e])) :
    InOrder (Ps ++ [P]) log ∨ (InOrder Ps log ∧ P e) := by
  induction Ps generalizing log with
  | nil =>
    obtain ⟨before, q, after, hlog, hq, -⟩ := h
    rcases List.eq_nil_or_concat after with rfl | ⟨after, last, rfl⟩
    · obtain ⟨rfl, he⟩ := List.append_inj' hlog rfl
      cases he
      exact Or.inr ⟨trivial, hq⟩
    · rw [List.concat_eq_append, ← List.cons_append, ← List.append_assoc] at hlog
      obtain ⟨rfl, -⟩ := List.append_inj' hlog rfl
      exact Or.inl ⟨before, q, after, rfl, hq, trivial⟩
  | cons Q Ps ih =>
    obtain ⟨before, q, after, hlog, hq, hafter⟩ := h
    rcases List.eq_nil_or_concat after with rfl | ⟨after, last, rfl⟩
    · -- nothing is left for the last property
      cases Ps with
      | nil =>
        obtain ⟨b, x, a, hnil, -⟩ := hafter
        exact absurd hnil (by simp)
      | cons _ _ =>
        obtain ⟨b, x, a, hnil, -⟩ := hafter
        exact absurd hnil (by simp)
    · rw [List.concat_eq_append] at hlog hafter
      rw [← List.cons_append, ← List.append_assoc] at hlog
      obtain ⟨rfl, he⟩ := List.append_inj' hlog rfl
      cases he
      rcases ih hafter with hall | ⟨hall, he⟩
      · exact Or.inl ⟨before, q, after, rfl, hq, hall⟩
      · exact Or.inr ⟨⟨before, q, after, rfl, hq, hall⟩, he⟩

/-- The entries themselves. -/
theorem InOrder.sublist (h : InOrder Ps log) :
    ∃ es : List η, es.Sublist log ∧ List.Forall₂ (fun P e => P e) Ps es := by
  induction Ps generalizing log with
  | nil => exact ⟨[], List.nil_sublist _, .nil⟩
  | cons Q Ps ih =>
    obtain ⟨before, e, after, rfl, he, hafter⟩ := h
    obtain ⟨es, hsub, hall⟩ := ih hafter
    exact ⟨e :: es, (hsub.cons_cons e).trans (List.sublist_append_right ..), .cons he hall⟩

end InOrder

/-! ## What a log shows -/

/-- The event is the call `c`, answered `a`. -/
def Event.Gave (c : ι) (a : ρ c) (e : Event ω ε ρ) : Prop := ∃ w, e = ⟨w, c, .ok a⟩

theorem Event.Gave.made {c : ι} {a : ρ c} {e : Event ω ε ρ} (h : e.Gave c a) : e.made = c := by
  obtain ⟨w, rfl⟩ := h
  rfl

/-- Whatever a program does, the log only grows. -/
theorem meets_grows (x : Script ε ρ α) (log : List (Event ω ε ρ)) :
    Meets (logged serve) (fun _ _ => True) x (fun _ log' => ∃ more, log' = log ++ more) log := by
  induction x generalizing log with
  | done r => exact ⟨[], (List.append_nil _).symm⟩
  | call c k ih =>
    refine ⟨trivial, ?_⟩
    rintro a log' ⟨w, w', -, rfl⟩
    refine (ih a (log ++ [⟨w, c, a⟩])).mono ?_
    rintro r log'' ⟨more, rfl⟩
    exact ⟨⟨w, c, a⟩ :: more, by simp⟩

section Shows

variable {Ps : List (Event ω ε ρ → Prop)} {log : List (Event ω ε ρ)}

/-- The program returns only when its log shows `Q` of what it returns. -/
def Returns (serve : ω → (c : ι) → Except ε (ρ c) → ω → Prop) (x : Script ε ρ α)
    (Q : α → List (Event ω ε ρ) → Prop) (log : List (Event ω ε ρ)) : Prop :=
  Meets (logged serve) (fun _ _ => True) x (fun r log' => ∀ a, r = .ok a → Q a log') log

variable {Q : β → List (Event ω ε ρ) → Prop}

theorem returns_pure {b : β} (h : Q b log) : Returns serve (pure b) Q log := by
  intro a ha
  cases ha
  exact h

theorem Returns.mono {Q' : β → List (Event ω ε ρ) → Prop} {x : Script ε ρ β}
    (h : Returns serve x Q log) (hle : ∀ b log', Q b log' → Q' b log') : Returns serve x Q' log :=
  Meets.mono h fun _ log' hr b hb => hle b log' (hr b hb)

theorem Returns.bind {x : Script ε ρ α} {f : α → Script ε ρ β} {R : α → List (Event ω ε ρ) → Prop}
    (hx : Returns serve x R log) (hf : ∀ a log', R a log' → Returns serve (f a) Q log') :
    Returns serve (x >>= f) Q log := by
  refine Meets.bind hx (fun a log' ha => hf a log' (ha a rfl)) ?_
  intro e log' _ b hb
  cases hb

/-- A part that nothing is said of keeps what the log shows. -/
theorem InOrder.returns (h : InOrder Ps log) (x : Script ε ρ α) :
    Returns serve x (fun _ log' => InOrder Ps log') log := by
  refine (meets_grows x log).mono ?_
  rintro r log' ⟨more, rfl⟩ _ _
  exact h.append more

theorem InOrder.skip {x : Script ε ρ α} {f : α → Script ε ρ β} (h : InOrder Ps log)
    (hf : ∀ a log', InOrder Ps log' → Returns serve (f a) Q log') :
    Returns serve (x >>= f) Q log := (h.returns x).bind hf

/-- What stands under `try`, and what follows when it has returned or raised. -/
theorem Returns.attempt {x : Script ε ρ α} {f : Except ε α → Script ε ρ β}
    {R : α → List (Event ω ε ρ) → Prop} (hx : Returns serve x R log)
    (hok : ∀ a log', R a log' → Returns serve (f (.ok a)) Q log')
    (herror : ∀ e log', Returns serve (f (.error e)) Q log') :
    Returns serve (attempt x >>= f) Q log := by
  have hattempt : Meets (logged serve) (fun _ _ => True) x.attempt
      (fun r log' => ∃ r', r = .ok r' ∧ ∀ a, r' = .ok a → R a log') log :=
    meets_attempt.mpr (Meets.mono hx fun r log' hr => ⟨r, rfl, hr⟩)
  refine hattempt.bind ?_ ?_
  · rintro r log' ⟨r', hr', hR⟩
    cases hr'
    cases r with
    | ok a => exact hok a log' (hR a rfl)
    | error e => exact herror e log'
  · rintro e log' ⟨r', hr', -⟩
    cases hr'

/-- A program that never returns. -/
theorem returns_fails {x : Script ε ρ α} {e : ε} (log : List (Event ω ε ρ)) :
    Returns serve (x >>= fun _ => (lift (.error e) : Script ε ρ β)) Q log := by
  have hempty : InOrder [] log := trivial
  exact hempty.skip fun _ _ _ _ hb => nomatch hb

/-- A call adds what it answers. -/
theorem InOrder.invoke {c : ι} {f : ρ c → Script ε ρ β} (h : InOrder Ps log)
    (hf : ∀ a log', InOrder (Ps ++ [Event.Gave c a]) log' → Returns serve (f a) Q log') :
    Returns serve (invoke c >>= f) Q log := by
  have hx : Returns serve (Script.invoke c) (fun a log' => InOrder (Ps ++ [Event.Gave c a]) log')
      log := by
    refine ⟨trivial, ?_⟩
    rintro a log' ⟨w, w', -, rfl⟩ b hb
    cases hb
    exact h.snoc ⟨w, rfl⟩
  exact hx.bind hf

theorem returns_require {c : Prop} [Decidable c] {e : ε} {f : Unit → Script ε ρ β}
    (hf : c → Returns serve (f ()) Q log) : Returns serve (require c e >>= f) Q log := by
  have hx : Meets (logged serve) (fun _ _ => True) (require c e)
      (fun r log' => log' = log ∧ (r = .ok () → c)) log :=
    meets_require.mpr ⟨fun hc => ⟨rfl, fun _ => hc⟩, fun _ => ⟨rfl, fun h => nomatch h⟩⟩
  refine hx.bind ?_ ?_
  · rintro a log' ⟨rfl, hc⟩
    exact hf (hc rfl)
  · intro e log' _ b hb
    cases hb

end Shows

/-! ## The calls of a program -/

section Within

variable {P Q : ι → Prop}

/-- Every call that the program can make, whatever it is answered, is one of `P`. -/
def Within (P : ι → Prop) : Script ε ρ α → Prop
  | done _ => True
  | call c k => P c ∧ ∀ a, Within P (k a)

theorem within_done (r : Except ε α) : Within P (done r : Script ε ρ α) := trivial

theorem within_invoke {c : ι} (h : P c) : Within P (invoke c : Script ε ρ (ρ c)) :=
  ⟨h, fun _ => trivial⟩

theorem within_require (c : Prop) [Decidable c] (e : ε) :
    Within P (require c e : Script ε ρ Unit) := by
  unfold require
  by_cases hc : c
  · rw [if_pos hc]
    trivial
  · rw [if_neg hc]
    trivial

theorem Within.bind {x : Script ε ρ α} {f : α → Script ε ρ β} (hx : Within P x)
    (hf : ∀ a, Within P (f a)) : Within P (x >>= f) := by
  induction x with
  | done r =>
    cases r with
    | ok a => exact hf a
    | error e => trivial
  | call c k ih => exact ⟨hx.1, fun a => ih a (hx.2 a)⟩

theorem Within.attempt {x : Script ε ρ α} (hx : Within P x) : Within P x.attempt := by
  induction x with
  | done r => trivial
  | call c k ih => exact ⟨hx.1, fun a => ih a (hx.2 a)⟩

theorem within_each {f : β → Script ε ρ Unit} {l : List β} (hf : ∀ b ∈ l, Within P (f b)) :
    Within P (each f l) := by
  induction l with
  | nil => trivial
  | cons b bs ih =>
    exact (hf b (List.mem_cons_self ..)).bind fun _ =>
      ih fun b' hb' => hf b' (List.mem_cons_of_mem _ hb')

/-- What its calls keep of the world, it keeps. -/
theorem Within.keeps {x : Script ε ρ α} (hx : Within P x) {inv : ω → Prop}
    (hserve : ∀ w c a w', inv w → P c → serve w c a w' → inv w') {w : ω} (h : inv w) :
    Meets serve (fun _ _ => True) x (fun _ w' => inv w') w := by
  induction x generalizing w with
  | done r => exact h
  | call c k ih => exact ⟨trivial, fun a w' hs => ih a (hx.2 a) (hserve _ _ _ _ h hx.1 hs)⟩

theorem Within.mono {x : Script ε ρ α} (hx : Within P x) (h : ∀ c, P c → Q c) : Within Q x := by
  induction x with
  | done r => trivial
  | call c k ih => exact ⟨h c hx.1, fun a => ih a (hx.2 a)⟩

/-- What it adds to the log are such calls. -/
theorem Within.meets {x : Script ε ρ α} (hx : Within P x) {allowed : List (Event ω ε ρ) → ι → Prop}
    {log : List (Event ω ε ρ)}
    (hallowed : ∀ more c, (∀ e ∈ more, P e.made) → P c → allowed (log ++ more) c) :
    Meets (logged serve) allowed x
      (fun _ log' => ∃ more, log' = log ++ more ∧ ∀ e ∈ more, P e.made) log := by
  induction x generalizing log with
  | done r => exact ⟨[], (List.append_nil _).symm, fun _ he => nomatch he⟩
  | call c k ih =>
    refine ⟨?_, ?_⟩
    · have hfirst := hallowed [] c (fun _ he => nomatch he) hx.1
      rwa [List.append_nil] at hfirst
    · rintro a log' ⟨w, w', -, rfl⟩
      have hhead : ∀ e ∈ [(⟨w, c, a⟩ : Event ω ε ρ)], P e.made := by
        intro e he
        cases List.mem_singleton.mp he
        exact hx.1
      refine (ih a (hx.2 a) fun more c' hmore hc' => ?_).mono ?_
      · rw [List.append_assoc]
        refine hallowed _ c' (fun e he => ?_) hc'
        exact (List.mem_append.mp he).elim (hhead e) (hmore e)
      · rintro r log'' ⟨more, rfl, hmore⟩
        refine ⟨⟨w, c, a⟩ :: more, by simp, fun e he => ?_⟩
        rcases List.mem_cons.mp he with rfl | he
        · exact hx.1
        · exact hmore e he

end Within

end Script

end Adcp.L1
