import Mathlib.Logic.Function.Basic
import Adcp.L1Base.Script

/-!
# Programs in one world

Any number of programs, each with its own calls, are answered by one world that other
parties change as well. Whichever moves next makes one call; one that never moves again
has crashed.

* `Interleaved`: what the programs and the world get to, with the calls in the order
  they were served. Every one of them meets the condition `permits`.
* `Interleaved.own_steps`: the calls of one program are a run of it.
* `Interleaved.world`: what every served call and every other party keeps of the world;
  `Interleaved.recorded`: what they keep of what an earlier call has left.
* `play`: the run of one program that a function answers.
* `Interleaved.advance`: a run of one program, while the others stand still.
-/
namespace Adcp.L1.Script

variable {ε ι α β ω κ : Type} {ρ : ι → Type} [DecidableEq κ]

/-! ## Runs -/

inductive Interleaved (serve : ω → (c : ι) → Except ε (ρ c) → ω → Prop) (others : ω → ω → Prop)
    (permits : (κ → Script ε ρ α) → κ → (c : ι) → Except ε (ρ c) → Prop)
    (start : κ → Script ε ρ α) (w₀ : ω) :
    ω → (κ → Script ε ρ α) → List (κ × Event ω ε ρ) → Prop
  | start : Interleaved serve others permits start w₀ w₀ start []
  | move {w w' : ω} {procs : κ → Script ε ρ α} {log : List (κ × Event ω ε ρ)} {c : ι}
      {next : Except ε (ρ c) → Script ε ρ α} {a : Except ε (ρ c)} (k : κ)
      (before : Interleaved serve others permits start w₀ w procs log)
      (at_call : procs k = .call c next) (served : serve w c a w') (permitted : permits procs k c a) :
      Interleaved serve others permits start w₀ w' (Function.update procs k (next a))
        (log ++ [(k, ⟨w, c, a⟩)])
  | other {w w' : ω} {procs : κ → Script ε ρ α} {log : List (κ × Event ω ε ρ)}
      (before : Interleaved serve others permits start w₀ w procs log) (acts : others w w') :
      Interleaved serve others permits start w₀ w' procs log

/-- The calls of one program. -/
def own (k : κ) (log : List (κ × Event ω ε ρ)) : List (Event ω ε ρ) :=
  (log.filter (·.1 = k)).map (·.2)

theorem own_append_self (k : κ) (log : List (κ × Event ω ε ρ)) (e : Event ω ε ρ) :
    own k (log ++ [(k, e)]) = own k log ++ [e] := by
  simp [own, List.filter_append]

theorem own_append_other {k k' : κ} (h : k' ≠ k) (log : List (κ × Event ω ε ρ)) (e : Event ω ε ρ) :
    own k (log ++ [(k', e)]) = own k log := by
  simp [own, List.filter_append, h]

theorem own_append (k : κ) (log log' : List (κ × Event ω ε ρ)) :
    own k (log ++ log') = own k log ++ own k log' := by
  simp [own, List.filter_append]

theorem own_map_self (k : κ) (es : List (Event ω ε ρ)) : own k (es.map fun e => (k, e)) = es := by
  simp [own, List.filter_map, Function.comp_def]

theorem mem_own {k : κ} {log : List (κ × Event ω ε ρ)} {e : Event ω ε ρ} :
    e ∈ own k log ↔ (k, e) ∈ log := by
  unfold own
  rw [List.mem_map]
  constructor
  · rintro ⟨⟨k', e'⟩, hmem, rfl⟩
    obtain ⟨hmem, hk⟩ := List.mem_filter.mp hmem
    exact (of_decide_eq_true hk) ▸ hmem
  · intro hmem
    exact ⟨(k, e), List.mem_filter.mpr ⟨hmem, decide_eq_true rfl⟩, rfl⟩

namespace Interleaved

variable {serve : ω → (c : ι) → Except ε (ρ c) → ω → Prop} {others : ω → ω → Prop}
  {permits : (κ → Script ε ρ α) → κ → (c : ι) → Except ε (ρ c) → Prop}
  {start procs : κ → Script ε ρ α} {w₀ w : ω} {log : List (κ × Event ω ε ρ)}

/-- What one program has called is a run of it. -/
theorem own_steps (h : Interleaved serve others permits start w₀ w procs log) (k : κ) :
    Steps (logged serve) (start k) [] (procs k) (own k log) := by
  induction h with
  | start => exact .refl _ _
  | @move w w' procs log c next a k' before at_call served _ ih =>
    by_cases hk : k' = k
    · subst hk
      rw [Function.update_self, own_append_self]
      rw [at_call] at ih
      exact ih.answer ⟨w, w', served, rfl⟩
    · rw [Function.update_of_ne (Ne.symm hk), own_append_other hk]
      exact ih
  | other _ _ ih => exact ih

/-- What the calls and the other parties keep of the world holds of it throughout, and in
every state that a call was made in. -/
theorem world {P : ω → Prop} (h : Interleaved serve others permits start w₀ w procs log) (h₀ : P w₀)
    (hserve : ∀ w c a w', P w → serve w c a w' → P w') (hothers : ∀ w w', P w → others w w' → P w') :
    P w ∧ ∀ p ∈ log, P p.2.world := by
  induction h with
  | start => exact ⟨h₀, fun p hp => nomatch hp⟩
  | move k _ _ served _ ih =>
    refine ⟨hserve _ _ _ _ ih.1 served, fun p hp => ?_⟩
    rcases List.mem_append.mp hp with hp | hp
    · exact ih.2 p hp
    · cases List.mem_singleton.mp hp
      exact ih.1
  | other _ acts ih => exact ⟨hothers _ _ ih.1 acts, ih.2⟩

/-- What a call leaves, and the calls and the other parties keep, every later call finds. -/
theorem recorded {Q : Event ω ε ρ → ω → Prop}
    (h : Interleaved serve others permits start w₀ w procs log)
    (hnew : ∀ w c a w', serve w c a w' → Q ⟨w, c, a⟩ w')
    (hserve : ∀ e w c a w', Q e w → serve w c a w' → Q e w')
    (hothers : ∀ e w w', Q e w → others w w' → Q e w') :
    (∀ p ∈ log, Q p.2 w) ∧ log.Pairwise fun p q => Q p.2 q.2.world := by
  induction h with
  | start => exact ⟨fun p hp => absurd hp List.not_mem_nil, .nil⟩
  | @move w w' procs log c next a k before at_call served permitted ih =>
    refine ⟨fun p hp => ?_, List.pairwise_append.mpr ⟨ih.2, List.pairwise_singleton .., ?_⟩⟩
    · rcases List.mem_append.mp hp with hp | hp
      · exact hserve _ _ _ _ _ (ih.1 p hp) served
      · cases List.mem_singleton.mp hp
        exact hnew _ _ _ _ served
    · intro p hp q hq
      cases List.mem_singleton.mp hq
      exact ih.1 p hp
  | other _ acts ih => exact ⟨fun p hp => hothers _ _ _ (ih.1 p hp) acts, ih.2⟩

end Interleaved

/-! ## One program after the other -/

/-- The world with the calls it has served to one program. -/
def traced (serve : ω → (c : ι) → Except ε (ρ c) → ω → Prop) (s : ω × List (Event ω ε ρ)) (c : ι)
    (a : Except ε (ρ c)) (s' : ω × List (Event ω ε ρ)) : Prop :=
  serve s.1 c a s'.1 ∧ s'.2 = s.2 ++ [⟨s.1, c, a⟩]

variable {serve : ω → (c : ι) → Except ε (ρ c) → ω → Prop}

/-- The program answers `r`, by making the calls `events`. -/
def Runs (serve : ω → (c : ι) → Except ε (ρ c) → ω → Prop) (p : Script ε ρ α) (w : ω)
    (r : Except ε α) (w' : ω) (events : List (Event ω ε ρ)) : Prop :=
  ∀ log, Steps (traced serve) p (w, log) (.done r) (w', log ++ events)

/-- The first part of a sequence runs by itself. -/
theorem Steps.bind_of_ok {serve : ω → (c : ι) → Except ε (ρ c) → ω → Prop} {x : Script ε ρ α}
    {f : α → Script ε ρ β} {a : α} {w w' : ω} (h : Steps serve x w (.done (.ok a)) w') :
    Steps serve (x >>= f) w (f a) w' := by
  generalize hp : (Script.done (.ok a) : Script ε ρ α) = p at h
  induction h with
  | refl p w =>
    subst hp
    exact .refl _ _
  | call served _ ih => exact .call served (ih hp)

namespace Runs

variable {r : Except ε α} {w w' w'' : ω} {events events' : List (Event ω ε ρ)}

theorem done : Runs serve (Script.done r) w r w [] := fun log => by
  rw [List.append_nil]
  exact .refl _ _

/-- One call. -/
theorem call {c : ι} {a : Except ε (ρ c)} (served : serve w c a w') :
    Runs serve (invoke c) w a w' [⟨w, c, a⟩] :=
  fun _ => .call ⟨served, rfl⟩ (.refl _ _)

theorem bind {x : Script ε ρ β} {f : β → Script ε ρ α} {b : β}
    (hx : Runs serve x w (.ok b) w' events) (hf : Runs serve (f b) w' r w'' events') :
    Runs serve (x >>= f) w r w'' (events ++ events') := fun log => by
  have h := (hx log).bind_of_ok.trans (hf (log ++ events))
  rw [List.append_assoc] at h
  exact h

/-- What stands under `try`. -/
theorem attempt {x : Script ε ρ α} (hx : Runs serve x w r w' events) :
    Runs serve x.attempt w (.ok r) w' events := fun log => by
  have h := hx log
  generalize hp : (Script.done r : Script ε ρ α) = p at h
  generalize hs : (w, log) = s at h
  generalize hs' : (w', log ++ events) = s' at h
  clear hx hs hs'
  induction h with
  | refl p s =>
    subst hp
    exact .refl _ _
  | call served _ ih => exact .call served (ih hp)

theorem lift {x : Except ε α} (h : x = r) : Runs serve (Script.lift x) w r w [] := by
  subst h
  exact done

theorem require {c : Prop} {dec : Decidable c} {e : ε} (h : c) :
    Runs serve (Script.require c e) w (.ok ()) w [] := by
  unfold Script.require
  rw [if_pos h]
  exact done

end Runs

/-! ## Answering with a function -/

/-- The run of a program that `respond` answers, which reads the calls made as well. -/
def play (respond : ω × List (Event ω ε ρ) → (c : ι) → Except ε (ρ c) × ω) :
    Nat → Script ε ρ α → ω × List (Event ω ε ρ) → Option (Except ε α × ω × List (Event ω ε ρ))
  | _, .done r, s => some (r, s)
  | 0, .call _ _, _ => none
  | n + 1, .call c k, s =>
    play respond n (k (respond s c).1) ((respond s c).2, s.2 ++ [⟨s.1, c, (respond s c).1⟩])

/-- It is one of the runs of the program. -/
theorem play_steps {respond : ω × List (Event ω ε ρ) → (c : ι) → Except ε (ρ c) × ω}
    (hserve : ∀ s c, serve s.1 c (respond s c).1 (respond s c).2) {n : Nat} {p : Script ε ρ α}
    {r : Except ε α} {s s' : ω × List (Event ω ε ρ)} (h : play respond n p s = some (r, s')) :
    Steps (traced serve) p s (.done r) s' := by
  induction n generalizing p s with
  | zero =>
    cases p with
    | done r' =>
      cases h
      exact .refl _ _
    | call c k => cases h
  | succ n ih =>
    cases p with
    | done r' =>
      cases h
      exact .refl _ _
    | call c k => exact .call ⟨hserve s c, rfl⟩ (ih h)

/-- What is left of a program after `n` calls that `respond` answers. -/
def playFor (respond : ω × List (Event ω ε ρ) → (c : ι) → Except ε (ρ c) × ω) :
    Nat → Script ε ρ α → ω × List (Event ω ε ρ) → Script ε ρ α × ω × List (Event ω ε ρ)
  | 0, p, s => (p, s)
  | _ + 1, .done r, s => (.done r, s)
  | n + 1, .call c k, s =>
    playFor respond n (k (respond s c).1) ((respond s c).2, s.2 ++ [⟨s.1, c, (respond s c).1⟩])

theorem playFor_steps {respond : ω × List (Event ω ε ρ) → (c : ι) → Except ε (ρ c) × ω}
    (hserve : ∀ s c, serve s.1 c (respond s c).1 (respond s c).2) (n : Nat) (p : Script ε ρ α)
    (s : ω × List (Event ω ε ρ)) :
    Steps (traced serve) p s (playFor respond n p s).1 (playFor respond n p s).2 := by
  induction n generalizing p s with
  | zero => exact .refl _ _
  | succ n ih =>
    cases p with
    | done r => exact .refl _ _
    | call c k => exact .call ⟨hserve s c, rfl⟩ (ih _ _)

/-- One program runs while the others stand still. -/
theorem Interleaved.advance {others : ω → ω → Prop}
    {permits : (κ → Script ε ρ α) → κ → (c : ι) → Except ε (ρ c) → Prop}
    {start procs : κ → Script ε ρ α} {w₀ : ω} {log : List (κ × Event ω ε ρ)} (k : κ)
    {p p' : Script ε ρ α} {s s' : ω × List (Event ω ε ρ)}
    (hpermits : ∀ q c a, permits (Function.update procs k q) k c a) (h : Steps (traced serve) p s p' s')
    (before : Interleaved serve others permits start w₀ s.1 procs log) (hk : procs k = p) :
    ∃ more, s'.2 = s.2 ++ more ∧ Interleaved serve others permits start w₀ s'.1
      (Function.update procs k p') (log ++ more.map fun e => (k, e)) := by
  induction h generalizing procs log with
  | refl p s =>
    subst hk
    refine ⟨[], (List.append_nil _).symm, ?_⟩
    rw [Function.update_eq_self, List.map_nil, List.append_nil]
    exact before
  | @call c next s s₁ s₂ a p served rest ih =>
    have hpermitted := hpermits (procs k) c a
    rw [Function.update_eq_self] at hpermitted
    have hmove := before.move k hk served.1 hpermitted
    obtain ⟨more, hmore, hrun⟩ := ih (by
      intro q c a
      rw [Function.update_idem]
      exact hpermits q c a) hmove (Function.update_self ..)
    refine ⟨⟨s.1, c, a⟩ :: more, ?_, ?_⟩
    · rw [hmore, served.2, List.append_assoc, List.singleton_append]
    · rw [Function.update_idem] at hrun
      rw [List.map_cons, List.append_cons]
      exact hrun

/-- Every run can be followed with its calls. -/
theorem Steps.followed {p p' : Script ε ρ α} {w w' : ω} (h : Steps serve p w p' w')
    (log : List (Event ω ε ρ)) : ∃ more, Steps (traced serve) p (w, log) p' (w', log ++ more) := by
  induction h generalizing log with
  | refl p w => exact ⟨[], by rw [List.append_nil]; exact .refl _ _⟩
  | @call c next w w₁ w₂ a p served rest ih =>
    obtain ⟨more, hmore⟩ := ih (log ++ [⟨w, c, a⟩])
    refine ⟨⟨w, c, a⟩ :: more, ?_⟩
    rw [List.append_cons]
    exact .call ⟨served, rfl⟩ hmore

/-- What it has called is one of its runs. -/
theorem Steps.to_logged {p p' : Script ε ρ α} {s s' : ω × List (Event ω ε ρ)}
    (h : Steps (traced serve) p s p' s') : Steps (logged serve) p s.2 p' s'.2 := by
  induction h with
  | refl p s => exact .refl _ _
  | @call c next s s₁ s₂ a p served rest ih => exact .call ⟨s.1, s₁.1, served.1, served.2⟩ ih

/-- The world by itself. -/
theorem Steps.untraced {p p' : Script ε ρ α} {s s' : ω × List (Event ω ε ρ)}
    (h : Steps (traced serve) p s p' s') : Steps serve p s.1 p' s'.1 := by
  induction h with
  | refl p s => exact .refl _ _
  | call served _ ih => exact .call served.1 ih

/-- A run in a world that stands for another one is a run in that. -/
theorem Steps.represented {ω' : Type} {g : ω' → ω} {p p' : Script ε ρ α} {w w' : ω'}
    (h : Steps (fun w c a w' => serve (g w) c a (g w')) p w p' w') :
    Steps serve p (g w) p' (g w') := by
  induction h with
  | refl p w => exact .refl _ _
  | call served _ ih => exact .call served ih

/-- The calls of a run that are all as `P` says. -/
theorem Steps.checked {P : (c : ι) → Except ε (ρ c) → Prop} {p p' : Script ε ρ α}
    {s s' : ω × List (Event ω ε ρ)} (h : Steps (traced serve) p s p' s')
    (hall : ∀ e ∈ s'.2, P e.made e.answer) :
    Steps (fun w c a w' => serve w c a w' ∧ P c a) p s.1 p' s'.1 := by
  induction h with
  | refl p s => exact .refl _ _
  | @call c k s s₁ s₂ a p served rest ih =>
    have hgrows : ∃ more, s₂.2 = s₁.2 ++ more := by
      refine rest.invariant (P := fun s => ∃ more, s.2 = s₁.2 ++ more) ⟨[], by simp⟩ ?_
      rintro w c a w' ⟨more, hmore⟩ ⟨-, hlog⟩
      exact ⟨more ++ [⟨w.1, c, a⟩], by rw [hlog, hmore, List.append_assoc]⟩
    obtain ⟨more, hmore⟩ := hgrows
    have hmem : (⟨s.1, c, a⟩ : Event ω ε ρ) ∈ s₂.2 := by
      rw [hmore, served.2]
      simp
    exact .call ⟨served.1, hall _ hmem⟩ (ih hall)

/-- What the allowed calls of a program keep, of the world and of the calls so far, holds at
every point of a run. -/
theorem Steps.guided {allowed : List (Event ω ε ρ) → ι → Prop} {P : ω × List (Event ω ε ρ) → Prop}
    {ends : Except ε α → List (Event ω ε ρ) → Prop} {p p' : Script ε ρ α}
    {s s' : ω × List (Event ω ε ρ)} (hs : Steps (traced serve) p s p' s')
    (hmeets : Meets (logged serve) allowed p ends s.2) (h : P s)
    (hstep : ∀ s c a s', P s → allowed s.2 c → traced serve s c a s' → P s') : P s' := by
  induction hs with
  | refl p s => exact h
  | @call c k s s₁ s₂ a p served rest ih =>
    exact ih (hmeets.2 a s₁.2 ⟨s.1, s₁.1, served.1, served.2⟩)
      (hstep s c a s₁ h hmeets.1 served)

theorem Runs.to_logged {p : Script ε ρ α} {r : Except ε α} {w w' : ω} {events : List (Event ω ε ρ)}
    (h : Runs serve p w r w' events) : Steps (logged serve) p [] (.done r) events :=
  (h []).to_logged

end Adcp.L1.Script
