import Adcp.L5Deploy.ControlledDeployment

/-!
# The runner's own calls

What `run_controlled_deployment` calls by itself, before, between and after the parts that its
user gives it: none of it is a call of the user's, and what fails of it can be seen in the log.

* `within_newControlLease`, `within_enter`: before the first part.
* `meets_assertCurrent`, `meets_exit`: between the parts and at the end; when every own call
  works, they change nothing.
* `OneStep.meets`: how a deployment of one step ends, from what its parts keep.
-/
namespace Adcp.L5

open Adcp.L1 Adcp.L2 Adcp.L3 Script

variable {χ : Type} {answer : χ → Type} {β γ ω : Type}

/-- A call of the runner itself. -/
def OwnCall : ControlCall χ → Prop
  | .user _ => False
  | _ => True

/-- The call is not one of the runner's, or it has worked, and has seen no failed heartbeat. -/
def OwnWorked : Event ω (ControlError β γ) (ControlAnswer answer) → Prop
  | ⟨_, .user _, _⟩ => True
  | ⟨_, .heartbeatError, .ok (some _)⟩ => False
  | ⟨_, _, .error _⟩ => False
  | ⟨_, _, .ok _⟩ => True

/-! ## Before the first part -/

theorem within_attempted (c : ControlCall χ) (h : OwnCall c) :
    Within OwnCall (ask c : ControlScript answer β γ _).attempt := (within_invoke h).attempt

theorem within_newControlLease (d : Deployment) :
    Within OwnCall (newControlLease d : ControlScript answer β γ ControlLease) := by
  unfold newControlLease
  refine (within_require _ _).bind fun _ => (within_require _ _).bind fun _ => ?_
  refine (within_attempted .schemaVersion trivial).bind fun version =>
    (within_require _ _).bind fun _ => ?_
  refine (within_invoke trivial).bind fun attemptId => ?_
  exact (within_done _).bind fun _ => (within_done _).bind fun _ => within_done _

namespace ControlLease

variable (l : ControlLease) (token : Int)

theorem within_assertCurrent : Within OwnCall
    (l.assertCurrent token : ControlScript answer β γ Unit) := by
  unfold assertCurrent
  refine (within_invoke trivial).bind fun heartbeat => (within_require _ _).bind fun _ => ?_
  refine (within_invoke trivial).bind fun _ =>
    (within_attempted (.assertCurrent _ _) trivial).bind fun row => ?_
  split <;> exact within_done _

theorem within_beforeAttempt (deadline : Int) (attempts : Nat) :
    Within OwnCall (beforeAttempt deadline attempts : ControlScript answer β γ Unit) := by
  unfold beforeAttempt
  split
  · exact (within_invoke trivial).bind fun _ => within_require _ _
  · exact within_done _

theorem within_beforeRetry (deadline : Int) (attempts : Nat) :
    Within OwnCall (beforeRetry deadline attempts : ControlScript answer β γ Unit) := by
  unfold beforeRetry
  refine (within_invoke trivial).bind fun _ => (within_require _ _).bind fun _ => ?_
  refine (within_require _ _).bind fun _ => (within_invoke trivial).bind fun _ => ?_
  exact (within_invoke trivial).bind fun _ => (within_require _ _).bind fun _ =>
    within_invoke trivial

theorem within_acquireRetry (deadline : Int) (attempts left : Nat) :
    Within OwnCall (l.acquireRetry deadline attempts left : ControlScript answer β γ _) := by
  induction left generalizing attempts with
  | zero => exact within_done _
  | succ left ih =>
    unfold acquireRetry
    refine (within_beforeAttempt _ _).bind fun _ =>
      (within_attempted (.acquire _) trivial).bind fun row => ?_
    split
    · exact within_done _
    · split
      · exact (within_beforeRetry _ _).bind fun _ => ih _
      · exact within_done _

theorem within_enter : Within OwnCall (l.enter : ControlScript answer β γ Int) := by
  have hentered : ∀ token, Within OwnCall (l.entered token : ControlScript answer β γ Unit) := by
    intro token
    unfold entered
    refine (l.within_assertCurrent token).bind fun _ => (within_invoke trivial).bind fun _ => ?_
    refine (within_require _ _).bind fun _ => (within_invoke trivial).bind fun _ => ?_
    split
    · exact within_invoke trivial
    · exact within_done _
  unfold enter
  refine (within_invoke trivial).bind fun _ => Within.bind ?_ fun row => ?_
  · unfold acquireWithOptionalWait
    split
    · exact (within_invoke trivial).bind fun _ => l.within_acquireRetry _ _ _
    · exact within_invoke trivial
  · refine (hentered row.fencingToken).attempt.bind fun r => ?_
    split
    · exact within_done _
    · exact (within_attempted (.release _) trivial).bind fun _ => within_done _

end ControlLease

/-! ## Between the parts and at the end -/

/-- Own calls have been added to the log; when they have all worked, `P`. -/
def Own (P : Prop) (log log' : List (Event ω (ControlError β γ) (ControlAnswer answer))) : Prop :=
  ∃ more, log' = log ++ more ∧ (∀ e ∈ more, OwnCall e.made) ∧ ((∀ e ∈ more, OwnWorked e) → P)

variable {log log' log'' : List (Event ω (ControlError β γ) (ControlAnswer answer))} {P Q : Prop}
  {e : Event ω (ControlError β γ) (ControlAnswer answer)}

theorem Own.refl (h : P) : Own P log log := by
  refine ⟨[], (List.append_nil _).symm, fun e he => ?_, fun _ => h⟩
  cases he

theorem Own.mono (h : Own P log log') (hle : P → Q) : Own Q log log' := by
  obtain ⟨more, hlog, hown, hp⟩ := h
  exact ⟨more, hlog, hown, fun hworked => hle (hp hworked)⟩

theorem Own.step (h : Own P (log ++ [e]) log') (hown : OwnCall e.made) : Own P log log' := by
  obtain ⟨more, rfl, hmore, hp⟩ := h
  refine ⟨e :: more, by simp, fun e' he' => ?_, fun hworked => hp fun e' he' => ?_⟩
  · rcases List.mem_cons.mp he' with rfl | he'
    · exact hown
    · exact hmore e' he'
  · exact hworked e' (List.mem_cons_of_mem _ he')

/-- A call that has not worked. -/
theorem Own.failed (hown : OwnCall e.made) (hfailed : ¬ OwnWorked e) : Own P log (log ++ [e]) := by
  refine ⟨[e], rfl, fun e' he' => ?_, fun hworked => ?_⟩
  · cases List.mem_singleton.mp he'
    exact hown
  · exact absurd (hworked e (List.mem_singleton_self _)) hfailed

/-- The parts of a log that own calls have been added to in two turns. -/
theorem Own.trans (h : Own P log log') (h' : Own Q log' log'') : Own (P ∧ Q) log log'' := by
  obtain ⟨more, rfl, hown, hp⟩ := h
  obtain ⟨more', rfl, hown', hq⟩ := h'
  refine ⟨more ++ more', List.append_assoc .., fun e he => ?_, fun hworked => ⟨?_, ?_⟩⟩
  · exact (List.mem_append.mp he).elim (hown e) (hown' e)
  · exact hp fun e he => hworked e (List.mem_append_left _ he)
  · exact hq fun e he => hworked e (List.mem_append_right _ he)

variable {serve : ω → (c : ControlCall χ) → Except (ControlError β γ)
  (ControlAnswer answer c) → ω → Prop}
  {allowed : List (Event ω (ControlError β γ) (ControlAnswer answer)) → ControlCall χ → Prop}

/-- What a check finds wrong, an own call has answered. -/
theorem meets_assertCurrent (hallowed : ∀ log c, OwnCall c → allowed log c) (l : ControlLease)
    (token : Int) : Meets (logged serve) allowed (l.assertCurrent token)
      (fun r log' => Own (r = .ok ()) log log') log := by
  unfold ControlLease.assertCurrent
  refine meets_bind.mpr ⟨hallowed _ _ trivial, ?_⟩
  rintro heartbeat log₁ ⟨w₁, _, -, rfl⟩
  rcases heartbeat with error | heartbeat
  · exact Own.failed trivial id
  refine meets_bind.mpr (meets_require.mpr ⟨fun hnone => ?_, fun hsome => ?_⟩)
  · refine meets_bind.mpr ⟨hallowed _ _ trivial, ?_⟩
    rintro valid log₂ ⟨w₂, _, -, rfl⟩
    rcases valid with error | valid
    · refine Own.step (Own.failed ?_ ?_) ?_
      · trivial
      · exact id
      · trivial
    refine meets_bind.mpr (meets_attempt.mpr ⟨hallowed _ _ trivial, ?_⟩)
    rintro row log₃ ⟨w₃, _, -, rfl⟩
    rcases row with error | row
    · have hfailed : ∀ error' : ControlError β γ, Own (Except.error error' = .ok ()) log
          (log ++ [⟨w₁, .heartbeatError, .ok heartbeat⟩] ++ [⟨w₂, .revalidate, .ok valid⟩] ++
            [⟨w₃, .assertCurrent l.ownerId token, .error error⟩]) := by
        intro error'
        refine Own.step (Own.step (Own.failed ?_ ?_) ?_) ?_
        · trivial
        · exact id
        · trivial
        · trivial
      simp only [meets_done, After]
      split
      · cases ‹Except.error error = Except.ok _›
      · exact hfailed _
      · exact hfailed _
    · refine Own.step (Own.step (Own.step (Own.refl rfl) ?_) ?_) ?_ <;> trivial
  · refine Own.failed trivial ?_
    cases heartbeat with
    | none => exact absurd rfl hsome
    | some error => exact id

theorem meets_keepsAuthority (hallowed : ∀ log c, OwnCall c → allowed log c) (l : ControlLease)
    (token : Int) (evidence : List (EffectEvidence β γ)) :
    Meets (logged serve) allowed (keepsAuthority l token evidence)
      (fun r log' => Own (r = .ok ()) log log') log := by
  unfold keepsAuthority
  refine meets_bind.mpr (meets_attempt.mpr ((meets_assertCurrent hallowed l token).mono ?_))
  intro r log' hown
  cases r with
  | ok _ => exact hown
  | error error => exact hown.mono fun h => nomatch h

theorem meets_exit {α : Type} (hallowed : ∀ log c, OwnCall c → allowed log c) (l : ControlLease)
    (token : Int) (result : Except (ControlError β γ) α) :
    Meets (logged serve) allowed (l.exit token result)
      (fun r log' => Own (r = result) log log' ∧ ∀ a, r = .ok a → result = .ok a) log := by
  unfold ControlLease.exit
  refine meets_bind.mpr ⟨hallowed _ _ trivial, ?_⟩
  rintro stopped log₁ ⟨w₁, _, -, rfl⟩
  rcases stopped with error | stopped
  · exact ⟨Own.failed trivial id, fun a ha => nomatch ha⟩
  refine meets_bind.mpr (meets_attempt.mpr ⟨hallowed _ _ trivial, ?_⟩)
  rintro row log₂ ⟨w₂, _, -, rfl⟩
  rcases row with error | row
  · have hfailed : ∀ r : Except (ControlError β γ) α, Own (r = result) log
        (log ++ [⟨w₁, .stopHeartbeat, .ok stopped⟩] ++ 
          [⟨w₂, .release (l.releaseRequest token "GLOBAL_PRODUCTION_WRITER_RELEASED"),
            .error error⟩]) := by
      intro r
      refine Own.step (Own.failed ?_ ?_) ?_
      · trivial
      · exact id
      · trivial
    cases result with
    | ok a => exact ⟨hfailed _, fun a ha => nomatch ha⟩
    | error e => exact ⟨hfailed _, fun a ha => nomatch ha⟩
  · refine ⟨Own.step (Own.step (Own.refl rfl) ?_) ?_, fun a ha => ha⟩ <;> trivial

/-! ## A deployment of one step -/

/-- What the parts of a deployment of one step keep: `start` holds until the effect, `done` of
what the effect and the readback have answered, `persisted` after the persisting, and `failed`
of an exception of a part. Own calls change none of it. -/
structure OneStep (serve : ω → (c : ControlCall χ) → Except (ControlError β γ)
    (ControlAnswer answer c) →
      ω → Prop) (allowed : List (Event ω (ControlError β γ) (ControlAnswer answer)) →
      ControlCall χ → Prop)
    (step : DeploymentStep answer β γ)
    (persist : List (EffectEvidence β γ) → ControlScript answer β γ Unit)
    (start : List (Event ω (ControlError β γ) (ControlAnswer answer)) → Prop)
    (effected : β → List (Event ω (ControlError β γ) (ControlAnswer answer)) → Prop)
    (done : β → γ → List (Event ω (ControlError β γ) (ControlAnswer answer)) → Prop)
    (persisted : List (Event ω (ControlError β γ) (ControlAnswer answer)) → Prop)
    (failed : ControlError β γ → List (Event ω (ControlError β γ) (ControlAnswer answer)) → Prop) :
    Prop where
  own : ∀ log c, OwnCall c → allowed log c
  start_own : ∀ log more, (∀ e ∈ more, OwnCall e.made) → start log → start (log ++ more)
  done_own : ∀ b g log more, (∀ e ∈ more, OwnCall e.made) → done b g log → done b g (log ++ more)
  persisted_own : ∀ log more, (∀ e ∈ more, OwnCall e.made) → persisted log → persisted (log ++ more)
  failed_own : ∀ error log more, (∀ e ∈ more, OwnCall e.made) → failed error log →
    failed error (log ++ more)
  effect : ∀ log, start log → Meets (logged serve) allowed step.effect (fun r log' =>
    match r with
    | .ok b => effected b log'
    | .error error => failed error log') log
  readback : ∀ b log, effected b log → Meets (logged serve) allowed (step.readback b) (fun r log' =>
    match r with
    | .ok g => done b g log'
    | .error error => failed error log') log
  persist : ∀ name b g log, done b g log →
    Meets (logged serve) allowed (persist [⟨step.name, name, b, g⟩]) (fun r log' =>
      match r with
      | .ok _ => persisted log'
      | .error error => failed error log') log

section OneStep

variable {step : DeploymentStep answer β γ}
  {persist : List (EffectEvidence β γ) → ControlScript answer β γ Unit}
  {start persisted : List (Event ω (ControlError β γ) (ControlAnswer answer)) → Prop}
  {effected : β → List (Event ω (ControlError β γ) (ControlAnswer answer)) → Prop}
  {done : β → γ → List (Event ω (ControlError β γ) (ControlAnswer answer)) → Prop}
  {failed : ControlError β γ → List (Event ω (ControlError β γ) (ControlAnswer answer)) → Prop}

/-- After the effect has ended, an own call has not worked, and only own calls have followed. -/
def Disturbed (done : β → γ → List (Event ω (ControlError β γ) (ControlAnswer answer)) → Prop)
    (persisted : List (Event ω (ControlError β γ) (ControlAnswer answer)) → Prop)
    (failed : ControlError β γ → List (Event ω (ControlError β γ) (ControlAnswer answer)) → Prop)
    (log : List (Event ω (ControlError β γ) (ControlAnswer answer))) : Prop :=
  ∃ before e after, log = before ++ e :: after ∧ ¬ OwnWorked e ∧
    (∀ e' ∈ e :: after, OwnCall e'.made) ∧
    ((∃ b g, done b g before) ∨ persisted before ∨ ∃ error, failed error before)

/-- How a deployment of one step ends. -/
def StepEnds (start : List (Event ω (ControlError β γ) (ControlAnswer answer)) → Prop)
    (done : β → γ → List (Event ω (ControlError β γ) (ControlAnswer answer)) → Prop)
    (persisted : List (Event ω (ControlError β γ) (ControlAnswer answer)) → Prop)
    (failed : ControlError β γ → List (Event ω (ControlError β γ) (ControlAnswer answer)) → Prop)
    (r : Except (ControlError β γ) (List (EffectEvidence β γ)))
    (log : List (Event ω (ControlError β γ) (ControlAnswer answer))) : Prop :=
  match r with
  | .ok evidence => persisted log ∧ evidence.length = 1
  | .error error => start log ∨ failed error log ∨ Disturbed done persisted failed log

theorem Disturbed.append {more : List (Event ω (ControlError β γ) (ControlAnswer answer))}
    (h : Disturbed done persisted failed log) (hmore : ∀ e ∈ more, OwnCall e.made) :
    Disturbed done persisted failed (log ++ more) := by
  obtain ⟨before, e, after, rfl, hbad, hown, hbefore⟩ := h
  refine ⟨before, e, after ++ more, by simp, hbad, fun e' he' => ?_, hbefore⟩
  rw [← List.cons_append] at he'
  exact (List.mem_append.mp he').elim (hown e') (hmore e')

/-- Own calls after the effect has ended: they have all worked, or the deployment is
disturbed. -/
theorem Own.disturbed
    (hstep : OneStep serve allowed step persist start effected done persisted failed)
    (h : Own P log log')
    (hlog : (∃ b g, done b g log) ∨ persisted log ∨ ∃ error, failed error log) :
    P ∨ Disturbed done persisted failed log' := by
  obtain ⟨more, rfl, hown, hp⟩ := h
  by_cases hworked : ∀ e ∈ more, OwnWorked e
  · exact Or.inl (hp hworked)
  · refine Or.inr ?_
    obtain ⟨e, he⟩ := Classical.not_forall.mp hworked
    obtain ⟨hmem, hbad⟩ := Classical.not_imp.mp he
    obtain ⟨m₁, m₂, rfl⟩ := List.append_of_mem hmem
    have hfirst : ∀ e ∈ m₁, OwnCall e.made := fun e he => hown e (List.mem_append_left _ he)
    refine ⟨log ++ m₁, e, m₂, by simp, hbad, fun e' he' => hown e'
      (List.mem_append_right _ he'), ?_⟩
    rcases hlog with ⟨b, g, hdone⟩ | hpersisted | ⟨error, hfailed⟩
    · exact Or.inl ⟨b, g, hstep.done_own b g _ _ hfirst hdone⟩
    · exact Or.inr (Or.inl (hstep.persisted_own _ _ hfirst hpersisted))
    · exact Or.inr (Or.inr ⟨error, hstep.failed_own error _ _ hfirst hfailed⟩)

/-- A part that makes own calls only keeps the start. -/
theorem OneStep.quiet
    (hstep : OneStep serve allowed step persist start effected done persisted failed)
    {α : Type} {x : ControlScript answer β γ α} (hx : Within OwnCall x) (hlog : start log) :
    Meets (logged serve) allowed x (fun _ log' => start log') log := by
  refine (hx.meets fun more c _ hc => hstep.own _ c hc).mono ?_
  rintro r log' ⟨more, rfl, hmore⟩
  exact hstep.start_own _ _ hmore hlog

/-- The steps: what the one step answers, with the authority kept. -/
theorem OneStep.meets_runSteps
    (hstep : OneStep serve allowed step persist start effected done persisted failed)
    (l : ControlLease)
    (token : Int) (hlog : start log) :
    Meets (logged serve) allowed (runSteps l token [step] 0 []) (fun r log' =>
      match r with
      | .ok evidence => ∃ name b g, evidence = [⟨step.name, name, b, g⟩] ∧ done b g log'
      | .error error => start log' ∨ failed error log' ∨
      Disturbed done persisted failed log') log := by
  unfold runSteps
  refine meets_bind.mpr (meets_lift.mpr ?_)
  cases (operationKey _ _).mapError _ with
  | error error => exact Or.inl hlog
  | ok name =>
    refine (hstep.quiet (l.within_assertCurrent token) hlog).bind (fun _ log₁ h₁ => ?_)
      fun error log₁ h₁ => Or.inl h₁
    refine (hstep.effect log₁ h₁).bind (fun b log₂ h₂ => ?_) fun error log₂ h₂ => Or.inr (Or.inl h₂)
    refine (hstep.readback b log₂ h₂).bind (fun g log₃ h₃ => ?_)
      fun error log₃ h₃ => Or.inr (Or.inl h₃)
    refine (meets_keepsAuthority hstep.own l token _).bind
      (fun _ log₄ h₄ => ?_) fun error log₄ h₄ => ?_
    · obtain ⟨more, rfl, hmore, -⟩ := h₄
      exact ⟨name, b, g, rfl, hstep.done_own b g _ _ hmore h₃⟩
    · rcases h₄.disturbed hstep (Or.inl ⟨b, g, h₃⟩) with hok | hdisturbed
      · cases hok
      · exact Or.inr (Or.inr hdisturbed)

theorem OneStep.meets_runUnderLease
    (hstep : OneStep serve allowed step persist start effected done persisted failed)
    (l : ControlLease)
    (token : Int) (hlog : start log) :
    Meets (logged serve) allowed (runUnderLease l token [step] persist)
      (StepEnds start done persisted failed) log := by
  unfold runUnderLease
  refine (hstep.meets_runSteps l token hlog).bind ?_ fun error log₁ h₁ => h₁
  rintro evidence log₁ ⟨name, b, g, rfl, h₁⟩
  refine (meets_assertCurrent hstep.own l token).bind (fun _ log₂ h₂ => ?_) fun error log₂ h₂ => ?_
  · obtain ⟨more, rfl, hmore, -⟩ := h₂
    have hdone := hstep.done_own b g _ _ hmore h₁
    refine (hstep.persist name b g _ hdone).bind (fun _ log₃ h₃ => ?_)
      fun error log₃ h₃ => Or.inr (Or.inl h₃)
    refine (meets_keepsAuthority hstep.own l token _).bind
      (fun _ log₄ h₄ => ?_) fun error log₄ h₄ => ?_
    · obtain ⟨more', rfl, hmore', -⟩ := h₄
      exact ⟨hstep.persisted_own _ _ hmore' h₃, rfl⟩
    · rcases h₄.disturbed hstep (Or.inr (Or.inl h₃)) with hok | hdisturbed
      · cases hok
      · exact Or.inr (Or.inr hdisturbed)
  · rcases h₂.disturbed hstep (Or.inl ⟨b, g, h₁⟩) with hok | hdisturbed
    · cases hok
    · exact Or.inr (Or.inr hdisturbed)

/-- What the exit makes of how the steps have ended. -/
theorem OneStep.exited
    (hstep : OneStep serve allowed step persist start effected done persisted failed)
    {r result : Except (ControlError β γ) (List (EffectEvidence β γ))}
    (hends : StepEnds start done persisted failed result log)
    (hown : Own (r = result) log log') (hok : ∀ a, r = .ok a → result = .ok a) :
    StepEnds start done persisted failed r log' := by
  have hkept : ∃ more, log' = log ++ more ∧ ∀ e ∈ more, OwnCall e.made := by
    obtain ⟨more, rfl, hmore, -⟩ := hown
    exact ⟨more, rfl, hmore⟩
  obtain ⟨more, rfl, hmore⟩ := hkept
  cases result with
  | ok a =>
    cases r with
    | ok a' =>
      cases hok a' rfl
      exact ⟨hstep.persisted_own _ _ hmore hends.1, hends.2⟩
    | error error =>
      rcases hown.disturbed hstep (Or.inr (Or.inl hends.1)) with heq | hdisturbed
      · cases heq
      · exact Or.inr (Or.inr hdisturbed)
  | error error =>
    cases r with
    | ok a => exact nomatch hok a rfl
    | error error' =>
      rcases hends with hstart | hfailed | hdisturbed
      · exact Or.inl (hstep.start_own _ _ hmore hstart)
      · rcases hown.disturbed hstep (Or.inr (Or.inr ⟨error, hfailed⟩)) with heq | hdisturbed
        · cases heq
          exact Or.inr (Or.inl (hstep.failed_own _ _ _ hmore hfailed))
        · exact Or.inr (Or.inr hdisturbed)
      · exact Or.inr (Or.inr (hdisturbed.append hmore))

/-- A deployment of one step. -/
theorem OneStep.meets
    (hstep : OneStep serve allowed step persist start effected done persisted failed)
    (d : Deployment) (hlog : start log) :
    Meets (logged serve) allowed (runControlledDeployment d [step] persist)
      (StepEnds start done persisted failed) log := by
  have hevents : Within OwnCall (ask .writerEvents : ControlScript answer β γ _) :=
    within_invoke trivial
  unfold runControlledDeployment
  refine (hstep.quiet hevents hlog).bind (fun events log₁ h₁ => ?_) fun error log₁ h₁ => Or.inl h₁
  split
  · exact Or.inl h₁
  · unfold runLeased
    refine (hstep.quiet (within_newControlLease d) h₁).bind (fun l log₂ h₂ => ?_)
      fun error log₂ h₂ => Or.inl h₂
    refine (hstep.quiet l.within_enter h₂).bind (fun token log₃ h₃ => ?_)
      fun error log₃ h₃ => Or.inl h₃
    refine meets_bind.mpr (meets_attempt.mpr ((hstep.meets_runUnderLease l token h₃).mono ?_))
    intro result log₄ h₄
    refine (meets_exit hstep.own l token result).mono ?_
    rintro r log₅ ⟨h₅, hok⟩
    exact hstep.exited h₄ h₅ hok

end OneStep

end Adcp.L5
