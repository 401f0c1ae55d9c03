import Adcp.L1Base.Interleaving
import Adcp.L4Safety.System
import Adcp.L5Deploy.ControlledDeployment

/-!
# No effect without authority

A deployment whose effects, readbacks and persisting are calls of their own, in a
world that other parties change between any two of its calls: the lease may expire, be
taken over or revoked, the source authority may change, and any call may raise.

* `Authorized`: the last three calls saw no failed heartbeat, the source authority valid,
  and the lease held by this attempt's owner and token.
* `runControlledDeployment_meets`: every effect finds `Authorized`, after no failed check.
* **`no_effect_without_authority`**: over every run, complete or cut short.
-/
namespace Adcp.L5

open Adcp.L1 Adcp.L2 Adcp.L3 Script

variable {β γ : Type}

/-! ## The calls of a step -/

/-- The calls of a deployment's steps: the effect of step `index`, its readback, and the
persisting of the result. -/
inductive DeployCall (β γ : Type) where
  | effect (index : Nat)
  | readback (index : Nat) (result : β)
  | persist (evidence : List (EffectEvidence β γ))

abbrev DeployAnswer : DeployCall β γ → Type
  | .effect _ => β
  | .readback .. => γ
  | .persist _ => Unit

abbrev DeployScript (β γ α : Type) : Type :=
  ControlScript (DeployAnswer (β := β) (γ := γ)) β γ α

abbrev DeployEvent (β γ : Type) : Type :=
  Event Db (ControlError β γ) (ControlAnswer (DeployAnswer (β := β) (γ := γ)))

abbrev DeployServes (db : Db) (c : ControlCall (DeployCall β γ))
    (r : Except (ControlError β γ) (ControlAnswer DeployAnswer c)) (db' : Db) : Prop :=
  Serves db c r db'

def deployStep (index : Nat) (name : String) : DeploymentStep (DeployAnswer (β := β) (γ := γ)) β γ where
  name := name
  effect := ask (.user (DeployCall.effect index))
  readback result := ask (.user (DeployCall.readback index result))

/-- `run_controlled_deployment` of the steps with the given names. -/
def deploy (d : Deployment) (names : List String) : DeployScript β γ (List (EffectEvidence β γ)) :=
  runControlledDeployment d (names.mapIdx deployStep) fun evidence =>
    ask (.user (DeployCall.persist evidence))

/-! ## Authority -/

/-- A check that refused. -/
def Failed : DeployEvent β γ → Prop
  | ⟨_, .heartbeatError, .ok none⟩ => False
  | ⟨_, .heartbeatError, _⟩ => True
  | ⟨_, .revalidate, .error _⟩ => True
  | ⟨_, .assertCurrent .., .error _⟩ => True
  | _ => False

def Clean (log : List (DeployEvent β γ)) : Prop := ∀ e ∈ log, ¬ Failed e

/-- The owner of the attempt that the run has started. -/
def Attempt (log : List (DeployEvent β γ)) (owner : String) : Prop :=
  ∃ w id, ⟨w, .newAttempt, .ok id⟩ ∈ log ∧ owner = w08WriterClass ++ ":" ++ id

/-- The token that its acquisition answered. -/
def Acquired (log : List (DeployEvent β γ)) (owner : String) (token : Int) : Prop :=
  ∃ w a row, ⟨w, .acquire a, .ok row⟩ ∈ log ∧ a.context.ownerId = some owner ∧
    row.fencingToken = token

/-- Since `earlier`, one `assert_current` that found no failed heartbeat, the source
authority valid, and the lease held by the owner with the token. -/
def CheckedSince (earlier : List (DeployEvent β γ)) (owner : String) (token : Int)
    (log : List (DeployEvent β γ)) : Prop :=
  ∃ w₁ w₂ w₃ row env, log = earlier ++ [⟨w₁, .heartbeatError, .ok none⟩,
      ⟨w₂, .revalidate, .ok ()⟩, ⟨w₃, .assertCurrent owner token, .ok row⟩] ∧
    WriterCurrent env w₃.globalWriterLease owner token (env.clock 0)

/-- The run's own attempt has just been found current. -/
def Authorized (log : List (DeployEvent β γ)) : Prop :=
  ∃ owner token, Attempt log owner ∧ Acquired log owner token ∧
    ∃ earlier, CheckedSince earlier owner token log

/-- What the calls of the deployment `d` so far allow the next one to be. -/
def Allowed (d : Deployment) (log : List (DeployEvent β γ)) : ControlCall (DeployCall β γ) → Prop
  | .user (.effect _) | .user (.persist _) => Authorized log ∧ Clean log
  | .acquire a => ∃ l : ControlLease, l.deployment = d ∧ a = l.acquireRequest
  | _ => True

theorem Clean.append {log : List (DeployEvent β γ)} {e : DeployEvent β γ} (h : Clean log)
    (he : ¬ Failed e) : Clean (log ++ [e]) := by
  intro x hx
  rcases List.mem_append.mp hx with hx | hx
  · exact h x hx
  · cases List.mem_singleton.mp hx
    exact he

theorem Attempt.append {log more : List (DeployEvent β γ)} {owner : String} (h : Attempt log owner) :
    Attempt (log ++ more) owner := by
  obtain ⟨w, id, hmem, howner⟩ := h
  exact ⟨w, id, List.mem_append_left _ hmem, howner⟩

theorem Acquired.append {log more : List (DeployEvent β γ)} {owner : String} {token : Int}
    (h : Acquired log owner token) : Acquired (log ++ more) owner token := by
  obtain ⟨w, a, row, hmem, howner, htoken⟩ := h
  exact ⟨w, a, row, List.mem_append_left _ hmem, howner, htoken⟩

/-! ## Rules -/

/-- The program meets what is allowed; when it answers, `P` holds. -/
abbrev Keeps {α : Type} (d : Deployment) (p : DeployScript β γ α) (P : α → List (DeployEvent β γ) → Prop)
    (log : List (DeployEvent β γ)) : Prop :=
  Meets (logged DeployServes) (Allowed d) p
    (fun r log' => match r with
      | .ok a => P a log'
      | .error _ => True) log

variable {d : Deployment} {α δ : Type} {log : List (DeployEvent β γ)} {P : α → List (DeployEvent β γ) → Prop}
  {Q : δ → List (DeployEvent β γ) → Prop}

/-- The call has been served and remembered. -/
def Answered (log : List (DeployEvent β γ)) (c : ControlCall (DeployCall β γ))
    (a : ControlAnswer DeployAnswer c) (log' : List (DeployEvent β γ)) : Prop :=
  ∃ w w', DeployServes w c (.ok a) w' ∧ log' = log ++ [⟨w, c, .ok a⟩]

theorem keeps_ask (c : ControlCall (DeployCall β γ)) (hc : Allowed d log c) :
    Keeps d (ask c) (Answered log c) log := by
  refine ⟨hc, fun r log' hr => ?_⟩
  obtain ⟨w, w', hserved, rfl⟩ := hr
  cases r with
  | ok a => exact ⟨w, w', hserved, rfl⟩
  | error e => trivial

theorem Keeps.bind {x : DeployScript β γ α} {f : α → DeployScript β γ δ} (hx : Keeps d x P log)
    (hf : ∀ a log', P a log' → Keeps d (f a) Q log') : Keeps d (x >>= f) Q log :=
  Meets.bind hx (fun a log' h => hf a log' h) fun _ _ _ => trivial

theorem keeps_require {c : Prop} {dec : Decidable c} {e : ControlError β γ}
    {P : Unit → List (DeployEvent β γ) → Prop} (h : c → P () log) :
    Keeps d (Script.require c e) P log :=
  meets_require.mpr ⟨h, fun _ => trivial⟩

theorem keeps_lift {x : Except (ControlError β γ) α} (h : ∀ a, x = .ok a → P a log) :
    Keeps d (lift x) P log := by
  refine meets_lift.mpr ?_
  cases hx : x with
  | ok a => exact h a hx
  | error e => trivial

/-- A call under `try`. -/
theorem keeps_try (c : ControlCall (DeployCall β γ)) (hc : Allowed d log c) :
    Keeps d (ask c).attempt (fun r log' => ∃ w w', DeployServes w c r w' ∧ log' = log ++ [⟨w, c, r⟩])
      log :=
  ⟨hc, fun _ _ hr => hr⟩

/-- A program under `try`: its handler may start from anything. -/
theorem Keeps.attempt {x : DeployScript β γ α} (h : Keeps d x P log) :
    Keeps d x.attempt (fun r log' => ∀ a, r = .ok a → P a log') log := by
  refine meets_attempt.mpr (Meets.mono h fun r log' hr a ha => ?_)
  subst ha
  exact hr

/-! ## The lease -/

variable {owner : String} {token : Int} {l : ControlLease}

/-- Nothing has failed in the attempt so far. -/
structure Started (d : Deployment) (l : ControlLease) (log : List (DeployEvent β γ)) : Prop where
  deployment : l.deployment = d
  clean : Clean log
  attempt : Attempt log l.ownerId

/-- And it has acquired the token. -/
structure Entered (d : Deployment) (l : ControlLease) (token : Int) (log : List (DeployEvent β γ)) :
    Prop extends Started d l log where
  acquired : Acquired log l.ownerId token

theorem Started.append {e : DeployEvent β γ} (h : Started d l log) (he : ¬ Failed e) :
    Started d l (log ++ [e]) :=
  ⟨h.deployment, h.clean.append he, h.attempt.append⟩

theorem Entered.append {e : DeployEvent β γ} (h : Entered d l token log) (he : ¬ Failed e) :
    Entered d l token (log ++ [e]) :=
  ⟨h.toStarted.append he, h.acquired.append⟩

/-- A check that answers leaves the run authorized. -/
theorem keeps_assertCurrent (h : Entered d l token log) :
    Keeps d (l.assertCurrent token) (fun _ log' => Entered d l token log' ∧ Authorized log' ∧
      CheckedSince log l.ownerId token log') log := by
  unfold ControlLease.assertCurrent
  refine (keeps_ask .heartbeatError trivial).bind ?_
  rintro heartbeat _ ⟨w₁, -, -, rfl⟩
  refine (keeps_require (P := fun _ log' => heartbeat = none ∧
    log' = log ++ [⟨w₁, .heartbeatError, .ok heartbeat⟩]) fun hnone => ⟨hnone, rfl⟩).bind ?_
  rintro - _ ⟨rfl, rfl⟩
  have h₁ : Entered d l token (log ++ [⟨w₁, .heartbeatError, .ok none⟩]) := h.append id
  refine (keeps_ask .revalidate trivial).bind ?_
  rintro - _ ⟨w₂, -, -, rfl⟩
  have h₂ := h₁.append (e := ⟨w₂, .revalidate, .ok ()⟩) id
  refine (keeps_try (.assertCurrent l.ownerId token) trivial).bind ?_
  rintro r _ ⟨w₃, _, ⟨-, hserved⟩, rfl⟩
  cases r with
  | error e =>
    split
    · trivial
    · trivial
    · trivial
  | ok row =>
    obtain ⟨env, hassert⟩ := hserved row rfl
    have hcurrent := (assertCurrentGlobalWriter_ok hassert).1
    have h₃ := h₂.append (e := ⟨w₃, .assertCurrent l.ownerId token, .ok row⟩) id
    have hlog : log ++ [⟨w₁, .heartbeatError, .ok none⟩] ++ [⟨w₂, .revalidate, .ok ()⟩] ++
        [⟨w₃, .assertCurrent l.ownerId token, .ok row⟩] = log ++
          ([⟨w₁, .heartbeatError, .ok none⟩, ⟨w₂, .revalidate, .ok ()⟩,
            ⟨w₃, .assertCurrent l.ownerId token, .ok row⟩] : List (DeployEvent β γ)) := by
      simp only [List.append_assoc, List.cons_append, List.nil_append]
    have hchecked : CheckedSince log l.ownerId token _ := ⟨w₁, w₂, w₃, row, env, hlog, hcurrent⟩
    exact ⟨h₃, ⟨l.ownerId, token, h₃.attempt, h₃.acquired, log, hchecked⟩, hchecked⟩

/-- The attempt is started before anything is acquired. -/
theorem keeps_newControlLease (d : Deployment) (h : Clean log) :
    Keeps d (newControlLease d) (fun l log' => Started d l log') log := by
  unfold newControlLease
  refine (keeps_require (P := fun _ log' => log = log') fun _ => rfl).bind ?_
  rintro - _ rfl
  refine (keeps_require (P := fun _ log' => log = log') fun _ => rfl).bind ?_
  rintro - _ rfl
  refine (keeps_try .schemaVersion trivial).bind ?_
  rintro version _ ⟨w, -, -, rfl⟩
  have h₁ : Clean (log ++ [⟨w, .schemaVersion, version⟩]) := h.append id
  refine (keeps_require (P := fun _ log' => log' = _) fun _ => rfl).bind ?_
  rintro - _ rfl
  refine (keeps_ask .newAttempt trivial).bind ?_
  rintro attemptId _ ⟨w', -, -, rfl⟩
  have h₂ := h₁.append (e := ⟨w', .newAttempt, .ok attemptId⟩) id
  have hattempt : Attempt (log ++ [⟨w, .schemaVersion, version⟩] ++
      [⟨w', .newAttempt, .ok attemptId⟩]) (w08WriterClass ++ ":" ++ attemptId) :=
    ⟨w', attemptId, List.mem_append_right _ (List.mem_singleton.mpr rfl), rfl⟩
  refine (keeps_lift (P := fun _ log' => log' = _) fun _ _ => rfl).bind ?_
  rintro acquireKey _ rfl
  refine (keeps_lift (P := fun _ log' => log' = _) fun _ _ => rfl).bind ?_
  rintro releaseKey _ rfl
  exact ⟨rfl, h₂, hattempt⟩

/-- One acquisition, under `try`. -/
theorem keeps_acquireOnce (h : Started d l log) :
    Keeps d l.acquireOnce.attempt (fun r log' => Started d l log' ∧
      ∀ row, r = .ok row → Entered d l row.fencingToken log') log := by
  refine (keeps_try (.acquire l.acquireRequest) ⟨l, h.deployment, rfl⟩).mono ?_
  rintro (e | r) log' hr
  · trivial
  obtain ⟨w, w', -, rfl⟩ := hr
  have hstarted := h.append (e := ⟨w, .acquire l.acquireRequest, r⟩) id
  refine ⟨hstarted, ?_⟩
  rintro row rfl
  exact ⟨hstarted, w, l.acquireRequest, row, List.mem_append_right _ (List.mem_singleton.mpr rfl),
    rfl, rfl⟩

/-- A call of the wait or of the entry, of which only its answer is needed. -/
theorem keeps_quiet (c : ControlCall (DeployCall β γ)) (hc : Allowed d log c) (h : Started d l log)
    (hf : ∀ w a, ¬ Failed ⟨w, c, .ok a⟩) : Keeps d (ask c) (fun _ log' => Started d l log') log := by
  refine (keeps_ask c hc).mono ?_
  rintro (e | a) log' hr
  · trivial
  obtain ⟨w, w', -, rfl⟩ := hr
  exact h.append (hf w a)

theorem keeps_wait {c : Prop} [Decidable c] {attempts : Nat} (h : Started d l log) :
    Keeps d (ControlLease.waitRequire c attempts) (fun _ log' => Started d l log') log :=
  keeps_require fun _ => h

theorem keeps_beforeAttempt (deadline : Int) (attempts : Nat) (h : Started d l log) :
    Keeps d (ControlLease.beforeAttempt deadline attempts) (fun _ log' => Started d l log') log := by
  unfold ControlLease.beforeAttempt
  by_cases hpos : 0 < attempts
  · rw [if_pos hpos]
    exact (keeps_quiet .monotonic trivial h fun _ _ => id).bind fun _ _ h => keeps_wait h
  · rw [if_neg hpos]
    exact h

theorem keeps_beforeRetry (deadline : Int) (attempts : Nat) (h : Started d l log) :
    Keeps d (ControlLease.beforeRetry deadline attempts) (fun _ log' => Started d l log') log := by
  unfold ControlLease.beforeRetry
  refine (keeps_quiet .monotonic trivial h fun _ _ => id).bind fun now _ h => ?_
  refine (keeps_wait h).bind fun _ _ h => (keeps_wait h).bind fun _ _ h => ?_
  refine (keeps_quiet (.sleep _) trivial h fun _ _ => id).bind fun _ _ h => ?_
  refine (keeps_quiet .monotonic trivial h fun _ _ => id).bind fun _ _ h => ?_
  exact (keeps_wait h).bind fun _ _ h => keeps_quiet .revalidate trivial h fun _ _ => id

/-- The wait acquires for its own owner, or raises. -/
theorem keeps_acquireRetry (deadline : Int) (attempts left : Nat) (h : Started d l log) :
    Keeps d (l.acquireRetry deadline attempts left)
      (fun row log' => Entered d l row.fencingToken log') log := by
  induction left generalizing attempts log with
  | zero => trivial
  | succ left ih =>
    unfold ControlLease.acquireRetry
    refine (keeps_beforeAttempt deadline attempts h).bind fun _ _ h => ?_
    refine (keeps_acquireOnce h).bind fun r log' hr => ?_
    cases r with
    | ok row => exact hr.2 row rfl
    | error e =>
      by_cases hheld : ControlLease.heldByOther e = true
      · simp only [hheld, if_true]
        exact (keeps_beforeRetry deadline (attempts + 1) hr.1).bind fun _ _ h => ih (attempts + 1) h
      · simp only [hheld]
        trivial

theorem keeps_acquire (h : Started d l log) :
    Keeps d l.acquireWithOptionalWait (fun row log' => Entered d l row.fencingToken log') log := by
  unfold ControlLease.acquireWithOptionalWait
  by_cases hwait : l.deployment.boundedAcquireWait = true
  · rw [if_pos hwait]
    exact (keeps_quiet .monotonic trivial h fun _ _ => id).bind fun now _ h =>
      keeps_acquireRetry _ _ _ h
  · rw [if_neg hwait]
    refine (meets_attempt.mp (keeps_acquireOnce h)).mono ?_
    rintro (e | row) log' hr
    · trivial
    · exact hr.2 row rfl

/-! ## The deployment -/

theorem keeps_entered (h : Entered d l token log) :
    Keeps d (l.entered token) (fun _ log' => Entered d l token log') log := by
  unfold ControlLease.entered
  refine (keeps_assertCurrent h).bind fun _ _ hr => ?_
  refine (keeps_ask .nestedAuthority trivial).bind ?_
  rintro nested _ ⟨w, -, -, rfl⟩
  have h₁ := hr.1.append (e := ⟨w, .nestedAuthority, .ok nested⟩) id
  refine (keeps_require (P := fun _ log' => Entered d l token log') fun _ => h₁).bind fun _ log' h => ?_
  refine (keeps_ask (.assertCurrent l.ownerId token) trivial).bind ?_
  rintro row _ ⟨w, -, -, rfl⟩
  have h₂ := h.append (e := ⟨w, .assertCurrent l.ownerId token, .ok row⟩) id
  by_cases hstart : l.deployment.startHeartbeat = true
  · simp only [hstart, if_true]
    refine (keeps_ask .startHeartbeat trivial).mono ?_
    rintro (e | a) _ hr
    · trivial
    obtain ⟨w, w', -, rfl⟩ := hr
    exact h₂.append id
  · simp only [hstart]
    exact h₂

theorem keeps_enter (h : Started d l log) :
    Keeps d l.enter (fun token log' => Entered d l token log') log := by
  unfold ControlLease.enter
  refine (keeps_quiet .revalidate trivial h fun _ _ => id).bind fun _ _ h => ?_
  refine (keeps_acquire h).bind fun row log' h => ?_
  refine (keeps_entered h).attempt.bind fun r log' hr => ?_
  cases r with
  | ok _ => exact hr () rfl
  | error e => exact (keeps_try (.release _) trivial).bind fun _ _ _ => trivial

/-- The calls of a step are the two of its own index. -/
def Atomic (step : DeploymentStep (DeployAnswer (β := β) (γ := γ)) β γ) : Prop :=
  ∃ index, step.effect = ask (.user (DeployCall.effect index)) ∧
    ∀ r, step.readback r = ask (.user (DeployCall.readback index r))

theorem keeps_keepsAuthority (evidence : List (EffectEvidence β γ)) (h : Entered d l token log) :
    Keeps d (keepsAuthority l token evidence)
      (fun _ log' => Entered d l token log' ∧ CheckedSince log l.ownerId token log') log := by
  unfold keepsAuthority
  refine (keeps_assertCurrent h).attempt.bind fun r log' hr => ?_
  cases r with
  | ok _ => exact ⟨(hr () rfl).1, (hr () rfl).2.2⟩
  | error e => trivial

/-- Every effect comes right after a check, whatever happened in the steps before it. -/
theorem keeps_runSteps {steps : List (DeploymentStep (DeployAnswer (β := β) (γ := γ)) β γ)}
    (hsteps : ∀ step ∈ steps, Atomic step) (index : Nat) (evidence : List (EffectEvidence β γ))
    (h : Entered d l token log) :
    Keeps d (runSteps l token steps index evidence) (fun _ log' => Entered d l token log') log := by
  induction steps generalizing index evidence log with
  | nil => exact h
  | cons step steps ih =>
    obtain ⟨i, heffect, hreadback⟩ := hsteps step (List.mem_cons_self ..)
    unfold runSteps
    refine (keeps_lift (P := fun _ log' => Entered d l token log') fun _ _ => h).bind
      fun operationId _ h => ?_
    refine (keeps_assertCurrent h).bind fun _ _ hr => ?_
    rw [heffect]
    refine (keeps_ask (.user (.effect i)) ⟨hr.2.1, hr.1.clean⟩).bind ?_
    rintro effectResult _ ⟨w, -, -, rfl⟩
    have h₁ := hr.1.append (e := ⟨w, .user (.effect i), .ok effectResult⟩) id
    simp only [hreadback]
    refine (keeps_ask (.user (.readback i effectResult)) trivial).bind ?_
    rintro readback _ ⟨w', -, -, rfl⟩
    have h₂ := h₁.append (e := ⟨w', .user (.readback i effectResult), .ok readback⟩) id
    refine (keeps_keepsAuthority _ h₂).bind fun _ _ hr => ?_
    exact ih (fun s hs => hsteps s (List.mem_cons_of_mem _ hs)) _ _ hr.1

/-- What has been persisted is followed by one more check. -/
theorem keeps_runUnderLease {steps : List (DeploymentStep (DeployAnswer (β := β) (γ := γ)) β γ)}
    (hsteps : ∀ step ∈ steps, Atomic step) (h : Entered d l token log) :
    Keeps d (runUnderLease l token steps fun evidence => ask (.user (DeployCall.persist evidence)))
      (fun evidence log' => Entered d l token log' ∧
        ∃ earlier w, CheckedSince (earlier ++ [⟨w, .user (.persist evidence), .ok ()⟩])
          l.ownerId token log') log := by
  unfold runUnderLease
  refine (keeps_runSteps hsteps 0 [] h).bind fun evidence _ h => ?_
  refine (keeps_assertCurrent h).bind fun _ log' hr => ?_
  refine (keeps_ask (.user (.persist evidence)) ⟨hr.2.1, hr.1.clean⟩).bind ?_
  rintro - _ ⟨w, -, -, rfl⟩
  have h₁ := hr.1.append (e := ⟨w, .user (.persist evidence), .ok ()⟩) id
  refine (keeps_keepsAuthority evidence h₁).bind fun _ _ hr => ?_
  exact ⟨hr.1, log', w, hr.2⟩

/-- The run answered after its result was persisted, the attempt was found current once
more, and its release was committed. -/
def Finished (evidence : List (EffectEvidence β γ)) (log : List (DeployEvent β γ)) : Prop :=
  ∃ owner token earlier w checked w₁ w₂ a row, Attempt checked owner ∧ Acquired checked owner token ∧
    CheckedSince (earlier ++ [⟨w, .user (.persist evidence), .ok ()⟩]) owner token checked ∧
    log = checked ++ [⟨w₁, .stopHeartbeat, .ok ()⟩, ⟨w₂, .release a, .ok row⟩] ∧
    a.ownerId = owner ∧ a.fencingToken = token ∧
    ∃ env g w', releaseWriterTx env a w₂ = .ok (g, w')

/-- The exit answers the body's result, after a release that is known to have worked. -/
theorem keeps_exit {result : Except (ControlError β γ) α} (token : Int) :
    Keeps d (l.exit token result) (fun a log' => result = .ok a ∧
      ∃ w₁ w₂ r row, log' = log ++ [⟨w₁, .stopHeartbeat, .ok ()⟩, ⟨w₂, .release r, .ok row⟩] ∧
        r.ownerId = l.ownerId ∧ r.fencingToken = token ∧
        ∃ env g w', releaseWriterTx env r w₂ = .ok (g, w')) log := by
  unfold ControlLease.exit
  refine (keeps_ask .stopHeartbeat trivial).bind ?_
  rintro - _ ⟨w₁, -, -, rfl⟩
  refine (keeps_try (.release _) trivial).bind ?_
  rintro r _ ⟨w₂, w₂', hserved, rfl⟩
  cases r with
  | error e =>
    cases result with
    | ok a => trivial
    | error e' => trivial
  | ok row =>
    refine keeps_lift fun a ha => ⟨ha, w₁, w₂, _, row, ?_, rfl, rfl, ?_⟩
    · simp only [List.append_assoc, List.cons_append, List.nil_append]
    · obtain ⟨env, g, _, _, hcommit, -⟩ := hserved
      exact ⟨env, g, w₂', hcommit⟩

/-- A deployment from its first call. -/
theorem runControlledDeployment_meets (d : Deployment)
    {steps : List (DeploymentStep (DeployAnswer (β := β) (γ := γ)) β γ)}
    (hsteps : ∀ step ∈ steps, Atomic step) :
    Keeps d (runControlledDeployment d steps fun evidence => ask (.user (DeployCall.persist evidence)))
      Finished [] := by
  unfold runControlledDeployment
  refine (keeps_ask .writerEvents trivial).bind ?_
  rintro events _ ⟨w, -, -, rfl⟩
  have hclean : Clean ([] ++ [(⟨w, .writerEvents, .ok events⟩ : DeployEvent β γ)]) :=
    Clean.append (fun _ h => nomatch h) id
  cases hprior : priorAcquire d.changeId d.deploymentId events with
  | some prior =>
    simp only
    trivial
  | none =>
    simp only [runLeased]
    refine (keeps_newControlLease d hclean).bind fun l _ h => ?_
    refine (keeps_enter h).bind fun token _ h => ?_
    refine (keeps_runUnderLease hsteps h).attempt.bind fun result log' hr => ?_
    refine (keeps_exit token).mono ?_
    rintro (e | evidence) _ hr'
    · trivial
    obtain ⟨rfl, w₁, w₂, r, row, rfl, howner, htoken, hcommit⟩ := hr'
    obtain ⟨hentered, earlier, w, hchecked⟩ := hr evidence rfl
    exact ⟨l.ownerId, token, earlier, w, log', w₁, w₂, r, row, hentered.attempt, hentered.acquired,
      hchecked, rfl, howner, htoken, hcommit⟩

theorem deployStep_atomic {names : List String} :
    ∀ step ∈ names.mapIdx (deployStep (β := β) (γ := γ)), Atomic step := by
  intro step hstep
  obtain ⟨i, hi, rfl⟩ := List.mem_mapIdx.mp hstep
  exact ⟨i, rfl, fun _ => rfl⟩

/-- **No effect without authority.** In every run of a deployment, whatever its calls
answer and whatever other parties do to the store between them: every effect comes
directly after a check that saw the source authority valid and the lease held by this
attempt's owner and token; after a check that refused, no effect and no persisting
follows; and the run answers normally only when the attempt was found current after the
persisting and its release was committed. -/
theorem no_effect_without_authority (d : Deployment) (names : List String)
    {p : DeployScript β γ (List (EffectEvidence β γ))} {log : List (DeployEvent β γ)}
    (run : Steps (logged DeployServes) (deploy d names) [] p log) :
    Each (fun before e => Allowed d before e.made) log ∧
      ∀ evidence, p = .done (.ok evidence) → Finished evidence log := by
  have hmeets : Keeps d (deploy d names) Finished [] :=
    runControlledDeployment_meets d (deployStep_atomic (β := β) (γ := γ))
  refine ⟨run.each hmeets Each.nil, ?_⟩
  rintro evidence rfl
  exact hmeets.ended run

/-! ## A deployment of one step

Its calls on a store that no one else uses, from a free lease to a free lease. -/

open Adcp.L4 (sampleEnv sampleExpiry)

theorem canonicalJson_ok {v : Json} (h : v.noFloat = true) :
    canonicalJson v = .ok (String.ofList v.render) := if_pos h

theorem operationKey_ok {operation : String} {v : Json} (h : v.noFloat = true) :
    operationKey operation v = .ok (Sha256.hexdigest (Sha256.utf8
      ("v1|" ++ operation ++ "|" ++ String.ofList v.render).toList)) := by
  unfold operationKey
  rw [canonicalJson_ok h]
  rfl

abbrev sampleDeployment : Deployment where
  changeId := "c"
  deploymentId := "d"
  controlDecisionRef := none
  startHeartbeat := false
  boundedAcquireWait := false

def attemptKey (operation attemptId : String) : String :=
  Sha256.hexdigest (Sha256.utf8
    ("v1|" ++ operation ++ "|" ++ String.ofList (sampleDeployment.identity attemptId).render).toList)

theorem attemptKey_sha256 (operation attemptId : String) :
    isSha256 (attemptKey operation attemptId) = true := isSha256_hexdigest _

theorem identity_noFloat (attemptId : String) :
    (sampleDeployment.identity attemptId).noFloat = true := by
  simp [Deployment.identity, Json.noFloat, Json.noFloatFields]

abbrev sampleLease (attemptId : String) : ControlLease where
  deployment := sampleDeployment
  ownerId := w08WriterClass ++ ":" ++ attemptId
  attemptId := attemptId
  acquireOperationKey := attemptKey "global-production-control-acquire" attemptId
  releaseOperationKey := attemptKey "global-production-control-release" attemptId

abbrev releaseOf (attemptId : String) (token : Int) : ReleaseWriter :=
  (sampleLease attemptId).releaseRequest token "GLOBAL_PRODUCTION_WRITER_RELEASED"

def acquireText (attemptId : String) : String :=
  String.ofList (Json.obj [("context", (sampleLease attemptId).acquireRequest.context.json),
    ("ttl_seconds", .int 60), ("control_decision_ref", .null)]).render

def releaseText (attemptId : String) (token : Int) : String :=
  String.ofList (Json.obj [("owner_id", .str (w08WriterClass ++ ":" ++ attemptId)),
    ("fencing_token", .int token), ("reason", .str "GLOBAL_PRODUCTION_WRITER_RELEASED"),
    ("control_decision_ref", .null)]).render

/-- The events of an attempt that acquired `token + 1`, and of its release. -/
abbrev acquiredEvent (attemptId : String) (token : Int) : GlobalWriterEvent :=
  grantedEvent (sampleLease attemptId).acquireRequest ("acquired by " ++ attemptId)
    (acquireText attemptId) token .epoch

abbrev releasedByEvent (attemptId : String) (token : Int) : GlobalWriterEvent :=
  releasedEvent (releaseOf attemptId token) ("released by " ++ attemptId) (releaseText attemptId token)
    (sampleLease attemptId).acquireRequest.context .epoch

/-- The store while no one holds the lease. -/
abbrev freeDb (token : Int) (events : List GlobalWriterEvent) : Db :=
  { Db.init with globalWriterLease := freedLease token .epoch, globalWriterEvent := events }

/-- The store while the attempt holds it. -/
abbrev heldDb (attemptId : String) (token : Int) (events : List GlobalWriterEvent) : Db :=
  { Db.init with
    globalWriterLease := grantedRow (sampleLease attemptId).acquireRequest token .epoch sampleExpiry
    globalWriterEvent := events }

theorem epoch_expires : (Timestamp.epoch.addSeconds 60 : Except PyError Timestamp) = .ok sampleExpiry := by
  simp [Timestamp.addSeconds, Timestamp.epoch, maxMicros]

variable {attemptId : String}

theorem acquiredEvent_checks (htoken : 0 ≤ token) : writerEventChecks (acquiredEvent attemptId token) =
    true := by
  have hid : 0 < sqliteLength ("acquired by " ++ attemptId) := by simp [sqliteLength]
  have htext : 0 < sqliteLength (acquireText attemptId) := sqliteLength_render_obj _
  have hreason : 0 < sqliteLength "GLOBAL_PRODUCTION_WRITER_ACQUIRED" := by simp [sqliteLength]
  have hnext : 0 ≤ token + 1 := by omega
  simp [writerEventChecks, grantedEvent, hid, htext, hreason, htoken, hnext,
    ControlLease.acquireRequest, sqlNullOrNonEmpty, WriterContext.empty]

theorem releasedByEvent_checks (htoken : 0 ≤ token) :
    writerEventChecks (releasedByEvent attemptId token) = true := by
  have hid : 0 < sqliteLength ("released by " ++ attemptId) := by simp [sqliteLength]
  have htext : 0 < sqliteLength (releaseText attemptId token) := sqliteLength_render_obj _
  have hreason : 0 < sqliteLength "GLOBAL_PRODUCTION_WRITER_RELEASED" := by simp [sqliteLength]
  simp [writerEventChecks, releasedEvent, hid, htext, hreason, htoken, ControlLease.acquireRequest,
    ControlLease.releaseRequest, sqlNullOrNonEmpty, WriterContext.empty]

theorem acquireText_canonical (attemptId : String) :
    canonicalJson (.obj [("context", (sampleLease attemptId).acquireRequest.context.json),
      ("ttl_seconds", .int (sampleLease attemptId).acquireRequest.ttlSeconds),
      ("control_decision_ref", .ofOption (sampleLease attemptId).acquireRequest.controlDecisionRef)]) =
        .ok (acquireText attemptId) := by
  unfold acquireText
  exact canonicalJson_ok (by simp [Json.noFloat, Json.noFloatFields, WriterContext.json,
    Json.noFloat_ofOption])

theorem releaseText_canonical (attemptId : String) (token : Int) :
    canonicalJson (.obj [("owner_id", .str (releaseOf attemptId token).ownerId),
      ("fencing_token", .int (releaseOf attemptId token).fencingToken),
      ("reason", .str (releaseOf attemptId token).reason),
      ("control_decision_ref", .ofOption (releaseOf attemptId token).controlDecisionRef)]) =
        .ok (releaseText attemptId token) := by
  unfold releaseText
  exact canonicalJson_ok (by simp [Json.noFloat, Json.noFloatFields, Json.noFloat_ofOption])

theorem sampleContext_valid (attemptId : String) (hid : attemptId ≠ "") (db : Db) :
    validateGlobalWriterContext (sampleLease attemptId).acquireRequest.context db = .ok ((), db) := by
  unfold validateGlobalWriterContext
  refine Tx.requireAll_bind_ok.mpr ⟨?_, Tx.requireAll_ok.mpr ⟨?_, rfl⟩⟩
  · simp [WriterContext.requiredFields, ControlLease.acquireRequest, nonEmptyText, w08WriterClass]
  · simp [WriterContext.optionalFields, ControlLease.acquireRequest, nullOrNonEmpty, hid]

theorem freeRow_checks (env : Env) (htoken : 0 ≤ token) :
    writerRowChecks env (freedLease token .epoch) = true := by
  simp [writerRowChecks, freedLease, htoken, WriterContext.optionalFields, WriterContext.empty,
    sqlNullOrNonEmpty]

variable {events : List GlobalWriterEvent}

/-- The attempt's row passes the checks of its table, in a sample surrounding. -/
abbrev RowFits (attemptId : String) (token : Int) : Prop :=
  ∀ eventId, writerRowChecks (sampleEnv eventId)
    (grantedRow (sampleLease attemptId).acquireRequest token .epoch sampleExpiry) = true

/-- Neither the event id nor the key is in the log. -/
abbrev NewTo (events : List GlobalWriterEvent) (eventId key : String) : Prop :=
  ∀ e ∈ events, e.eventId ≠ eventId ∧ e.operationKey ≠ key

theorem NewTo.find {eventId key : String} (h : NewTo events eventId key) :
    events.find? (·.operationKey = key) = none :=
  List.find?_eq_none.mpr fun e he => by simpa using (h e he).2

theorem NewTo.unique {eventId key : String} (h : NewTo events eventId key) :
    (events.all fun e => e.eventId ≠ eventId ∧ e.operationKey ≠ key) = true :=
  List.all_eq_true.mpr fun e he => decide_eq_true (h e he)

theorem sample_unexpired (attemptId eventId : String) (token : Int) :
    writerUnexpired (sampleEnv eventId) (grantedRow (sampleLease attemptId).acquireRequest token .epoch
      sampleExpiry) .epoch = true := by
  have h : writerUnexpired (sampleEnv "") (grantedRow (sampleLease "").acquireRequest 0 .epoch
      sampleExpiry) .epoch = true := by decide +kernel
  exact h

/-- The attempt that holds the lease is found current. -/
theorem held_current (htoken : 0 ≤ token) (hrow : RowFits attemptId token) (eventId : String)
    (n : Nat) : assertCurrentGlobalWriter (sampleEnv eventId) n (sampleLease attemptId).ownerId token
      (heldDb attemptId token events) =
        .ok ((heldDb attemptId token events).globalWriterLease, heldDb attemptId token events) := by
  have howner : (sampleLease attemptId).ownerId ≠ "" := by simp [w08WriterClass]
  exact assertCurrentGlobalWriter_current howner htoken (writerRowChecks_valid (hrow eventId))
    ⟨rfl, rfl, rfl, sample_unexpired attemptId eventId token⟩

theorem serves_held_current (events : List GlobalWriterEvent) (htoken : 0 ≤ token) (hrow : RowFits attemptId token) :
    @DeployServes Unit Unit (heldDb attemptId token events)
      (.assertCurrent (sampleLease attemptId).ownerId token)
      (.ok (heldDb attemptId token events).globalWriterLease) (heldDb attemptId token events) := by
  refine ⟨rfl, fun row hr => ?_⟩
  cases hr
  exact ⟨sampleEnv "", held_current htoken hrow "" 0⟩

/-- A free lease is granted to an attempt whose key is new to the log. -/
theorem serves_free_acquired (hid : attemptId ≠ "") (htoken : 0 ≤ token)
    (hrow : RowFits attemptId (token + 1))
    (hnew : NewTo events ("acquired by " ++ attemptId) (sampleLease attemptId).acquireOperationKey) :
    @DeployServes Unit Unit (freeDb token events) (.acquire (sampleLease attemptId).acquireRequest)
      (.ok (heldDb attemptId (token + 1) []).globalWriterLease)
      (heldDb attemptId (token + 1) (events ++ [acquiredEvent attemptId token])) := by
  have httl : minLeaseTtlSeconds ≤ defaultLeaseTtlSeconds ∧
      defaultLeaseTtlSeconds ≤ maxLeaseTtlSeconds := by decide
  have hcommit : acquireWriterTx (sampleEnv ("acquired by " ++ attemptId))
      (sampleLease attemptId).acquireRequest (freeDb token events) = .ok (.fresh (token + 1),
        heldDb attemptId (token + 1) (events ++ [acquiredEvent attemptId token])) :=
    acquireWriterTx_free (attemptKey_sha256 _ _) httl rfl (sampleContext_valid _ hid _)
      (acquireText_canonical _) epoch_expires hnew.find
      (writerRowChecks_valid (freeRow_checks _ htoken)) rfl (hrow _) (acquiredEvent_checks htoken)
      hnew.unique fun _ => rfl
  have hnext : 0 ≤ token + 1 := by omega
  refine ⟨_, _, heldDb attemptId (token + 1) [], heldDb attemptId (token + 1) [], hcommit, ?_⟩
  unfold acquireReadBack
  exact Tx.bind_ok.mpr ⟨_, _, held_current hnext hrow _ 1, Tx.require_bind_ok.mpr ⟨rfl, rfl⟩⟩

/-- The attempt that holds the lease releases it. -/
theorem serves_held_released (htoken : 0 ≤ token) (hrow : RowFits attemptId token)
    (hnew : NewTo events ("released by " ++ attemptId) (sampleLease attemptId).releaseOperationKey) :
    @DeployServes Unit Unit (heldDb attemptId token events) (.release (releaseOf attemptId token))
      (.ok (freeDb token []).globalWriterLease)
      (freeDb token (events ++ [releasedByEvent attemptId token])) := by
  have hreason : "GLOBAL_PRODUCTION_WRITER_RELEASED" ≠ "" := by decide
  have hlater : (some sampleExpiry).any (Timestamp.epoch < ·) = true := by decide +kernel
  have hcommit : releaseWriterTx (sampleEnv ("released by " ++ attemptId)) (releaseOf attemptId token)
      (heldDb attemptId token events) = .ok (.fresh token,
        freeDb token (events ++ [releasedByEvent attemptId token])) :=
    releaseWriterTx_current (attemptKey_sha256 _ _) hreason rfl htoken (releaseText_canonical _ _)
      hnew.find (writerRowChecks_valid (hrow _)) ⟨rfl, rfl, rfl, sample_unexpired _ _ _⟩ hlater
      (releasedByEvent_checks htoken) hnew.unique fun _ => rfl
  refine ⟨_, _, freeDb token [], freeDb token [], hcommit, ?_⟩
  unfold readBackFree
  exact getLease_bind_ok.mpr ⟨writerRowChecks_valid (freeRow_checks _ htoken),
    Tx.require_bind_ok.mpr ⟨⟨rfl, rfl⟩, rfl⟩⟩

/-! ### The run -/

abbrev SampleRuns {α : Type} (p : DeployScript Unit Unit α) (w : Db)
    (r : Except (ControlError Unit Unit) α) (w' : Db) (events : List (DeployEvent Unit Unit)) : Prop :=
  Runs DeployServes p w r w' events

theorem runs_assertCurrent {l : ControlLease} {row : GlobalWriterLease} {db : Db}
    (h : @DeployServes Unit Unit db (.assertCurrent l.ownerId token) (.ok row) db) :
    ∃ events, SampleRuns (l.assertCurrent token) db (.ok ()) db events := by
  unfold ControlLease.assertCurrent
  have hheartbeat : @DeployServes Unit Unit db .heartbeatError (.ok none) db := rfl
  have hrevalidate : @DeployServes Unit Unit db .revalidate (.ok ()) db := rfl
  exact ⟨_, (Runs.call hheartbeat).bind ((Runs.require rfl).bind
    ((Runs.call hrevalidate).bind ((Runs.call h).attempt.bind Runs.done)))⟩

theorem attemptKey_ok (operation attemptId : String) :
    (operationKey operation (sampleDeployment.identity attemptId)).mapError
      (ControlError.raised (β := Unit) (γ := Unit)) = .ok (attemptKey operation attemptId) := by
  rw [operationKey_ok (identity_noFloat attemptId)]
  rfl

theorem runs_newControlLease (attemptId : String) (db : Db) :
    ∃ events, SampleRuns (newControlLease sampleDeployment) db (.ok (sampleLease attemptId)) db events := by
  unfold newControlLease
  have hschema : @DeployServes Unit Unit db .schemaVersion (.ok (some 7)) db := rfl
  have hattempt : @DeployServes Unit Unit db .newAttempt (.ok attemptId) db := rfl
  exact ⟨_, (Runs.require (by decide)).bind ((Runs.require (by decide)).bind
    ((Runs.call hschema).attempt.bind ((Runs.require rfl).bind ((Runs.call hattempt).bind
      ((Runs.lift (attemptKey_ok _ _)).bind ((Runs.lift (attemptKey_ok _ _)).bind Runs.done))))))⟩

/-- The step's effect, served while the attempt holds the lease. -/
abbrev sampleEffect (w : Db) : DeployEvent Unit Unit := ⟨w, .user (.effect 0), .ok ()⟩

abbrev samplePersist (evidence : List (EffectEvidence Unit Unit)) : DeployScript Unit Unit Unit :=
  ask (.user (DeployCall.persist evidence))

theorem runs_keepsAuthority {l : ControlLease} {db : Db} {checks : List (DeployEvent Unit Unit)}
    (h : SampleRuns (l.assertCurrent token) db (.ok ()) db checks)
    (evidence : List (EffectEvidence Unit Unit)) :
    SampleRuns (keepsAuthority l token evidence) db (.ok ()) db (checks ++ []) :=
  h.attempt.bind Runs.done

/-- The step, under a lease that stays held. -/
theorem runs_steps {l : ControlLease} {row : GlobalWriterLease} {db : Db}
    (h : @DeployServes Unit Unit db (.assertCurrent l.ownerId token) (.ok row) db) :
    ∃ evidence made, sampleEffect db ∈ made ∧ SampleRuns
      (runSteps l token (["step"].mapIdx deployStep) 0 []) db (.ok evidence) db made := by
  obtain ⟨checks, hassert⟩ := runs_assertCurrent h
  have heffect : @DeployServes Unit Unit db (.user (.effect 0)) (.ok ()) db := rfl
  have hreadback : @DeployServes Unit Unit db (.user (.readback 0 ())) (.ok ()) db := rfl
  have hnoFloat : (Json.obj [("deployment_id", .str l.deployment.deploymentId), ("index", .int 0),
      ("step", .str "step")]).noFloat = true := by simp [Json.noFloat, Json.noFloatFields]
  have hkey := congrArg (Except.mapError (ControlError.raised (β := Unit) (γ := Unit)))
    (@operationKey_ok "controlled-production-deployment-step" _ hnoFloat)
  refine ⟨_, _, ?_, (Runs.lift hkey).bind (hassert.bind ((Runs.call heffect).bind
    ((Runs.call hreadback).bind ((runs_keepsAuthority hassert _).bind Runs.done))))⟩
  simp

/-- The whole body. -/
theorem runs_underLease {l : ControlLease} {row : GlobalWriterLease} {db : Db}
    (h : @DeployServes Unit Unit db (.assertCurrent l.ownerId token) (.ok row) db) :
    ∃ evidence made, sampleEffect db ∈ made ∧ SampleRuns
      (runUnderLease l token (["step"].mapIdx deployStep) samplePersist) db (.ok evidence) db made := by
  obtain ⟨checks, hassert⟩ := runs_assertCurrent h
  obtain ⟨evidence, made, hmem, hsteps⟩ := runs_steps h
  have hpersist : @DeployServes Unit Unit db (.user (.persist evidence)) (.ok ()) db := rfl
  exact ⟨evidence, _, List.mem_append_left _ hmem, hsteps.bind (hassert.bind
    ((Runs.call hpersist).bind ((runs_keepsAuthority hassert _).bind Runs.done)))⟩

/-- A free lease is entered. -/
theorem runs_enter (hid : attemptId ≠ "") (htoken : 0 ≤ token) (hrow : RowFits attemptId (token + 1))
    (hacquire : NewTo events ("acquired by " ++ attemptId) (sampleLease attemptId).acquireOperationKey) :
    ∃ made, SampleRuns (sampleLease attemptId).enter (freeDb token events) (.ok (token + 1))
      (heldDb attemptId (token + 1) (events ++ [acquiredEvent attemptId token])) made := by
  have hnext : 0 ≤ token + 1 := by omega
  have hcurrent := serves_held_current (events ++ [acquiredEvent attemptId token]) hnext hrow
  obtain ⟨checks, hassert⟩ := runs_assertCurrent hcurrent
  have hrevalidate : @DeployServes Unit Unit (freeDb token events) .revalidate (.ok ())
    (freeDb token events) := rfl
  have hnested : @DeployServes Unit Unit (heldDb attemptId (token + 1) (events ++
      [acquiredEvent attemptId token])) .nestedAuthority (.ok false) _ := rfl
  have hentered : SampleRuns ((sampleLease attemptId).entered (token + 1)) _ (.ok ()) _ _ :=
    hassert.bind ((Runs.call hnested).bind ((Runs.require rfl).bind ((Runs.call hcurrent).bind
      Runs.done)))
  refine ⟨_, (Runs.call hrevalidate).bind ((Runs.call (serves_free_acquired hid htoken hrow
    hacquire)).bind (Runs.bind (Runs.attempt hentered) Runs.done))⟩

/-- A deployment of one step that finds the lease free runs to its end. -/
theorem runs_leased (hid : attemptId ≠ "") (htoken : 0 ≤ token) (hrow : RowFits attemptId (token + 1))
    (hacquire : NewTo events ("acquired by " ++ attemptId) (sampleLease attemptId).acquireOperationKey)
    (hrelease : NewTo (events ++ [acquiredEvent attemptId token]) ("released by " ++ attemptId)
      (sampleLease attemptId).releaseOperationKey) :
    ∃ evidence made, sampleEffect (heldDb attemptId (token + 1)
          (events ++ [acquiredEvent attemptId token])) ∈ made ∧
      SampleRuns (runLeased sampleDeployment (["step"].mapIdx deployStep) samplePersist)
        (freeDb token events) (.ok evidence) (freeDb (token + 1) (events ++
          [acquiredEvent attemptId token] ++ [releasedByEvent attemptId (token + 1)])) made := by
  have hnext : 0 ≤ token + 1 := by omega
  obtain ⟨started, hnew⟩ := runs_newControlLease attemptId (freeDb token events)
  obtain ⟨entries, henter⟩ := runs_enter hid htoken hrow hacquire
  obtain ⟨evidence, made, hmem, hbody⟩ := runs_underLease
    (serves_held_current (events ++ [acquiredEvent attemptId token]) hnext hrow)
  have hstop : @DeployServes Unit Unit (heldDb attemptId (token + 1) (events ++
      [acquiredEvent attemptId token])) .stopHeartbeat (.ok ()) _ := rfl
  have hexit : SampleRuns ((sampleLease attemptId).exit (token + 1) (.ok evidence)) _ (.ok evidence) _ _ :=
    (Runs.call hstop).bind ((Runs.call (serves_held_released hnext hrow hrelease)).attempt.bind
      Runs.done)
  refine ⟨evidence, _, ?_, hnew.bind (henter.bind (hbody.attempt.bind hexit))⟩
  simp [hmem]

/-! ### Two attempts -/

theorem acquireKey_first : attemptKey "global-production-control-acquire" "1" =
    "fb9c44af598db603e0b3b330fd403cd9c6eac0e1e10f011dda41bd8913cbbfa2" := by decide +kernel

theorem releaseKey_first : attemptKey "global-production-control-release" "1" =
    "9af918bba1a7f07094d1a07f9adf360ccdc99bc8bc3697deff8100fa1309d0b0" := by decide +kernel

theorem acquireKey_second : attemptKey "global-production-control-acquire" "2" =
    "4b8309864cdf68d7eea05cead23ec3b270a29923d69c2de3183879a3e111da4e" := by decide +kernel

theorem first_fits : RowFits "1" 1 := by
  have h : writerRowChecks (sampleEnv "") (grantedRow (sampleLease "1").acquireRequest 1 .epoch
      sampleExpiry) = true := by decide +kernel
  exact fun _ => h

theorem second_fits : RowFits "2" 2 := by
  have h : writerRowChecks (sampleEnv "") (grantedRow (sampleLease "2").acquireRequest 2 .epoch
      sampleExpiry) = true := by decide +kernel
  exact fun _ => h

theorem first_release_new : NewTo [acquiredEvent "1" 0] ("released by " ++ "1")
    (sampleLease "1").releaseOperationKey := by
  intro e he
  cases List.mem_singleton.mp he
  refine ⟨by decide, ?_⟩
  show attemptKey _ "1" ≠ attemptKey _ "1"
  rw [acquireKey_first, releaseKey_first]
  decide

theorem second_acquire_new : NewTo [acquiredEvent "1" 0, releasedByEvent "1" 1]
    ("acquired by " ++ "2") (sampleLease "2").acquireOperationKey := by
  intro e he
  show e.eventId ≠ _ ∧ e.operationKey ≠ attemptKey _ "2"
  rw [acquireKey_second]
  rcases List.mem_cons.mp he with rfl | he
  · refine ⟨by decide, ?_⟩
    show attemptKey _ "1" ≠ _
    rw [acquireKey_first]
    decide
  · cases List.mem_singleton.mp he
    refine ⟨by decide, ?_⟩
    show attemptKey _ "1" ≠ _
    rw [releaseKey_first]
    decide

/-- The first attempt, on a fresh database. -/
theorem first_leased : ∃ evidence made, sampleEffect (heldDb "1" 1 [acquiredEvent "1" 0]) ∈ made ∧
    SampleRuns (runLeased sampleDeployment (["step"].mapIdx deployStep) samplePersist) Db.init
      (.ok evidence) (freeDb 1 [acquiredEvent "1" 0, releasedByEvent "1" 1]) made :=
  @runs_leased 0 "1" [] (by decide) (Int.le_refl 0) first_fits (fun _ h => nomatch h)
    first_release_new

theorem no_effect_without_authority_first : ∃ evidence log,
    (∃ w, sampleEffect w ∈ log) ∧ Each (fun before e => Allowed sampleDeployment before e.made) log ∧
      Finished evidence log := by
  obtain ⟨evidence, made, hmem, hleased⟩ := first_leased
  have hcheck : @DeployServes Unit Unit Db.init .writerEvents (.ok []) Db.init :=
    ⟨rfl, fun _ h => by cases h; rfl⟩
  have hrun : SampleRuns (deploy sampleDeployment ["step"]) Db.init _ _ _ :=
    (Runs.call hcheck).bind hleased
  obtain ⟨heach, hends⟩ := no_effect_without_authority _ _ hrun.to_logged
  exact ⟨evidence, _, ⟨_, List.mem_append_right _ hmem⟩, heach, hends evidence rfl⟩

end Adcp.L5
