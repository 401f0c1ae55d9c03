import Adcp.L1Base.Interleaving
import Adcp.L5Cutover.CleanerCutover
import Adcp.L5Deploy.RunnerCalls

/-!
# What a failed cutover leaves

The cutover against ports, a lease, an authority and a persisting that answer anything, or
raise, at any call; the epoch never decreases, and an advance that returns has advanced it.

* `Told`: what a log tells of the epoch.
* `activate_raised`: an exception finds the advance not called, or the dictionary in step
  with the log.
* **`cutover_failure`**: activation needs an advance that has returned; the prior runtime
  comes back only where no advance was called, or where the last call has read the value
  from before it; any other failure of the parts surfaces with its evidence.
* `cutover_unread`: a read that fails before the advance brings the prior runtime back unread.
-/
namespace Adcp.L5.Cutover

open Adcp.L1 Adcp.L2 Adcp.L3 Script

variable {μ : Type}

/-! ## The epoch -/

abbrev CutoverEvent (μ : Type) : Type := Event Int (CutoverError μ) (CutoverControlAnswer μ)

/-- What an answer says of the epoch. -/
def EpochAnswer (epoch epoch' : Int) :
    (c : ControlCall (CutoverCall μ (CleanerCutoverActivated μ))) →
    Except (CutoverError μ) (CutoverControlAnswer μ c) → Prop
  | .user .readCurrent, .ok v => v = epoch
  | .user (.advance t), .ok _ => t.targetEpoch ≤ epoch'
  | _, _ => True

/-- Any call may answer anything else, and others may advance the epoch meanwhile. -/
def CutoverServes (epoch : Int) (c : ControlCall (CutoverCall μ (CleanerCutoverActivated μ)))
    (a : Except (CutoverError μ) (CutoverControlAnswer μ c)) (epoch' : Int) : Prop :=
  epoch ≤ epoch' ∧ EpochAnswer epoch epoch' c a

/-- Whether the advance has been called, and whether the epoch is known to be advanced: the
advance has returned, or a later read has found the target. -/
structure Told where
  called : Bool
  advanced : Bool
  deriving DecidableEq

def tell (target : Int) (k : Told) : CutoverEvent μ → Told
  | ⟨_, .user (.advance _), .ok _⟩ => ⟨true, true⟩
  | ⟨_, .user (.advance _), .error _⟩ => { k with called := true }
  | ⟨_, .user .readCurrent, .ok v⟩ => { k with advanced := k.advanced || (k.called && v == target) }
  | _ => k

def told (target : Int) (log : List (CutoverEvent μ)) : Told := log.foldl
    (tell target) ⟨false, false⟩

variable {target : Int} {log : List (CutoverEvent μ)} {e : CutoverEvent μ}

@[simp] theorem told_nil : told target ([] : List (CutoverEvent μ)) = ⟨false, false⟩ := rfl

@[simp] theorem told_snoc (log : List (CutoverEvent μ)) (e : CutoverEvent μ) :
    told target (log ++ [e]) = tell target (told target log) e := by
  simp [told, List.foldl_append]

/-- Most calls tell nothing. -/
def Silent : ControlCall (CutoverCall μ (CleanerCutoverActivated μ)) → Prop
  | .user (.advance _) | .user .readCurrent => False
  | _ => True

theorem tell_silent (h : Silent e.made) (k : Told) : tell target k e = k := by
  obtain ⟨w, c, a⟩ := e
  cases c with
  | user c => cases c <;> first | rfl | exact h.elim
  | _ => rfl

theorem told_silent {more : List (CutoverEvent μ)} (h : ∀ e ∈ more, Silent e.made) :
    told target (log ++ more) = told target log := by
  induction more generalizing log with
  | nil => rw [List.append_nil]
  | cons e more ih =>
    rw [List.append_cons, ih fun e' he' => h e' (List.mem_cons_of_mem _ he'), told_snoc,
      tell_silent (h e (List.mem_cons_self ..))]

theorem silent_of_own {c : ControlCall (CutoverCall μ (CleanerCutoverActivated μ))}
    (h : OwnCall c) :
    Silent c := by
  cases c with
  | user c => exact h.elim
  | _ => trivial

theorem tell_called (k : Told) (h : k.called = true) : (tell target k e).called = true := by
  obtain ⟨w, c, a⟩ := e
  cases c with
  | user c =>
    cases c with
    | advance t => cases a <;> rfl
    | readCurrent => cases a <;> exact h
    | _ => exact h
  | _ => exact h

theorem called_append (h : (told target log).called = true) (more : List (CutoverEvent μ)) :
    (told target (log ++ more)).called = true := by
  induction more generalizing log with
  | nil => rwa [List.append_nil]
  | cons e more ih =>
    rw [List.append_cons]
    refine ih ?_
    rw [told_snoc]
    exact tell_called _ h

/-- An advance that was called is told. -/
theorem called_of_mem {t : CleanerEpochTransition} (h : e ∈ log)
    (hmade : e.made = .user (.advance t)) :
    (told target log).called = true := by
  obtain ⟨before, after, rfl⟩ := List.append_of_mem h
  rw [List.append_cons]
  refine called_append ?_ after
  rw [told_snoc]
  obtain ⟨w, c, a⟩ := e
  cases hmade
  cases a <;> rfl

/-! ## What the calls so far allow -/

/-- The last call was a read that has found the epoch as it was before an advance that has
been called, and so it was. -/
def ReadUnchanged (target : Int) (log : List (CutoverEvent μ)) : Prop :=
  ∃ before t, log = before ++ [⟨t.currentEpoch, .user .readCurrent, .ok t.currentEpoch⟩] ∧
    (∃ e ∈ before, e.made = .user (.advance t)) ∧ t.targetEpoch = target

def Advanced (log : List (CutoverEvent μ)) : Prop :=
  ∃ e ∈ log, ∃ t v, e.Gave (.user (.advance t)) v

def AllowedCutover (target : Int) (log : List (CutoverEvent μ)) :
    ControlCall (CutoverCall μ (CleanerCutoverActivated μ)) → Prop
  | .user (.advance t) => t.targetEpoch = target
  | .user (.activatePostgresRuntime ..) => Advanced log
  | .user (.restorePreCutover _) => (told target log).called = false ∨ ReadUnchanged target log
  | _ => True

theorem allowed_own (log : List (CutoverEvent μ))
    (c : ControlCall (CutoverCall μ (CleanerCutoverActivated μ))) (h : OwnCall c) :
    AllowedCutover target log c := by
  cases c with
  | user c => exact h.elim
  | _ => trivial

theorem Advanced.append (h : Advanced log) (more : List (CutoverEvent μ)) : Advanced
    (log ++ more) := by
  obtain ⟨e, he, hadvanced⟩ := h
  exact ⟨e, List.mem_append_left _ he, hadvanced⟩

/-! ## Along the effect -/

abbrev Meeting {α : Type} (target : Int) (m : CutoverMethod μ α)
    (post : Except (CutoverError μ) α → CutoverState → List (CutoverEvent μ) → Prop)
    (s : CutoverState)
    (log : List (CutoverEvent μ)) : Prop :=
  Method.Ensures (logged CutoverServes) (AllowedCutover target) m post s log

variable {α β : Type} {s : CutoverState} {post : Except (CutoverError μ) β → CutoverState →
  List (CutoverEvent μ) → Prop}

/-- A call of a port, and what follows. -/
theorem meeting_port {c : CutoverCall μ (CleanerCutoverActivated μ)}
    {f : CutoverAnswer c → CutoverMethod μ β} (hallowed : AllowedCutover target log (.user c))
    (hok : ∀ w w' a, CutoverServes w (.user c) (.ok a) w' →
      Meeting target (f a) post s (log ++ [⟨w, .user c, .ok a⟩]))
    (herror : ∀ w error, post (.error error) s (log ++ [⟨w, .user c, .error error⟩])) :
    Meeting target (Execute.port c >>= f) post s log := by
  have hcall : Meeting target (Execute.port c) (fun r s' log' => s' = s ∧
      ∃ w w', CutoverServes w (.user c) r w' ∧ log' = log ++ [⟨w, .user c, r⟩]) s log :=
    Method.ensures_ask.mpr ⟨hallowed, fun _ _ hserve => ⟨rfl, hserve⟩⟩
  refine hcall.bind ?_ ?_
  · rintro a _ _ ⟨rfl, w, w', hserve, rfl⟩
    exact hok w w' a hserve
  · rintro error _ _ ⟨rfl, w, w', hserve, rfl⟩
    exact herror w error

/-- The same under `try`. -/
theorem meeting_try {c : CutoverCall μ (CleanerCutoverActivated μ)}
    {f : Except (CutoverError μ) (CutoverAnswer c) → CutoverMethod μ β}
    (hallowed : AllowedCutover target log (.user c))
    (hf : ∀ w w' a, CutoverServes w (.user c) a w' →
      Meeting target (f a) post s (log ++ [⟨w, .user c, a⟩])) :
    Meeting target (Method.attempt (Execute.port c) >>= f) post s log := by
  have hcall : Meeting target (Execute.port c) (fun r s' log' => s' = s ∧
      ∃ w w', CutoverServes w (.user c) r w' ∧ log' = log ++ [⟨w, .user c, r⟩]) s log :=
    Method.ensures_ask.mpr ⟨hallowed, fun _ _ hserve => ⟨rfl, hserve⟩⟩
  refine hcall.attemptBind ?_
  rintro r _ _ ⟨rfl, w, w', hserve, rfl⟩
  exact hf w w' r hserve

theorem meeting_modify {g : CutoverState → CutoverState} {f : Unit → CutoverMethod μ β}
    (h : Meeting target (f ()) post (g s) log) : Meeting target
    (Method.modify g >>= f) post s log := by
  have hmodify : Meeting target (Method.modify g)
    (fun r s' log' => r = .ok () ∧ s' = g s ∧ log' = log)
      s log := Method.ensures_modify.mpr ⟨rfl, rfl, rfl⟩
  refine hmodify.bind ?_ ?_
  · rintro _ _ _ ⟨-, rfl, rfl⟩
    exact h
  · rintro error _ _ ⟨hr, -, -⟩
    cases hr

theorem meeting_fields {f : CutoverState → CutoverMethod μ β}
    (h : Meeting target (f s) post s log) :
    Meeting target (Method.fields >>= f) post s log := by
  have hfields : Meeting target Method.fields
    (fun r s' log' => r = .ok s ∧ s' = s ∧ log' = log) s log :=
    Method.ensures_fields.mpr ⟨rfl, rfl, rfl⟩
  refine hfields.bind ?_ ?_
  · rintro a _ _ ⟨ha, rfl, rfl⟩
    cases ha
    exact h
  · rintro error _ _ ⟨hr, -, -⟩
    cases hr

theorem meeting_lift {x : Except (CutoverError μ) α} {f : α → CutoverMethod μ β}
    (hok : ∀ a, x = .ok a → Meeting target (f a) post s log)
    (herror : ∀ error, x = .error error → post (.error error) s log) :
    Meeting target (Method.lift x >>= f) post s log := by
  have hlift : Meeting target (Method.lift x)
    (fun r s' log' => r = x ∧ s' = s ∧ log' = log) s log :=
    Method.ensures_lift.mpr ⟨rfl, rfl, rfl⟩
  refine hlift.bind ?_ ?_
  · rintro a _ _ ⟨ha, rfl, rfl⟩
    exact hok a ha.symm
  · rintro error _ _ ⟨he, rfl, rfl⟩
    exact herror error he.symm

theorem meeting_demand {c : Prop} [Decidable c] {code : String} {f : Unit → CutoverMethod μ β}
    (hok : c → Meeting target (f ()) post s log)
    (herror : post (.error (cutoverError code)) s log) :
    Meeting target (Execute.demand c code >>= f) post s log := by
  refine meeting_lift (fun _ h => ?_) fun error h => ?_
  · by_cases hc : c
    · exact hok hc
    · rw [if_neg hc] at h
      cases h
  · by_cases hc : c
    · rw [if_pos hc] at h
      cases h
    · rw [if_neg hc] at h
      cases h
      exact herror

/-- The advance has been called for this transition. -/
def Calling (target current : Int) (log : List (CutoverEvent μ)) : Prop :=
  ∃ t : CleanerEpochTransition, t.targetEpoch = target ∧ t.currentEpoch = current ∧
    ∃ e ∈ log, e.made = .user (.advance t)

theorem Calling.append {current : Int} (h : Calling target current log)
    (more : List (CutoverEvent μ)) : Calling target current (log ++ more) := by
  obtain ⟨t, htarget, hcurrent, e, he, hmade⟩ := h
  exact ⟨t, htarget, hcurrent, e, List.mem_append_left _ he, hmade⟩

def Quiesced (snapshot : CleanerRuntimeSnapshot) (log : List (CutoverEvent μ)) : Prop :=
  ∃ e ∈ log, e.Gave (.user .quiesceForCutover) snapshot

theorem Quiesced.append {snapshot : CleanerRuntimeSnapshot} (h : Quiesced snapshot log)
    (more : List (CutoverEvent μ)) : Quiesced snapshot (log ++ more) := by
  obtain ⟨e, he, hgave⟩ := h
  exact ⟨e, List.mem_append_left _ he, hgave⟩

/-- The stages before the advance. -/
def Early (s : CutoverState) : Prop := s.stage = .epochRead ∨ s.stage = .epochTransitionValidation

variable {snapshot : CleanerRuntimeSnapshot}

/-- The dictionary is in step with the log. -/
structure InStep (target : Int) (snapshot : CleanerRuntimeSnapshot) (s : CutoverState)
    (log : List (CutoverEvent μ)) : Prop where
  holds : s.snapshot = some snapshot
  quiesced : Quiesced snapshot log
  advanced : s.epochAdvanced = (told target log).advanced
  early : Early s → (told target log).called = false
  late : ¬ Early s → Calling target s.current log

/-- And the advance has returned. -/
structure AfterAdvance (target : Int) (snapshot : CleanerRuntimeSnapshot) (s : CutoverState)
    (log : List (CutoverEvent μ)) : Prop where
  holds : s.snapshot = some snapshot
  quiesced : Quiesced snapshot log
  known : s.epochAdvanced = true
  toldAdvanced : (told target log).advanced = true
  returned : Advanced log
  late : ¬ Early s
  calling : Calling target s.current log

theorem AfterAdvance.inStep (h : AfterAdvance target snapshot s log) :
    InStep target snapshot s log :=
  ⟨h.holds, h.quiesced, h.known.trans h.toldAdvanced.symm, fun he => absurd he h.late,
    fun _ => h.calling⟩

theorem tell_advanced (k : Told) (h : k.advanced = true) : (tell target k e).advanced = true := by
  obtain ⟨w, c, a⟩ := e
  cases c with
  | user c =>
    cases c with
    | advance t => cases a <;> first | rfl | exact h
    | readCurrent =>
      cases a with
      | ok v =>
        show (k.advanced || _) = true
        rw [h]
        rfl
      | error error => exact h
    | _ => exact h
  | _ => exact h

theorem AfterAdvance.call (h : AfterAdvance target snapshot s log) (e : CutoverEvent μ) :
    AfterAdvance target snapshot s (log ++ [e]) where
  holds := h.holds
  quiesced := h.quiesced.append _
  known := h.known
  toldAdvanced := by
    rw [told_snoc]
    exact tell_advanced _ h.toldAdvanced
  returned := h.returned.append _
  late := h.late
  calling := h.calling.append _

/-- A later stage. -/
theorem AfterAdvance.stage (h : AfterAdvance target snapshot s log) (stage : CutoverStage)
    (hlate : stage ≠ .epochRead ∧ stage ≠ .epochTransitionValidation) :
    AfterAdvance target snapshot { s with stage := stage } log :=
  ⟨h.holds, h.quiesced, h.known, h.toldAdvanced, h.returned,
    fun he => he.elim hlate.1 hlate.2, h.calling⟩

/-! ## The effect -/

/-- What the exceptions of the activation find, and what it leaves. -/
def Activated (target : Int) (snapshot : CleanerRuntimeSnapshot)
    (r : Except (CutoverError μ) (CleanerCutoverActivated μ)) (s : CutoverState)
    (log : List (CutoverEvent μ)) : Prop :=
  match r with
  | .ok _ => AfterAdvance target snapshot s log
  | .error _ => InStep target snapshot s log

theorem epochTransition_ok {current target : Int} {t : CleanerEpochTransition}
    (h : epochTransition (β := β) (γ := α) current target = .ok t) :
    t.currentEpoch = current ∧ t.targetEpoch = target := by
  unfold epochTransition at h
  split at h
  · split at h
    · cases h
      exact ⟨rfl, rfl⟩
    · cases h
  · cases h

/-- A call after the advance. -/
theorem meeting_later {c : CutoverCall μ (CleanerCutoverActivated μ)}
    {f : CutoverAnswer c → CutoverMethod μ (CleanerCutoverActivated μ)}
    (h : AfterAdvance target snapshot s log) (hallowed : AllowedCutover target log (.user c))
    (hf : ∀ w a, AfterAdvance target snapshot s (log ++ [⟨w, .user c, .ok a⟩]) →
      Meeting target (f a) (Activated target snapshot) s (log ++ [⟨w, .user c, .ok a⟩])) :
    Meeting target (Execute.port c >>= f) (Activated target snapshot) s log :=
  meeting_port hallowed (fun w _ a _ => hf w a (h.call _)) fun _ _ => (h.call _).inStep

section Effect

variable [DecidableEq μ] {req : CutoverRequest}

theorem meeting_activateRuntime (current now : Int) (h : AfterAdvance target snapshot s log) :
    Meeting target (Execute.activateRuntime snapshot current now)
    (Activated target snapshot) s log := by
  unfold Execute.activateRuntime Execute.setStage
  refine meeting_modify
    (meeting_lift (fun runtime _ => ?_) fun _ _ => (h.stage _ (by decide)).inStep)
  refine meeting_later (h.stage _ (by decide)) trivial fun w plists h => ?_
  refine meeting_modify (meeting_later (h.stage _ (by decide)) trivial fun w w07Sha h => ?_)
  refine meeting_modify (meeting_later (h.stage _ (by decide)) trivial fun w prepared h => ?_)
  refine meeting_modify (meeting_later (h.stage _ (by decide)) h.returned fun w physical h => ?_)
  refine meeting_modify (meeting_later (h.stage _ (by decide)) trivial fun w effective h => ?_)
  refine meeting_demand (fun _ => ?_) h.inStep
  refine meeting_later h trivial fun w found h => ?_
  refine meeting_demand (fun _ => ?_) h.inStep
  exact meeting_modify (Method.ensures_pure.mpr (h.stage _ (by decide)))

/-- What the exceptions of the guarded part find. -/
theorem meeting_activate (hsnapshot : s.snapshot = some snapshot)
    (hquiesced : Quiesced snapshot log)
    (hknown : s.epochAdvanced = false)
    (htold : told req.approvedTargetEpoch log = ⟨false, false⟩) :
    Meeting req.approvedTargetEpoch (Execute.activate req snapshot)
      (Activated req.approvedTargetEpoch snapshot) s log := by
  unfold Execute.activate Execute.setStage
  -- until the advance the log tells nothing
  have hquiet : ∀ (s' : CutoverState) (e : CutoverEvent μ), s'.snapshot = some snapshot →
      s'.epochAdvanced = false → Early s' →
      told req.approvedTargetEpoch (log ++ [e]) = ⟨false, false⟩ →
      InStep req.approvedTargetEpoch snapshot s' (log ++ [e]) := by
    intro s' e h₁ h₂ h₃ h₄
    exact ⟨h₁, hquiesced.append _, by rw [h₂, h₄], fun _ => by rw [h₄], fun h => absurd h₃ h⟩
  refine meeting_modify (meeting_port trivial ?_ ?_)
  · intro w w' current hserve
    have hread : told req.approvedTargetEpoch (log ++ [⟨w, .user .readCurrent, .ok current⟩]) =
        ⟨false, false⟩ := by
      rw [told_snoc, htold]
      rfl
    refine meeting_modify (meeting_modify (meeting_lift (fun t ht => ?_) fun error _ => ?_))
    · obtain ⟨hcurrent, htarget⟩ := epochTransition_ok ht
      have hcalling : ∀ e : CutoverEvent μ, e.made = .user (.advance t) →
          Calling req.approvedTargetEpoch current
            (log ++ [⟨w, .user .readCurrent, .ok current⟩] ++ [e]) :=
        fun e he => ⟨t, htarget, hcurrent, e, by simp, he⟩
      refine meeting_modify (meeting_port htarget ?_ ?_)
      · intro w₁ w₁' reached _
        refine meeting_modify (meeting_activateRuntime _ _ ?_)
        refine ⟨hsnapshot, (hquiesced.append _).append _, rfl, ?_, ?_, ?_, hcalling _ rfl⟩
        · rw [told_snoc]
          rfl
        · exact ⟨_, List.mem_append_right _ (List.mem_singleton_self _), t, reached, w₁, rfl⟩
        · rintro (h | h) <;> cases h
      · intro w₁ error
        refine ⟨hsnapshot, (hquiesced.append _).append _, ?_, ?_, fun _ => hcalling _ rfl⟩
        · rw [told_snoc, hread]
          exact hknown
        · rintro (h | h) <;> cases h
    · exact hquiet _ _ hsnapshot hknown (Or.inr rfl) hread
  · intro w error
    refine hquiet _ _ hsnapshot hknown (Or.inl rfl) ?_
    rw [told_snoc, htold]
    rfl

end Effect

/-! ## What becomes of an exception -/

/-- The writers have been quiesced again, or that has been tried. -/
def QuiescedAgain (snapshot : CleanerRuntimeSnapshot) (confirmed : Bool)
    (log : List (CutoverEvent μ)) : Prop :=
  ∃ e ∈ log, (confirmed = true ∧ e.Gave (.user (.quiesceAfterFailedActivation snapshot)) ()) ∨
    (confirmed = false ∧ ∃ w error,
      e = ⟨w, .user (.quiesceAfterFailedActivation snapshot), .error error⟩)

/-- The exception asks for reconciliation, and its evidence says what the log says. -/
def Surfaced (req : CutoverRequest) (error : CutoverError μ) (log : List (CutoverEvent μ)) : Prop :=
  ∃ ev snapshot, error = .raised (.reconciliation ev) ∧
    ev.operationId = req.deployment.deploymentId ∧ ev.targetEpoch = req.approvedTargetEpoch ∧
    ev.epochAdvanced = (told req.approvedTargetEpoch log).advanced ∧ Quiesced snapshot log ∧
    ev.selectedWriterIds = snapshot.selectedWriterIds ∧ ev.safeQuiescenceAttempted = true ∧
    QuiescedAgain snapshot ev.safeQuiescenceConfirmed log

/-- The prior runtime was brought back when a read had found the epoch as before the advance. -/
def Restored (target : Int) (log : List (CutoverEvent μ)) : Prop :=
  ∃ before e after s, log = before ++ e :: after ∧ ReadUnchanged target before ∧
    e.made = .user (.restorePreCutover s)

/-- What becomes of an exception of the parts: the advance has not been called, the prior
runtime has been brought back, or the exception asks for reconciliation. -/
def Failed (req : CutoverRequest) (error : CutoverError μ) (log : List (CutoverEvent μ)) : Prop :=
  (told req.approvedTargetEpoch log).called = false ∨ Restored req.approvedTargetEpoch log ∨
    Surfaced req error log

variable {req : CutoverRequest} {error : CutoverError μ} {more : List (CutoverEvent μ)}

theorem Surfaced.silent (h : Surfaced req error log) (hmore : ∀ e ∈ more, Silent e.made) :
    Surfaced req error (log ++ more) := by
  obtain ⟨ev, snapshot, herror, hoperation, htarget, hadvanced, hquiesced, hids, hattempted,
    e, he, hagain⟩ := h
  refine ⟨ev, snapshot, herror, hoperation, htarget, ?_, hquiesced.append _, hids, hattempted,
    e, List.mem_append_left _ he, hagain⟩
  rw [told_silent hmore]
  exact hadvanced

theorem Restored.append (h : Restored target log) (more : List (CutoverEvent μ)) :
    Restored target (log ++ more) := by
  obtain ⟨before, e, after, s, rfl, hread, hmade⟩ := h
  exact ⟨before, e, after ++ more, s, by simp, hread, hmade⟩

theorem Failed.silent (h : Failed req error log) (hmore : ∀ e ∈ more, Silent e.made) :
    Failed req error (log ++ more) := by
  rcases h with huncalled | hrestored | hsurfaced
  · left
    rw [told_silent hmore]
    exact huncalled
  · exact Or.inr (Or.inl (hrestored.append more))
  · exact Or.inr (Or.inr (hsurfaced.silent hmore))

/-- The effect never returns from a reconciliation. -/
theorem meeting_reconciliation (hsnapshot : s.snapshot = some snapshot)
    (hquiesced : Quiesced snapshot log)
    (hadvanced : s.epochAdvanced = (told req.approvedTargetEpoch log).advanced) :
    Meeting req.approvedTargetEpoch (Execute.reconciliation req error : CutoverMethod μ α)
      (fun r _ log' => ∃ error', r = .error error' ∧ Surfaced req error' log') s log := by
  have hagain : Meeting req.approvedTargetEpoch (Execute.quiesceAgain : CutoverMethod μ Unit)
      (fun r s' log' => r = .ok () ∧ s'.snapshot = some snapshot ∧ s'.epochAdvanced =
        s.epochAdvanced ∧
        (∃ e, log' = log ++ [e] ∧ Silent e.made) ∧
        QuiescedAgain snapshot s'.quiescedAfterFailure log') s log := by
    unfold Execute.quiesceAgain
    refine meeting_fields ?_
    rw [hsnapshot]
    refine meeting_try trivial fun w w' a _ => ?_
    have hmem : ∀ e : CutoverEvent μ, e ∈ log ++ [e] := fun e =>
      List.mem_append_right _ (List.mem_singleton_self e)
    cases a with
    | ok u =>
      exact Method.ensures_modify.mpr ⟨rfl, hsnapshot, rfl, ⟨_, rfl, trivial⟩,
        _, hmem _, Or.inl ⟨rfl, w, rfl⟩⟩
    | error error =>
      exact Method.ensures_modify.mpr ⟨rfl, hsnapshot, rfl, ⟨_, rfl, trivial⟩,
        _, hmem _, Or.inr ⟨rfl, w, error, rfl⟩⟩
  unfold Execute.reconciliation
  refine hagain.bind ?_ fun _ _ _ h => nomatch h.1
  rintro - s' log' ⟨-, hholds, hkept, ⟨e, rfl, hsilent⟩, hquiescence⟩
  refine meeting_fields (Method.ensures_raise.mpr ⟨_, rfl, _, snapshot, rfl, rfl, rfl, ?_,
    hquiesced.append _, ?_, ?_, hquiescence⟩)
  · show s'.epochAdvanced = _
    rw [hkept, hadvanced, told_snoc, tell_silent hsilent]
  · show (s'.snapshot.map _).getD [] = _
    rw [hholds]
    rfl
  · show s'.snapshot.isSome = true
    rw [hholds]
    rfl

theorem meeting_restore
    (hallowed : (told req.approvedTargetEpoch log).called = false ∨
      ReadUnchanged req.approvedTargetEpoch log) :
    Meeting req.approvedTargetEpoch (Execute.restore snapshot error : CutoverMethod μ α)
      (fun r _ log' => ∃ error', r = .error error' ∧ Failed req error' log') s log := by
  have hfailed : ∀ (error' : CutoverError μ) (e : CutoverEvent μ),
      e.made = .user (.restorePreCutover snapshot) → Failed req error' (log ++ [e]) := by
    intro error' e hmade
    rcases hallowed with huncalled | hread
    · left
      rw [told_snoc, tell_silent (by rw [hmade]; trivial)]
      exact huncalled
    · exact Or.inr (Or.inl ⟨log, e, [], snapshot, rfl, hread, hmade⟩)
  unfold Execute.restore Execute.setStage
  refine meeting_modify (meeting_port hallowed (fun w w' u _ => ?_) fun w raised => ?_)
  · exact Method.ensures_raise.mpr ⟨error, rfl, hfailed _ _ rfl⟩
  · exact ⟨raised, rfl, hfailed _ _ rfl⟩

/-- A read after a failure: what it finds becomes part of what the log tells. -/
theorem meeting_afterFailure (h : InStep req.approvedTargetEpoch snapshot s log) :
    Meeting req.approvedTargetEpoch (Execute.afterFailure req snapshot error : CutoverMethod μ α)
      (fun r _ log' => ∃ error', r = .error error' ∧ Failed req error' log') s log := by
  have hsurfaces : ∀ {s : CutoverState} {log : List (CutoverEvent μ)},
      s.snapshot = some snapshot → Quiesced snapshot log →
      s.epochAdvanced = (told req.approvedTargetEpoch log).advanced →
      Meeting req.approvedTargetEpoch (Execute.reconciliation req error : CutoverMethod μ α)
        (fun r _ log' => ∃ error', r = .error error' ∧ Failed req error' log') s log := by
    intro s log hsnapshot hquiesced hadvanced
    refine (meeting_reconciliation hsnapshot hquiesced hadvanced).mono ?_
    rintro r s' log' ⟨error', hr, hsurfaced⟩
    exact ⟨error', hr, Or.inr (Or.inr hsurfaced)⟩
  unfold Execute.afterFailure
  refine meeting_fields ?_
  by_cases hearly : s.stage = .epochRead ∨ s.stage = .epochTransitionValidation
  · rw [if_pos hearly]
    exact meeting_restore (Or.inl (h.early hearly))
  rw [if_neg hearly]
  obtain ⟨t, htarget, hcurrent, called, hcalled, hmade⟩ := h.late hearly
  refine meeting_try trivial fun w w' factual hserve => ?_
  cases factual with
  | error unread =>
    refine hsurfaces h.holds (h.quiesced.append _) ?_
    rw [told_snoc]
    exact h.advanced
  | ok found =>
    refine meeting_fields ?_
    by_cases hfound : found = req.approvedTargetEpoch
    · rw [if_pos hfound]
      refine meeting_modify (hsurfaces h.holds (h.quiesced.append _) ?_)
      rw [told_snoc]
      show true = (_ || (_ && found == req.approvedTargetEpoch))
      rw [called_of_mem hcalled hmade, hfound, beq_self_eq_true, Bool.and_true, Bool.or_true]
    · rw [if_neg hfound]
      have hkept : s.epochAdvanced = (told req.approvedTargetEpoch
          (log ++ [⟨w, .user .readCurrent, .ok found⟩])).advanced := by
        rw [told_snoc]
        show _ = (_ || (_ && found == req.approvedTargetEpoch))
        rw [beq_false_of_ne hfound, Bool.and_false, Bool.or_false]
        exact h.advanced
      by_cases hcurrent' : found ≠ s.current
      · rw [if_pos hcurrent']
        exact hsurfaces h.holds (h.quiesced.append _) hkept
      · rw [if_neg hcurrent']
        have hsame : found = t.currentEpoch := by
          rw [hcurrent]
          exact Classical.not_not.mp hcurrent'
        have hfactual : found = w := hserve.2
        refine meeting_restore (Or.inr ⟨log, t, ?_, ⟨called, hcalled, hmade⟩, htarget⟩)
        rw [← hfactual, hsame]

/-! ## The three parts -/

theorem failed_uncalled (h : told req.approvedTargetEpoch log = ⟨false, false⟩)
    (hsilent : Silent e.made) : Failed req error (log ++ [e]) := by
  left
  rw [told_snoc, h, tell_silent hsilent]

/-- How a part of the cutover ends: after an advance that has returned, or failed as it should. -/
def PartEnds (req : CutoverRequest) (r : Except (CutoverError μ) α) (s : CutoverState)
    (log : List (CutoverEvent μ)) : Prop :=
  match r with
  | .ok _ => ∃ snapshot, AfterAdvance req.approvedTargetEpoch snapshot s log
  | .error error => Failed req error log

/-- The effect ends with the runtime activated, or its exception has failed as it should. -/
theorem meeting_effect [DecidableEq μ] (hstart : told req.approvedTargetEpoch log = ⟨false, false⟩)
    (hknown : s.epochAdvanced = false) :
    Meeting req.approvedTargetEpoch (Execute.effect (μ := μ) req) (PartEnds req) s log := by
  unfold Execute.effect Execute.setStage
  refine meeting_modify (meeting_port trivial (fun w w' u _ => ?_) fun w error => ?_)
  · have hvalidated : told req.approvedTargetEpoch
        (log ++ [⟨w, .user .validateActivationBinding, .ok u⟩]) = ⟨false, false⟩ := by
      rw [told_snoc, hstart]
      rfl
    refine meeting_modify (meeting_port trivial (fun w₁ w₁' snapshot _ => ?_) fun w₁ error => ?_)
    · refine meeting_modify ?_
      have hactivated : Meeting req.approvedTargetEpoch (Execute.activate req snapshot)
          (Activated req.approvedTargetEpoch snapshot)
          { s with stage := .quiesce, snapshot := some snapshot }
          (log ++ [⟨w, .user .validateActivationBinding, .ok u⟩] ++
            [⟨w₁, .user .quiesceForCutover, .ok snapshot⟩]) := by
        refine meeting_activate rfl
          ⟨_, List.mem_append_right _ (List.mem_singleton_self _), w₁, rfl⟩
          hknown ?_
        rw [told_snoc, hvalidated]
        rfl
      refine hactivated.attemptBind ?_
      intro r s' log' hr
      cases r with
      | ok activated => exact Method.ensures_pure.mpr ⟨snapshot, hr⟩
      | error error =>
        refine (meeting_afterFailure hr).mono ?_
        rintro r s'' log'' ⟨error', rfl, hfailed⟩
        exact hfailed
    · exact failed_uncalled hvalidated trivial
  · exact failed_uncalled hstart trivial

/-- After the advance an exception of the readback, or of the persisting, surfaces. -/
theorem meeting_surfaces (h : AfterAdvance req.approvedTargetEpoch snapshot s log) :
    Meeting req.approvedTargetEpoch (Execute.reconciliation req error : CutoverMethod μ α)
      (PartEnds req) s log := by
  refine (meeting_reconciliation h.holds h.quiesced (h.known.trans h.toldAdvanced.symm)).mono ?_
  rintro r s' log' ⟨error', rfl, hsurfaced⟩
  exact Or.inr (Or.inr hsurfaced)

theorem meeting_readback (result : CleanerCutoverActivated μ)
    (h : AfterAdvance req.approvedTargetEpoch snapshot s log) :
    Meeting req.approvedTargetEpoch (Execute.readback req result) (PartEnds req) s log := by
  have hread : Meeting req.approvedTargetEpoch (Execute.readEffective snapshot result)
      (fun _ s' log' => AfterAdvance req.approvedTargetEpoch snapshot s' log') s log := by
    unfold Execute.readEffective Execute.setStage
    refine meeting_modify (meeting_port trivial (fun w w' value _ => ?_) fun w error => ?_)
    · have h₁ := (h.stage .runnerReadback (by decide)).call
        ⟨w, .user (.readbackEffective snapshot result.runtimeTuple
          result.w07AuthorizedIdentitySha256), .ok value⟩
      refine meeting_port trivial (fun w₁ w₁' now _ => ?_) fun w₁ error => h₁.call _
      refine meeting_demand (fun _ => ?_) (h₁.call _)
      exact meeting_modify (Method.ensures_pure.mpr ((h₁.call _).stage _ (by decide)))
    · exact (h.stage _ (by decide)).call _
  unfold Execute.readback
  refine meeting_fields ?_
  rw [h.holds]
  refine hread.attemptBind ?_
  intro r s' log' hr
  cases r with
  | ok value => exact Method.ensures_pure.mpr ⟨snapshot, hr⟩
  | error error => exact meeting_surfaces hr

theorem meeting_persist (evidence : Execute.Evidence μ)
    (h : AfterAdvance req.approvedTargetEpoch snapshot s log) :
    Meeting req.approvedTargetEpoch (Execute.persist req evidence) (PartEnds req) s log := by
  unfold Execute.persist Execute.setStage
  refine meeting_modify (meeting_try trivial fun w w' a _ => ?_)
  have hcalled := (h.stage .durableReceipt (by decide)).call
    ⟨w, .user (.persistResult (Execute.stripped evidence)), a⟩
  cases a with
  | ok u => exact Method.ensures_modify.mpr ⟨snapshot, hcalled.stage _ (by decide)⟩
  | error error => exact meeting_surfaces hcalled

/-- A part as the runner calls it. -/
theorem meets_part {m : CutoverMethod μ α} {post : Except (CutoverError μ) α → CutoverState →
    List (CutoverEvent μ) → Prop} (h : Meeting target m post s log) :
    Meets (logged CutoverServes) (AllowedCutover target) (Execute.part m s) (fun r log' =>
      match r with
      | .ok p => post (.ok p.1) p.2 log'
      | .error error => ∃ s', post (.error error) s' log') log := by
  unfold Execute.part
  refine Meets.bind h ?_ ?_
  · rintro _ log' ⟨r, s', hr, hpost⟩
    cases hr
    cases r with
    | ok a => exact hpost
    | error error => exact ⟨s', hpost⟩
  · rintro error log' ⟨r, s', hr, -⟩
    cases hr

/-! ## The whole run -/

theorem AfterAdvance.append (h : AfterAdvance target snapshot s log)
    (more : List (CutoverEvent μ)) :
    AfterAdvance target snapshot s (log ++ more) := by
  induction more generalizing log with
  | nil => rwa [List.append_nil]
  | cons e more ih =>
    rw [List.append_cons]
    exact ih (h.call e)

theorem AfterAdvance.called (h : AfterAdvance target snapshot s log) :
    (told target log).called = true := by
  obtain ⟨t, -, -, e, he, hmade⟩ := h.calling
  exact called_of_mem he hmade

/-- What the runner persists with. -/
def persisting (req : CutoverRequest) (evidence : Execute.Evidence μ) : CutoverScript μ Unit := do
  let _ ← Execute.part (Execute.persist req evidence) (Execute.stateOf evidence)

/-- The parts of the cutover are what a deployment of one step needs. -/
theorem cutover_step [DecidableEq μ] (req : CutoverRequest) :
    OneStep CutoverServes (AllowedCutover req.approvedTargetEpoch) (Execute.step (μ := μ) req)
      (persisting req) (fun log => told req.approvedTargetEpoch log = ⟨false, false⟩)
      (fun b log => ∃ snapshot, AfterAdvance req.approvedTargetEpoch snapshot b.2 log)
      (fun _ g log => ∃ snapshot, AfterAdvance req.approvedTargetEpoch snapshot g.2 log)
      (fun log => ∃ snapshot s, AfterAdvance req.approvedTargetEpoch snapshot s log)
      (Failed req) where
  own log c h := allowed_own log c h
  start_own log more hmore h := by rw [told_silent fun e he => silent_of_own (hmore e he), h]
  done_own _ _ _ more _ := fun ⟨snapshot, h⟩ => ⟨snapshot, h.append more⟩
  persisted_own _ more _ := fun ⟨snapshot, s, h⟩ => ⟨snapshot, s, h.append more⟩
  failed_own _ _ more hmore h := h.silent fun e he => silent_of_own (hmore e he)
  effect log h := by
    refine (meets_part (meeting_effect h rfl)).mono ?_
    intro r log' hr
    cases r with
    | ok p => exact hr
    | error error => exact hr.elim fun _ h => h
  readback b log := by
    rintro ⟨snapshot, h⟩
    refine (meets_part (meeting_readback b.1 h)).mono ?_
    intro r log' hr
    cases r with
    | ok p => exact hr
    | error error => exact hr.elim fun _ h => h
  persist name b g log := by
    rintro ⟨snapshot, h⟩
    refine (meets_part (meeting_persist _ h)).bind ?_ ?_
    · rintro ⟨u, s'⟩ log' ⟨snapshot', h'⟩
      exact ⟨snapshot', s', h'⟩
    · intro error log' hr
      exact hr.elim fun _ h => h

/-- From the advance on, the runner's own calls have worked. -/
def RunnerWorked (target : Int) (log : List (CutoverEvent μ)) : Prop :=
  Each (fun before e => (told target before).called = true → OwnWorked e) log

/-- How the cutover ends. -/
theorem meets_cutover [DecidableEq μ] (req : CutoverRequest) :
    Meets (logged CutoverServes) (AllowedCutover req.approvedTargetEpoch) (cutover (μ := μ) req)
      (fun r log => ∀ error, r = .error error → RunnerWorked req.approvedTargetEpoch log →
        Failed req error log) [] := by
  have hempty : told req.approvedTargetEpoch ([] : List (CutoverEvent μ)) = ⟨false, false⟩ := rfl
  have hrun := (cutover_step (μ := μ) req).meets req.deployment hempty
  unfold cutover
  refine hrun.bind (fun evidence log h => ?_) fun error log h error' herror hworked => ?_
  · refine meets_bind.mpr (meets_require.mpr ⟨fun _ => ?_, fun hlength => absurd h.2 hlength⟩)
    intro error herror
    cases herror
  · cases herror
    rcases h with hstart | hfailed | ⟨before, e, after, rfl, hbad, hown, hbefore⟩
    · left
      rw [hstart]
    · exact hfailed
    · -- an own call that has not worked: the advance had not been called
      have huncalled : ¬ (told req.approvedTargetEpoch before).called = true := fun hcalled =>
        hbad (hworked before e after rfl hcalled)
      rcases hbefore with ⟨b, g, snapshot, hdone⟩ | ⟨snapshot, s, hdone⟩ | ⟨error', hfailed⟩
      · exact absurd hdone.called huncalled
      · exact absurd hdone.called huncalled
      · left
        rw [told_silent fun e' he' => silent_of_own (hown e' he')]
        exact Bool.eq_false_iff.mpr huncalled

/-- What a log tells of the epoch is so. -/
theorem told_truthful {α : Type} {p p' : CutoverScript μ α} {epoch epoch₀ : Int}
    (h : Steps (traced CutoverServes) p (epoch₀, []) p' (epoch, log))
    (htargets : ∀ e ∈ log, ∀ t, e.made = .user (.advance t) → t.targetEpoch = target)
    (htold : (told target log).advanced = true) : target ≤ epoch := by
  have hinv : (∀ e ∈ log, ∀ t, e.made = .user (.advance t) → t.targetEpoch = target) →
      (told target log).advanced = true → target ≤ epoch := by
    refine Steps.invariant (P := fun s : Int × List (CutoverEvent μ) =>
      (∀ e ∈ s.2, ∀ t, e.made = .user (.advance t) → t.targetEpoch = target) →
        (told target s.2).advanced = true → target ≤ s.1) h (fun _ h => nomatch h) ?_
    rintro ⟨w, log⟩ c a ⟨w', log'⟩ ih ⟨⟨hle, hanswer⟩, hlog⟩ hcalls hadvanced
    replace hlog : log' = log ++ [⟨w, c, a⟩] := hlog
    subst hlog
    have hbefore : (told target log).advanced = true → target ≤ w' := fun h =>
      Int.le_trans (ih (fun e he => hcalls e (List.mem_append_left _ he)) h) hle
    replace hadvanced : (told target (log ++ [⟨w, c, a⟩])).advanced = true := hadvanced
    rw [told_snoc] at hadvanced
    cases c with
    | user c =>
      cases c with
      | advance t =>
        cases a with
        | error error => exact hbefore hadvanced
        | ok v =>
          have htarget := hcalls ⟨w, _, .ok v⟩
            (List.mem_append_right _ (List.mem_singleton_self _)) t rfl
          rw [← htarget]
          exact hanswer
      | readCurrent =>
        cases a with
        | error error => exact hbefore hadvanced
        | ok v =>
          -- a read that finds the target has found the epoch there
          have htold : ((told target log).advanced ||
              ((told target log).called && v == target)) = true := hadvanced
          rcases Bool.or_eq_true_iff.mp htold with hold | hnew
          · exact hbefore hold
          · have hv : v = target := eq_of_beq (Bool.and_eq_true_iff.mp hnew).2
            have hfactual : v = w := hanswer
            rw [← hv, hfactual]
            exact hle
      | _ => exact hbefore hadvanced
    | _ => exact hbefore hadvanced
  exact hinv htargets htold

/-- **A failed cutover.** In every run of the cutover the runtime is activated only after an
advance has returned. The prior runtime is brought back only where no advance has been called,
or where the last call was a read after it that has found the epoch, as it was, at its value
from before. An exception of a run in which the runner's own calls have worked since the
advance was called leaves one of these, or the writers quiesced again, or that tried, and
surfaces with evidence that says so, and whether the epoch is known to have advanced. -/
theorem cutover_failure [DecidableEq μ] {req : CutoverRequest} {epoch₀ epoch : Int}
    {p : CutoverScript μ (List (EffectEvidence (CleanerCutoverActivated μ) μ))}
    {log : List (CutoverEvent μ)}
    (h : Steps (traced CutoverServes) (cutover req) (epoch₀, []) p (epoch, log)) :
    (∀ before e after s r sha, log = before ++ e :: after →
      e.made = .user (.activatePostgresRuntime s r sha) → Advanced before) ∧
    (∀ before e after s, log = before ++ e :: after → e.made = .user (.restorePreCutover s) →
      (∀ e ∈ before, ∀ t, e.made ≠ .user (.advance t)) ∨
        ReadUnchanged req.approvedTargetEpoch before) ∧
    (∀ error, p = .done (.error error) → RunnerWorked req.approvedTargetEpoch log →
      Failed req error log) ∧
    ((told req.approvedTargetEpoch log).advanced = true → req.approvedTargetEpoch ≤ epoch) := by
  have hlogged := h.to_logged
  have heach : Each (fun before e => AllowedCutover req.approvedTargetEpoch before e.made) log :=
    Steps.each (meets_cutover req) Each.nil hlogged
  refine ⟨fun before e after s r sha hlog hmade => ?_, fun before e after s hlog hmade => ?_,
    fun error hp => ?_, told_truthful h fun e he t hmade => ?_⟩
  · have hallowed : AllowedCutover req.approvedTargetEpoch before e.made :=
      heach before e after hlog
    rw [hmade] at hallowed
    exact hallowed
  · have hallowed : AllowedCutover req.approvedTargetEpoch before e.made :=
      heach before e after hlog
    rw [hmade] at hallowed
    refine hallowed.imp_left fun huncalled e' he' t hadvance => ?_
    rw [called_of_mem he' hadvance] at huncalled
    cases huncalled
  · subst hp
    exact (meets_cutover req).ended hlogged error rfl
  · obtain ⟨before, after, hlog⟩ := List.append_of_mem he
    have hallowed : AllowedCutover req.approvedTargetEpoch before e.made :=
      heach before e after hlog
    rw [hmade] at hallowed
    exact hallowed

/-! ## Ports to run on -/

def sampleRequest : CutoverRequest where
  deployment :=
    { changeId := "change", deploymentId := "operation", controlDecisionRef := none
      startHeartbeat := false, boundedAcquireWait := false }
  approvedTargetEpoch := 2

def sampleSnapshot : CleanerRuntimeSnapshot := ⟨⟨[], ""⟩, ["W06"], [], []⟩

def sampleRow : GlobalWriterLease where
  state := .HELD
  context := .empty
  fencingToken := 1
  acquiredAt := none
  expiresAt := none
  heartbeatAt := none
  updatedAt := Timestamp.epoch

def sampleAnswer (epoch : Int) : (c : ControlCall (CutoverCall Nat (CleanerCutoverActivated Nat))) →
    CutoverControlAnswer Nat c
  | .writerEvents => []
  | .schemaVersion => some 10
  | .newAttempt => "attempt"
  | .monotonic => (0 : Int)
  | .acquire _ | .assertCurrent .. | .release _ => sampleRow
  | .nestedAuthority => false
  | .heartbeatError => none
  | .user .readCurrent => epoch
  | .user (.advance t) => t.targetEpoch
  | .user .quiesceForCutover => sampleSnapshot
  | .user (.materializePostgresRuntime ..) => []
  | .user (.materializeW07AuthorizedIdentity ..) => "sha"
  | .user (.readbackPrepared _) | .user (.activatePostgresRuntime ..)
  | .user (.readbackEffective ..) => (7 : Nat)
  | .revalidate | .sleep _ | .startHeartbeat | .stopHeartbeat | .user .validateActivationBinding
  | .user (.restorePreCutover _) | .user (.quiesceAfterFailedActivation _)
  | .user (.persistResult _) => ()

/-- The epoch that a call leaves. -/
def sampleEpoch (epoch : Int) : ControlCall (CutoverCall Nat (CleanerCutoverActivated Nat)) → Int
  | .user (.advance t) => max epoch t.targetEpoch
  | _ => epoch

def sampleRespond (fails : ControlCall (CutoverCall Nat (CleanerCutoverActivated Nat)) → Bool)
    (s : Int × List (CutoverEvent Nat))
    (c : ControlCall (CutoverCall Nat (CleanerCutoverActivated Nat))) :
    Except (CutoverError Nat) (CutoverControlAnswer Nat c) × Int :=
  if fails c then (.error (.raised (.raised "OSError" "")), s.1)
  else (.ok (sampleAnswer s.1 c), sampleEpoch s.1 c)

theorem sampleRespond_serves
    (fails : ControlCall (CutoverCall Nat (CleanerCutoverActivated Nat)) → Bool)
    (s : Int × List (CutoverEvent Nat))
    (c : ControlCall (CutoverCall Nat (CleanerCutoverActivated Nat))) :
    CutoverServes s.1 c (sampleRespond fails s c).1 (sampleRespond fails s c).2 := by
  unfold sampleRespond
  by_cases hfails : fails c = true
  · rw [if_pos hfails]
    refine ⟨Int.le_refl _, ?_⟩
    cases c with
    | user c => cases c <;> trivial
    | _ => trivial
  · rw [if_neg hfails]
    cases c with
    | user c =>
      cases c with
      | advance t => exact ⟨Int.le_max_left .., Int.le_max_right ..⟩
      | readCurrent => exact ⟨Int.le_refl _, rfl⟩
      | _ => exact ⟨Int.le_refl _, trivial⟩
    | _ => exact ⟨Int.le_refl _, trivial⟩

/-- How the cutover ends when the epoch is 1 at the start. -/
def sampleRun (fails : ControlCall (CutoverCall Nat (CleanerCutoverActivated Nat)) → Bool) :
    Option (Except (CutoverError Nat) (List (EffectEvidence (CleanerCutoverActivated Nat) Nat)) ×
      Int × List (CutoverEvent Nat)) :=
  play (sampleRespond fails) 100 (cutover sampleRequest) (1, [])

/-- What a test of its end finds, a run of the cutover does. -/
theorem sampleRun_steps {fails : ControlCall (CutoverCall Nat (CleanerCutoverActivated Nat)) → Bool}
    {test : Except (CutoverError Nat) (List (EffectEvidence (CleanerCutoverActivated Nat) Nat)) ×
      Int × List (CutoverEvent Nat) → Bool} (h : (sampleRun fails).any test = true) :
    ∃ r epoch log, Steps (traced CutoverServes) (cutover sampleRequest) (1, []) (.done r)
    (epoch, log) ∧
      test (r, epoch, log) = true := by
  cases hrun : sampleRun fails with
  | none =>
    rw [hrun] at h
    cases h
  | some p =>
    rw [hrun] at h
    exact ⟨p.1, p.2.1, p.2.2, play_steps (sampleRespond_serves fails) hrun, h⟩

def readsCurrent : ControlCall (CutoverCall Nat (CleanerCutoverActivated Nat)) → Bool
  | .user .readCurrent => true
  | _ => false

def activatesRuntime : ControlCall (CutoverCall Nat (CleanerCutoverActivated Nat)) → Bool
  | .user (.activatePostgresRuntime ..) => true
  | _ => false

def restoresPreCutover : ControlCall (CutoverCall Nat (CleanerCutoverActivated Nat)) → Bool
  | .user (.restorePreCutover _) => true
  | _ => false

/-- The call is not a read that has been answered. -/
def unread : CutoverEvent Nat → Bool
  | ⟨_, .user .readCurrent, .ok _⟩ => false
  | _ => true

/-- A read that fails before the advance: the prior runtime is brought back, and no read of
the epoch has been answered at all. -/
theorem cutover_unread : ∃ r epoch log,
    Steps (traced CutoverServes) (cutover (μ := Nat) sampleRequest) (1, []) (.done r) (epoch, log) ∧
    (∃ e ∈ log, ∃ s, e.made = .user (.restorePreCutover s)) ∧
    ∀ e ∈ log, ∀ v, ¬ e.Gave (.user .readCurrent) v := by
  have hrun : (sampleRun readsCurrent).any (fun p =>
      p.2.2.any (fun e => restoresPreCutover e.made) && p.2.2.all unread) = true := by
    decide +kernel
  obtain ⟨r, epoch, log, hsteps, htest⟩ := sampleRun_steps hrun
  rw [Bool.and_eq_true] at htest
  refine ⟨r, epoch, log, hsteps, ?_, fun e he v hgave => ?_⟩
  · obtain ⟨e, he, hmade⟩ := List.any_eq_true.mp htest.1
    obtain ⟨w, c, a⟩ := e
    refine ⟨_, he, ?_⟩
    cases c with
    | user c =>
      cases c with
      | restorePreCutover s => exact ⟨s, rfl⟩
      | _ => cases hmade
    | _ => cases hmade
  · have hunread := List.all_eq_true.mp htest.2 e he
    obtain ⟨w, rfl⟩ := hgave
    cases hunread

/-- The test of `OwnWorked`. -/
def ownWorked : CutoverEvent Nat → Bool
  | ⟨_, .user _, _⟩ => true
  | ⟨_, .heartbeatError, .ok (some _)⟩ => false
  | ⟨_, _, .error _⟩ => false
  | ⟨_, _, .ok _⟩ => true

theorem cutover_failure_sample : ∃ error epoch log,
    Steps (traced CutoverServes) (cutover (μ := Nat) sampleRequest) (1, [])
      (.done (.error error)) (epoch, log) ∧
    (told 2 log).advanced = true ∧ Failed sampleRequest error log := by
  have hrun : (sampleRun activatesRuntime).any (fun p =>
      !p.1.isOk && p.2.2.all ownWorked && (told 2 p.2.2).advanced) = true := by
    decide +kernel
  obtain ⟨r, epoch, log, hsteps, htest⟩ := sampleRun_steps hrun
  rw [Bool.and_eq_true, Bool.and_eq_true] at htest
  obtain ⟨⟨herror, hworked⟩, htold⟩ := htest
  cases r with
  | ok evidence => cases herror
  | error error =>
    refine ⟨error, epoch, log, hsteps, htold, (cutover_failure hsteps).2.2.1 error rfl ?_⟩
    intro before e after hlog _
    have htest := List.all_eq_true.mp hworked e (by rw [hlog]; simp)
    obtain ⟨w, c, a⟩ := e
    cases c with
    | user c => trivial
    | heartbeatError =>
      rcases a with failed | (_ | failed)
      · cases htest
      · trivial
      · cases htest
    | _ =>
      cases a with
      | error failed => cases htest
      | ok a => trivial

end Adcp.L5.Cutover
