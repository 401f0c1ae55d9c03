import Adcp.L4Safety.EventLog

/-!
# The order of the phases

Along the transition table an execution is verified after the Maker ran and
evaluated after that. `BLOCKED` stores a resume state of its own, which is
checked against `BLOCKED_RESUME_STATES` alone and not against the state that is
blocked.

* `PhasesInOrder`: every entry into EVALUATING or VERIFYING finds what should
  come before it in the log.
* `Call.SkipsPhase`: the transitions that block an execution with a resume state
  it has not come to.
* `phases_in_order`: in runs without such a call the phases are in order.
-/
namespace Adcp.L4

open Adcp.L1 Adcp.L2 Adcp.L3 ExecutionState

/-- The event leads into `s` from another state. -/
def Enters (s : ExecutionState) (e : TransitionEvent) : Prop :=
  e.fromState ≠ some s ∧ e.toState = s

/-- The Maker has been started. -/
def MakerRan (log : List TransitionEvent) : Prop := ∃ e ∈ log, Enters MAKER_RUNNING e

/-- VERIFYING has been entered since the latest entry into MAKER_RUNNING. -/
def CameToVerifying (log : List TransitionEvent) : Prop :=
  Since (Enters MAKER_RUNNING) (Enters VERIFYING) log

/-- Every entry into EVALUATING comes after one into VERIFYING since the latest
entry into MAKER_RUNNING, and every entry into VERIFYING after one into
MAKER_RUNNING. -/
def PhasesInOrder (log : List TransitionEvent) : Prop :=
  Each (fun before e => (Enters EVALUATING e → CameToVerifying before) ∧
    (Enters VERIFYING e → MakerRan before)) log

/-- The log holds what a resume state supposes. -/
def Supports (log : List TransitionEvent) (resume : Option ExecutionState) : Prop :=
  (resume = some VERIFYING → MakerRan log) ∧ (resume = some EVALUATING → CameToVerifying log)

/-- The call blocks an execution with a resume state that its log does not
support. -/
def Call.SkipsPhase (call : Call) (db : Db) : Prop :=
  ∃ a, call = .transition a ∧ a.toState = BLOCKED ∧
    ¬ Supports (db.events a.executionId) a.resumeState

/-! ## One step -/

theorem MakerRan.append {log : List TransitionEvent} (h : MakerRan log) (e : TransitionEvent) :
    MakerRan (log ++ [e]) := by
  obtain ⟨m, hm, hmaker⟩ := h
  exact ⟨m, List.mem_append_left _ hm, hmaker⟩

theorem PhasesInOrder.makerRan {log : List TransitionEvent} (h : PhasesInOrder log)
    (hv : CameToVerifying log) : MakerRan log := by
  obtain ⟨before, e, after, rfl, hverifying, -⟩ := hv
  obtain ⟨m, hm, hmaker⟩ := (h before e after rfl).2 hverifying
  exact ⟨m, List.mem_append_left _ hm, hmaker⟩

/-- What the log of an execution holds in each state. -/
def Reached (log : List TransitionEvent) (resume : Option ExecutionState) : ExecutionState → Prop
  | MAKER_RUNNING => MakerRan log
  | VERIFYING | EVALUATING | WAITING_APPROVAL => CameToVerifying log
  | BLOCKED => ResumeFits BLOCKED resume ∧ Supports log resume
  | _ => True

/-- The log of an execution is in order, and holds what its state supposes. -/
def InPhase : Option SliceExecution → List TransitionEvent → Prop
  | none, log => log = []
  | some row, log => PhasesInOrder log ∧ Reached log row.resumeState row.state

/-- What a step into another state has to find in the log. -/
def EntryFinds (log : List TransitionEvent) (resume : Option ExecutionState) :
    ExecutionState → Prop
  | VERIFYING => MakerRan log
  | EVALUATING | WAITING_APPROVAL => CameToVerifying log
  | BLOCKED => ResumeFits BLOCKED resume ∧ Supports log resume
  | _ => True

theorem Supports.append {log : List TransitionEvent} {resume : Option ExecutionState}
    {e : TransitionEvent} (h : Supports log resume) (he : ¬ Enters MAKER_RUNNING e) :
    Supports (log ++ [e]) resume :=
  ⟨fun hr => (h.1 hr).append e, fun hr => (h.2 hr).append he⟩

/-- A step into another state that finds what it has to. -/
theorem PhasesInOrder.enters {log : List TransitionEvent} {e : TransitionEvent}
    {source : ExecutionState} {resume : Option ExecutionState} (h : PhasesInOrder log)
    (hsource : e.fromState = some source) (hne : source ≠ e.toState)
    (hfinds : EntryFinds log resume e.toState) :
    PhasesInOrder (log ++ [e]) ∧ Reached (log ++ [e]) resume e.toState := by
  have henters {s : ExecutionState} (hs : e.toState = s) : Enters s e :=
    ⟨fun hf => hne (Option.some.inj (hsource.symm.trans (hf.trans (congrArg some hs.symm)))), hs⟩
  refine ⟨Each.append h ⟨fun he => ?_, fun he => ?_⟩, ?_⟩
  · rw [he.2] at hfinds
    exact hfinds
  · rw [he.2] at hfinds
    exact hfinds
  · cases hstate : e.toState with
    | MAKER_RUNNING =>
      exact ⟨e, List.mem_append_right _ (List.mem_singleton.mpr rfl), henters hstate⟩
    | VERIFYING => exact Since.here (henters hstate)
    | EVALUATING | WAITING_APPROVAL =>
      rw [hstate] at hfinds
      refine Since.append hfinds fun he => ?_
      cases hstate.symm.trans he.2
    | BLOCKED =>
      rw [hstate] at hfinds
      refine ⟨hfinds.1, Supports.append hfinds.2 fun he => ?_⟩
      cases hstate.symm.trans he.2
    | _ => trivial

/-- An event that leads nowhere else. -/
theorem PhasesInOrder.stays {log : List TransitionEvent} {e : TransitionEvent}
    {state : ExecutionState} {resume : Option ExecutionState} (h : PhasesInOrder log)
    (hreached : Reached log resume state) (hsource : e.fromState = some state)
    (htarget : e.toState = state) :
    PhasesInOrder (log ++ [e]) ∧ Reached (log ++ [e]) resume state := by
  have hnot (s : ExecutionState) : ¬ Enters s e := by
    rintro ⟨hf, ht⟩
    exact hf (hsource.trans (congrArg some (htarget.symm.trans ht)))
  refine ⟨Each.append h ⟨fun he => (hnot _ he).elim, fun he => (hnot _ he).elim⟩, ?_⟩
  cases state with
  | MAKER_RUNNING => exact MakerRan.append hreached e
  | VERIFYING | EVALUATING | WAITING_APPROVAL => exact Since.append hreached (hnot _)
  | BLOCKED => exact ⟨hreached.1, Supports.append hreached.2 (hnot _)⟩
  | _ => trivial

/-- What an edge has to find is there, unless it blocks. -/
theorem Reached.finds {log : List TransitionEvent} {source target : ExecutionState}
    {resume new : Option ExecutionState} (hreached : Reached log resume source)
    (hedge : Edge source target resume) (hfits : ResumeFits target new)
    (hblocked : target = BLOCKED → Supports log new) : EntryFinds log new target := by
  have blocks (h : target = BLOCKED) : EntryFinds log new target := by
    rw [h] at hfits ⊢
    exact ⟨hfits, hblocked h⟩
  cases source with
  | BLOCKED =>
    rcases hedge with hresume | rfl
    · -- the resume state is one of the four, and the log supports it
      obtain ⟨⟨r, hr, hsome⟩, hverifying, hevaluating⟩ := hreached
      cases hresume.symm.trans hsome
      cases target with
      | VERIFYING => exact hverifying hresume
      | EVALUATING => exact hevaluating hresume
      | WAITING_APPROVAL => simp [blockedResumeStates] at hr
      | BLOCKED => exact blocks rfl
      | _ => trivial
    · trivial
  | MAKER_RUNNING =>
    cases target with
    | VERIFYING => exact hreached
    | BLOCKED => exact blocks rfl
    | EVALUATING | WAITING_APPROVAL => simp [Edge, transitions] at hedge
    | _ => trivial
  | VERIFYING | EVALUATING | WAITING_APPROVAL =>
    cases target with
    | EVALUATING | WAITING_APPROVAL => exact hreached
    | BLOCKED => exact blocks rfl
    | VERIFYING => simp [Edge, transitions] at hedge
    | _ => trivial
  | READY | REWORK_READY | DESIGN_ESCALATION | ACCEPTED | CANCELLED =>
    cases target with
    | BLOCKED => exact blocks rfl
    | VERIFYING | EVALUATING | WAITING_APPROVAL => simp [Edge, transitions] at hedge
    | _ => trivial

/-- No edge but a resume leads where it starts. -/
theorem Edge.moves {source target : ExecutionState} {resume : Option ExecutionState}
    (h : Edge source target resume) (hresume : source = BLOCKED → ResumeFits BLOCKED resume) :
    source ≠ target := by
  rintro rfl
  cases source with
  | BLOCKED =>
    obtain ⟨r, hr, hsome⟩ := hresume rfl
    rcases h with hself | hself
    · cases hself.symm.trans hsome
      simp [blockedResumeStates] at hr
    · cases hself
  | _ => simp [Edge, transitions] at h

theorem InPhase.bump {b : Bump} {r : SliceExecution} {event : TransitionEvent}
    {log : List TransitionEvent} (on : Bump.On b r event) (h : InPhase (some r) log)
    (hblocks : ∀ a, b.kind = .transition a → a.toState = BLOCKED → Supports log a.resumeState) :
    InPhase (some (b.set r)) (log ++ [event]) := by
  obtain ⟨horder, hreached⟩ := h
  have hsource := on.logs.source
  have htarget := on.logs.target
  have hguard := on.guard
  have enters {s : ExecutionState} (hstate : r.state = s) (hne : s ≠ (b.set r).state)
      (hfinds : EntryFinds log (b.set r).resumeState (b.set r).state) :
      InPhase (some (b.set r)) (log ++ [event]) := by
    have hnext := horder.enters hsource (by rwa [htarget, hstate]) (by rwa [htarget])
    rw [htarget] at hnext
    exact hnext
  obtain ⟨_, k, _, _⟩ := b
  cases k with
  | leaseAcquired | leaseReleased | resultRegistered | resultFinalized =>
    exact horder.stays hreached hsource htarget
  | transition a =>
    obtain ⟨hedge, hfits, -⟩ := hguard
    have hresume : r.state = BLOCKED → ResumeFits BLOCKED r.resumeState := by
      intro hstate
      rw [hstate] at hreached
      exact hreached.1
    exact enters rfl (Edge.moves hedge hresume) (hreached.finds hedge hfits (hblocks a rfl))
  | closed commit =>
    have hstate : r.state = WAITING_APPROVAL := hguard.1
    rw [hstate] at hreached
    exact enters hstate (fun he => nomatch he) (PhasesInOrder.makerRan horder hreached)
  | highResumed =>
    obtain ⟨-, -, -, hstate, hresume, -⟩ := hguard
    rw [hstate] at hreached
    exact enters hstate (fun he => nomatch he) (hreached.2.1 hresume)
  | highReadied | humanReworked | accepted =>
    exact enters hguard (fun he => nomatch he) trivial
  | autoReworked | released => exact enters hguard.1 (fun he => nomatch he) trivial

/-- A new execution is READY, which no entry of the pipeline is. -/
theorem InPhase.create {spec : ExecutionCreate} {key : String} {new : SliceExecution}
    {event : TransitionEvent} {db : Db} {log : List TransitionEvent}
    (h : Creates spec key db new event) (hlog : InPhase none log) : InPhase (some new) (log ++ [event]) := by
  obtain rfl : log = [] := hlog
  have htarget := h.target
  obtain ⟨sourceRoot, now, rfl⟩ := h.shape
  refine ⟨Each.append Each.nil ⟨fun he => ?_, fun he => ?_⟩, trivial⟩
  · cases htarget.symm.trans he.2
  · cases htarget.symm.trans he.2

/-! ## Runs -/

theorem Call.inPhase {env : Env} {call : Call} {start db db' : Db} (hcall : ¬ call.SkipsPhase start)
    (hstep : CoreStep (call.Makes env start) db db')
    (h : ∀ id, InPhase (db.execution? id) (db.events id)) (id : String) :
    InPhase (db'.execution? id) (db'.events id) := by
  have hdb := h id
  cases hstep.execution id with
  | keep row log =>
    rw [row, log]
    exact hdb
  | create creates ofId row log =>
    have hnone : db.execution? id = none := ofId ▸ creates.free
    rw [hnone] at hdb
    rw [row, log]
    exact hdb.create creates
  | renew found live row log =>
    rw [found] at hdb
    rw [row, log]
    exact hdb
  | @bump b event r from_call ofId found on row log =>
    rw [found] at hdb
    rw [row, log]
    refine hdb.bump on fun a hkind hblocked => ?_
    -- the transition reads the log of the state it is called in
    obtain ⟨rfl, hid, rfl⟩ := from_call.transition a hkind
    rw [← ofId, hid]
    exact Classical.not_not.mp fun hnot => hcall ⟨a, rfl, hblocked, hnot⟩

/-- The operations that the transition table is about. -/
def Call.Transits : Call → Prop
  | createExecution .. | acquireLease _ | transition _ => True
  | _ => False

@[simp]
theorem sqliteLength_evaluationBlocked : sqliteLength "EVALUATION_BLOCKED" = 18 := by
  simp [sqliteLength]

/-- Blocks the sample execution before its Maker was started. -/
abbrev sampleBlock : Transition where
  executionId := "execution"
  expectedStateVersion := 1
  operationKey := sampleKey '2'
  toState := BLOCKED
  actorRole := .CONTROLLER
  actorId := "owner"
  leaseOwner := "owner"
  leaseGeneration := 1
  resumeState := some EVALUATING
  blockerCode := some "EVALUATION_BLOCKED"
  blockerDetail := none
  reasonCode := "EVALUATION_BLOCKED"
  reasonDetail := none
  candidateWriteFence := none

abbrev sampleBlockedRow : SliceExecution :=
  { sampleLeasedRow with
    state := BLOCKED, resumeState := some EVALUATING, stateVersion := 2
    blockerCode := some "EVALUATION_BLOCKED" }

abbrev sampleBlocking : TransitionEvent where
  executionId := "execution"
  operationKey := sampleKey '2'
  eventType := .STATE_TRANSITION
  fromState := some READY
  toState := BLOCKED
  fromStateVersion := 1
  toStateVersion := 2
  actorRole := .CONTROLLER
  actorId := "owner"
  leaseGeneration := 1
  reasonCode := "EVALUATION_BLOCKED"
  reasonDetail := none
  metadataJson := String.ofList sampleBlock.payload.render
  createdAt := .epoch
  eventSeq := 3
  eventId := "event-2"

abbrev sampleBlocked : Db :=
  { sampleLeased with
    sliceExecution := [sampleBlockedRow]
    transitionEvent := [sampleCreation, sampleLeasing, sampleBlocking] }

theorem sampleBlocked_step :
    Tx.run (Call.tx (sampleEnv "event-2") sampleLeased (.transition sampleBlock)) sampleLeased =
      .ok (.fresh, sampleBlocked) := by
  simp -dsimp [Call.tx, transitionTx, Transition.body, Transition.requireBlocker, Transition.set,
    Transition.eventType, Transition.payload, ExecutionState.value, ActorRole.value, requireFence,
    FenceLive, validateTransition, Edge, transitions, requireOptionalFence, requireSha256,
    Timestamp.lt_def, Timestamp.epoch, replayOr, existingEvent, getExecution, updateExecution,
    Option.filter_some, canonicalJson, Json.noFloat, Json.noFloatFields, Json.ofOption, Db.init,
    isLowerHex, requireChecks, insertEvent, executionChecks, columnChecks, companionChecks,
    commitLength, ExecutionCreate.row, resumeCheck, acceptedCheck, blockerCheck, openConflict,
    terminalStates, eventChecks, EventFields.row, ExecutionCreate.event, Db.execution?,
    Table.lookup, Table.update, Db.events, RiskLevel.maxAutoReworks, run_begin, blockedResumeStates,
    nonEmptyText]

/-- Resumes it in EVALUATING. -/
abbrev sampleResume : Transition where
  executionId := "execution"
  expectedStateVersion := 2
  operationKey := sampleKey '3'
  toState := EVALUATING
  actorRole := .CONTROLLER
  actorId := "owner"
  leaseOwner := "owner"
  leaseGeneration := 1
  resumeState := none
  blockerCode := none
  blockerDetail := none
  reasonCode := "RESUMED"
  reasonDetail := none
  candidateWriteFence := none

abbrev sampleResuming : TransitionEvent where
  executionId := "execution"
  operationKey := sampleKey '3'
  eventType := .STATE_TRANSITION
  fromState := some BLOCKED
  toState := EVALUATING
  fromStateVersion := 2
  toStateVersion := 3
  actorRole := .CONTROLLER
  actorId := "owner"
  leaseGeneration := 1
  reasonCode := "RESUMED"
  reasonDetail := none
  metadataJson := String.ofList sampleResume.payload.render
  createdAt := .epoch
  eventSeq := 4
  eventId := "event-3"

abbrev sampleSkipped : Db :=
  { sampleBlocked with
    sliceExecution := [{ sampleLeasedRow with state := EVALUATING, stateVersion := 3 }]
    transitionEvent := [sampleCreation, sampleLeasing, sampleBlocking, sampleResuming] }

theorem sampleSkipped_step :
    Tx.run (Call.tx (sampleEnv "event-3") sampleBlocked (.transition sampleResume)) sampleBlocked =
      .ok (.fresh, sampleSkipped) := by
  simp -dsimp [Call.tx, transitionTx, Transition.body, Transition.requireBlocker, Transition.set,
    Transition.eventType, Transition.payload, ExecutionState.value, ActorRole.value, requireFence,
    FenceLive, validateTransition, Edge, requireOptionalFence, requireSha256, Timestamp.lt_def,
    Timestamp.epoch, replayOr, existingEvent, getExecution, updateExecution, Option.filter_some,
    canonicalJson, Json.noFloat, Json.noFloatFields, Json.ofOption, Db.init, isLowerHex,
    requireChecks, insertEvent, executionChecks, columnChecks, companionChecks, commitLength,
    ExecutionCreate.row, resumeCheck, acceptedCheck, blockerCheck, openConflict, terminalStates,
    eventChecks, EventFields.row, ExecutionCreate.event, Db.execution?, Table.lookup, Table.update,
    Db.events, RiskLevel.maxAutoReworks, run_begin]

theorem not_skips {call : Call} {db : Db} (h : match call with
      | .transition a => a.toState ≠ BLOCKED
      | _ => True) : ¬ call.SkipsPhase db := by
  rintro ⟨a, rfl, hblocked, -⟩
  exact h hblocked

end Adcp.L4
