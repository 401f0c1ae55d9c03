import Adcp.L4Safety.EvidenceSteps

/-!
# Terminal states

An execution that is ACCEPTED, CANCELLED or in DESIGN_ESCALATION is finished. No
operation moves it; its result commit, however, is only as safe as
`register_result_commit`, which checks the lease and the version and not the
state.

* `Call.ReplacesFinishedResult`: the calls that write another result commit over
  that of a finished execution.
* `Call.absorbs`: every other call leaves state and result of a finished
  execution alone.
* `terminal_absorption`: so do runs without such a call, and there every evidence
  manifest names the result of its accepted execution.
-/
namespace Adcp.L4

open Adcp.L1 Adcp.L2 Adcp.L3 ExecutionState

/-- The call registers a new result over that of a finished execution: its lease
is live, its version current and its key unused. -/
def Call.ReplacesFinishedResult (env : Env) (call : Call) (db : Db) : Prop :=
  ∃ a row, call = .registerResultCommit a ∧ db.execution? a.executionId = some row ∧
    row.state ∈ terminalStates ∧ row.resultCommit ≠ some a.resultCommit ∧
    FenceLive row a.leaseOwner a.leaseGeneration (env.clock 0) ∧
    row.stateVersion = a.expectedStateVersion ∧
    (db.events a.executionId).find? (·.operationKey = a.operationKey) = none

variable {env : Env} {snap db db' : Db} {call : Call} {c : Commit}

/-! ## One step -/

/-- A bump of a finished execution, unless it registers a result, keeps state and
result. -/
theorem Bump.On.absorbs {b : Bump} {r : SliceExecution} {event : TransitionEvent} (h : Bump.On b r event)
    (ht : r.state ∈ terminalStates) (hkind : ∀ commit, b.kind ≠ .resultRegistered commit) :
    (b.set r).state = r.state ∧ (b.set r).resultCommit = r.resultCommit := by
  have hguard := h.guard
  obtain ⟨_, k, _, _⟩ := b
  have stuck {state : ExecutionState} (hs : r.state = state) (hn : state ∉ terminalStates) : False :=
    hn (hs ▸ ht)
  cases k with
  | leaseAcquired => exact ⟨rfl, rfl⟩
  | leaseReleased => exact ⟨rfl, rfl⟩
  | transition a => exact absurd ht (edge_terminal hguard.1)
  | resultRegistered commit => exact absurd rfl (hkind commit)
  | resultFinalized commit => exact (stuck hguard (by decide)).elim
  | closed commit => exact (stuck hguard.1 (by decide)).elim
  | highResumed => exact (stuck hguard.2.2.2.1 (by decide)).elim
  | highReadied => exact (stuck hguard (by decide)).elim
  | humanReworked => exact (stuck hguard (by decide)).elim
  | autoReworked => exact (stuck hguard.1 (by decide)).elim
  | accepted => exact (stuck hguard (by decide)).elim
  | released => exact (stuck hguard.1 (by decide)).elim

/-- The execution `id` is there with the state and the result of `row`. -/
def Keeps (db : Db) (id : String) (row : SliceExecution) : Prop :=
  ∃ row', db.execution? id = some row' ∧ row'.state = row.state ∧
    row'.resultCommit = row.resultCommit

theorem CoreStep.absorbs {start : Db} {id : String} {row : SliceExecution}
    (hcall : ∀ a, call ≠ .registerResultCommit a) (h : CoreStep (call.Makes env start) db db')
    (ht : row.state ∈ terminalStates) (hrow : Keeps db id row) : Keeps db' id row := by
  obtain ⟨row', hrow', hstate, hresult⟩ := hrow
  cases h.execution id with
  | keep hkeep => exact ⟨row', hkeep ▸ hrow', hstate, hresult⟩
  | create creates ofId =>
    have hnone : db.execution? id = none := ofId ▸ creates.free
    rw [hnone] at hrow'
    cases hrow'
  | renew found _ hnew =>
    cases found.symm.trans hrow'
    exact ⟨_, hnew, hstate, hresult⟩
  | bump from_call ofId found on hnew =>
    cases found.symm.trans hrow'
    obtain ⟨hs, hr⟩ := Bump.On.absorbs on (hstate ▸ ht) fun commit hkind => by
      obtain ⟨a, hc, -⟩ := from_call.registered commit hkind
      exact hcall a hc
    exact ⟨_, hnew, hs.trans hstate, hr.trans hresult⟩

/-- What a new registration of a result found. -/
theorem registerResultCommitTx_found {a : RegisterResultCommit}
    (h : registerResultCommitTx env a db = .ok (.fresh, db')) :
    ∃ row, db.execution? a.executionId = some row ∧
      FenceLive row a.leaseOwner a.leaseGeneration (env.clock 0) ∧
      row.stateVersion = a.expectedStateVersion ∧
      (db.events a.executionId).find? (·.operationKey = a.operationKey) = none := by
  unfold registerResultCommitTx requireSha256 requireCommit at h
  obtain ⟨-, h⟩ := Tx.require_bind_ok.mp h
  obtain ⟨-, h⟩ := Tx.require_bind_ok.mp h
  obtain ⟨json, -, h⟩ := Tx.lift_bind_ok.mp h
  have h := begin_bind_ok h
  unfold replayOr at h
  obtain ⟨found, hfind, h⟩ := existingEvent_bind_ok h
  cases found with
  | some event => cases Tx.pure_ok.mp h
  | none =>
    obtain ⟨⟨⟩, s, h, -⟩ := Tx.bind_ok.mp h
    obtain ⟨row, hrow, h⟩ := getExecution_bind_ok.mp h
    obtain ⟨hlive, h⟩ := requireFence_bind_ok.mp h
    obtain ⟨hv, h⟩ := Tx.require_bind_ok.mp h
    exact ⟨row, hrow, hlive, hv, hfind⟩

/-! ## Calls and runs -/

/-- Every call but one that replaces a finished result leaves state and result of
every finished execution as they are. -/
theorem Call.absorbs (hcall : ¬ call.ReplacesFinishedResult env db) {id : String}
    {row : SliceExecution} (hrow : db.execution? id = some row) (ht : row.state ∈ terminalStates) :
    Keeps (call.exec env snap db) id row := by
  have hkeeps : Keeps db id row := ⟨row, hrow, rfl, rfl⟩
  rcases call.exec_cases env snap db with hx | ⟨c, hx⟩
  · rw [hx]
    exact hkeeps
  by_cases hregister : ∃ a, call = .registerResultCommit a
  · obtain ⟨a, rfl⟩ := hregister
    rcases registerResultCommitTx_ok hx with ⟨-, hdb⟩ | ⟨rfl, event, -, hdb⟩
    · rw [hdb]
      exact hkeeps
    rw [hdb]
    have hnew := @Db.bump_execution? db ⟨a.executionId, .resultRegistered a.resultCommit,
      env.clock 0, some (a.leaseOwner, a.leaseGeneration)⟩ event id
    by_cases hid : id = a.executionId
    · subst hid
      rw [if_pos rfl, hrow] at hnew
      refine ⟨_, hnew, rfl, ?_⟩
      -- the commit it registers is the one that is there
      obtain ⟨row', hrow', hlive, hv, hkey⟩ := registerResultCommitTx_found hx
      cases hrow.symm.trans hrow'
      by_cases hsame : row.resultCommit = some a.resultCommit
      · exact hsame.symm
      · exact absurd ⟨a, row, rfl, hrow, ht, hsame, hlive, hv, hkey⟩ hcall
    · rw [if_neg hid, hrow] at hnew
      exact ⟨row, hnew, rfl, rfl⟩
  · exact (Call.coreRun hx).invariant (fun _ _ hstep hdb =>
      hstep.absorbs (fun a ha => hregister ⟨a, ha⟩) ht hdb) hkeeps

/-- Every evidence manifest names the result of its accepted execution. -/
def ManifestsHold (db : Db) : Prop :=
  ∀ m ∈ db.evidenceManifest, ∃ row, db.execution? m.executionId = some row ∧
    row.state = ACCEPTED ∧ row.resultCommit = some m.resultCommit

theorem Keeps.manifest {m : EvidenceManifestRow} {row : SliceExecution}
    (h : Keeps db m.executionId row) (hstate : row.state = ACCEPTED)
    (hresult : row.resultCommit = some m.resultCommit) :
    ∃ row, db.execution? m.executionId = some row ∧ row.state = ACCEPTED ∧
      row.resultCommit = some m.resultCommit := by
  obtain ⟨row', hrow', hs, hr⟩ := h
  exact ⟨row', hrow', hs.trans hstate, hr.trans hresult⟩

/-- An acceptance makes its execution ACCEPTED and keeps its result. -/
theorem AcceptExecution.Accepts.accepted {a : AcceptExecution} {ids : EvidenceIds}
    {execution : SliceExecution} {commit : String} {rows : EvidenceRows}
    {manifest : EvidenceManifestRow} {event : TransitionEvent}
    (h : AcceptExecution.Accepts a env db db' ids execution commit rows manifest event) :
    db'.execution? a.executionId = some (AcceptExecution.accepted (env.clock 0) execution) := by
  obtain ⟨approvals, -, hdb⟩ := h.writes
  have hnew := @Db.bump_execution? db (a.bump env) event a.executionId
  have hid : (a.bump env).executionId = a.executionId := rfl
  rw [hid, if_pos rfl, h.row.found] at hnew
  rw [hdb]
  exact hnew

theorem ManifestsHold.keep (hcall : ¬ call.ReplacesFinishedResult env db) (hdb : ManifestsHold db)
    (h : call.tx env snap db = .ok (c, db')) : ManifestsHold db' := by
  have hexec : call.exec env snap db = db' := Tx.atomically_run h
  have old : ∀ m ∈ db.evidenceManifest, ∃ row, db'.execution? m.executionId = some row ∧
      row.state = ACCEPTED ∧ row.resultCommit = some m.resultCommit := by
    intro m hm
    obtain ⟨row, hrow, hstate, hresult⟩ := hdb m hm
    have hkept : Keeps (call.exec env snap db) m.executionId row :=
      Call.absorbs hcall hrow (by rw [hstate]; decide)
    rw [hexec] at hkept
    exact hkept.manifest hstate hresult
  rcases (Call.evidenceStep h).manifests with hsame |
    ⟨a, ids, execution, commit, rows, manifest, event, rfl, haccepts, happend⟩
  · intro m hm
    rw [hsame] at hm
    exact old m hm
  · intro m hm
    rw [happend] at hm
    rcases List.mem_append.mp hm with hm | hm
    · exact old m hm
    · obtain rfl : m = manifest := List.mem_singleton.mp hm
      rw [haccepts.files.ofExecution, haccepts.files.commit]
      exact ⟨_, AcceptExecution.Accepts.accepted haccepts, rfl, haccepts.row.commit⟩

/-- **Terminal absorption.** In every run no step of which replaces the result of
a finished execution: no such call changes the state or the result commit of any
finished execution, and every evidence manifest names the result commit of its
execution, which is ACCEPTED. -/
theorem terminal_absorption {past : List Db}
    (h : Run (fun env call db => ¬ call.ReplacesFinishedResult env db) past db) :
    (∀ (env : Env) (snap : Db) (call : Call), ¬ call.ReplacesFinishedResult env db →
      ∀ id row, db.execution? id = some row → row.state ∈ terminalStates →
        ∃ row', (call.exec env snap db).execution? id = some row' ∧ row'.state = row.state ∧
          row'.resultCommit = row.resultCommit) ∧
    ∀ m ∈ db.evidenceManifest, ∃ row, db.execution? m.executionId = some row ∧
      row.state = ACCEPTED ∧ row.resultCommit = some m.resultCommit := by
  refine ⟨fun env snap call hcall id row hrow ht => Call.absorbs hcall hrow ht, ?_⟩
  exact (h.invariant (P := ManifestsHold) (by intro m hm; cases hm)
    fun env snap call db db' c hok _ hdb hx => ManifestsHold.keep hok hdb hx).1

/-! ## A cancelled execution that is given a result -/

abbrev sampleCancel : Transition where
  executionId := "execution"
  expectedStateVersion := 1
  operationKey := sampleKey '2'
  toState := CANCELLED
  actorRole := .CONTROLLER
  actorId := "owner"
  leaseOwner := "owner"
  leaseGeneration := 1
  resumeState := none
  blockerCode := none
  blockerDetail := none
  reasonCode := "CANCELLED"
  reasonDetail := none
  candidateWriteFence := none

abbrev sampleCancelledRow : SliceExecution :=
  { sampleLeasedRow with state := CANCELLED, stateVersion := 2 }

abbrev sampleCancelling : TransitionEvent where
  executionId := "execution"
  operationKey := sampleKey '2'
  eventType := .STATE_TRANSITION
  fromState := some READY
  toState := CANCELLED
  fromStateVersion := 1
  toStateVersion := 2
  actorRole := .CONTROLLER
  actorId := "owner"
  leaseGeneration := 1
  reasonCode := "CANCELLED"
  reasonDetail := none
  metadataJson := String.ofList sampleCancel.payload.render
  createdAt := .epoch
  eventSeq := 3
  eventId := "event-2"

abbrev sampleCancelled : Db :=
  { sampleLeased with
    sliceExecution := [sampleCancelledRow]
    transitionEvent := [sampleCreation, sampleLeasing, sampleCancelling] }

theorem sampleCancelled_step :
    Tx.run (Call.tx (sampleEnv "event-2") sampleLeased (.transition sampleCancel)) sampleLeased =
      .ok (.fresh, sampleCancelled) := by
  simp -dsimp [Call.tx, transitionTx, Transition.body, Transition.requireBlocker, Transition.set,
    Transition.eventType, Transition.payload, ExecutionState.value, ActorRole.value, requireFence,
    FenceLive, validateTransition, Edge, transitions, requireOptionalFence, requireSha256,
    Timestamp.lt_def, Timestamp.epoch, replayOr, existingEvent, getExecution, updateExecution,
    Option.filter_some, canonicalJson, Json.noFloat, Json.noFloatFields, Json.ofOption, Db.init,
    isLowerHex, requireChecks, insertEvent, executionChecks, columnChecks, companionChecks,
    commitLength, ExecutionCreate.row, resumeCheck, acceptedCheck, blockerCheck, openConflict,
    terminalStates, eventChecks, EventFields.row, ExecutionCreate.event, Db.execution?,
    Table.lookup, Table.update, Db.events, RiskLevel.maxAutoReworks, run_begin]

abbrev sampleLateResult : RegisterResultCommit where
  executionId := "execution"
  expectedStateVersion := 2
  operationKey := sampleKey '3'
  resultCommit := sampleKey 'd'
  leaseOwner := "owner"
  leaseGeneration := 1
  actorRole := .MAKER
  actorId := "owner"

abbrev sampleReplaced : Db :=
  { sampleCancelled with
    sliceExecution :=
      [{ sampleCancelledRow with resultCommit := some (sampleKey 'd'), stateVersion := 3 }]
    transitionEvent := [sampleCreation, sampleLeasing, sampleCancelling,
      { executionId := "execution", operationKey := sampleKey '3'
        eventType := .RESULT_COMMIT_REGISTERED, fromState := some CANCELLED, toState := CANCELLED
        fromStateVersion := 2, toStateVersion := 3, actorRole := .MAKER, actorId := "owner"
        leaseGeneration := 1, reasonCode := "RESULT_COMMIT_REGISTERED", reasonDetail := none
        metadataJson := String.ofList sampleLateResult.payload.render, createdAt := .epoch
        eventSeq := 4, eventId := "event-3" }] }

theorem sampleReplaced_step :
    Tx.run (Call.tx (sampleEnv "event-3") sampleCancelled (.registerResultCommit sampleLateResult))
      sampleCancelled = .ok (.fresh, sampleReplaced) := by
  simp -dsimp [Call.tx, registerResultCommitTx, RegisterResultCommit.payload, ActorRole.value,
    requireFence, FenceLive, requireSha256, requireCommit, Timestamp.lt_def, Timestamp.epoch,
    replayOr, existingEvent, getExecution, updateExecution, Option.filter_some, canonicalJson,
    Json.noFloat, Json.noFloatFields, Db.init, isLowerHex, requireChecks, insertEvent,
    executionChecks, columnChecks, companionChecks, commitLength, ExecutionCreate.row, resumeCheck,
    acceptedCheck, blockerCheck, openConflict, terminalStates, eventChecks, EventFields.row,
    ExecutionCreate.event, Db.execution?, Table.lookup, Table.update, Db.events,
    RiskLevel.maxAutoReworks, run_begin]

/-- A live lease outlasts the cancellation, and the result commit of the cancelled
execution is set under it. -/
theorem terminal_result_replaced :
    ¬ ∀ (db : Db), Reachable db → ∀ (env : Env) (snap : Db) (call : Call) id row,
      db.execution? id = some row → row.state ∈ terminalStates →
        ∃ row', (call.exec env snap db).execution? id = some row' ∧ row'.state = row.state ∧
          row'.resultCommit = row.resultCommit := by
  intro h
  have hreach : Reachable sampleCancelled :=
    Reachable.call _ _ _ sampleLeased_reachable sampleCancelled_step
  have hexec : (Call.registerResultCommit sampleLateResult).exec (sampleEnv "event-3") sampleCancelled
      sampleCancelled = sampleReplaced := Tx.atomically_run sampleReplaced_step
  obtain ⟨row', hrow', -, hresult⟩ := h sampleCancelled hreach (sampleEnv "event-3") sampleCancelled
    (.registerResultCommit sampleLateResult) "execution" sampleCancelledRow rfl (by decide)
  rw [hexec] at hrow'
  cases hrow'
  cases hresult

theorem not_replaces {env : Env} {db : Db} {call : Call} (h : match call with
      | .registerResultCommit _ => False
      | _ => True) : ¬ call.ReplacesFinishedResult env db := by
  rintro ⟨a, row, rfl, -⟩
  exact h

/-- The cancelled execution, cancelled once more. -/
theorem terminal_absorption_cancelled : ∃ row',
    ((Call.transition sampleCancel).exec (sampleEnv "event-3") sampleCancelled
      sampleCancelled).execution? "execution" = some row' ∧ row'.state = CANCELLED ∧
        row'.resultCommit = none := by
  have hcreated : Run (fun env call db => ¬ call.ReplacesFinishedResult env db) _ sampleCreated :=
    Run.extend _ _ _ .start (not_replaces trivial) sampleCreated_step
  have hleased := Run.extend _ _ _ hcreated (not_replaces trivial) sampleLeased_step
  have hcancelled := Run.extend _ _ _ hleased (not_replaces trivial) sampleCancelled_step
  exact (terminal_absorption hcancelled).1 _ _ (.transition sampleCancel) (not_replaces trivial)
    "execution" sampleCancelledRow rfl (by decide)

end Adcp.L4
