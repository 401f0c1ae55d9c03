import Adcp.L3Store.Lifecycle
import Adcp.L3Store.Receipts
import Adcp.L4Safety.WriterFencing

/-!
# The control store as a system

Any number of clients call the store's operations on one database, in any
order, with any arguments and surroundings. A call is one transaction: it
commits, or it leaves the database as it was. An operation that reads before
its transaction may have read any state the run has been in.

* `Call`, `Call.tx`, `Call.exec`: the operations that write.
* `Run`, `Reachable`: runs from a freshly migrated database, every step of which
  meets a condition on the call and the state it is made in.
* `Run.invariant`: what holds at first and is kept by every call holds in every
  state of a run.
-/
namespace Adcp.L4

open Adcp.L1 Adcp.L2 Adcp.L3 ExecutionState

/-! ## Calls -/

inductive Call where
  | createExecution (spec : ExecutionCreate) (operationKey : String)
  | bindDeferredExecution (a : BindDeferredExecution)
  | acquireLease (a : AcquireLease)
  | heartbeat (a : Heartbeat)
  | releaseLease (a : ReleaseLease)
  | transition (a : Transition)
  | registerResultCommit (a : RegisterResultCommit)
  | finalizeDeferredResultCommit (a : FinalizeDeferredResultCommit)
  | releaseDeferred (a : ReleaseDeferred)
  | closeCandidate (a : CloseCandidate)
  | authorizeHighRework (a : AuthorizeHighRework)
  | scheduleHumanAuthorizedRework (a : ScheduleHumanAuthorizedRework)
  | scheduleRework (a : ScheduleRework)
  | acceptExecution (a : AcceptExecution)
  | reconcileSlice (a : ReconcileSlice)
  | reconcileTransitionalAuthority (expectedGeneration : Int) (slices rollback : String)
  | transitionAuthority (a : TransitionAuthority)
  | registerContextSnapshot (a : RegisterContextSnapshot)
  | registerVerificationResult (record : VerificationResultRecord)
  | registerAgentAttempt (a : RegisterAgentAttempt)
  | requestApproval (a : RequestApproval)
  | resolveApproval (a : ResolveApproval)
  | createEvaluatorArtifactSeal (a : CreateSeal)
  | finishAgentAttempt (a : FinishAgentAttempt)
  | registerEvaluationResult (a : RegisterEvaluation)
  | bindPrecommitCandidate (a : BindPrecommitCandidate)
  | registerCandidateVerification (a : RegisterCandidateVerification)
  | beginCandidateEvaluator (a : BeginCandidateEvaluator)
  | registerCandidateEvaluation (a : RegisterCandidateEvaluation)
  | createCandidateSeal (a : CreateCandidateSeal)
  | bindCandidateApproval (a : BindCandidateApproval)
  | prepareCandidateCommit (a : PrepareCandidateCommit)
  | appendReceipt (a : AppendReceipt)
  | projection (call : ProjectionCall)
  | writer (call : WriterCall)

/-- An operation that does not report whether it replayed. -/
def done {α : Type} (x : Tx PyError Db α) : Tx PyError Db Commit := do
  let _ ← x
  pure .fresh

theorem done_ok {α : Type} {x : Tx PyError Db α} {db db' : Db} {c : Commit}
    (h : done x db = .ok (c, db')) : ∃ a, x db = .ok (a, db') := by
  unfold done at h
  obtain ⟨a, s, hx, h⟩ := Tx.bind_ok.mp h
  cases Tx.pure_ok.mp h
  exact ⟨a, hx⟩

namespace Call

/-- The transaction of a call; `snap` is the state it read before opening it. -/
def tx (env : Env) (snap : Db) : Call → Tx PyError Db Commit
  | createExecution spec key => do
    let r ← createExecutionTx env spec key
    pure r.1
  | bindDeferredExecution a => bindDeferredExecutionTx env a
  | acquireLease a => acquireLeaseTx env a
  | heartbeat a => done (heartbeatTx env a)
  | releaseLease a => releaseLeaseTx env a
  | transition a => transitionTx env a
  | registerResultCommit a => registerResultCommitTx env a
  | finalizeDeferredResultCommit a => finalizeDeferredResultCommitTx env a
  | releaseDeferred a => releaseDeferredTx env a
  | closeCandidate a => closeCandidateTx env a
  | authorizeHighRework a => done (authorizeHighReworkTx env a)
  | scheduleHumanAuthorizedRework a => done (scheduleHumanAuthorizedReworkTx env a)
  | scheduleRework a => scheduleReworkTx env a
  | acceptExecution a => acceptExecutionTx env a
  | reconcileSlice a => done (reconcileSliceTx env a)
  | reconcileTransitionalAuthority g s r => done (reconcileTransitionalAuthorityTx env g s r)
  | transitionAuthority a => done (transitionAuthorityTx env a)
  | registerContextSnapshot a => done (registerContextSnapshotTx env a)
  | registerVerificationResult record => done (registerVerificationResultTx env record)
  | registerAgentAttempt a => done (registerAgentAttemptTx env a)
  | requestApproval a => done (requestApprovalTx env a)
  | resolveApproval a => done (resolveApprovalTx env a)
  | createEvaluatorArtifactSeal a => createEvaluatorArtifactSealTx env a
  | finishAgentAttempt a => finishAgentAttemptTx env a
  | registerEvaluationResult a => registerEvaluationResultTx env snap a
  | bindPrecommitCandidate a => done (bindPrecommitCandidateTx env a)
  | registerCandidateVerification a => done (registerCandidateVerificationTx env snap a)
  | beginCandidateEvaluator a => done (beginCandidateEvaluatorTx env snap a)
  | registerCandidateEvaluation a => done (registerCandidateEvaluationTx env snap a)
  | createCandidateSeal a => done (createCandidateSealTx env snap a)
  | bindCandidateApproval a => done (bindCandidateApprovalTx env snap a)
  | prepareCandidateCommit a => done (prepareCandidateCommitTx env a)
  | appendReceipt a => done (appendReceiptTx env snap a)
  | projection p => done (p.tx env)
  | writer (.acquire a) => done (acquireWriterTx env a)
  | writer (.heartbeat o t ttl) => done (heartbeatWriterTx env o t ttl)
  | writer (.release a) => done (releaseWriterTx env a)
  | writer (.forceRevoke a) => done (revokeWriterTx env a)
  | writer (.assertCurrent o t) => done (assertCurrentGlobalWriter env 0 o t)

/-- The database a call leaves. An operation that reads its row back after the
commit leaves what its transaction leaves (`Tx.commitThen_snd`). -/
def exec (env : Env) (snap : Db) (call : Call) (db : Db) : Db :=
  (Tx.atomically (call.tx env snap) db).2

/-- A call leaves the database as it was, or commits. -/
theorem exec_cases (env : Env) (snap : Db) (call : Call) (db : Db) :
    call.exec env snap db = db ∨ ∃ c, call.tx env snap db = .ok (c, call.exec env snap db) :=
  Tx.atomically_state _ _

end Call

/-! ## Runs -/

/-- A run of calls, each of which meets `allowed` in the state it is made in. The
list holds the states before the last one, latest first. -/
inductive Run (allowed : Env → Call → Db → Prop) : List Db → Db → Prop
  | start : Run allowed [] Db.init
  | call {past : List Db} {db snap : Db} {env : Env} {call : Call} (run : Run allowed past db)
      (seen : snap ∈ db :: past) (ok : allowed env call db) :
      Run allowed (db :: past) (call.exec env snap db)

def Reachable (db : Db) : Prop := ∃ past, Run (fun _ _ _ => True) past db

variable {allowed : Env → Call → Db → Prop} {past : List Db} {db : Db}

theorem Run.mono {allowed' : Env → Call → Db → Prop}
    (hle : ∀ env call db, allowed env call db → allowed' env call db) (h : Run allowed past db) :
    Run allowed' past db := by
  induction h with
  | start => exact .start
  | call run seen ok ih => exact .call ih seen (hle _ _ _ ok)

theorem Run.reachable (h : Run allowed past db) : Reachable db :=
  ⟨past, h.mono fun _ _ _ _ => trivial⟩

/-- What holds at first and is kept by every committing call holds in every state
of a run. -/
theorem Run.invariant {P : Db → Prop} (hinit : P Db.init)
    (hstep : ∀ env snap call db db' c, allowed env call db → P snap → P db →
      Call.tx env snap call db = .ok (c, db') → P db')
    (h : Run allowed past db) : P db ∧ ∀ old ∈ past, P old := by
  induction h with
  | start => exact ⟨hinit, by simp⟩
  | @call past db snap env call run seen ok ih =>
    obtain ⟨hdb, hpast⟩ := ih
    have hall : ∀ old ∈ db :: past, P old := by
      intro old hold
      rcases List.mem_cons.mp hold with rfl | hold
      · exact hdb
      · exact hpast old hold
    refine ⟨?_, hall⟩
    rcases call.exec_cases env snap db with he | ⟨c, hx⟩
    · rw [he]
      exact hdb
    · exact hstep env snap call db _ c ok (hall snap seen) hdb hx

theorem Reachable.invariant {P : Db → Prop} (hinit : P Db.init)
    (hstep : ∀ env snap call db db' c, P snap → P db →
      Call.tx env snap call db = .ok (c, db') → P db')
    (h : Reachable db) : P db := by
  obtain ⟨past, run⟩ := h
  exact (run.invariant hinit fun env snap call db db' c _ => hstep env snap call db db' c).1

/-- A call that commits on the last state of a run extends it. -/
theorem Run.extend (env : Env) (call : Call) (c : Commit) {db' : Db} (h : Run allowed past db)
    (ok : allowed env call db) (hx : Tx.run (call.tx env db) db = .ok (c, db')) :
    Run allowed (db :: past) db' := by
  have hexec : call.exec env db db = db' := Tx.atomically_run hx
  exact hexec ▸ .call h (List.mem_cons_self ..) ok

theorem Reachable.call (env : Env) (call : Call) (c : Commit) {db' : Db} (h : Reachable db)
    (hx : Tx.run (call.tx env db) db = .ok (c, db')) : Reachable db' := by
  obtain ⟨past, run⟩ := h
  exact ⟨_, run.extend env call c trivial hx⟩

/-! ## A sample execution

The data of the concrete runs below: an unguarded store whose clock stands still,
and an execution that one owner leases. -/

abbrev sampleEnv (eventId : String) : Env where
  clock _ := .epoch
  uuid i := if i = 0 then eventId else eventId ++ toString i
  julianday t := t.micros / 1000
  julianText _ := true
  floatRepr t := t
  canonicalSourceRoot path := .ok path
  home user := .ok user
  cwd := "/"
  openDirectory _ := .ok ()
  readOne _ _ := .ok []
  guard := none
  fault _ := none

theorem run_begin {env : Env} {n : Nat} {db : Db} (h : env.guard = none) :
    Tx.run (begin env n) db = .ok ((), db) := by
  unfold begin
  rw [h]
  exact Tx.run_pure () db

/-- A text that can stand for a hash, a commit or an operation key. -/
def sampleKey (c : Char) : String := String.ofList (List.replicate 64 c)

@[simp]
theorem isSha256_sampleKey (c : Char) : isSha256 (sampleKey c) = isLowerHex c := by
  simp [isSha256, sampleKey]

@[simp]
theorem isCommit_sampleKey (c : Char) : isCommit (sampleKey c) = isLowerHex c := by
  simp [isCommit, sampleKey]

@[simp]
theorem sqliteLength_sampleKey (c : Char) (h : c ≠ '\x00') : sqliteLength (sampleKey c) = 64 := by
  unfold sqliteLength sampleKey
  rw [String.toList_ofList, List.takeWhile_replicate, if_pos (decide_eq_true h),
    List.length_replicate]

@[simp]
theorem sampleKey_inj (c d : Char) : sampleKey c = sampleKey d ↔ c = d := by
  refine ⟨fun h => ?_, fun h => h ▸ rfl⟩
  have hlist := congrArg String.toList h
  simpa [sampleKey] using hlist

abbrev sampleSpec : ExecutionCreate where
  executionId := "execution"
  sliceId := "slice"
  riskLevel := .NORMAL
  environment := .TEST
  contractFingerprint := sampleKey 'c'
  authorityFingerprint := sampleKey 'a'
  sourceRoot := "/source"
  branch := "main"
  baseCommit := sampleKey 'b'
  currentActorRole := .CONTROLLER

@[simp]
theorem sqliteLength_execution : sqliteLength "execution" = 9 := by simp [sqliteLength]

@[simp]
theorem sqliteLength_slice : sqliteLength "slice" = 5 := by simp [sqliteLength]

@[simp]
theorem sqliteLength_source : sqliteLength "/source" = 7 := by simp [sqliteLength]

@[simp]
theorem sqliteLength_main : sqliteLength "main" = 4 := by simp [sqliteLength]

abbrev sampleRow : SliceExecution := sampleSpec.row (sampleKey '0') "/source" .epoch

abbrev sampleCreation : TransitionEvent :=
  (sampleSpec.event (sampleKey '0') "controller"
    (String.ofList (sampleSpec.payload "/source").render) .epoch).row Db.init "event-0"

/-- The sample execution, created. -/
abbrev sampleCreated : Db :=
  { Db.init with sliceExecution := [sampleRow], transitionEvent := [sampleCreation] }

theorem sampleCreated_step :
    Tx.run (Call.tx (sampleEnv "event-0") Db.init (.createExecution sampleSpec (sampleKey '0')))
      Db.init = .ok (.fresh, sampleCreated) := by
  simp -dsimp [Call.tx, createExecutionTx, ExecutionCreate.validate, requireSha256, requireCommit,
    canonicalJson, Json.noFloat, Json.noFloatFields, ExecutionCreate.payload, Db.init, isLowerHex,
    insertExecution, requireChecks, insertEvent, executionChecks, columnChecks, companionChecks,
    commitLength, ExecutionCreate.row, resumeCheck, acceptedCheck, blockerCheck, openConflict,
    eventChecks, EventFields.row, ExecutionCreate.event, Db.execution?, Table.lookup, Db.events,
    RiskLevel.maxAutoReworks, run_begin]

abbrev sampleAcquire : AcquireLease where
  executionId := "execution"
  expectedStateVersion := 0
  operationKey := sampleKey '1'
  leaseOwner := "owner"
  ttlSeconds := 60

/-- A minute after `Timestamp.epoch`. -/
abbrev sampleExpiry : Timestamp := ⟨62135596860000000, by decide⟩

abbrev sampleLeasedRow : SliceExecution :=
  { sampleRow with
    leaseOwner := some "owner", leaseGeneration := 1, leaseExpiresAt := some sampleExpiry
    stateVersion := 1 }

abbrev sampleLeasing : TransitionEvent where
  executionId := "execution"
  operationKey := sampleKey '1'
  eventType := .LEASE_ACQUIRED
  fromState := some .READY
  toState := .READY
  fromStateVersion := 0
  toStateVersion := 1
  actorRole := .CONTROLLER
  actorId := "owner"
  leaseGeneration := 1
  reasonCode := "LEASE_ACQUIRED"
  reasonDetail := none
  metadataJson := String.ofList sampleAcquire.payload.render
  createdAt := .epoch
  eventSeq := 2
  eventId := "event-1"

/-- The sample execution, leased by `"owner"` under generation 1. -/
abbrev sampleLeased : Db :=
  { sampleCreated with
    sliceExecution := [sampleLeasedRow], transitionEvent := [sampleCreation, sampleLeasing] }

theorem sampleLeased_step :
    Tx.run (Call.tx (sampleEnv "event-1") sampleCreated (.acquireLease sampleAcquire)) sampleCreated =
      .ok (.fresh, sampleLeased) := by
  simp -dsimp [Call.tx, acquireLeaseTx, requireSha256, requireTtl, minLeaseTtlSeconds,
    maxLeaseTtlSeconds, Timestamp.addSeconds, Timestamp.epoch, maxMicros, AcquireLease.payload,
    replayOr, existingEvent, getExecution, terminalStates, leaseHeld, updateExecution,
    Option.filter_some, canonicalJson, Json.noFloat, Json.noFloatFields, Db.init, isLowerHex,
    requireChecks, insertEvent, executionChecks, columnChecks, companionChecks, commitLength,
    ExecutionCreate.row, resumeCheck, acceptedCheck, blockerCheck, openConflict, eventChecks,
    EventFields.row, ExecutionCreate.event, Db.execution?, Table.lookup, Table.update, Db.events,
    RiskLevel.maxAutoReworks, run_begin]

theorem sampleLeased_reachable : Reachable sampleLeased :=
  Reachable.call _ _ _ (Reachable.call _ _ _ ⟨[], .start⟩ sampleCreated_step) sampleLeased_step

theorem sqliteLength_of_isSha256 {s : String} (h : isSha256 s = true) : sqliteLength s = 64 := by
  simp only [isSha256, Bool.and_eq_true, decide_eq_true_eq, List.all_eq_true] at h
  have hall : ∀ c ∈ s.toList, decide (c ≠ '\x00') = true := by
    intro c hc
    have hhex := h.2 c hc
    refine decide_eq_true ?_
    rintro rfl
    revert hhex
    decide
  have hself := @List.takeWhile_append_of_pos Char _ s.toList [] hall
  rw [List.append_nil, List.takeWhile_nil, List.append_nil] at hself
  unfold sqliteLength
  rw [hself, h.1]

theorem hexOf_of_isSha256 {s : String} {sizes : List Nat} (h : isSha256 s = true)
    (hsize : 64 ∈ sizes) : hexOf sizes s = true := by
  unfold hexOf
  rw [sqliteLength_of_isSha256 h]
  simp only [isSha256, Bool.and_eq_true] at h
  rw [decide_eq_true hsize, h.2]
  rfl

@[simp]
theorem hexOf_sampleKey {sizes : List Nat} {c : Char} (hc : isLowerHex c = true)
    (hsize : 64 ∈ sizes) : hexOf sizes (sampleKey c) = true :=
  hexOf_of_isSha256 (by rw [isSha256_sampleKey, hc]) hsize

abbrev sampleStart : Transition where
  executionId := "execution"
  expectedStateVersion := 1
  operationKey := sampleKey '2'
  toState := MAKER_RUNNING
  actorRole := .CONTROLLER
  actorId := "owner"
  leaseOwner := "owner"
  leaseGeneration := 1
  resumeState := none
  blockerCode := none
  blockerDetail := none
  reasonCode := "MAKER_STARTED"
  reasonDetail := none
  candidateWriteFence := none

abbrev sampleMakingRow : SliceExecution :=
  { sampleLeasedRow with state := MAKER_RUNNING, stateVersion := 2 }

abbrev sampleStarting : TransitionEvent where
  executionId := "execution"
  operationKey := sampleKey '2'
  eventType := .STATE_TRANSITION
  fromState := some READY
  toState := MAKER_RUNNING
  fromStateVersion := 1
  toStateVersion := 2
  actorRole := .CONTROLLER
  actorId := "owner"
  leaseGeneration := 1
  reasonCode := "MAKER_STARTED"
  reasonDetail := none
  metadataJson := String.ofList sampleStart.payload.render
  createdAt := .epoch
  eventSeq := 3
  eventId := "event-2"

/-- The Maker of the sample execution, started. -/
abbrev sampleMaking : Db :=
  { sampleLeased with
    sliceExecution := [sampleMakingRow]
    transitionEvent := [sampleCreation, sampleLeasing, sampleStarting] }

theorem sampleMaking_step :
    Tx.run (Call.tx (sampleEnv "event-2") sampleLeased (.transition sampleStart)) sampleLeased =
      .ok (.fresh, sampleMaking) := by
  simp -dsimp [Call.tx, transitionTx, Transition.body, Transition.requireBlocker, Transition.set,
    Transition.eventType, Transition.payload, ExecutionState.value, ActorRole.value, requireFence,
    FenceLive, validateTransition, Edge, transitions, requireOptionalFence, requireSha256,
    Timestamp.lt_def, Timestamp.epoch, replayOr, existingEvent, getExecution, updateExecution,
    Option.filter_some, canonicalJson, Json.noFloat, Json.noFloatFields, Json.ofOption, Db.init,
    isLowerHex, requireChecks, insertEvent, executionChecks, columnChecks, companionChecks,
    commitLength, ExecutionCreate.row, resumeCheck, acceptedCheck, blockerCheck, openConflict,
    terminalStates, eventChecks, EventFields.row, ExecutionCreate.event, Db.execution?,
    Table.lookup, Table.update, Db.events, RiskLevel.maxAutoReworks, run_begin]

/-- A Maker context of the sample execution. -/
abbrev sampleSnapshot : RegisterContextSnapshot where
  contextSnapshotId := "context"
  executionId := "execution"
  role := .MAKER
  capsuleVersion := 1
  content := .inl (.obj [])
  candidateWriteFence := none

def sampleCapsule : Json := envelope 1 .MAKER (.obj [])

def sampleCapsuleSha256 : String := Sha256.hexdigest (Sha256.utf8 sampleCapsule.render)

abbrev sampleContext : ContextSnapshot where
  contextSnapshotId := "context"
  executionId := "execution"
  role := .MAKER
  capsuleVersion := 1
  fingerprint := sampleCapsuleSha256
  canonicalJson := String.ofList sampleCapsule.render
  createdAt := .epoch

@[simp]
theorem sqliteLength_capsuleSha256 : sqliteLength sampleCapsuleSha256 = 64 :=
  sqliteLength_of_isSha256 (isSha256_hexdigest _)

@[simp]
theorem sqliteLength_capsule : 0 < sqliteLength (String.ofList sampleCapsule.render) := by
  decide +kernel

abbrev sampleInContext : Db := { sampleMaking with contextSnapshot := [sampleContext] }

@[simp]
theorem sampleCapsule_json : canonicalJson (envelope 1 .MAKER (.obj [])) =
    .ok (String.ofList sampleCapsule.render) := by
  simp -dsimp [canonicalJson, envelope, Json.noFloat, Json.noFloatFields, sampleCapsule]

@[simp]
theorem sampleCapsule_sha256 :
    canonicalSha256 (envelope 1 .MAKER (.obj [])) = .ok sampleCapsuleSha256 := by
  simp -dsimp [canonicalSha256, envelope, Json.noFloat, Json.noFloatFields, sampleCapsuleSha256,
    sampleCapsule]

theorem sampleInContext_step :
    Tx.run (Call.tx (sampleEnv "") sampleMaking (.registerContextSnapshot sampleSnapshot))
      sampleMaking = .ok (.fresh, sampleInContext) := by
  simp -dsimp [Call.tx, done, registerContextSnapshotTx, RegisterContextSnapshot.capsuleContent,
    Json.isObj, requireOptionalFence, insertContextSnapshot, Db.contextSnapshot?, Table.lookup,
    Db.execution?, Db.init, ExecutionCreate.row, run_begin]

/-- The Maker attempt of this number. -/
abbrev sampleMaker (no : Int) (id key : Char) : RegisterAgentAttempt where
  attemptId := sampleKey id
  operationKey := sampleKey key
  executionId := "execution"
  role := .MAKER
  attemptNo := no
  model := none
  reasoningEffort := none
  sessionId := sampleKey id
  contextSnapshotId := "context"
  baseCommit := sampleKey 'b'
  resultCommit := none
  startedAt := "start"
  candidateWriteFence := none

abbrev sampleFirst : AgentAttempt := (sampleMaker 1 'd' '3').row

abbrev sampleOneMaker : Db := { sampleInContext with agentAttempt := [sampleFirst] }

@[simp]
theorem sqliteLength_unspecified : sqliteLength "<unspecified>" = 13 := by simp [sqliteLength]

theorem sampleKey_ne_empty (c : Char) : sampleKey c ≠ "" := by
  intro h
  have hlist := congrArg String.toList h
  simp [sampleKey] at hlist

theorem sampleOneMaker_step :
    Tx.run (Call.tx (sampleEnv "") sampleInContext (.registerAgentAttempt (sampleMaker 1 'd' '3')))
      sampleInContext = .ok (.fresh, sampleOneMaker) := by
  simp -dsimp [Call.tx, done, registerAgentAttemptTx, requireSha256, requireCommit, isLowerHex,
    sampleKey_ne_empty, requireOptionalFence, insertAgentAttempt, attemptChecks, orUnspecified,
    RegisterAgentAttempt.row, Db.agentAttempt?, Db.contextSnapshot?, Table.lookup, Db.execution?,
    Db.init, commitLength, ExecutionCreate.row, run_begin]

end Adcp.L4
