import Adcp.L2Domain.States

/-!
# The control database

One structure per table, one field per column (a column no statement of the
store reads or writes as data, such as a constant discriminator, is left out),
and `Db`, the tables together. A table is the list of its rows in insertion
order, so `rowid` / `AUTOINCREMENT` order is list order. The singleton tables
(`control_authority_state`, `global_production_writer_lease`) hold their one
row directly: their triggers forbid inserting or deleting.

`Env` is what one call reads besides the database: the successive readings of
the clock and of `uuid4`, the file system, Git, SQLite's `julianday`, and how
the connection is guarded.
-/
namespace Adcp.L3

open Adcp.L1 Adcp.L2

/-! ## Executions -/

/-- mirrors src/adcp/store/migrations.py:42-74 (`slice_execution`) -/
structure SliceExecution where
  executionId : String
  createIdempotencyKey : String
  sliceId : String
  riskLevel : RiskLevel
  environment : Environment
  state : ExecutionState
  resumeState : Option ExecutionState
  stateVersion : Int
  contractFingerprint : String
  authorityFingerprint : String
  sourceRoot : String
  branch : String
  baseCommit : String
  resultCommit : Option String
  makerReworkCount : Int
  maxAutoReworks : Int
  currentActorRole : ActorRole
  leaseOwner : Option String
  leaseGeneration : Int
  leaseExpiresAt : Option Timestamp
  blockerCode : Option String
  blockerDetail : Option String
  createdAt : Timestamp
  updatedAt : Timestamp
  acceptedAt : Option Timestamp
  deriving DecidableEq, Repr

inductive EventType where
  | EXECUTION_CREATED | STATE_TRANSITION | LEASE_ACQUIRED | LEASE_RELEASED
  | RESULT_COMMIT_REGISTERED | ACCEPTED
  deriving DecidableEq, Repr

def EventType.value : EventType → String
  | .EXECUTION_CREATED => "EXECUTION_CREATED"
  | .STATE_TRANSITION => "STATE_TRANSITION"
  | .LEASE_ACQUIRED => "LEASE_ACQUIRED"
  | .LEASE_RELEASED => "LEASE_RELEASED"
  | .RESULT_COMMIT_REGISTERED => "RESULT_COMMIT_REGISTERED"
  | .ACCEPTED => "ACCEPTED"

/-- The columns of an event that `_insert_event` is given.
mirrors src/adcp/store/sqlite.py:2042-2058 -/
structure EventFields where
  executionId : String
  operationKey : String
  eventType : EventType
  fromState : Option ExecutionState
  toState : ExecutionState
  fromStateVersion : Int
  toStateVersion : Int
  actorRole : ActorRole
  actorId : String
  leaseGeneration : Int
  reasonCode : String
  reasonDetail : Option String
  metadataJson : String
  createdAt : Timestamp
  deriving DecidableEq, Repr

/-- mirrors src/adcp/store/migrations.py:126-145 (`transition_event`) -/
structure TransitionEvent extends EventFields where
  eventSeq : Nat
  eventId : String
  deriving DecidableEq, Repr

/-- mirrors src/adcp/store/migrations.py:83-93 (`context_snapshot`) -/
structure ContextSnapshot where
  contextSnapshotId : String
  executionId : String
  role : CapsuleRole
  capsuleVersion : Int
  fingerprint : String
  canonicalJson : String
  createdAt : Timestamp
  deriving DecidableEq, Repr

/-- mirrors src/adcp/store/migrations.py:96-123 (`agent_attempt`) -/
structure AgentAttempt where
  attemptId : String
  operationKey : String
  executionId : String
  role : CapsuleRole
  attemptNo : Int
  model : String
  reasoningEffort : String
  sessionMode : String
  sessionId : String
  sandboxMode : String
  contextSnapshotId : String
  baseCommit : String
  resultCommit : Option String
  status : AgentAttemptStatus
  exitCode : Option Int
  stdoutArtifact : Option String
  stdoutSha256 : Option String
  stderrArtifact : Option String
  stderrSha256 : Option String
  resultArtifact : Option String
  resultSha256 : Option String
  failureCode : Option String
  startedAt : String
  endedAt : Option String
  deriving DecidableEq, Repr

inductive VerificationVerdict where
  | PASS | FAIL | BLOCKED_ENVIRONMENT
  deriving DecidableEq, Repr

/-- mirrors src/adcp/store/migrations.py:148-163 (`verification_result`) -/
structure VerificationResult where
  verificationId : String
  operationKey : String
  executionId : String
  resultCommit : String
  contractFingerprint : String
  authorityFingerprint : String
  verdict : VerificationVerdict
  commandManifest : String
  commandManifestSha256 : String
  resultJson : String
  startedAt : String
  endedAt : String
  deriving DecidableEq, Repr

inductive EvaluationVerdict where
  | PASS | REWORK_REQUIRED | DESIGN_REVIEW_REQUIRED | BLOCKED_ENVIRONMENT | BLOCKED_EVIDENCE
  deriving DecidableEq, Repr

def EvaluationVerdict.value : EvaluationVerdict → String
  | .PASS => "PASS"
  | .REWORK_REQUIRED => "REWORK_REQUIRED"
  | .DESIGN_REVIEW_REQUIRED => "DESIGN_REVIEW_REQUIRED"
  | .BLOCKED_ENVIRONMENT => "BLOCKED_ENVIRONMENT"
  | .BLOCKED_EVIDENCE => "BLOCKED_EVIDENCE"

/-- mirrors src/adcp/store/migrations.py:166-182 (`evaluation_result`) -/
structure EvaluationResult where
  evaluationId : String
  operationKey : String
  executionId : String
  evaluatorAttemptId : String
  contextSnapshotId : String
  resultCommit : String
  contractFingerprint : String
  authorityFingerprint : String
  verdict : EvaluationVerdict
  resultJson : String
  startedAt : String
  endedAt : String
  deriving DecidableEq, Repr

inductive ApprovalStatus where
  | PENDING | APPROVED | REJECTED
  deriving DecidableEq, Repr

/-- mirrors src/adcp/store/migrations.py:185-198 (`approval_request`); the store
always writes `required = 1` and never the status `CANCELLED` -/
structure ApprovalRequest where
  approvalId : String
  idempotencyKey : String
  executionId : String
  approvalType : String
  required : Bool
  status : ApprovalStatus
  authorityRef : String
  requestedAt : Timestamp
  resolvedAt : Option Timestamp
  consumedAt : Option Timestamp
  deriving DecidableEq, Repr

/-- mirrors src/adcp/store/migrations.py:201-223 (`evidence_manifest`); a text
primary key may be NULL in SQLite -/
structure EvidenceManifestRow where
  manifestId : Option String
  executionId : String
  sliceId : String
  contractFingerprint : String
  authorityFingerprint : String
  baseCommit : String
  resultCommit : String
  makerAttemptId : String
  verificationId : String
  evaluatorAttemptId : String
  evaluationId : String
  approvalRefsJson : String
  contextFingerprintsJson : String
  transitionEvidenceJson : String
  canonicalJson : String
  createdAt : String
  manifestSha256 : String
  deriving DecidableEq, Repr

/-! ## Slices and control authority -/

inductive MigrationClass where
  | MIGRATE_AS_READY_CURRENT_STATE | DEFER_BINDING | DEFER_PREREQUISITE
  deriving DecidableEq, Repr

def MigrationClass.value : MigrationClass → String
  | .MIGRATE_AS_READY_CURRENT_STATE => "MIGRATE_AS_READY_CURRENT_STATE"
  | .DEFER_BINDING => "DEFER_BINDING"
  | .DEFER_PREREQUISITE => "DEFER_PREREQUISITE"

inductive ExecutionEligibility where
  | ELIGIBLE_BOUND | ELIGIBLE_PREEXECUTION_BOUND | INELIGIBLE_UNTIL_PREFLIGHT
  | INELIGIBLE_UNTIL_PREREQUISITE
  deriving DecidableEq, Repr

def ExecutionEligibility.value : ExecutionEligibility → String
  | .ELIGIBLE_BOUND => "ELIGIBLE_BOUND"
  | .ELIGIBLE_PREEXECUTION_BOUND => "ELIGIBLE_PREEXECUTION_BOUND"
  | .INELIGIBLE_UNTIL_PREFLIGHT => "INELIGIBLE_UNTIL_PREFLIGHT"
  | .INELIGIBLE_UNTIL_PREREQUISITE => "INELIGIBLE_UNTIL_PREREQUISITE"

/-- `CONTROL_STATE_INPUT_FIELDS`: the columns of a slice row that a caller names.
mirrors src/adcp/store/sqlite.py:87-102 -/
structure SliceControlFields where
  sliceId : String
  stage : String
  status : String
  migrationClass : MigrationClass
  executionEligibility : ExecutionEligibility
  deferReason : Option String
  logicalSourceRoot : String
  repositoryToplevel : Option String
  branch : Option String
  baseCommit : Option String
  implementationResultCommit : Option String
  currentBranchHead : Option String
  activeExecutionId : Option String
  authorityFingerprint : String
  deriving DecidableEq, Repr

/-- mirrors src/adcp/store/migrations.py:572-671 (`slice_control_state`) -/
structure SliceControlState extends SliceControlFields where
  stateVersion : Int
  createdAt : Timestamp
  updatedAt : Timestamp
  deriving DecidableEq, Repr

/-- mirrors src/adcp/store/migrations.py:673-687 (`slice_control_event`) -/
structure SliceControlEvent where
  operationKey : String
  sliceId : String
  fromStateVersion : Int
  toStateVersion : Int
  reasonCode : String
  metadataJson : String
  createdAt : Timestamp
  deriving DecidableEq, Repr

inductive AuthorityMode where
  | TRANSITIONAL_AUTHORITY | CONTROL_STORE_AUTHORITY
  deriving DecidableEq, Repr

/-- mirrors src/adcp/store/migrations.py:374-396 (`control_authority_state`) -/
structure ControlAuthorityState where
  mode : AuthorityMode
  authorityGeneration : Int
  cutoverId : Option String
  sliceSnapshotFingerprint : String
  rollbackSnapshotFingerprint : String
  updatedAt : Timestamp
  switchedAt : Option Timestamp
  deriving DecidableEq, Repr

inductive AuthorityEventType where
  | AUTHORITY_SWITCH | AUTHORITY_ROLLBACK
  deriving DecidableEq, Repr

/-- mirrors src/adcp/store/migrations.py:518-561 (`authority_transition_event`) -/
structure AuthorityTransitionEvent where
  eventId : String
  operationKey : String
  cutoverId : String
  eventType : AuthorityEventType
  fromMode : AuthorityMode
  toMode : AuthorityMode
  fromGeneration : Int
  toGeneration : Int
  sliceSnapshotFingerprint : String
  rollbackSnapshotFingerprint : String
  humanDecisionRef : String
  createdAt : Timestamp
  deriving DecidableEq, Repr

/-! ## The global production writer -/

inductive WriterState where
  | FREE | HELD
  deriving DecidableEq, Repr

/-- `GLOBAL_WRITER_CONTEXT_FIELDS`, nullable as the columns are.
mirrors src/adcp/store/sqlite.py:63-74 -/
structure WriterContext where
  ownerId : Option String
  ownerExecutionId : Option String
  changeId : Option String
  sliceId : Option String
  writerClass : Option String
  ownerSessionRole : Option String
  track : Option String
  repositoryOrRuntime : Option String
  operationClass : Option String
  target : Option String
  deriving DecidableEq, Repr

/-- Every column NULL. -/
def WriterContext.empty : WriterContext :=
  ⟨none, none, none, none, none, none, none, none, none, none⟩

/-- mirrors src/adcp/store/migrations.py:1016-1078 (`global_production_writer_lease`) -/
structure GlobalWriterLease where
  state : WriterState
  context : WriterContext
  fencingToken : Int
  acquiredAt : Option Timestamp
  expiresAt : Option Timestamp
  heartbeatAt : Option Timestamp
  updatedAt : Timestamp
  deriving DecidableEq, Repr

inductive WriterEventType where
  | ACQUIRE | RELEASE | EXPIRED_TAKEOVER | FORCE_REVOKE
  deriving DecidableEq, Repr

/-- mirrors src/adcp/store/migrations.py:1086-1144 (`global_production_writer_event`) -/
structure GlobalWriterEvent where
  eventId : String
  operationKey : String
  eventType : WriterEventType
  fromFencingToken : Int
  toFencingToken : Int
  prior : WriterContext
  new : WriterContext
  reason : String
  controlDecisionRef : Option String
  requestJson : String
  createdAt : Timestamp
  deriving DecidableEq, Repr

/-! ## Evaluator seals -/

inductive SealPhase where
  | PRE_EXECUTION | POST_EXECUTION | LEGACY_ATTESTED
  deriving DecidableEq, Repr

inductive ProducerKind where
  | CONTROLLER_RUNNER | EXECUTION_ADAPTER | LEGACY_HUMAN_ATTESTATION
  deriving DecidableEq, Repr

/-- `EvaluatorArtifactSealCreate`, the columns of a seal that the caller names.
mirrors src/adcp/domain.py:257-279 -/
structure SealFields where
  sealId : String
  executionId : String
  resultCommit : String
  verificationId : String
  evaluatorAttemptId : String
  contextSnapshotId : String
  contextFingerprint : String
  contractFingerprint : String
  authorityFingerprint : String
  phase : SealPhase
  producerKind : ProducerKind
  producerRef : String
  evidenceRoot : String
  manifestVersion : Int
  manifestJson : String
  manifestSha256 : String
  authorityGeneration : Int
  operationKey : String
  approvalId : Option String
  deriving DecidableEq, Repr

/-- mirrors src/adcp/store/migrations.py:1169-1223 (`evaluator_artifact_seal`) -/
structure EvaluatorArtifactSeal extends SealFields where
  createdAt : Timestamp
  deriving DecidableEq, Repr

/-! ## Uncommitted candidates -/

/-- mirrors src/adcp/store/migrations.py:1412-1426 -/
structure CandidateContentBinding where
  candidateId : String
  executionId : String
  serializationFormat : String
  serializationVersion : Int
  repositoryIdentity : String
  expectedParent : String
  manifestJson : String
  manifestSha256 : String
  candidateContentSha256 : String
  createdAt : Timestamp
  deriving DecidableEq, Repr

/-- mirrors src/adcp/store/migrations.py:1427-1443 -/
structure CandidateProvenance where
  provenanceId : String
  candidateId : String
  executionId : String
  makerAttemptId : String
  canonicalSourceRoot : String
  worktreeIdentity : String
  branch : String
  contractFingerprint : String
  authorityFingerprint : String
  authorityGeneration : Int
  candidateContentSha256 : String
  createdAt : Timestamp
  deriving DecidableEq, Repr

/-- mirrors src/adcp/store/migrations.py:1444-1459 -/
structure CandidateVerificationResult where
  verificationId : String
  operationKey : String
  executionId : String
  candidateId : String
  candidateContentSha256 : String
  contractFingerprint : String
  authorityFingerprint : String
  authorityGeneration : Int
  verdict : VerificationVerdict
  commandManifest : String
  commandManifestSha256 : String
  resultJson : String
  startedAt : String
  endedAt : String
  deriving DecidableEq, Repr

/-- mirrors src/adcp/store/migrations.py:1460-1474 -/
structure CandidateEvaluatorAttempt where
  evaluatorAttemptId : String
  executionId : String
  candidateId : String
  verificationId : String
  contextSnapshotId : String
  candidateContentSha256 : String
  leaseOwner : String
  leaseGeneration : Int
  authorityGeneration : Int
  status : AgentAttemptStatus
  startedAt : Timestamp
  endedAt : Option String
  deriving DecidableEq, Repr

/-- mirrors src/adcp/store/migrations.py:1475-1489 -/
structure CandidateEvaluationResult where
  evaluationId : String
  operationKey : String
  executionId : String
  evaluatorAttemptId : String
  candidateId : String
  candidateContentSha256 : String
  contractFingerprint : String
  authorityFingerprint : String
  authorityGeneration : Int
  verdict : EvaluationVerdict
  resultJson : String
  startedAt : String
  endedAt : String
  deriving DecidableEq, Repr

/-- mirrors src/adcp/store/migrations.py:1490-1503 -/
structure CandidateEvaluatorArtifactSeal where
  sealId : String
  executionId : String
  evaluatorAttemptId : String
  candidateId : String
  candidateContentSha256 : String
  phase : SealPhase
  evidenceRoot : String
  manifestJson : String
  manifestSha256 : String
  createdAt : Timestamp
  deriving DecidableEq, Repr

/-- mirrors src/adcp/store/migrations.py:1504-1512 -/
structure ApprovalCandidateBinding where
  approvalId : String
  executionId : String
  candidateId : String
  evaluationId : String
  authorityFingerprint : String
  authorityGeneration : Int
  createdAt : Timestamp
  deriving DecidableEq, Repr

/-- mirrors src/adcp/store/migrations.py:1513-1521 -/
structure CandidateCommitIntent where
  closureId : String
  executionId : String
  candidateId : String
  approvalId : String
  evaluationId : String
  planJson : String
  planSha256 : String
  createdAt : Timestamp
  deriving DecidableEq, Repr

/-- mirrors src/adcp/store/migrations.py:1522-1530 -/
structure CandidateCommitClosure where
  closureId : String
  executionId : String
  candidateId : String
  approvalId : String
  evaluationId : String
  resultCommit : String
  expectedParent : String
  candidateContentSha256 : String
  createdAt : Timestamp
  deriving DecidableEq, Repr

/-! ## Receipts and projections -/

inductive ReceiptPhase where
  | PREPARED | FINAL
  deriving DecidableEq, Repr

inductive EffectStatus where
  | PENDING | APPLIED | NOOP_EXACT
  deriving DecidableEq, Repr

/-- The semantic fields of a receipt.
mirrors src/adcp/store/sqlite.py:1074-1080 -/
structure ReceiptFields where
  receiptVersion : Int
  changeId : String
  controlDecisionRef : String
  deploymentId : String
  operationId : String
  operationType : String
  receiptPhase : ReceiptPhase
  targetService : String
  targetDatabase : Option String
  principalIdentity : Option String
  credentialReference : Option String
  artifactPath : Option String
  artifactSha256 : Option String
  requestFingerprint : String
  beforeStateFingerprint : String
  afterStateFingerprint : Option String
  effectStatus : EffectStatus
  w08FencingToken : Int
  createdAt : String
  deriving DecidableEq, Repr

/-- mirrors src/adcp/store/migrations.py:1588-1639
(`typed_postgres_operation_receipt_event`) -/
structure ReceiptEvent extends ReceiptFields where
  receiptId : String
  deriving DecidableEq, Repr

inductive ProjectionStatus where
  | PENDING | SUCCEEDED | FAILED
  deriving DecidableEq, Repr

/-- mirrors src/adcp/store/migrations.py:225-242 (`projection_record`) -/
structure ProjectionRecord where
  projectionId : String
  executionId : String
  manifestId : String
  targetType : String
  targetRef : String
  projectionVersion : Int
  status : ProjectionStatus
  idempotencyKey : String
  attemptCount : Nat
  lastError : Option String
  createdAt : Timestamp
  lastAttemptAt : Option Timestamp
  projectedAt : Option Timestamp
  deriving DecidableEq, Repr

/-! ## The database and the surroundings of a call -/

structure Db where
  sliceExecution : List SliceExecution
  transitionEvent : List TransitionEvent
  contextSnapshot : List ContextSnapshot
  agentAttempt : List AgentAttempt
  verificationResult : List VerificationResult
  evaluationResult : List EvaluationResult
  approvalRequest : List ApprovalRequest
  evidenceManifest : List EvidenceManifestRow
  sliceControlState : List SliceControlState
  sliceControlEvent : List SliceControlEvent
  controlAuthorityState : ControlAuthorityState
  authorityTransitionEvent : List AuthorityTransitionEvent
  globalWriterLease : GlobalWriterLease
  globalWriterEvent : List GlobalWriterEvent
  evaluatorArtifactSeal : List EvaluatorArtifactSeal
  candidateContentBinding : List CandidateContentBinding
  candidateProvenance : List CandidateProvenance
  candidateVerificationResult : List CandidateVerificationResult
  candidateEvaluatorAttempt : List CandidateEvaluatorAttempt
  candidateEvaluationResult : List CandidateEvaluationResult
  candidateEvaluatorArtifactSeal : List CandidateEvaluatorArtifactSeal
  approvalCandidateBinding : List ApprovalCandidateBinding
  candidateCommitIntent : List CandidateCommitIntent
  candidateCommitClosure : List CandidateCommitClosure
  typedPostgresOperationReceiptEvent : List ReceiptEvent
  projectionRecord : List ProjectionRecord

/-- A freshly migrated database.
mirrors src/adcp/store/migrations.py:398-406,1080-1084 -/
def Db.init : Db where
  sliceExecution := []
  transitionEvent := []
  contextSnapshot := []
  agentAttempt := []
  verificationResult := []
  evaluationResult := []
  approvalRequest := []
  evidenceManifest := []
  sliceControlState := []
  sliceControlEvent := []
  controlAuthorityState :=
    { mode := .TRANSITIONAL_AUTHORITY, authorityGeneration := 0, cutoverId := none
      sliceSnapshotFingerprint := "4037d3d9c28b4d9e20010370539058384d6dba0566c89901895f0d6ff702d518"
      rollbackSnapshotFingerprint :=
        "45ef2ee50e7393592e766ecf0b16d51a59f130c571d213c70e033e6119b565f9"
      updatedAt := .epoch, switchedAt := none }
  authorityTransitionEvent := []
  globalWriterLease :=
    { state := .FREE, context := .empty, fencingToken := 0, acquiredAt := none, expiresAt := none
      heartbeatAt := none, updatedAt := .epoch }
  globalWriterEvent := []
  evaluatorArtifactSeal := []
  candidateContentBinding := []
  candidateProvenance := []
  candidateVerificationResult := []
  candidateEvaluatorAttempt := []
  candidateEvaluationResult := []
  candidateEvaluatorArtifactSeal := []
  approvalCandidateBinding := []
  candidateCommitIntent := []
  candidateCommitClosure := []
  typedPostgresOperationReceiptEvent := []
  projectionRecord := []

/-- The surroundings of one call. `clock i` is the call's reading number `i` of
the store's clock, `uuid i` its `uuid4()` number `i`; `julianday` is SQLite's
function of that name, in milliseconds, and `julianText s` that it reads the text `s`; `floatRepr` is `repr` of the float a
literal denotes; `canonicalSourceRoot` resolves a path to
the root of its Git repository; `home` is the directory that a leading `~` or
`~user` stands for, `cwd` the process's;
`openDirectory` and `readOne` open an evidence root and read one sealed file
below it; `guard` is `none` on an unguarded store and `some a` on one that
requires the global writer, `a` being the bound authority; `fault p` is the
exception an injected fault raises at point `p`. -/
structure Env where
  clock : Nat → Timestamp
  uuid : Nat → String
  julianday : Timestamp → Int
  julianText : String → Bool
  floatRepr : String → String
  canonicalSourceRoot : String → Except PyError String
  home : String → Except PyError String
  cwd : String
  openDirectory : String → Except PyError Unit
  readOne : String → String → Except PyError (List UInt8)
  guard : Option (Option (String × Int))
  fault : String → Option PyError

/-- `if fault_injector is not None: fault_injector(point)`. -/
def inject {σ : Type} (env : Env) (point : String) : Tx PyError σ Unit := fun s =>
  match env.fault point with
  | some e => .error e
  | none => .ok ((), s)

theorem inject_ok {σ : Type} {env : Env} {point : String} {s : σ} {r : Unit × σ} :
    inject env point s = .ok r ↔ env.fault point = none ∧ r = ((), s) := by
  unfold inject
  cases env.fault point <;> simp [eq_comm]

theorem inject_bind_ok {σ α : Type} {env : Env} {point : String} {f : Unit → Tx PyError σ α} {s : σ}
    {r : α × σ} : (inject env point >>= f) s = .ok r ↔ env.fault point = none ∧ f () s = .ok r :=
  Tx.check_bind_ok fun _ => inject_ok

theorem run_inject {σ : Type} {env : Env} {point : String} {s : σ} (h : env.fault point = none) :
    Tx.run (inject env point : Tx PyError σ Unit) s = .ok ((), s) := inject_ok.mpr ⟨h, rfl⟩

end Adcp.L3
