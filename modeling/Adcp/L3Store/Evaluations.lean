import Adcp.L3Store.Acceptance
import Adcp.L3Store.CompletionBinding

/-!
# Evaluator seals, attempts and evaluation results

Sealing what the trusted parent read, finishing an attempt from its seal, and
registering the evaluation result that the sealed bytes carry.

`register_evaluation_result` checks its record against the seal before it opens
its transaction; `validateEvaluationCompletionBinding` is that check, over the
state the database had then.

* `createEvaluatorArtifactSealTx_ok`, `finishAgentAttemptTx_ok`,
  `registerEvaluationResultTx_ok`: what each operation found and wrote.
-/
namespace Adcp.L3

open Adcp.L1 Adcp.L2 ExecutionState

/-- `except ArtifactSealError as error: raise StoreError(error.code, error.detail)`,
and the same of `EvaluatorBoundaryError`. -/
def boundaryToStore : PyError → PyError
  | .boundary code detail => .store code detail
  | e => e

/-- A computation on sealed bytes, its errors raised as the store's own. -/
def liftSealed {α : Type} (x : Except PyError α) : Tx PyError Db α :=
  Tx.lift (x.mapError boundaryToStore)

theorem liftSealed_bind_ok {α β : Type} {x : Except PyError α} {f : α → Tx PyError Db β} {db : Db}
    {r : β × Db} : (liftSealed x >>= f) db = .ok r ↔ ∃ a, x = .ok a ∧ f a db = .ok r := by
  unfold liftSealed
  rw [Tx.lift_bind_ok]
  cases x <;> simp [Except.mapError]

/-! ## Seals -/

def Db.evaluatorArtifactSeal? (db : Db) (sealId : String) : Option EvaluatorArtifactSeal :=
  Table.lookup (·.sealId) db.evaluatorArtifactSeal sealId

/-- mirrors src/adcp/store/sqlite.py:3790-3796 -/
def getEvaluatorArtifactSeal (sealId : String) : Tx PyError Db EvaluatorArtifactSeal :=
  Tx.find (·.evaluatorArtifactSeal? sealId) (.store "EVALUATOR_ARTIFACT_SEAL_NOT_FOUND" sealId)

/-- mirrors src/adcp/store/sqlite.py:3798-3805 -/
def Db.findSeal (db : Db) (attemptId : String) (phase : SealPhase) : Option EvaluatorArtifactSeal :=
  db.evaluatorArtifactSeal.find? fun s => s.evaluatorAttemptId = attemptId ∧ s.phase = phase

/-- mirrors src/adcp/store/sqlite.py:3807-3818 -/
def Db.findAuthoritativeSeal (db : Db) (attemptId : String) : Option EvaluatorArtifactSeal :=
  (db.findSeal attemptId .POST_EXECUTION).or (db.findSeal attemptId .LEGACY_ATTESTED)

/-- mirrors src/adcp/domain.py:278-320 -/
def SealFields.validate (s : SealFields) : Tx PyError Db Unit := do
  let invalid (field : String) : PyError := .store "INVALID_EVALUATOR_ARTIFACT_SEAL" field
  Tx.requireAll invalid
    [("seal_id", s.sealId ≠ ""), ("execution_id", s.executionId ≠ ""),
     ("verification_id", s.verificationId ≠ ""),
     ("evaluator_attempt_id", s.evaluatorAttemptId ≠ ""),
     ("context_snapshot_id", s.contextSnapshotId ≠ ""), ("producer_ref", s.producerRef ≠ ""),
     ("evidence_root", s.evidenceRoot ≠ "")]
  requireCommit s.resultCommit "result_commit"
  requireSha256 s.contextFingerprint "context_fingerprint"
  requireSha256 s.contractFingerprint "contract_fingerprint"
  requireSha256 s.authorityFingerprint "authority_fingerprint"
  requireSha256 s.manifestSha256 "manifest_sha256"
  requireSha256 s.operationKey "operation_key"
  Tx.require (s.manifestVersion = 1) (invalid "manifest_version")
  Tx.require (0 ≤ s.authorityGeneration) (invalid "authority_generation")
  Tx.require ((PosixPath.parse s.evidenceRoot).absolute = true) (invalid "evidence_root")
  let manifest ← Tx.lift ((jsonLoads s.manifestJson).mapError fun _ => invalid "manifest_json")
  let text ← Tx.lift (canonicalJson manifest)
  let sha ← Tx.lift (canonicalSha256 manifest)
  Tx.require (text = s.manifestJson ∧ sha = s.manifestSha256) (invalid "manifest_hash")
  if s.phase = .LEGACY_ATTESTED then
    Tx.require (s.producerKind = .LEGACY_HUMAN_ATTESTATION ∧ nonEmptyText s.approvalId = true)
      (invalid "legacy_attestation")
  else
    Tx.require (s.producerKind ≠ .LEGACY_HUMAN_ATTESTATION ∧ s.approvalId = none)
      (invalid "producer_kind")

/-- mirrors src/adcp/store/sqlite.py:3848-3852 -/
def SealPhase.requiredRoles : SealPhase → List String
  | .PRE_EXECUTION => ["context_snapshot", "prompt", "output_schema"]
  | .POST_EXECUTION => ["stdout", "stderr", "result", "runner_metadata"]
  | .LEGACY_ATTESTED => ["stdout", "stderr", "result"]

/-- The rows a seal names are bound to one execution, commit, contract and
authority, and its verification passed.
mirrors src/adcp/store/sqlite.py:3888-3910,3986-4010 -/
def SealFields.Bound (s : SealFields) (execution : SliceExecution) (attempt : AgentAttempt)
    (context : ContextSnapshot) (verification : Option VerificationResult) : Prop :=
  (execution.resultCommit = some s.resultCommit ∧
    execution.contractFingerprint = s.contractFingerprint ∧
    execution.authorityFingerprint = s.authorityFingerprint) ∧
  (attempt.executionId = s.executionId ∧ attempt.role = .EVALUATOR ∧
    attempt.resultCommit = some s.resultCommit ∧
    attempt.contextSnapshotId = s.contextSnapshotId) ∧
  (context.executionId = s.executionId ∧ context.role = .EVALUATOR ∧
    context.fingerprint = s.contextFingerprint) ∧
  ∃ v, verification = some v ∧ v.BoundTo s.executionId s.resultCommit s.contractFingerprint
    s.authorityFingerprint ∧ v.verdict = .PASS

instance (s : SealFields) (e : SliceExecution) (t : AgentAttempt) (c : ContextSnapshot)
    (v : Option VerificationResult) : Decidable (s.Bound e t c v) := by
  unfold SealFields.Bound
  cases v with
  | none => exact isFalse (by simp)
  | some v =>
    exact decidable_of_iff ((e.resultCommit = some s.resultCommit ∧
      e.contractFingerprint = s.contractFingerprint ∧
      e.authorityFingerprint = s.authorityFingerprint) ∧ (t.executionId = s.executionId ∧
      t.role = .EVALUATOR ∧ t.resultCommit = some s.resultCommit ∧
      t.contextSnapshotId = s.contextSnapshotId) ∧ (c.executionId = s.executionId ∧
      c.role = .EVALUATOR ∧ c.fingerprint = s.contextFingerprint) ∧
      v.BoundTo s.executionId s.resultCommit s.contractFingerprint s.authorityFingerprint ∧
      v.verdict = .PASS) (by simp)

/-- The seal made before execution agrees with this one.
mirrors src/adcp/store/sqlite.py:3934-3945 -/
def SealFields.agreesWithPre (s : SealFields) (pre : EvaluatorArtifactSeal) : Bool :=
  pre.executionId = s.executionId && pre.resultCommit = s.resultCommit &&
  pre.verificationId = s.verificationId && pre.evaluatorAttemptId = s.evaluatorAttemptId &&
  pre.contextSnapshotId = s.contextSnapshotId && pre.contextFingerprint = s.contextFingerprint &&
  pre.contractFingerprint = s.contractFingerprint &&
  pre.authorityFingerprint = s.authorityFingerprint && pre.evidenceRoot = s.evidenceRoot &&
  pre.authorityGeneration = s.authorityGeneration

/-- A phase may be sealed in the attempt's status, once, and after the phase it
builds on.
mirrors src/adcp/store/sqlite.py:3922-3951 -/
def SealFields.requirePhase (s : SealFields) (attempt : AgentAttempt) : Tx PyError Db Unit := do
  let db ← Tx.read id
  match s.phase with
  | .LEGACY_ATTESTED => do
    Tx.require (attempt.status = .SUCCEEDED)
      (storeError "EVALUATOR_LEGACY_ATTESTATION_ATTEMPT_INVALID")
    Tx.require (db.findSeal s.evaluatorAttemptId .POST_EXECUTION = none)
      (storeError "EVALUATOR_LEGACY_SEAL_FRESH_POST_EXISTS")
  | .PRE_EXECUTION =>
    Tx.require (attempt.status = .RUNNING) (storeError "EVALUATOR_FRESH_SEAL_ATTEMPT_INVALID")
  | .POST_EXECUTION => do
    Tx.require (attempt.status = .RUNNING) (storeError "EVALUATOR_FRESH_SEAL_ATTEMPT_INVALID")
    let pre ← Tx.find (fun db => db.findSeal s.evaluatorAttemptId .PRE_EXECUTION)
      (storeError "EVALUATOR_POST_SEAL_PRE_REQUIRED")
    Tx.require (s.agreesWithPre pre = true) (storeError "EVALUATOR_POST_SEAL_PRE_BINDING_MISMATCH")
  Tx.require (db.findSeal s.evaluatorAttemptId s.phase = none)
    (storeError "EVALUATOR_ARTIFACT_SEAL_CONFLICT")

structure CreateSeal where
  spec : SealFields
  leaseOwner : String
  leaseGeneration : Int
  requiredExecutionState : ExecutionState

/-- Its clock readings are all taken inside the transaction: the fence's after
the guard's, and the row's last. The insert's own checks and triggers repeat
what was checked before it, `seal_id` apart.
mirrors src/adcp/store/sqlite.py:3829-3971 -/
def createEvaluatorArtifactSealTx (env : Env) (a : CreateSeal) : Tx PyError Db Commit := do
  let s := a.spec
  s.validate
  let observed ← liftSealed (verifyManifestBytes env s.evidenceRoot s.manifestJson s.manifestSha256)
  Tx.require (s.phase.requiredRoles.all fun role => observed.entries.any (·.role = role))
    (storeError "EVALUATOR_ARTIFACT_SEAL_REQUIRED_ROLE_MISSING")
  begin env 0
  let execution ← getExecution s.executionId
  requireFence execution a.leaseOwner a.leaseGeneration (env.clock 1)
  Tx.require (execution.state = a.requiredExecutionState)
    (storeError "EVALUATOR_ARTIFACT_SEAL_STATE_INVALID")
  let authority ← getControlAuthorityState
  Tx.require (authority.authorityGeneration = s.authorityGeneration)
    (storeError "STALE_AUTHORITY_GENERATION")
  Tx.require (execution.resultCommit = some s.resultCommit ∧
      execution.contractFingerprint = s.contractFingerprint ∧
      execution.authorityFingerprint = s.authorityFingerprint)
    (storeError "EVALUATOR_ARTIFACT_SEAL_EXECUTION_BINDING_MISMATCH")
  let attempt ← getAgentAttempt s.evaluatorAttemptId
  let context ← getContextSnapshot s.contextSnapshotId
  let verification ← Tx.read (·.verificationResult? s.verificationId)
  Tx.require (s.Bound execution attempt context verification)
    (storeError "EVALUATOR_ARTIFACT_SEAL_BINDING_MISMATCH")
  let existing ← Tx.read fun db =>
    db.evaluatorArtifactSeal.find? (·.operationKey = s.operationKey)
  match existing with
  | some found => do
    Tx.require (found.toSealFields = s) (storeError "EVALUATOR_ARTIFACT_SEAL_IDEMPOTENCY_CONFLICT")
    pure .replayed
  | none => do
    s.requirePhase attempt
    let db ← Tx.read id
    Tx.require (db.evaluatorArtifactSeal? s.sealId = none)
      (.integrity "UNIQUE constraint failed: evaluator_artifact_seal.seal_id")
    Tx.write fun db => { db with
      evaluatorArtifactSeal := db.evaluatorArtifactSeal ++ [{ s with createdAt := env.clock 2 }] }
    pure .fresh

/-- mirrors src/adcp/store/sqlite.py:3973-4019 -/
def verifyEvaluatorArtifactSeal (env : Env) (sealId attemptId : String) :
    Tx PyError Db (EvaluatorArtifactSeal × VerifiedArtifactManifest) := do
  let found ← getEvaluatorArtifactSeal sealId
  Tx.require (found.evaluatorAttemptId = attemptId)
    (storeError "EVALUATOR_ARTIFACT_SEAL_ATTEMPT_MISMATCH")
  let execution ← getExecution found.executionId
  let attempt ← getAgentAttempt found.evaluatorAttemptId
  let context ← getContextSnapshot found.contextSnapshotId
  let verification ← Tx.read (·.verificationResult? found.verificationId)
  Tx.require (found.toSealFields.Bound execution attempt context verification)
    (storeError "EVALUATOR_ARTIFACT_SEAL_BINDING_MISMATCH")
  let authority ← getControlAuthorityState
  Tx.require (authority.authorityGeneration = found.authorityGeneration)
    (storeError "STALE_AUTHORITY_GENERATION")
  let view ← liftSealed
    (verifyManifestBytes env found.evidenceRoot found.manifestJson found.manifestSha256)
  pure (found, view)

/-! ## Finishing an attempt -/

/-- What a caller says an attempt ended with. -/
structure AttemptOutcome where
  resultCommit : Option String
  status : AgentAttemptStatus
  exitCode : Option Int
  stdoutArtifact : Option String
  stdoutSha256 : Option String
  stderrArtifact : Option String
  stderrSha256 : Option String
  resultArtifact : Option String
  resultSha256 : Option String
  failureCode : Option String
  endedAt : String
  deriving DecidableEq, Repr

structure FinishAgentAttempt where
  attemptId : String
  outcome : AttemptOutcome
  postExecutionSealId : Option String
  leaseOwner : Option String
  leaseGeneration : Option Int
  requiredExecutionState : Option ExecutionState

def AgentAttempt.outcome (t : AgentAttempt) : AttemptOutcome where
  resultCommit := t.resultCommit
  status := t.status
  exitCode := t.exitCode
  stdoutArtifact := t.stdoutArtifact
  stdoutSha256 := t.stdoutSha256
  stderrArtifact := t.stderrArtifact
  stderrSha256 := t.stderrSha256
  resultArtifact := t.resultArtifact
  resultSha256 := t.resultSha256
  failureCode := t.failureCode
  endedAt := t.endedAt.getD ""

/-- The columns the `UPDATE` sets. -/
def AttemptOutcome.set (o : AttemptOutcome) (t : AgentAttempt) : AgentAttempt :=
  { t with
    resultCommit := o.resultCommit, status := o.status, exitCode := o.exitCode
    stdoutArtifact := o.stdoutArtifact, stdoutSha256 := o.stdoutSha256
    stderrArtifact := o.stderrArtifact, stderrSha256 := o.stderrSha256
    resultArtifact := o.resultArtifact, resultSha256 := o.resultSha256
    failureCode := o.failureCode, endedAt := some o.endedAt }

/-- The optional lease check of a call that may be given a lease. Half a lease is
refused.
mirrors src/adcp/store/sqlite.py:4059-4080,4325-4344 -/
def requireOptionalLease (env : Env) (executionId : String) (owner : Option String)
    (generation : Option Int) (state : Option ExecutionState) (code : String) :
    Tx PyError Db Unit :=
  match owner, generation with
  | none, none => Tx.require (state = none) (storeError "INCOMPLETE_FENCING_TOKEN")
  | some owner, some generation => do
    let execution ← getExecution executionId
    requireFence execution owner generation (env.clock 1)
    Tx.require (state.all (execution.state = ·)) (storeError code)
  | _, _ => Tx.fail (storeError "INCOMPLETE_FENCING_TOKEN")

/-- A path the caller names is the sealed one.
mirrors src/adcp/store/sqlite.py:4117-4136 -/
def claimPath (env : Env) (root : List String) (field : String) (claim : Option String)
    (expected : String) : Except PyError Unit :=
  match claim with
  | none => .ok ()
  | some claim => do
    let named ← relativeArtifactPath env claim root
    let sealedAt ← relativeArtifactPath env expected root
    expect (named = sealedAt) "EVALUATOR_CALLER_ARTIFACT_CLAIM_MISMATCH" field

/-- A value the caller names is the sealed one. -/
def claimValue (field : String) (claim : Option String) (expected : String) : Except PyError Unit :=
  expect (claim.all (· = expected)) "EVALUATOR_CALLER_ARTIFACT_CLAIM_MISMATCH" field

/-- The outcome of a successful Evaluator is read off its seal; what the caller
says is only compared with it.
mirrors src/adcp/store/sqlite.py:4082-4149 -/
def sealedOutcome (env : Env) (o : AttemptOutcome) (found : EvaluatorArtifactSeal)
    (view : VerifiedArtifactManifest) : Except PyError AttemptOutcome := do
  let result ← view.entryForRole "result"
  let stdout ← view.entryForRole "stdout"
  let stderr ← view.entryForRole "stderr"
  let path (e : SealedArtifactEntry) := rootText (view.evidenceRoot ++ [e.relativePath])
  claimValue "result_commit" o.resultCommit found.resultCommit
  claimPath env view.evidenceRoot "stdout_artifact" o.stdoutArtifact (path stdout)
  claimValue "stdout_sha256" o.stdoutSha256 stdout.sha256
  claimPath env view.evidenceRoot "stderr_artifact" o.stderrArtifact (path stderr)
  claimValue "stderr_sha256" o.stderrSha256 stderr.sha256
  claimPath env view.evidenceRoot "result_artifact" o.resultArtifact (path result)
  claimValue "result_sha256" o.resultSha256 result.sha256
  pure { o with
    resultCommit := some found.resultCommit, stdoutArtifact := some (path stdout)
    stdoutSha256 := some stdout.sha256, stderrArtifact := some (path stderr)
    stderrSha256 := some stderr.sha256, resultArtifact := some (path result)
    resultSha256 := some result.sha256 }

/-- mirrors src/adcp/store/sqlite.py:4082-4149 -/
def terminalOutcome (env : Env) (a : FinishAgentAttempt) (row : AgentAttempt) :
    Tx PyError Db AttemptOutcome :=
  if row.role = .EVALUATOR ∧ a.outcome.status = .SUCCEEDED then do
    let sealId ← Tx.find (fun _ => a.postExecutionSealId)
      (storeError "EVALUATOR_POST_EXECUTION_SEAL_REQUIRED")
    let found ← verifyEvaluatorArtifactSeal env sealId a.attemptId
    Tx.require (found.1.phase = .POST_EXECUTION)
      (storeError "EVALUATOR_POST_EXECUTION_SEAL_REQUIRED")
    liftSealed (sealedOutcome env a.outcome found.1 found.2)
  else pure a.outcome

/-- mirrors src/adcp/store/sqlite.py:4021-4174 -/
def finishAgentAttemptTx (env : Env) (a : FinishAgentAttempt) : Tx PyError Db Commit := do
  Tx.require (a.outcome.status ≠ .RUNNING) (storeError "INVALID_AGENT_ATTEMPT_STATUS")
  Tx.require (a.outcome.resultCommit.all isCommit = true)
    (.store "INVALID_INPUT" "result_commit must be a 40- or 64-character hex id")
  Tx.requireAll (fun field => .store "INVALID_INPUT" (field ++ " must be lowercase SHA-256"))
    [("stdout_sha256", a.outcome.stdoutSha256.all isSha256),
     ("stderr_sha256", a.outcome.stderrSha256.all isSha256),
     ("result_sha256", a.outcome.resultSha256.all isSha256)]
  begin env 0
  let row ← getAgentAttempt a.attemptId
  requireOptionalLease env row.executionId a.leaseOwner a.leaseGeneration a.requiredExecutionState
    "AGENT_ATTEMPT_COMPLETION_STATE_INVALID"
  let outcome ← terminalOutcome env a row
  if row.status = .RUNNING then do
    Tx.requireAll (.check "agent_attempt") (attemptChecks (outcome.set row))
    Tx.write fun db => { db with
      agentAttempt := Table.update (·.attemptId) db.agentAttempt a.attemptId outcome.set }
    pure .fresh
  else do
    Tx.require (row.outcome = outcome) (storeError "AGENT_ATTEMPT_ALREADY_FINISHED")
    pure .replayed

/-! ## Evaluation results -/

def EvaluationVerdict.ofString? (s : String) : Option EvaluationVerdict :=
  if s = "PASS" then some .PASS else if s = "REWORK_REQUIRED" then some .REWORK_REQUIRED
  else if s = "DESIGN_REVIEW_REQUIRED" then some .DESIGN_REVIEW_REQUIRED
  else if s = "BLOCKED_ENVIRONMENT" then some .BLOCKED_ENVIRONMENT
  else if s = "BLOCKED_EVIDENCE" then some .BLOCKED_EVIDENCE else none

theorem EvaluationVerdict.value_ofString {s : String} {v : EvaluationVerdict}
    (h : EvaluationVerdict.ofString? s = some v) : v.value = s := by
  unfold EvaluationVerdict.ofString? at h
  repeat' split at h
  all_goals cases h
  all_goals simp_all [EvaluationVerdict.value]

theorem EvaluationVerdict.ofString_value (verdict : EvaluationVerdict) :
    EvaluationVerdict.ofString? verdict.value = some verdict := by
  cases verdict <;> rfl

/-- `EvaluationResultRecord`; `result` is an object.
mirrors src/adcp/evaluator.py:181-214 -/
structure EvaluationResultRecord where
  evaluationId : String
  operationKey : String
  executionId : String
  evaluatorAttemptId : String
  contextSnapshotId : String
  resultCommit : String
  contractFingerprint : String
  authorityFingerprint : String
  verdict : String
  result : Json
  resultJson : String
  startedAt : String
  endedAt : String
  canonicalPayloadJson : String

/-- mirrors src/adcp/evaluator.py:198-214 -/
def EvaluationResultRecord.semanticPayload (r : EvaluationResultRecord) : Json :=
  .obj [("evaluation_id", .str r.evaluationId), ("operation_key", .str r.operationKey),
    ("execution_id", .str r.executionId), ("evaluator_attempt_id", .str r.evaluatorAttemptId),
    ("context_snapshot_id", .str r.contextSnapshotId), ("result_commit", .str r.resultCommit),
    ("contract_fingerprint", .str r.contractFingerprint),
    ("authority_fingerprint", .str r.authorityFingerprint), ("verdict", .str r.verdict),
    ("result", r.result), ("started_at", .str r.startedAt), ("ended_at", .str r.endedAt)]

/-- The arguments of `build_evaluation_result`, its texts not filled in. -/
structure EvaluationFields where
  evaluationId : String
  operationKey : String
  executionId : String
  evaluatorAttemptId : String
  contextSnapshotId : String
  resultCommit : String
  contractFingerprint : String
  authorityFingerprint : String
  verdict : String
  result : Json
  startedAt : String
  endedAt : String

/-- What is loaded back from the serialized payload is what went in, so the
record keeps the arguments.
mirrors src/adcp/evaluator.py:229-299 -/
def buildEvaluationResult (f : EvaluationFields) : Tx PyError Db EvaluationResultRecord := do
  Tx.require (f.evaluationId ≠ "" ∧ f.executionId ≠ "" ∧ f.evaluatorAttemptId ≠ "" ∧
      f.contextSnapshotId ≠ "" ∧ f.startedAt ≠ "" ∧ f.endedAt ≠ "")
    (.raised "ValueError" "EVALUATION_RESULT_INVALID")
  requireSha256 f.operationKey "operation_key"
  requireCommit f.resultCommit "result_commit"
  requireSha256 f.contractFingerprint "contract_fingerprint"
  requireSha256 f.authorityFingerprint "authority_fingerprint"
  Tx.require (f.verdict ∈ evaluationVerdicts) (.raised "ValueError" "EVALUATION_VERDICT_INVALID")
  Tx.require (f.result.isObj = true) (.raised "ValueError" "EVALUATION_RESULT_MAPPING_REQUIRED")
  let record : EvaluationResultRecord :=
    { f with resultJson := "", canonicalPayloadJson := "" }
  let serialized ← Tx.lift (canonicalJson record.semanticPayload)
  Tx.lift (validateEvaluationTiming "$.result" f.result)
  let resultJson ← Tx.lift (canonicalJson f.result)
  pure { record with resultJson := resultJson, canonicalPayloadJson := serialized }

/-- The paths and hashes an attempt was finished with, when all are there. -/
def AgentAttempt.bundle (t : AgentAttempt) : Option EvaluatorArtifactBinding := do
  let text (v : Option String) : Option String := v.filter (· ≠ "")
  pure { resultArtifact := ← text t.resultArtifact, resultSha256 := ← text t.resultSha256
         stdoutArtifact := ← text t.stdoutArtifact, stdoutSha256 := ← text t.stdoutSha256
         stderrArtifact := ← text t.stderrArtifact, stderrSha256 := ← text t.stderrSha256 }

/-- The decoded result, or the error under which the store refuses its bytes; a
`TypeError` is not caught.
mirrors src/adcp/store/sqlite.py:4217-4224 -/
def decodeSealedResult (env : Env) (view : VerifiedArtifactManifest) : Except PyError Json :=
  match (do let raw ← view.bytesForRole "result"
            decodeDurableEvaluatorResultBytes env.floatRepr raw : Except PyError Json) with
  | .error (.boundary code detail) => .error (.store code detail)
  | .error (.canonicalization detail) => .error (.store "CANONICAL_JSON_INVALID" detail)
  | r => r

/-- `artifactSealId` and `bundle` override the seal and the artifacts looked up.
mirrors src/adcp/store/sqlite.py:4176-4250 -/
def validateEvaluationCompletionBinding (env : Env) (record : EvaluationResultRecord)
    (artifactSealId : Option String) (bundle : Option EvaluatorArtifactBinding)
    (allowedStatuses : List AgentAttemptStatus) : Tx PyError Db Unit := do
  let execution ← getExecution record.executionId
  let attempt ← getAgentAttempt record.evaluatorAttemptId
  let context ← getContextSnapshot record.contextSnapshotId
  let sealId ← match artifactSealId with
    | some sealId => do
      let found ← getEvaluatorArtifactSeal sealId
      pure found.sealId
    | none => do
      let found ← Tx.find (·.findAuthoritativeSeal record.evaluatorAttemptId)
        (storeError "EVALUATOR_ARTIFACT_SEAL_REQUIRED")
      pure found.sealId
  let found ← verifyEvaluatorArtifactSeal env sealId record.evaluatorAttemptId
  Tx.require (found.1.phase ≠ .PRE_EXECUTION)
    (storeError "EVALUATOR_AUTHORITATIVE_SEAL_PHASE_INVALID")
  Tx.require (found.1.executionId = record.executionId ∧
      found.1.resultCommit = record.resultCommit ∧
      found.1.contextSnapshotId = record.contextSnapshotId ∧
      found.1.contractFingerprint = record.contractFingerprint ∧
      found.1.authorityFingerprint = record.authorityFingerprint)
    (storeError "EVALUATOR_ARTIFACT_SEAL_BINDING_MISMATCH")
  let durable ← Tx.lift (decodeSealedResult env found.2)
  let text ← Tx.lift (canonicalJson durable)
  Tx.require (text = record.resultJson) (storeError "EVALUATOR_DURABLE_RESULT_MISMATCH")
  let verification ← Tx.read (·.verificationResult? found.1.verificationId)
  liftSealed (validateDurableEvaluatorCompletionBinding env
    { execution := execution, attempt := attempt, verification := verification
      context := context, bundle := bundle.or attempt.bundle, sealedArtifacts := found.2
      result := record.result, allowedStatuses := allowedStatuses })

structure RegisterEvaluation where
  /-- `inl` is a record, `inr` the arguments of one. -/
  record : EvaluationResultRecord ⊕ EvaluationFields
  leaseOwner : Option String
  leaseGeneration : Option Int
  requiredExecutionState : Option ExecutionState

/-- mirrors src/adcp/store/sqlite.py:4295-4315 -/
def buildError : PyError → PyError
  | .raised "ValueError" "EVALUATION_VERDICT_INVALID" => storeError "INVALID_EVALUATION_VERDICT"
  | e => e

/-- Everything up to `_begin`, in the state of the database then.
mirrors src/adcp/store/sqlite.py:4270-4330 -/
def prepareEvaluation (env : Env) (a : RegisterEvaluation) : Tx PyError Db EvaluationResultRecord := do
  let record ← match a.record with
    | .inl record => pure record
    | .inr fields => Tx.mapError buildError (buildEvaluationResult fields)
  let payloadJson ← Tx.lift (canonicalJson record.semanticPayload)
  let resultJson ← Tx.lift (canonicalJson record.result)
  Tx.require (payloadJson = record.canonicalPayloadJson ∧ resultJson = record.resultJson)
    (storeError "EVALUATION_CANONICAL_MISMATCH")
  validateEvaluationCompletionBinding env record none none [.SUCCEEDED]
  pure record

/-- The row of a record; an unknown verdict fails the column's `CHECK`. -/
def EvaluationResultRecord.row (r : EvaluationResultRecord) : Option EvaluationResult :=
  (EvaluationVerdict.ofString? r.verdict).map fun verdict =>
    { evaluationId := r.evaluationId, operationKey := r.operationKey, executionId := r.executionId
      evaluatorAttemptId := r.evaluatorAttemptId, contextSnapshotId := r.contextSnapshotId
      resultCommit := r.resultCommit, contractFingerprint := r.contractFingerprint
      authorityFingerprint := r.authorityFingerprint, verdict := verdict
      resultJson := r.resultJson, startedAt := r.startedAt, endedAt := r.endedAt }

/-- `INSERT INTO evaluation_result`, with its keys and triggers.
mirrors src/adcp/store/migrations.py:166-182,253-256,1291-1314 -/
def insertEvaluationResult (row : EvaluationResult) : Tx PyError Db Unit := do
  let db ← Tx.read id
  Tx.require ((db.agentAttempt? row.evaluatorAttemptId).any fun t =>
      t.executionId = row.executionId && t.contextSnapshotId = row.contextSnapshotId &&
        t.role = .EVALUATOR)
    (.integrity "EVALUATOR_ATTEMPT_REQUIRED")
  Tx.require (db.evaluatorArtifactSeal.any fun s =>
      s.evaluatorAttemptId = row.evaluatorAttemptId && s.executionId = row.executionId &&
      s.resultCommit = row.resultCommit && s.contextSnapshotId = row.contextSnapshotId &&
      s.contractFingerprint = row.contractFingerprint &&
      s.authorityFingerprint = row.authorityFingerprint && s.phase ≠ .PRE_EXECUTION)
    (.integrity "EVALUATOR_ARTIFACT_SEAL_REQUIRED")
  Tx.requireAll (.check "evaluation_result")
    [("operation_key", sqliteLength row.operationKey = 64),
     ("result_commit", commitLength row.resultCommit),
     ("contract_fingerprint", sqliteLength row.contractFingerprint = 64),
     ("authority_fingerprint", sqliteLength row.authorityFingerprint = 64)]
  Tx.require (db.evaluationResult? row.evaluationId = none)
    (.integrity "UNIQUE constraint failed: evaluation_result.evaluation_id")
  Tx.require (db.evaluationResult.all (·.operationKey ≠ row.operationKey))
    (.integrity "UNIQUE constraint failed: evaluation_result.operation_key")
  Tx.require (db.evaluationResult.all (·.evaluatorAttemptId ≠ row.evaluatorAttemptId))
    (.integrity "UNIQUE constraint failed: evaluation_result.evaluator_attempt_id")
  Tx.write fun db => { db with evaluationResult := db.evaluationResult ++ [row] }

/-- mirrors src/adcp/store/sqlite.py:4338-4404 -/
def commitEvaluationTx (env : Env) (a : RegisterEvaluation) (record : EvaluationResultRecord) :
    Tx PyError Db Commit := do
  begin env 0
  requireOptionalLease env record.executionId a.leaseOwner a.leaseGeneration
    a.requiredExecutionState "EVALUATOR_COMPLETION_STATE_INVALID"
  let existing ← Tx.read fun db =>
    db.evaluationResult.find? (·.operationKey = record.operationKey)
  match existing with
  | some found => do
    Tx.require (some found = record.row) (storeError "IDEMPOTENCY_CONFLICT")
    pure .replayed
  | none => do
    let execution ← getExecution record.executionId
    Tx.require (execution.resultCommit = some record.resultCommit ∧
        execution.contractFingerprint = record.contractFingerprint ∧
        execution.authorityFingerprint = record.authorityFingerprint)
      (storeError "EVALUATION_EXECUTION_BINDING_MISMATCH")
    let attempt ← getAgentAttempt record.evaluatorAttemptId
    Tx.require (attempt.Completed .EVALUATOR record.executionId record.resultCommit ∧
        attempt.contextSnapshotId = record.contextSnapshotId)
      (storeError "EVALUATOR_ATTEMPT_BINDING_MISMATCH")
    let row ← Tx.find (fun _ => record.row) (.check "evaluation_result" "verdict")
    insertEvaluationResult row
    pure .fresh

/-- `snap` is the database as the checks before the transaction saw it.
mirrors src/adcp/store/sqlite.py:4252-4407 -/
def registerEvaluationResultTx (env : Env) (snap : Db) (a : RegisterEvaluation) :
    Tx PyError Db Commit := do
  let record ← Tx.lift ((prepareEvaluation env a snap).map Prod.fst)
  commitEvaluationTx env a record

/-- mirrors src/adcp/store/sqlite.py:4417-4436 -/
def findEvaluationPass (executionId resultCommit contract authority : String) :
    Tx PyError Db (Option EvaluationResult) :=
  Tx.read fun db => latest
    (fun v => decide (v.BoundTo executionId resultCommit contract authority) &&
      v.verdict = .PASS && (db.agentAttempt? v.evaluatorAttemptId).any fun t =>
        t.role = .EVALUATOR && t.status = .SUCCEEDED)
    db.evaluationResult


/-! ## What they do -/

variable {α : Type} {env : Env} {db db' snap : Db} {c : Commit}

theorem liftSealed_readOnly {x : Except PyError α} : Tx.ReadOnly (liftSealed x : Tx PyError Db α) :=
  .lift

theorem sealValidate_readOnly (s : SealFields) : Tx.ReadOnly s.validate := by
  unfold SealFields.validate requireCommit requireSha256
  exact .bind .requireAll fun _ => .bind .require fun _ => .bind .require fun _ =>
    .bind .require fun _ => .bind .require fun _ => .bind .require fun _ => .bind .require fun _ =>
    .bind .require fun _ => .bind .require fun _ => .bind .require fun _ => .bind .lift fun _ =>
    .bind .lift fun _ => .bind .lift fun _ => .bind .require fun _ => .ite .require .require

/-- What the phase of a new seal has been checked against. -/
structure SealFields.Fresh (s : SealFields) (db : Db) (attempt : AgentAttempt) : Prop where
  first : db.findSeal s.evaluatorAttemptId s.phase = none
  running : s.phase ≠ .LEGACY_ATTESTED → attempt.status = .RUNNING
  legacy : s.phase = .LEGACY_ATTESTED → attempt.status = .SUCCEEDED ∧
    db.findSeal s.evaluatorAttemptId .POST_EXECUTION = none

theorem requirePhase_bind_ok {s : SealFields} {attempt : AgentAttempt} {f : Unit → Tx PyError Db α}
    {r : α × Db} (h : (s.requirePhase attempt >>= f) db = .ok r) :
    s.Fresh db attempt ∧ f () db = .ok r := by
  obtain ⟨u, t, hx, hf⟩ := Tx.bind_ok.mp h
  unfold SealFields.requirePhase at hx
  have hx := Tx.read_bind_ok.mp hx
  cases hp : s.phase with
  | LEGACY_ATTESTED =>
    simp only [hp] at hx
    obtain ⟨hstatus, hx⟩ := Tx.require_bind_ok.mp hx
    obtain ⟨hpost, hx⟩ := Tx.require_bind_ok.mp hx
    obtain ⟨hfirst, hx⟩ := Tx.require_ok.mp hx
    cases hx
    exact ⟨⟨hfirst, fun h => (h hp).elim, fun _ => ⟨hstatus, hpost⟩⟩, hf⟩
  | PRE_EXECUTION =>
    simp only [hp] at hx
    obtain ⟨hstatus, hx⟩ := Tx.require_bind_ok.mp hx
    obtain ⟨hfirst, hx⟩ := Tx.require_ok.mp hx
    cases hx
    exact ⟨⟨hfirst, fun _ => hstatus, by simp [hp]⟩, hf⟩
  | POST_EXECUTION =>
    simp only [hp] at hx
    obtain ⟨hstatus, hx⟩ := Tx.require_bind_ok.mp hx
    obtain ⟨pre, -, hx⟩ := Tx.find_bind_ok.mp hx
    obtain ⟨-, hx⟩ := Tx.require_bind_ok.mp hx
    obtain ⟨hfirst, hx⟩ := Tx.require_ok.mp hx
    cases hx
    exact ⟨⟨hfirst, fun _ => hstatus, by simp [hp]⟩, hf⟩

/-- A new seal is the caller's, of a phase its attempt was not sealed in. -/
theorem createEvaluatorArtifactSealTx_ok {a : CreateSeal}
    (h : createEvaluatorArtifactSealTx env a db = .ok (c, db')) :
    (c = .replayed ∧ db' = db) ∨ (c = .fresh ∧ ∃ row attempt,
      row.toSealFields = a.spec ∧ db.evaluatorArtifactSeal? a.spec.sealId = none ∧
      db.agentAttempt? a.spec.evaluatorAttemptId = some attempt ∧ a.spec.Fresh db attempt ∧
      db' = { db with evaluatorArtifactSeal := db.evaluatorArtifactSeal ++ [row] }) := by
  unfold createEvaluatorArtifactSealTx getControlAuthorityState getAgentAttempt
    getContextSnapshot at h
  obtain ⟨_, -, h⟩ := (sealValidate_readOnly a.spec).bind_ok h
  obtain ⟨view, -, h⟩ := liftSealed_bind_ok.mp h
  obtain ⟨-, h⟩ := Tx.require_bind_ok.mp h
  have h := begin_bind_ok h
  obtain ⟨execution, -, h⟩ := getExecution_bind_ok.mp h
  obtain ⟨-, h⟩ := requireFence_bind_ok.mp h
  obtain ⟨-, h⟩ := Tx.require_bind_ok.mp h
  have h := Tx.read_bind_ok.mp h
  obtain ⟨-, h⟩ := Tx.require_bind_ok.mp h
  obtain ⟨-, h⟩ := Tx.require_bind_ok.mp h
  obtain ⟨attempt, hattempt, h⟩ := Tx.find_bind_ok.mp h
  obtain ⟨context, -, h⟩ := Tx.find_bind_ok.mp h
  have h := Tx.read_bind_ok.mp h
  obtain ⟨-, h⟩ := Tx.require_bind_ok.mp h
  rcases Tx.read_option_bind_ok h with ⟨found, -, h⟩ | ⟨-, h⟩
  · obtain ⟨-, h⟩ := Tx.require_bind_ok.mp h
    cases Tx.pure_ok.mp h
    exact Or.inl ⟨rfl, rfl⟩
  · obtain ⟨hphase, h⟩ := requirePhase_bind_ok h
    have h := Tx.read_bind_ok.mp h
    obtain ⟨hfree, h⟩ := Tx.require_bind_ok.mp h
    have h := Tx.write_bind_ok.mp h
    cases Tx.pure_ok.mp h
    exact Or.inr ⟨rfl, _, attempt, rfl, hfree, hattempt, hphase, rfl⟩

theorem verifyEvaluatorArtifactSeal_readOnly {sealId attemptId : String} :
    Tx.ReadOnly (verifyEvaluatorArtifactSeal env sealId attemptId) := by
  unfold verifyEvaluatorArtifactSeal getEvaluatorArtifactSeal getExecution getAgentAttempt
    getContextSnapshot getControlAuthorityState
  exact .bind .find fun _ => .bind .require fun _ => .bind .find fun _ => .bind .find fun _ =>
    .bind .find fun _ => .bind .read fun _ => .bind .require fun _ => .bind .read fun _ =>
    .bind .require fun _ => .bind liftSealed_readOnly fun _ => .pure

theorem requireOptionalLease_readOnly {id code : String} {owner : Option String}
    {generation : Option Int} {state : Option ExecutionState} :
    Tx.ReadOnly (requireOptionalLease env id owner generation state code) := by
  unfold requireOptionalLease getExecution requireFence
  split
  · exact .require
  · exact .bind .find fun _ => .bind .require fun _ => .require
  · exact .fail

theorem terminalOutcome_readOnly {a : FinishAgentAttempt} {row : AgentAttempt} :
    Tx.ReadOnly (terminalOutcome env a row) := by
  unfold terminalOutcome
  exact .ite (.bind .find fun _ => .bind verifyEvaluatorArtifactSeal_readOnly fun _ =>
    .bind .require fun _ => liftSealed_readOnly) .pure

/-- Finishing replays an end, or ends a RUNNING attempt. -/
theorem finishAgentAttemptTx_ok {a : FinishAgentAttempt}
    (h : finishAgentAttemptTx env a db = .ok (c, db')) :
    (c = .replayed ∧ db' = db) ∨ (c = .fresh ∧ ∃ attempt outcome,
      db.agentAttempt? a.attemptId = some attempt ∧ attempt.status = .RUNNING ∧
      db' = { db with
        agentAttempt := Table.update (·.attemptId) db.agentAttempt a.attemptId
          (AttemptOutcome.set outcome) }) := by
  unfold finishAgentAttemptTx getAgentAttempt at h
  obtain ⟨-, h⟩ := Tx.require_bind_ok.mp h
  obtain ⟨-, h⟩ := Tx.require_bind_ok.mp h
  obtain ⟨-, h⟩ := Tx.requireAll_bind_ok.mp h
  have h := begin_bind_ok h
  obtain ⟨attempt, hattempt, h⟩ := Tx.find_bind_ok.mp h
  obtain ⟨_, -, h⟩ := requireOptionalLease_readOnly.bind_ok h
  obtain ⟨outcome, -, h⟩ := terminalOutcome_readOnly.bind_ok h
  rcases Tx.ite_ok.mp h with ⟨hrunning, h⟩ | ⟨-, h⟩
  · obtain ⟨-, h⟩ := Tx.requireAll_bind_ok.mp h
    have h := Tx.write_bind_ok.mp h
    cases Tx.pure_ok.mp h
    exact Or.inr ⟨rfl, attempt, outcome, hattempt, hrunning, rfl⟩
  · obtain ⟨-, h⟩ := Tx.require_bind_ok.mp h
    cases Tx.pure_ok.mp h
    exact Or.inl ⟨rfl, rfl⟩

theorem insertEvaluationResult_bind_ok {row : EvaluationResult} {f : Unit → Tx PyError Db α}
    {r : α × Db} (h : (insertEvaluationResult row >>= f) db = .ok r) :
    db.evaluationResult? row.evaluationId = none ∧
      (∀ e ∈ db.evaluationResult, e.evaluatorAttemptId ≠ row.evaluatorAttemptId) ∧
      f () { db with evaluationResult := db.evaluationResult ++ [row] } = .ok r := by
  obtain ⟨u, s, hx, hf⟩ := Tx.bind_ok.mp h
  unfold insertEvaluationResult at hx
  have hx := Tx.read_bind_ok.mp hx
  obtain ⟨-, hx⟩ := Tx.require_bind_ok.mp hx
  obtain ⟨-, hx⟩ := Tx.require_bind_ok.mp hx
  obtain ⟨-, hx⟩ := Tx.requireAll_bind_ok.mp hx
  obtain ⟨hfree, hx⟩ := Tx.require_bind_ok.mp hx
  obtain ⟨-, hx⟩ := Tx.require_bind_ok.mp hx
  obtain ⟨honce, hx⟩ := Tx.require_bind_ok.mp hx
  cases Tx.write_ok.mp hx
  exact ⟨hfree, fun e he => of_decide_eq_true (List.all_eq_true.mp honce e he), hf⟩

/-- A registered evaluation was prepared on the state its call saw first, and is
its attempt's only one. -/
theorem registerEvaluationResultTx_ok {a : RegisterEvaluation}
    (h : registerEvaluationResultTx env snap a db = .ok (c, db')) :
    (c = .replayed ∧ db' = db) ∨ (c = .fresh ∧ ∃ record row attempt,
      (∃ s, prepareEvaluation env a snap = .ok (record, s)) ∧ record.row = some row ∧
      db.evaluationResult? row.evaluationId = none ∧
      (∀ e ∈ db.evaluationResult, e.evaluatorAttemptId ≠ row.evaluatorAttemptId) ∧
      db.agentAttempt? record.evaluatorAttemptId = some attempt ∧
      attempt.Completed .EVALUATOR record.executionId record.resultCommit ∧
      db' = { db with evaluationResult := db.evaluationResult ++ [row] }) := by
  unfold registerEvaluationResultTx at h
  obtain ⟨record, hprepare, h⟩ := Tx.lift_bind_ok.mp h
  have hprepared : ∃ s, prepareEvaluation env a snap = .ok (record, s) := by
    cases hp : prepareEvaluation env a snap with
    | error e =>
      rw [hp] at hprepare
      cases hprepare
    | ok p =>
      rw [hp] at hprepare
      cases hprepare
      exact ⟨p.2, rfl⟩
  unfold commitEvaluationTx getAgentAttempt at h
  have h := begin_bind_ok h
  obtain ⟨_, -, h⟩ := requireOptionalLease_readOnly.bind_ok h
  rcases Tx.read_option_bind_ok h with ⟨found, -, h⟩ | ⟨-, h⟩
  · obtain ⟨-, h⟩ := Tx.require_bind_ok.mp h
    cases Tx.pure_ok.mp h
    exact Or.inl ⟨rfl, rfl⟩
  · obtain ⟨execution, -, h⟩ := getExecution_bind_ok.mp h
    obtain ⟨-, h⟩ := Tx.require_bind_ok.mp h
    obtain ⟨attempt, hattempt, h⟩ := Tx.find_bind_ok.mp h
    obtain ⟨⟨hdone, -⟩, h⟩ := Tx.require_bind_ok.mp h
    obtain ⟨row, hrow, h⟩ := Tx.find_bind_ok.mp h
    obtain ⟨hfree, honce, h⟩ := insertEvaluationResult_bind_ok h
    cases Tx.pure_ok.mp h
    exact Or.inr ⟨rfl, record, row, attempt, hprepared, hrow, hfree, honce, hattempt, hdone, rfl⟩

/-! ## What a prepared record says -/

/-- The verdict the caller names. -/
def RegisterEvaluation.verdict (a : RegisterEvaluation) : String :=
  match a.record with
  | .inl record => record.verdict
  | .inr fields => fields.verdict

/-- The result the caller hands in. -/
def RegisterEvaluation.result (a : RegisterEvaluation) : Json :=
  match a.record with
  | .inl record => record.result
  | .inr fields => fields.result

/-- A record was prepared: the caller's verdict and result, the latter of one text
with the document in the seal's tree. -/
structure Prepares (env : Env) (a : RegisterEvaluation) (db : Db) (record : EvaluationResultRecord)
    (found : EvaluatorArtifactSeal) (view : VerifiedArtifactManifest) (durable : Json) : Prop where
  verdict : record.verdict = a.verdict
  result : record.result = a.result
  resultText : canonicalJson record.result = .ok record.resultJson
  filed : found ∈ db.evaluatorArtifactSeal
  attempt : found.evaluatorAttemptId = record.evaluatorAttemptId
  authoritative : found.phase ≠ .PRE_EXECUTION
  verified : verifyManifestBytes env found.evidenceRoot found.manifestJson found.manifestSha256 = .ok view
  decoded : decodeSealedResult env view = .ok durable
  durableText : canonicalJson durable = .ok record.resultJson

theorem buildEvaluationResult_ok {f : EvaluationFields} {r : EvaluationResultRecord × Db}
    (h : buildEvaluationResult f db = .ok r) :
    r.1.verdict = f.verdict ∧ r.1.result = f.result ∧ r.2 = db := by
  unfold buildEvaluationResult requireSha256 requireCommit at h
  obtain ⟨-, h⟩ := Tx.require_bind_ok.mp h
  obtain ⟨-, h⟩ := Tx.require_bind_ok.mp h
  obtain ⟨-, h⟩ := Tx.require_bind_ok.mp h
  obtain ⟨-, h⟩ := Tx.require_bind_ok.mp h
  obtain ⟨-, h⟩ := Tx.require_bind_ok.mp h
  obtain ⟨-, h⟩ := Tx.require_bind_ok.mp h
  obtain ⟨-, h⟩ := Tx.require_bind_ok.mp h
  obtain ⟨_, -, h⟩ := Tx.lift_bind_ok.mp h
  obtain ⟨_, -, h⟩ := Tx.lift_bind_ok.mp h
  obtain ⟨_, -, h⟩ := Tx.lift_bind_ok.mp h
  cases Tx.pure_ok.mp h
  exact ⟨rfl, rfl, rfl⟩

theorem verifyEvaluatorArtifactSeal_bind_ok {sealId attemptId : String}
    {f : EvaluatorArtifactSeal × VerifiedArtifactManifest → Tx PyError Db α} {r : α × Db}
    (h : (verifyEvaluatorArtifactSeal env sealId attemptId >>= f) db = .ok r) :
    ∃ found view, found ∈ db.evaluatorArtifactSeal ∧ found.evaluatorAttemptId = attemptId ∧
      verifyManifestBytes env found.evidenceRoot found.manifestJson found.manifestSha256 = .ok view ∧
      f (found, view) db = .ok r := by
  obtain ⟨p, s, hx, hf⟩ := Tx.bind_ok.mp h
  unfold verifyEvaluatorArtifactSeal getEvaluatorArtifactSeal getAgentAttempt getContextSnapshot
    getControlAuthorityState at hx
  obtain ⟨found, hfound, hx⟩ := Tx.find_bind_ok.mp hx
  obtain ⟨hattempt, hx⟩ := Tx.require_bind_ok.mp hx
  obtain ⟨_, -, hx⟩ := getExecution_bind_ok.mp hx
  obtain ⟨_, -, hx⟩ := Tx.find_bind_ok.mp hx
  obtain ⟨_, -, hx⟩ := Tx.find_bind_ok.mp hx
  have hx := Tx.read_bind_ok.mp hx
  obtain ⟨-, hx⟩ := Tx.require_bind_ok.mp hx
  have hx := Tx.read_bind_ok.mp hx
  obtain ⟨-, hx⟩ := Tx.require_bind_ok.mp hx
  obtain ⟨view, hview, hx⟩ := liftSealed_bind_ok.mp hx
  cases Tx.pure_ok.mp hx
  exact ⟨found, view, Table.lookup_mem hfound, hattempt, hview, hf⟩

theorem decodeSealedResult_ok {view : VerifiedArtifactManifest} {v : Json} :
    decodeSealedResult env view = .ok v ↔ ∃ raw, view.bytesForRole "result" = .ok raw ∧
      decodeDurableEvaluatorResultBytes env.floatRepr raw = .ok v := by
  have hsplit : decodeSealedResult env view = .ok v ↔
      (view.bytesForRole "result" >>= decodeDurableEvaluatorResultBytes env.floatRepr) = .ok v := by
    unfold decodeSealedResult
    cases hx : (view.bytesForRole "result" >>=
      decodeDurableEvaluatorResultBytes env.floatRepr : Except PyError Json) with
    | ok w => rfl
    | error e => cases e <;> simp
  rw [hsplit, except_bind_ok]

/-- The checks of a record that was taken over or built. -/
theorem checkRecord_ok {a : RegisterEvaluation} {built record : EvaluationResultRecord}
    (hverdict : built.verdict = a.verdict) (hresult : built.result = a.result)
    (h : (do
      let payloadJson ← Tx.lift (canonicalJson built.semanticPayload)
      let resultJson ← Tx.lift (canonicalJson built.result)
      Tx.require (payloadJson = built.canonicalPayloadJson ∧ resultJson = built.resultJson)
        (storeError "EVALUATION_CANONICAL_MISMATCH")
      validateEvaluationCompletionBinding env built none none [.SUCCEEDED]
      pure built : Tx PyError Db EvaluationResultRecord) db = .ok (record, db')) :
    ∃ found view durable, Prepares env a db record found view durable := by
  obtain ⟨payloadJson, -, h⟩ := Tx.lift_bind_ok.mp h
  obtain ⟨resultJson, htext, h⟩ := Tx.lift_bind_ok.mp h
  obtain ⟨⟨-, hsame⟩, h⟩ := Tx.require_bind_ok.mp h
  rw [hsame] at htext
  obtain ⟨u, s', hv, h⟩ := Tx.bind_ok.mp h
  cases Tx.pure_ok.mp h
  unfold validateEvaluationCompletionBinding getAgentAttempt getContextSnapshot at hv
  obtain ⟨execution, -, hv⟩ := getExecution_bind_ok.mp hv
  obtain ⟨attempt, -, hv⟩ := Tx.find_bind_ok.mp hv
  obtain ⟨context, -, hv⟩ := Tx.find_bind_ok.mp hv
  obtain ⟨named, -, hv⟩ := Tx.find_bind_ok.mp hv
  obtain ⟨found, view, hfound, hattempt, hview, hv⟩ := verifyEvaluatorArtifactSeal_bind_ok hv
  obtain ⟨hphase, hv⟩ := Tx.require_bind_ok.mp hv
  obtain ⟨-, hv⟩ := Tx.require_bind_ok.mp hv
  obtain ⟨durable, hdurable, hv⟩ := Tx.lift_bind_ok.mp hv
  obtain ⟨text, hdurableText, hv⟩ := Tx.lift_bind_ok.mp hv
  obtain ⟨rfl, hv⟩ := Tx.require_bind_ok.mp hv
  exact ⟨found, view, durable, hverdict, hresult, htext, hfound, hattempt, hphase, hview, hdurable,
    hdurableText⟩

theorem prepareEvaluation_ok {a : RegisterEvaluation} {record : EvaluationResultRecord}
    (h : prepareEvaluation env a db = .ok (record, db')) :
    ∃ found view durable, Prepares env a db record found view durable := by
  unfold prepareEvaluation at h
  cases ha : a.record with
  | inl given =>
    rw [ha] at h
    refine checkRecord_ok ?_ ?_ h
    · simp only [RegisterEvaluation.verdict, ha]
    · simp only [RegisterEvaluation.result, ha]
  | inr fields =>
    rw [ha] at h
    have h : (Tx.mapError buildError (buildEvaluationResult fields) >>= fun built => do
        let payloadJson ← Tx.lift (canonicalJson built.semanticPayload)
        let resultJson ← Tx.lift (canonicalJson built.result)
        Tx.require (payloadJson = built.canonicalPayloadJson ∧ resultJson = built.resultJson)
          (storeError "EVALUATION_CANONICAL_MISMATCH")
        validateEvaluationCompletionBinding env built none none [.SUCCEEDED]
        pure built) db = .ok (record, db') := h
    obtain ⟨built, s, hbuilt, h⟩ := Tx.bind_ok.mp h
    obtain ⟨hverdict, hresult, hs⟩ := buildEvaluationResult_ok (Tx.mapError_ok.mp hbuilt)
    dsimp only at hs
    rw [hs] at h
    refine checkRecord_ok ?_ ?_ h
    · simpa only [RegisterEvaluation.verdict, ha] using hverdict
    · simpa only [RegisterEvaluation.result, ha] using hresult

end Adcp.L3
