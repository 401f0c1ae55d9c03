import Adcp.L2Domain.CandidateVerification
import Adcp.L3Store.Evaluations

/-!
# Uncommitted candidates

The review path of a candidate before it is a commit: binding, verification,
evaluation under seals, approval, and the closure that turns the approved
candidate into the execution's result commit.

Every operation checks the caller's fence when it starts and again, without the
version, before it commits. `prepare` and `apply`, the callers' Git work, are
functions of the plan; an operation that reads before its transaction takes the
state it read as `snap`.

* `requireCandidateFence_readOnly` … `candidateClosureAuthority_readOnly`: the
  checks the operations share change nothing.
-/
namespace Adcp.L3

open Adcp.L1 Adcp.L2 ExecutionState

/-! ## Queries -/

def Db.candidate? (db : Db) (candidateId : String) : Option CandidateContentBinding :=
  Table.lookup (·.candidateId) db.candidateContentBinding candidateId

/-- mirrors src/adcp/store/sqlite.py:301-307 -/
def getCandidateBinding (candidateId : String) : Tx PyError Db CandidateContentBinding :=
  Tx.find (·.candidate? candidateId) (.store "CANDIDATE_BINDING_NOT_FOUND" candidateId)

/-- mirrors src/adcp/store/sqlite.py:309-315 -/
def findCurrentCandidateBinding (db : Db) (executionId : String) : Option CandidateContentBinding :=
  (Table.newest (·.createdAt.micros) (db.candidateProvenance.filter fun p =>
    (db.candidate? p.candidateId).any (·.executionId = executionId))).bind fun p =>
    db.candidate? p.candidateId

def Db.candidateVerification? (db : Db) (id : String) : Option CandidateVerificationResult :=
  Table.lookup (·.verificationId) db.candidateVerificationResult id

def Db.candidateAttempt? (db : Db) (id : String) : Option CandidateEvaluatorAttempt :=
  Table.lookup (·.evaluatorAttemptId) db.candidateEvaluatorAttempt id

def Db.candidateEvaluation? (db : Db) (id : String) : Option CandidateEvaluationResult :=
  Table.lookup (·.evaluationId) db.candidateEvaluationResult id

def Db.candidateIntent? (db : Db) (closureId : String) : Option CandidateCommitIntent :=
  Table.lookup (·.closureId) db.candidateCommitIntent closureId

def Db.candidateClosure? (db : Db) (closureId : String) : Option CandidateCommitClosure :=
  Table.lookup (·.closureId) db.candidateCommitClosure closureId

/-- The composite foreign key into `candidate_content_binding`. -/
def Db.hasCandidate (db : Db) (candidateId executionId content : String) : Bool :=
  (db.candidate? candidateId).any fun b =>
    b.executionId = executionId && b.candidateContentSha256 = content

/-! ## Binding -/

/-- The caller's binding: the row without the columns the store fills in. -/
structure PrecommitBinding where
  candidateId : String
  executionId : String
  serializationFormat : String
  serializationVersion : Int
  repositoryIdentity : String
  expectedParent : String
  manifestJson : String
  manifestSha256 : String
  candidateContentSha256 : String

structure BindPrecommitCandidate where
  binding : PrecommitBinding
  makerAttemptId : String
  canonicalSourceRoot : String
  worktreeIdentity : String
  branch : String
  contractFingerprint : String
  authorityFingerprint : String
  authorityGeneration : Int
  fence : CandidateWriteFence

namespace BindPrecommitCandidate

/-- The candidate of this execution and manifest, found or appended.
mirrors src/adcp/store/sqlite.py:341-363 -/
def candidate (a : BindPrecommitCandidate) (now : Timestamp) : Tx PyError Db String := do
  let b := a.binding
  let existing ← Tx.read fun db => db.candidateContentBinding.find? fun c =>
    c.executionId = b.executionId ∧ c.manifestSha256 = b.manifestSha256
  match existing with
  | some c => do
    Tx.require (c.serializationFormat = b.serializationFormat ∧
        c.serializationVersion = b.serializationVersion ∧
        c.repositoryIdentity = b.repositoryIdentity ∧ c.expectedParent = b.expectedParent ∧
        c.manifestJson = b.manifestJson) (storeError "CANDIDATE_DIGEST_SUBSTITUTION")
    pure c.candidateId
  | none => do
    let db ← Tx.read id
    Tx.requireAll (.check "candidate_content_binding")
      [("candidate_id", 0 < sqliteLength b.candidateId),
       ("serialization_format", b.serializationFormat = "ADCP_INTEGRATED_CANDIDATE_V1"),
       ("serialization_version", b.serializationVersion = 1),
       ("repository_identity", 0 < sqliteLength b.repositoryIdentity),
       ("expected_parent", commitLength b.expectedParent),
       ("manifest_json", 2 < sqliteLength b.manifestJson)]
    Tx.require (db.candidate? b.candidateId = none)
      (.integrity "UNIQUE constraint failed: candidate_content_binding.candidate_id")
    Tx.write fun db => { db with candidateContentBinding := db.candidateContentBinding ++
      [{ candidateId := b.candidateId, executionId := b.executionId
         serializationFormat := b.serializationFormat
         serializationVersion := b.serializationVersion
         repositoryIdentity := b.repositoryIdentity, expectedParent := b.expectedParent
         manifestJson := b.manifestJson, manifestSha256 := b.manifestSha256
         candidateContentSha256 := b.candidateContentSha256, createdAt := now }] }
    pure b.candidateId

end BindPrecommitCandidate

/-- mirrors src/adcp/store/sqlite.py:317-381 -/
def bindPrecommitCandidateTx (env : Env) (a : BindPrecommitCandidate) : Tx PyError Db String := do
  let b := a.binding
  requireSha256 b.candidateContentSha256 "candidate_content_sha256"
  requireSha256 b.manifestSha256 "manifest_sha256"
  let manifest ← Tx.lift (jsonLoads b.manifestJson)
  let sha ← Tx.lift (canonicalSha256 manifest)
  Tx.require (sha = b.manifestSha256) (storeError "CANDIDATE_MANIFEST_HASH_MISMATCH")
  Tx.require (a.authorityGeneration = a.fence.authorityGeneration)
    (storeError "STALE_AUTHORITY_GENERATION")
  let now := env.clock 0
  begin env 1
  let execution ← requireCandidateFence env 2 b.executionId a.fence true
  let attempt ← getAgentAttempt a.makerAttemptId
  Tx.require (execution.state = MAKER_RUNNING ∧ execution.resultCommit = none)
    (storeError "MAKER_COMPLETION_STATE_INVALID")
  Tx.require (attempt.executionId = b.executionId ∧ attempt.role = .MAKER ∧
      attempt.status = .RUNNING) (storeError "CANDIDATE_MAKER_ATTEMPT_MISMATCH")
  let candidateId ← a.candidate now
  let db ← Tx.read id
  Tx.requireAll (.check "candidate_provenance")
    [("contract_fingerprint", sqliteLength a.contractFingerprint = 64),
     ("authority_fingerprint", sqliteLength a.authorityFingerprint = 64),
     ("authority_generation", 0 ≤ a.authorityGeneration)]
  Tx.require (db.candidateProvenance.all fun p => p.makerAttemptId ≠ a.makerAttemptId ∧
      p.provenanceId ≠ "provenance-" ++ a.makerAttemptId)
    (.integrity "UNIQUE constraint failed: candidate_provenance.maker_attempt_id")
  Tx.require (db.hasCandidate candidateId b.executionId b.candidateContentSha256 = true)
    (.integrity "FOREIGN KEY constraint failed")
  Tx.write fun db => { db with
    candidateProvenance := db.candidateProvenance ++
      [{ provenanceId := "provenance-" ++ a.makerAttemptId, candidateId := candidateId
         executionId := b.executionId, makerAttemptId := a.makerAttemptId
         canonicalSourceRoot := a.canonicalSourceRoot, worktreeIdentity := a.worktreeIdentity
         branch := a.branch, contractFingerprint := a.contractFingerprint
         authorityFingerprint := a.authorityFingerprint
         authorityGeneration := a.authorityGeneration
         candidateContentSha256 := b.candidateContentSha256, createdAt := now }]
    agentAttempt := Table.update (·.attemptId) db.agentAttempt a.makerAttemptId (fun t =>
      { t with status := .SUCCEEDED, exitCode := some 0, endedAt := some now.text }) }
  let _ ← requireCandidateFence env 3 b.executionId a.fence false
  pure candidateId

/-! ## Verification -/

structure RegisterCandidateVerification where
  row : CandidateVerificationResult
  fence : CandidateWriteFence

/-- mirrors src/adcp/store/sqlite.py:383-422 -/
def registerCandidateVerificationTx (env : Env) (snap : Db) (a : RegisterCandidateVerification) :
    Tx PyError Db Unit := do
  let row := a.row
  requireSha256 row.operationKey "operation_key"
  requireSha256 row.candidateContentSha256 "candidate_content_sha256"
  requireSha256 row.contractFingerprint "contract_fingerprint"
  requireSha256 row.authorityFingerprint "authority_fingerprint"
  requireSha256 row.commandManifestSha256 "command_manifest_sha256"
  let _ ← Tx.lift (validateCandidateVerificationPayload row.commandManifest
    row.commandManifestSha256 row.resultJson (row.verdict = .PASS))
  Tx.require (row.authorityGeneration = a.fence.authorityGeneration)
    (storeError "STALE_AUTHORITY_GENERATION")
  let binding ← before snap (getCandidateBinding row.candidateId)
  let execution ← before snap (getExecution row.executionId)
  Tx.require (binding.executionId = row.executionId ∧
      binding.candidateContentSha256 = row.candidateContentSha256 ∧
      execution.resultCommit = none ∧ execution.contractFingerprint = row.contractFingerprint ∧
      execution.authorityFingerprint = row.authorityFingerprint)
    (storeError "CANDIDATE_BINDING_MISMATCH")
  begin env 0
  let current ← requireCandidateFence env 1 row.executionId a.fence true
  Tx.require (current.state = VERIFYING ∧ current.resultCommit = none)
    (storeError "CANDIDATE_LIFECYCLE_STATE_MISMATCH")
  let db ← Tx.read id
  Tx.require (db.candidateVerification? row.verificationId = none ∧
      db.candidateVerificationResult.all (·.operationKey ≠ row.operationKey))
    (.integrity "UNIQUE constraint failed: candidate_verification_result")
  Tx.write fun db => { db with
    candidateVerificationResult := db.candidateVerificationResult ++ [row] }
  let _ ← requireCandidateFence env 2 row.executionId a.fence false

/-! ## Evaluation -/

structure BeginCandidateEvaluator where
  evaluatorAttemptId : String
  executionId : String
  candidateId : String
  verificationId : String
  contextSnapshotId : String
  fence : CandidateWriteFence

/-- mirrors src/adcp/store/sqlite.py:427-442 -/
def BeginCandidateEvaluator.entry (a : BeginCandidateEvaluator) :
    Tx PyError Db (CandidateContentBinding × CandidateVerificationResult) := do
  let forbidden := storeError "CANDIDATE_EVALUATOR_ENTRY_FORBIDDEN"
  let binding ← getCandidateBinding a.candidateId
  let execution ← getExecution a.executionId
  let db ← Tx.read id
  Tx.require (execution.state = EVALUATING ∧ execution.resultCommit = none) forbidden
  let verification ← Tx.find (·.candidateVerification? a.verificationId) forbidden
  Tx.require (verification.verdict = .PASS ∧ verification.candidateId = a.candidateId ∧
      binding.executionId = a.executionId ∧ db.agentAttempt.all fun t =>
        ¬ (t.executionId = a.executionId ∧ t.role = .MAKER ∧ t.status = .RUNNING)) forbidden
  pure (binding, verification)

/-- mirrors src/adcp/store/sqlite.py:424-461 -/
def beginCandidateEvaluatorTx (env : Env) (snap : Db) (a : BeginCandidateEvaluator) :
    Tx PyError Db Unit := do
  let entry ← before snap a.entry
  begin env 0
  let current ← requireCandidateFence env 1 a.executionId a.fence true
  Tx.require (current.state = EVALUATING ∧ current.resultCommit = none)
    (storeError "CANDIDATE_LIFECYCLE_STATE_MISMATCH")
  Tx.require (entry.2.authorityGeneration = a.fence.authorityGeneration ∧
      entry.2.contractFingerprint = a.fence.contractFingerprint ∧
      entry.2.authorityFingerprint = a.fence.authorityFingerprint)
    (storeError "CANDIDATE_VERIFICATION_STALE")
  let db ← Tx.read id
  Tx.require (db.candidateAttempt? a.evaluatorAttemptId = none ∧
      db.candidateEvaluatorAttempt.all (·.verificationId ≠ a.verificationId))
    (.integrity "UNIQUE constraint failed: candidate_evaluator_attempt")
  Tx.require ((db.contextSnapshot? a.contextSnapshotId).isSome ∧
      db.hasCandidate a.candidateId a.executionId entry.1.candidateContentSha256 = true)
    (.integrity "FOREIGN KEY constraint failed")
  Tx.write fun db => { db with candidateEvaluatorAttempt := db.candidateEvaluatorAttempt ++
    [{ evaluatorAttemptId := a.evaluatorAttemptId, executionId := a.executionId
       candidateId := a.candidateId, verificationId := a.verificationId
       contextSnapshotId := a.contextSnapshotId
       candidateContentSha256 := entry.1.candidateContentSha256
       leaseOwner := a.fence.leaseOwner, leaseGeneration := a.fence.leaseGeneration
       authorityGeneration := a.fence.authorityGeneration, status := .RUNNING
       startedAt := env.clock 2, endedAt := none }] }
  let _ ← requireCandidateFence env 3 a.executionId a.fence false

/-- What the runner of a sealed evaluation recorded about it.
mirrors src/adcp/store/sqlite.py:571-579 -/
def runnerMetadataBound (t : CandidateEvaluatorAttempt) (metadata : Json) : Bool :=
  metadata.isObj && Json.strIs (metadata.get? "review_target_type") "UNCOMMITTED_CANDIDATE" &&
  Json.strIs (metadata.get? "evaluator_attempt_id") t.evaluatorAttemptId &&
  Json.strIs (metadata.get? "candidate_id") t.candidateId &&
  Json.strIs (metadata.get? "candidate_content_sha256") t.candidateContentSha256 &&
  (metadata.get? "authority_generation").any (·.pyEq (.int t.authorityGeneration)) &&
  (metadata.get? "exit_code").any (·.pyEq (.int 0)) &&
  (metadata.get? "timed_out").any (·.pyEq (.bool false)) &&
  (match metadata.get? "command" with
    | some (.arr (_ :: _)) => true
    | _ => false) &&
  (metadata.get? "producer_ref").any truthy

/-- The sealed result is this text, and was produced for this attempt.
mirrors src/adcp/store/sqlite.py:564-579 -/
def checkSealedResult (t : CandidateEvaluatorAttempt) (view : VerifiedArtifactManifest)
    (resultJson : String) : Except PyError Unit := do
  let parsed ← jsonLoads resultJson
  let text ← canonicalJson parsed
  let raw ← view.bytesForRole "result"
  guardPure (text = resultJson ∧ raw = Sha256.utf8 resultJson.toList)
    (storeError "CANDIDATE_EVALUATION_RESULT_ARTIFACT_MISMATCH")
  let metadataRaw ← view.bytesForRole "runner_metadata"
  let metadata ← match (Sha256.ofUtf8 metadataRaw).bind Json.loads with
    | some v => .ok v
    | none => .error (.raised "JSONDecodeError" "")
  guardPure (runnerMetadataBound t metadata = true)
    (storeError "CANDIDATE_EVALUATOR_RUNTIME_BINDING_MISMATCH")

/-- The seal of one phase, verified against the file system.
mirrors src/adcp/store/sqlite.py:557-563 -/
def verifyCandidateSeal (env : Env) (attemptId : String) (phase : SealPhase) (name : String) :
    Tx PyError Db VerifiedArtifactManifest := do
  let found ← Tx.find (fun db => db.candidateEvaluatorArtifactSeal.find? fun s =>
      s.evaluatorAttemptId = attemptId ∧ s.phase = phase)
    (.store "CANDIDATE_EVALUATOR_SEAL_REQUIRED" name)
  Tx.lift (verifyManifestBytes env found.evidenceRoot found.manifestJson found.manifestSha256)

/-- mirrors src/adcp/store/sqlite.py:554-579 -/
def verifyCandidateEvaluatorSeals (env : Env) (attemptId resultJson : String) :
    Tx PyError Db Unit := do
  let _ ← verifyCandidateSeal env attemptId .PRE_EXECUTION "PRE_EXECUTION"
  let view ← verifyCandidateSeal env attemptId .POST_EXECUTION "POST_EXECUTION"
  let attempt ← Tx.find (·.candidateAttempt? attemptId) (typeError "NoneType")
  Tx.lift (checkSealedResult attempt view resultJson)

structure RegisterCandidateEvaluation where
  row : CandidateEvaluationResult
  fence : CandidateWriteFence

/-- The attempt still runs, under the caller's lease and authority.
mirrors src/adcp/store/sqlite.py:484-489 -/
def RegisterCandidateEvaluation.current (a : RegisterCandidateEvaluation)
    (t : CandidateEvaluatorAttempt) : Prop :=
  t.status = .RUNNING ∧ t.executionId = a.row.executionId ∧ t.leaseOwner = a.fence.leaseOwner ∧
    t.leaseGeneration = a.fence.leaseGeneration ∧
    t.authorityGeneration = a.row.authorityGeneration ∧
    a.row.authorityGeneration = a.fence.authorityGeneration ∧
    a.row.contractFingerprint = a.fence.contractFingerprint ∧
    a.row.authorityFingerprint = a.fence.authorityFingerprint

instance (a : RegisterCandidateEvaluation) (t : CandidateEvaluatorAttempt) :
    Decidable (a.current t) := by
  unfold RegisterCandidateEvaluation.current; infer_instance

/-- mirrors src/adcp/store/sqlite.py:463-510 -/
def registerCandidateEvaluationTx (env : Env) (snap : Db) (a : RegisterCandidateEvaluation) :
    Tx PyError Db Unit := do
  let row := a.row
  let mismatch := storeError "CANDIDATE_EVALUATOR_TARGET_MISMATCH"
  requireSha256 row.operationKey "operation_key"
  requireSha256 row.candidateContentSha256 "candidate_content_sha256"
  requireSha256 row.contractFingerprint "contract_fingerprint"
  requireSha256 row.authorityFingerprint "authority_fingerprint"
  let execution ← before snap (getExecution row.executionId)
  let seen ← before snap (Tx.find (·.candidateAttempt? row.evaluatorAttemptId) mismatch)
  Tx.require (execution.state = EVALUATING ∧ seen.status = .RUNNING ∧
    seen.candidateId = row.candidateId ∧ seen.candidateContentSha256 = row.candidateContentSha256)
    mismatch
  begin env 0
  let current ← requireCandidateFence env 1 row.executionId a.fence true
  Tx.require (current.state = EVALUATING ∧ current.resultCommit = none)
    (storeError "CANDIDATE_LIFECYCLE_STATE_MISMATCH")
  let attempt ← Tx.find (·.candidateAttempt? row.evaluatorAttemptId) (typeError "NoneType")
  Tx.require (a.current attempt) mismatch
  let parsed ← Tx.lift (jsonLoads row.resultJson)
  Tx.require (parsed.isObj = true) (.raised "AttributeError" "get")
  Tx.require (Json.strIs (parsed.get? "verdict") row.verdict.value ∧
      Json.strIs (parsed.get? "candidate_id") row.candidateId)
    (storeError "CANDIDATE_EVALUATION_RESULT_BINDING_MISMATCH")
  verifyCandidateEvaluatorSeals env row.evaluatorAttemptId row.resultJson
  let db ← Tx.read id
  Tx.require (db.candidateEvaluation? row.evaluationId = none ∧
      db.candidateEvaluationResult.all fun e => e.operationKey ≠ row.operationKey ∧
        e.evaluatorAttemptId ≠ row.evaluatorAttemptId)
    (.integrity "UNIQUE constraint failed: candidate_evaluation_result")
  Tx.require (attempt.candidateId = row.candidateId ∧
      attempt.candidateContentSha256 = row.candidateContentSha256)
    (.integrity "CANDIDATE_EVALUATOR_TARGET_MISMATCH")
  Tx.write fun db => { db with
    candidateEvaluationResult := db.candidateEvaluationResult ++ [row]
    candidateEvaluatorAttempt := Table.update (·.evaluatorAttemptId) db.candidateEvaluatorAttempt
      row.evaluatorAttemptId (fun t => { t with status := .SUCCEEDED, endedAt := some row.endedAt }) }
  let _ ← requireCandidateFence env 2 row.executionId a.fence false

structure CreateCandidateSeal where
  sealId : String
  evaluatorAttemptId : String
  phase : SealPhase
  manifestJson : String
  manifestSha256 : String
  evidenceRoot : String
  fence : CandidateWriteFence

/-- The attempt still runs, under the caller's lease and authority. -/
def CreateCandidateSeal.current (a : CreateCandidateSeal) (t : CandidateEvaluatorAttempt) : Prop :=
  t.status = .RUNNING ∧ t.leaseOwner = a.fence.leaseOwner ∧
    t.leaseGeneration = a.fence.leaseGeneration ∧
    t.authorityGeneration = a.fence.authorityGeneration

instance (a : CreateCandidateSeal) (t : CandidateEvaluatorAttempt) : Decidable (a.current t) := by
  unfold CreateCandidateSeal.current; infer_instance

/-- mirrors src/adcp/store/sqlite.py:512-552 -/
def createCandidateSealTx (env : Env) (snap : Db) (a : CreateCandidateSeal) : Tx PyError Db Unit := do
  requireSha256 a.manifestSha256 "manifest_sha256"
  Tx.require (a.phase ≠ .LEGACY_ATTESTED) (storeError "INVALID_EVALUATOR_ARTIFACT_SEAL")
  let seen ← before snap (Tx.find (·.candidateAttempt? a.evaluatorAttemptId)
    (storeError "CANDIDATE_EVALUATOR_ATTEMPT_NOT_FOUND"))
  let manifest ← Tx.lift (jsonLoads a.manifestJson)
  let text ← Tx.lift (canonicalJson manifest)
  let sha ← Tx.lift (canonicalSha256 manifest)
  Tx.require (sha = a.manifestSha256 ∧ text = a.manifestJson)
    (storeError "EVALUATOR_ARTIFACT_MANIFEST_HASH_MISMATCH")
  begin env 0
  let _ ← requireCandidateFence env 1 seen.executionId a.fence true
  let attempt ← Tx.find (·.candidateAttempt? a.evaluatorAttemptId) (typeError "NoneType")
  Tx.require (a.current attempt) (storeError "CANDIDATE_EVALUATOR_TARGET_MISMATCH")
  let view ← Tx.lift (verifyManifestBytes env a.evidenceRoot a.manifestJson a.manifestSha256)
  Tx.require (a.phase.requiredRoles.all fun role => view.entries.any (·.role = role))
    (storeError "CANDIDATE_EVALUATOR_REQUIRED_ARTIFACT_MISSING")
  if a.phase = .PRE_EXECUTION then do
    let context ← getContextSnapshot attempt.contextSnapshotId
    let raw ← Tx.lift (view.bytesForRole "context_snapshot")
    Tx.require (raw = Sha256.utf8 context.canonicalJson.toList)
      (storeError "CANDIDATE_EVALUATOR_CONTEXT_MISMATCH")
  else do
    let _ ← verifyCandidateSeal env a.evaluatorAttemptId .PRE_EXECUTION "PRE_EXECUTION"
  let db ← Tx.read id
  Tx.require (db.candidateEvaluatorArtifactSeal.all fun s => s.sealId ≠ a.sealId ∧
      ¬ (s.evaluatorAttemptId = a.evaluatorAttemptId ∧ s.phase = a.phase))
    (.integrity "UNIQUE constraint failed: candidate_evaluator_artifact_seal")
  Tx.write fun db => { db with
    candidateEvaluatorArtifactSeal := db.candidateEvaluatorArtifactSeal ++
      [{ sealId := a.sealId, executionId := attempt.executionId
         evaluatorAttemptId := a.evaluatorAttemptId, candidateId := attempt.candidateId
         candidateContentSha256 := attempt.candidateContentSha256, phase := a.phase
         evidenceRoot := a.evidenceRoot, manifestJson := a.manifestJson
         manifestSha256 := a.manifestSha256, createdAt := env.clock 2 }] }
  let _ ← requireCandidateFence env 3 attempt.executionId a.fence false

/-! ## Approval -/

structure BindCandidateApproval where
  approvalId : String
  evaluationId : String
  candidateId : String
  authorityGeneration : Int
  fence : CandidateWriteFence

/-- mirrors src/adcp/store/sqlite.py:581-608 -/
def bindCandidateApprovalTx (env : Env) (snap : Db) (a : BindCandidateApproval) :
    Tx PyError Db Unit := do
  let mismatch := storeError "CANDIDATE_APPROVAL_BINDING_MISMATCH"
  let approval ← before snap (getApproval a.approvalId)
  let evaluation ← before snap (Tx.find (·.candidateEvaluation? a.evaluationId) mismatch)
  Tx.require (evaluation.verdict = .PASS ∧ approval.executionId = evaluation.executionId ∧
    evaluation.candidateId = a.candidateId) mismatch
  begin env 0
  let _ ← requireCandidateFence env 1 evaluation.executionId a.fence true
  Tx.require (a.authorityGeneration = a.fence.authorityGeneration ∧
    evaluation.authorityGeneration = a.authorityGeneration ∧
    evaluation.authorityFingerprint = a.fence.authorityFingerprint ∧
    approval.approvalType = "DEVELOPMENT_ACCEPTANCE") mismatch
  verifyCandidateEvaluatorSeals env evaluation.evaluatorAttemptId evaluation.resultJson
  let db ← Tx.read id
  Tx.require (db.approvalCandidateBinding.all fun b => b.approvalId ≠ a.approvalId ∧
      b.evaluationId ≠ a.evaluationId)
    (.integrity "UNIQUE constraint failed: approval_candidate_binding")
  Tx.write fun db => { db with approvalCandidateBinding := db.approvalCandidateBinding ++
    [{ approvalId := a.approvalId, executionId := evaluation.executionId
       candidateId := a.candidateId, evaluationId := a.evaluationId
       authorityFingerprint := evaluation.authorityFingerprint
       authorityGeneration := a.authorityGeneration, createdAt := env.clock 2 }] }
  let _ ← requireCandidateFence env 3 evaluation.executionId a.fence false

/-! ## Closure -/

structure ClosureIds where
  closureId : String
  executionId : String
  candidateId : String
  approvalId : String
  evaluationId : String

/-- mirrors src/adcp/store/sqlite.py:610-640 -/
def candidateClosureAuthority (env : Env) (a : ClosureIds) (fence : CandidateWriteFence)
    (allowConsumed : Bool) : Tx PyError Db (SliceExecution × CandidateContentBinding) := do
  let mismatch := storeError "CANDIDATE_APPROVAL_BINDING_MISMATCH"
  let execution ← requireCandidateFence env 2 a.executionId fence true
  let binding ← getCandidateBinding a.candidateId
  let approval ← getApproval a.approvalId
  let linked ← Tx.find (fun db =>
    Table.lookup (·.approvalId) db.approvalCandidateBinding a.approvalId) mismatch
  let evaluation ← Tx.find (·.candidateEvaluation? a.evaluationId) mismatch
  Tx.require (binding.executionId = a.executionId ∧ approval.executionId = a.executionId ∧
    approval.status = .APPROVED ∧ approval.approvalType = "DEVELOPMENT_ACCEPTANCE" ∧
    (approval.consumedAt = none ∨ allowConsumed = true) ∧ linked.candidateId = a.candidateId ∧
    linked.evaluationId = a.evaluationId ∧ linked.executionId = a.executionId ∧
    evaluation.executionId = a.executionId ∧ evaluation.candidateId = a.candidateId ∧
    evaluation.verdict = .PASS) mismatch
  Tx.require (linked.authorityGeneration = fence.authorityGeneration ∧
    linked.authorityFingerprint = fence.authorityFingerprint ∧
    evaluation.authorityGeneration = fence.authorityGeneration ∧
    evaluation.contractFingerprint = fence.contractFingerprint ∧
    evaluation.authorityFingerprint = fence.authorityFingerprint ∧
    evaluation.candidateContentSha256 = binding.candidateContentSha256) mismatch
  Tx.require (allowConsumed = false → execution.state = WAITING_APPROVAL ∧
      execution.resultCommit = none) (storeError "CANDIDATE_COMMIT_CLOSURE_STATE_INVALID")
  verifyCandidateEvaluatorSeals env evaluation.evaluatorAttemptId evaluation.resultJson
  pure (execution, binding)

structure PrepareCandidateCommit where
  ids : ClosureIds
  fence : CandidateWriteFence
  prepare : Except PyError Json

/-- The identities of the plan are the caller's.
mirrors src/adcp/store/sqlite.py:657-669 -/
def ClosureIds.named (a : ClosureIds) (plan : Json) : Bool :=
  Json.strIs (plan.get? "closure_id") a.closureId &&
  Json.strIs (plan.get? "execution_id") a.executionId &&
  Json.strIs (plan.get? "candidate_id") a.candidateId &&
  Json.strIs (plan.get? "evaluation_id") a.evaluationId &&
  Json.strIs (plan.get? "approval_id") a.approvalId

/-- The commit of a plan, as text. -/
def planCommit (plan : Json) (field : String) : Tx PyError Db String :=
  Tx.find (fun _ => (plan.get? field).bind Json.asStr?) (.raised "KeyError" field)

/-- mirrors src/adcp/store/sqlite.py:642-681 -/
def prepareCandidateCommitTx (env : Env) (a : PrepareCandidateCommit) : Tx PyError Db Unit := do
  let ids := a.ids
  let conflict := storeError "CANDIDATE_COMMIT_INTENT_CONFLICT"
  begin env 0
  let _ ← requireCandidateFence env 1 ids.executionId a.fence true
  let existing ← Tx.read fun db =>
    db.candidateCommitIntent.find? (·.candidateId = ids.candidateId)
  let closed ← Tx.read fun db => db.candidateCommitClosure.any (·.candidateId = ids.candidateId)
  let authority ← candidateClosureAuthority env ids a.fence closed
  match existing with
  | some intent => do
    Tx.require (intent.closureId = ids.closureId ∧ intent.executionId = ids.executionId ∧
      intent.evaluationId = ids.evaluationId ∧ intent.approvalId = ids.approvalId) conflict
    let plan ← Tx.lift (jsonLoads intent.planJson)
    let sha ← Tx.lift (canonicalSha256 plan)
    Tx.require (sha = intent.planSha256) (storeError "CANDIDATE_COMMIT_INTENT_CORRUPT")
    let _ ← requireCandidateFence env 3 ids.executionId a.fence false
  | none => do
    let plan ← Tx.lift a.prepare
    Tx.require (ids.named plan = true) conflict
    Tx.require (Json.strIs (plan.get? "expected_parent") authority.2.expectedParent ∧
      Json.strIs (plan.get? "manifest_sha256") authority.2.manifestSha256 ∧
      Json.strIs (plan.get? "candidate_content_sha256") authority.2.candidateContentSha256) conflict
    let tree ← planCommit plan "expected_tree"
    requireCommit tree "expected_tree"
    let commit ← planCommit plan "result_commit"
    requireCommit commit "result_commit"
    let _ ← requireCandidateFence env 3 ids.executionId a.fence true
    let planJson ← Tx.lift (canonicalJson plan)
    let planSha256 ← Tx.lift (canonicalSha256 plan)
    let db ← Tx.read id
    Tx.require (db.candidateCommitIntent.all fun i => i.closureId ≠ ids.closureId ∧
        i.executionId ≠ ids.executionId ∧ i.approvalId ≠ ids.approvalId ∧
        i.evaluationId ≠ ids.evaluationId)
      (.integrity "UNIQUE constraint failed: candidate_commit_intent")
    Tx.write fun db => { db with candidateCommitIntent := db.candidateCommitIntent ++
      [{ closureId := ids.closureId, executionId := ids.executionId
         candidateId := ids.candidateId, approvalId := ids.approvalId
         evaluationId := ids.evaluationId, planJson := planJson, planSha256 := planSha256
         createdAt := env.clock 4 }] }
    let _ ← requireCandidateFence env 5 ids.executionId a.fence false

structure CloseCandidate where
  ids : ClosureIds
  fence : CandidateWriteFence
  apply : Json → Except PyError String

namespace CloseCandidate

/-- mirrors src/adcp/store/sqlite.py:749-750 -/
def payload (a : CloseCandidate) (resultCommit : String) : Json :=
  .obj [("candidate_id", .str a.ids.candidateId), ("evaluation_id", .str a.ids.evaluationId),
    ("approval_id", .str a.ids.approvalId), ("result_commit", .str resultCommit),
    ("closure_id", .str a.ids.closureId)]

def set (resultCommit : String) (now : Timestamp) (r : SliceExecution) : SliceExecution :=
  { r with
    resultCommit := some resultCommit, state := VERIFYING, resumeState := none
    stateVersion := r.stateVersion + 1, currentActorRole := .CONTROLLER, updatedAt := now }

/-- `_record_candidate_commit_closure`
mirrors src/adcp/store/sqlite.py:721-755 -/
def record (env : Env) (a : CloseCandidate) (execution : SliceExecution)
    (binding : CandidateContentBinding) (resultCommit : String) : Tx PyError Db Unit := do
  let now := env.clock 4
  let db ← Tx.read id
  Tx.require (db.candidateCommitClosure.all fun c => c.closureId ≠ a.ids.closureId ∧
      c.executionId ≠ a.ids.executionId ∧ c.candidateId ≠ a.ids.candidateId ∧
      c.approvalId ≠ a.ids.approvalId ∧ c.evaluationId ≠ a.ids.evaluationId ∧
      c.resultCommit ≠ resultCommit)
    (.integrity "UNIQUE constraint failed: candidate_commit_closure")
  Tx.require (commitLength resultCommit = true) (.check "candidate_commit_closure" "result_commit")
  Tx.write fun db => { db with candidateCommitClosure := db.candidateCommitClosure ++
    [{ closureId := a.ids.closureId, executionId := a.ids.executionId
       candidateId := a.ids.candidateId, approvalId := a.ids.approvalId
       evaluationId := a.ids.evaluationId, resultCommit := resultCommit
       expectedParent := binding.expectedParent
       candidateContentSha256 := binding.candidateContentSha256, createdAt := now }] }
  consumeApproval a.ids.approvalId (fun r => r.status = .APPROVED) now
  updateExecution a.ids.executionId (fun r => r.resultCommit.isNone &&
      r.state = WAITING_APPROVAL && r.stateVersion = execution.stateVersion)
    (set resultCommit now) (storeError "STALE_STATE_VERSION")
  let payloadJson ← Tx.lift (canonicalJson (a.payload resultCommit))
  let key ← Tx.lift (canonicalSha256 (.obj [("closure_id", .str a.ids.closureId)]))
  insertEvent (env.uuid 0)
    { executionId := a.ids.executionId, operationKey := key, eventType := .STATE_TRANSITION
      fromState := some WAITING_APPROVAL, toState := VERIFYING
      fromStateVersion := execution.stateVersion, toStateVersion := execution.stateVersion + 1
      actorRole := .CONTROLLER, actorId := a.fence.leaseOwner
      leaseGeneration := a.fence.leaseGeneration, reasonCode := "PRECOMMIT_COMMIT_CLOSED"
      reasonDetail := none, metadataJson := payloadJson, createdAt := now }

end CloseCandidate

/-- mirrors src/adcp/store/sqlite.py:683-719 -/
def closeCandidateTx (env : Env) (a : CloseCandidate) : Tx PyError Db Commit := do
  let ids := a.ids
  let conflict := storeError "CANDIDATE_COMMIT_INTENT_CONFLICT"
  begin env 0
  let _ ← requireCandidateFence env 1 ids.executionId a.fence true
  let intent ← Tx.find (·.candidateIntent? ids.closureId) conflict
  Tx.require (intent.executionId = ids.executionId ∧ intent.candidateId = ids.candidateId ∧
    intent.approvalId = ids.approvalId ∧ intent.evaluationId = ids.evaluationId) conflict
  let plan ← Tx.lift (jsonLoads intent.planJson)
  let sha ← Tx.lift (canonicalSha256 plan)
  Tx.require (sha = intent.planSha256) (storeError "CANDIDATE_COMMIT_INTENT_CORRUPT")
  let existing ← Tx.read (·.candidateClosure? ids.closureId)
  let authority ← candidateClosureAuthority env ids a.fence existing.isSome
  let planned ← planCommit plan "result_commit"
  let approval ← getApproval ids.approvalId
  Tx.require (existing.all fun c => authority.1.resultCommit = some c.resultCommit &&
      c.resultCommit = planned && approval.consumedAt.isSome)
    (storeError "CANDIDATE_COMMIT_CLOSURE_CONFLICT")
  let resultCommit ← Tx.lift (a.apply plan)
  Tx.require (resultCommit = planned) conflict
  let _ ← requireCandidateFence env 3 ids.executionId a.fence true
  match existing with
  | some _ => do
    let _ ← requireCandidateFence env 4 ids.executionId a.fence false
    pure .replayed
  | none => do
    a.record env authority.1 authority.2 resultCommit
    let _ ← requireCandidateFence env 5 ids.executionId a.fence false
    pure .fresh


/-! ## What they do -/

variable {α : Type} {env : Env} {db db' snap : Db}

theorem requireCandidateFence_readOnly {n : Nat} {id : String} {fence : CandidateWriteFence}
    {check : Bool} : Tx.ReadOnly (requireCandidateFence env n id fence check) := by
  unfold requireCandidateFence getExecution requireFence getControlAuthorityState
  exact .bind .require fun _ => .bind .find fun _ => .bind .require fun _ => .bind .require fun _ =>
    .bind .read fun _ => .bind .require fun _ => .bind .require fun _ => .pure

/-- The fence check an operation ends with. -/
theorem lastFence_ok {n : Nat} {id : String} {fence : CandidateWriteFence} {check : Bool} {r : Unit × Db}
    (h : (do let _ ← requireCandidateFence env n id fence check : Tx PyError Db Unit) db = .ok r) :
    r.2 = db := by
  obtain ⟨_, -, h⟩ := requireCandidateFence_readOnly.bind_ok h
  cases Tx.pure_ok.mp h
  rfl

theorem verifyCandidateSeal_readOnly {id name : String} {phase : SealPhase} :
    Tx.ReadOnly (verifyCandidateSeal env id phase name) := by
  unfold verifyCandidateSeal
  exact .bind .find fun _ => .lift

theorem verifyCandidateEvaluatorSeals_readOnly {id json : String} :
    Tx.ReadOnly (verifyCandidateEvaluatorSeals env id json) := by
  unfold verifyCandidateEvaluatorSeals
  exact .bind verifyCandidateSeal_readOnly fun _ => .bind verifyCandidateSeal_readOnly fun _ =>
    .bind .find fun _ => .lift

theorem candidateClosureAuthority_readOnly {a : ClosureIds} {fence : CandidateWriteFence}
    {allowConsumed : Bool} : Tx.ReadOnly (candidateClosureAuthority env a fence allowConsumed) := by
  unfold candidateClosureAuthority getCandidateBinding getApproval
  exact .bind requireCandidateFence_readOnly fun _ => .bind .find fun _ => .bind .find fun _ =>
    .bind .find fun _ => .bind .find fun _ => .bind .require fun _ => .bind .require fun _ =>
    .bind .require fun _ => .bind verifyCandidateEvaluatorSeals_readOnly fun _ => .pure

end Adcp.L3
