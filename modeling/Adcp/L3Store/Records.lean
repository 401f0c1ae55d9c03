import Adcp.L3Store.Executions

/-!
# Recording operations

Context snapshots, verification results, agent attempts and approvals: rows
beside an execution that never touch its row or its events. Each `INSERT`
carries its table's keys and foreign keys.

* `register…Tx_ok`, `requestApprovalTx_ok`, `resolveApprovalTx_ok`: a recording
  operation finds its row or appends it, and touches no other table.
* `AgentAttempt.InContext`: a registered attempt runs in a context of its own
  execution and role.
* `ApprovalStep`, `consumeApproval_bind_ok`: an approval is resolved once, and
  consumed once, only when granted.
-/
namespace Adcp.L3

open Adcp.L1 Adcp.L2 ExecutionState

/-! ## Context snapshots -/

/-- `ContextCapsule`, or bare content for `register_context_snapshot`.
mirrors src/adcp/capsule.py:24-39 -/
structure ContextCapsule where
  capsuleVersion : Int
  role : CapsuleRole
  content : Json
  canonicalJson : String
  fingerprint : String

def Db.contextSnapshot? (db : Db) (contextSnapshotId : String) : Option ContextSnapshot :=
  Table.lookup (·.contextSnapshotId) db.contextSnapshot contextSnapshotId

/-- mirrors src/adcp/store/sqlite.py:3521-3528 -/
def getContextSnapshot (contextSnapshotId : String) : Tx PyError Db ContextSnapshot :=
  Tx.find (·.contextSnapshot? contextSnapshotId)
    (.store "CONTEXT_SNAPSHOT_NOT_FOUND" contextSnapshotId)

/-- mirrors src/adcp/store/migrations.py:83-93 -/
def insertContextSnapshot (row : ContextSnapshot) : Tx PyError Db Unit := do
  let db ← Tx.read id
  Tx.requireAll (.check "context_snapshot")
    [("capsule_version", 0 < row.capsuleVersion), ("fingerprint", sqliteLength row.fingerprint = 64),
     ("canonical_json", 0 < sqliteLength row.canonicalJson)]
  Tx.require (db.contextSnapshot? row.contextSnapshotId = none)
    (.integrity "UNIQUE constraint failed: context_snapshot.context_snapshot_id")
  Tx.require (db.contextSnapshot.all fun c => ¬ (c.executionId = row.executionId ∧
      c.role = row.role ∧ c.fingerprint = row.fingerprint))
    (.integrity ("UNIQUE constraint failed: context_snapshot.execution_id, context_snapshot.role, " ++
      "context_snapshot.fingerprint"))
  Tx.require ((db.execution? row.executionId).isSome) (.integrity "FOREIGN KEY constraint failed")
  Tx.write fun db => { db with contextSnapshot := db.contextSnapshot ++ [row] }

structure RegisterContextSnapshot where
  contextSnapshotId : String
  executionId : String
  role : CapsuleRole
  capsuleVersion : Int
  /-- `inl` is a bare object, `inr` a capsule. -/
  content : Json ⊕ ContextCapsule
  candidateWriteFence : Option CandidateWriteFence

/-- mirrors src/adcp/store/sqlite.py:3453-3465 -/
def RegisterContextSnapshot.capsuleContent (a : RegisterContextSnapshot) : Tx PyError Db Json :=
  match a.content with
  | .inl content => do
    Tx.require (content.isObj = true) (.store "INVALID_INPUT" "capsule content must be an object")
    pure content
  | .inr capsule => do
    Tx.require (capsule.role = a.role ∧ capsule.capsuleVersion = a.capsuleVersion)
      (storeError "CONTEXT_CAPSULE_BINDING_MISMATCH")
    Tx.require (capsule.content.isObj = true)
      (.store "INVALID_INPUT" "capsule content must be an object")
    pure capsule.content

def envelope (capsuleVersion : Int) (role : CapsuleRole) (content : Json) : Json :=
  .obj [("capsule_version", .int capsuleVersion), ("role", .str role.value), ("content", content)]

/-- Answers the id of the snapshot found or made.
mirrors src/adcp/store/sqlite.py:3434-3519 -/
def registerContextSnapshotTx (env : Env) (a : RegisterContextSnapshot) : Tx PyError Db String := do
  Tx.require (a.contextSnapshotId ≠ "") (.store "INVALID_INPUT" "context_snapshot_id is required")
  let content ← a.capsuleContent
  Tx.require (0 < a.capsuleVersion) (.store "INVALID_INPUT" "capsule_version must be positive")
  let serialized ← Tx.lift (canonicalJson (envelope a.capsuleVersion a.role content))
  let fingerprint ← Tx.lift (canonicalSha256 (envelope a.capsuleVersion a.role content))
  let createdAt := env.clock 0
  begin env 1
  requireOptionalFence env 2 a.executionId a.candidateWriteFence true
  let existing ← Tx.read fun db => db.contextSnapshot.find? fun c =>
    c.executionId = a.executionId ∧ c.role = a.role ∧ c.fingerprint = fingerprint
  match existing with
  | some row => do
    Tx.require (row.canonicalJson = serialized ∧ row.capsuleVersion = a.capsuleVersion)
      (storeError "CONTEXT_FINGERPRINT_CONFLICT")
    requireOptionalFence env 3 a.executionId a.candidateWriteFence false
    pure row.contextSnapshotId
  | none => do
    let identity ← Tx.read (·.contextSnapshot? a.contextSnapshotId)
    Tx.require (identity = none) (storeError "CONTEXT_SNAPSHOT_ID_CONFLICT")
    insertContextSnapshot
      { contextSnapshotId := a.contextSnapshotId, executionId := a.executionId, role := a.role
        capsuleVersion := a.capsuleVersion, fingerprint := fingerprint
        canonicalJson := serialized, createdAt := createdAt }
    requireOptionalFence env 3 a.executionId a.candidateWriteFence false
    pure a.contextSnapshotId

/-! ## Verification results -/

/-- `VerificationResultRecord`: the row, and the values its texts encode.
mirrors src/adcp/verifier.py:123-137 -/
structure VerificationResultRecord where
  row : VerificationResult
  commandManifest : Json
  result : Json

def Db.verificationResult? (db : Db) (verificationId : String) : Option VerificationResult :=
  Table.lookup (·.verificationId) db.verificationResult verificationId

/-- mirrors src/adcp/store/sqlite.py:3611-3618 -/
def getVerificationResult (verificationId : String) : Tx PyError Db VerificationResult :=
  Tx.find (·.verificationResult? verificationId)
    (.store "VERIFICATION_RESULT_NOT_FOUND" verificationId)

/-- The row is bound to this execution, commit, contract and authority. -/
def VerificationResult.BoundTo (v : VerificationResult) (executionId resultCommit contract
    authority : String) : Prop :=
  v.executionId = executionId ∧ v.resultCommit = resultCommit ∧ v.contractFingerprint = contract ∧
    v.authorityFingerprint = authority

instance (v : VerificationResult) (e r c a : String) : Decidable (v.BoundTo e r c a) := by
  unfold VerificationResult.BoundTo; infer_instance

/-- Answers the id of the result found or made.
mirrors src/adcp/store/sqlite.py:3530-3609 -/
def registerVerificationResultTx (env : Env) (record : VerificationResultRecord) :
    Tx PyError Db String := do
  let row := record.row
  let manifestJson ← Tx.lift (canonicalJson record.commandManifest)
  let resultJson ← Tx.lift (canonicalJson record.result)
  let manifestSha256 ← Tx.lift (canonicalSha256 record.commandManifest)
  Tx.require (manifestJson = row.commandManifest ∧ manifestSha256 = row.commandManifestSha256 ∧
      resultJson = row.resultJson) (storeError "VERIFICATION_CANONICAL_MISMATCH")
  begin env 0
  let existing ← Tx.read fun db =>
    db.verificationResult.find? (·.operationKey = row.operationKey)
  match existing with
  | some found => do
    Tx.require (found = row) (storeError "IDEMPOTENCY_CONFLICT")
    pure found.verificationId
  | none => do
    let db ← Tx.read id
    Tx.requireAll (.check "verification_result")
      [("operation_key", sqliteLength row.operationKey = 64),
       ("result_commit", commitLength row.resultCommit),
       ("contract_fingerprint", sqliteLength row.contractFingerprint = 64),
       ("authority_fingerprint", sqliteLength row.authorityFingerprint = 64),
       ("command_manifest_sha256", sqliteLength row.commandManifestSha256 = 64)]
    Tx.require (db.verificationResult? row.verificationId = none)
      (.integrity "UNIQUE constraint failed: verification_result.verification_id")
    Tx.require ((db.execution? row.executionId).isSome) (.integrity "FOREIGN KEY constraint failed")
    Tx.write fun db => { db with verificationResult := db.verificationResult ++ [row] }
    pure row.verificationId

/-- The latest row of a table kept in insertion order that satisfies `p`. -/
def latest {ρ : Type} (p : ρ → Bool) (t : List ρ) : Option ρ := t.reverse.find? p

/-- mirrors src/adcp/store/sqlite.py:3620-3647 -/
def findVerificationPass (executionId resultCommit contract authority : String) :
    Tx PyError Db (Option VerificationResult) := do
  requireCommit resultCommit "result_commit"
  requireSha256 contract "contract_fingerprint"
  requireSha256 authority "authority_fingerprint"
  Tx.read fun db => latest
    (fun v => decide (v.BoundTo executionId resultCommit contract authority) && v.verdict = .PASS)
    db.verificationResult

/-! ## Agent attempts -/

def Db.agentAttempt? (db : Db) (attemptId : String) : Option AgentAttempt :=
  Table.lookup (·.attemptId) db.agentAttempt attemptId

/-- mirrors src/adcp/store/sqlite.py:3782-3788 -/
def getAgentAttempt (attemptId : String) : Tx PyError Db AgentAttempt :=
  Tx.find (·.agentAttempt? attemptId) (.store "AGENT_ATTEMPT_NOT_FOUND" attemptId)

/-- The `CHECK`s of an attempt.
mirrors src/adcp/store/migrations.py:98-122 -/
def attemptChecks (a : AgentAttempt) : List (String × Bool) :=
  [("operation_key", sqliteLength a.operationKey = 64), ("attempt_no", 1 ≤ a.attemptNo),
   ("model", 0 < sqliteLength a.model), ("reasoning_effort", 0 < sqliteLength a.reasoningEffort),
   ("session_mode", a.sessionMode = "FRESH"), ("session_id", 0 < sqliteLength a.sessionId),
   ("base_commit", commitLength a.baseCommit), ("result_commit", a.resultCommit.all commitLength),
   ("stdout_sha256", a.stdoutSha256.all (sqliteLength · = 64)),
   ("stderr_sha256", a.stderrSha256.all (sqliteLength · = 64)),
   ("result_sha256", a.resultSha256.all (sqliteLength · = 64)),
   ("sandbox_mode", a.sandboxMode = match a.role with
      | .MAKER => "workspace-write"
      | .EVALUATOR => "read-only"),
   ("ended_at", a.endedAt.isSome = (a.status ≠ .RUNNING)),
   ("evaluator_result_commit", a.role = .MAKER || a.resultCommit.isSome)]

structure RegisterAgentAttempt where
  attemptId : String
  operationKey : String
  executionId : String
  role : CapsuleRole
  attemptNo : Int
  model : Option String
  reasoningEffort : Option String
  sessionId : String
  contextSnapshotId : String
  baseCommit : String
  resultCommit : Option String
  startedAt : String
  candidateWriteFence : Option CandidateWriteFence

/-- `value or "<unspecified>"`. -/
def orUnspecified : Option String → String
  | some s => if s = "" then "<unspecified>" else s
  | none => "<unspecified>"

def RegisterAgentAttempt.row (a : RegisterAgentAttempt) : AgentAttempt where
  attemptId := a.attemptId
  operationKey := a.operationKey
  executionId := a.executionId
  role := a.role
  attemptNo := a.attemptNo
  model := orUnspecified a.model
  reasoningEffort := orUnspecified a.reasoningEffort
  sessionMode := "FRESH"
  sessionId := a.sessionId
  sandboxMode := match a.role with
    | .MAKER => "workspace-write"
    | .EVALUATOR => "read-only"
  contextSnapshotId := a.contextSnapshotId
  baseCommit := a.baseCommit
  resultCommit := a.resultCommit
  status := .RUNNING
  exitCode := none
  stdoutArtifact := none
  stdoutSha256 := none
  stderrArtifact := none
  stderrSha256 := none
  resultArtifact := none
  resultSha256 := none
  failureCode := none
  startedAt := a.startedAt
  endedAt := none

/-- The stored attempt has the registered values (the columns a later finish adds
are not compared).
mirrors src/adcp/store/sqlite.py:3755-3761 -/
def sameRegistration (a b : AgentAttempt) : Bool :=
  a.attemptId = b.attemptId && a.operationKey = b.operationKey && a.executionId = b.executionId &&
  a.role = b.role && a.attemptNo = b.attemptNo && a.model = b.model &&
  a.reasoningEffort = b.reasoningEffort && a.sessionMode = b.sessionMode &&
  a.sessionId = b.sessionId && a.sandboxMode = b.sandboxMode &&
  a.contextSnapshotId = b.contextSnapshotId && a.baseCommit = b.baseCommit &&
  a.resultCommit = b.resultCommit && a.status = b.status && a.startedAt = b.startedAt

/-- `INSERT INTO agent_attempt`, with the composite foreign key that binds an
attempt's context to its execution and role.
mirrors src/adcp/store/migrations.py:96-122 -/
def insertAgentAttempt (row : AgentAttempt) : Tx PyError Db Unit := do
  let db ← Tx.read id
  Tx.requireAll (.check "agent_attempt") (attemptChecks row)
  Tx.require (db.agentAttempt? row.attemptId = none)
    (.integrity "UNIQUE constraint failed: agent_attempt.attempt_id")
  Tx.require (db.agentAttempt.all (·.operationKey ≠ row.operationKey))
    (.integrity "UNIQUE constraint failed: agent_attempt.operation_key")
  Tx.require (db.agentAttempt.all (·.sessionId ≠ row.sessionId))
    (.integrity "UNIQUE constraint failed: agent_attempt.session_id")
  Tx.require (db.agentAttempt.all fun a => ¬ (a.executionId = row.executionId ∧ a.role = row.role ∧
      a.attemptNo = row.attemptNo))
    (.integrity ("UNIQUE constraint failed: agent_attempt.execution_id, agent_attempt.role, " ++
      "agent_attempt.attempt_no"))
  Tx.require ((db.execution? row.executionId).isSome ∧
      (db.contextSnapshot? row.contextSnapshotId).any fun c =>
        c.executionId = row.executionId && c.role = row.role)
    (.integrity "FOREIGN KEY constraint failed")
  Tx.write fun db => { db with agentAttempt := db.agentAttempt ++ [row] }

/-- mirrors src/adcp/store/sqlite.py:3695-3780 -/
def registerAgentAttemptTx (env : Env) (a : RegisterAgentAttempt) : Tx PyError Db Unit := do
  requireSha256 a.operationKey "operation_key"
  requireCommit a.baseCommit "base_commit"
  Tx.require (a.resultCommit.all isCommit = true)
    (.store "INVALID_INPUT" "result_commit must be a 40- or 64-character hex id")
  Tx.require (a.role = .EVALUATOR → a.resultCommit.isSome)
    (storeError "EVALUATOR_RESULT_COMMIT_REQUIRED")
  Tx.require (a.attemptId ≠ "" ∧ a.sessionId ≠ "" ∧ 1 ≤ a.attemptNo)
    (storeError "INVALID_AGENT_ATTEMPT")
  begin env 0
  requireOptionalFence env 1 a.executionId a.candidateWriteFence true
  let existing ← Tx.read fun db => db.agentAttempt.find? (·.operationKey = a.operationKey)
  match existing with
  | some found => do
    Tx.require (sameRegistration found a.row = true) (storeError "IDEMPOTENCY_CONFLICT")
    requireOptionalFence env 2 a.executionId a.candidateWriteFence false
  | none => do
    insertAgentAttempt a.row
    requireOptionalFence env 2 a.executionId a.candidateWriteFence false

/-- `_require_single_completed_maker_for_high_rework`.
mirrors src/adcp/store/sqlite.py:4438-4448 -/
def requireSingleCompletedMaker (executionId resultCommit : String) : Tx PyError Db Unit := do
  let attempts ← Tx.read fun db =>
    db.agentAttempt.filter fun a => a.executionId = executionId && a.role = .MAKER
  Tx.require (attempts.length = 1 ∧ (attempts.filter fun a =>
      a.status = .SUCCEEDED && a.resultCommit = some resultCommit).length = 1)
    (storeError "HIGH_REWORK_ATTEMPT_TOPOLOGY_INVALID")

/-! ## Approvals -/

def Db.approvalRequest? (db : Db) (approvalId : String) : Option ApprovalRequest :=
  Table.lookup (·.approvalId) db.approvalRequest approvalId

/-- mirrors src/adcp/store/sqlite.py:4523-4529 -/
def getApproval (approvalId : String) : Tx PyError Db ApprovalRequest :=
  Tx.find (·.approvalRequest? approvalId) (.store "APPROVAL_NOT_FOUND" approvalId)

structure RequestApproval where
  approvalId : String
  idempotencyKey : String
  executionId : String
  approvalType : String
  authorityRef : String
  expectedStateVersion : Int
  leaseOwner : String
  leaseGeneration : Int
  candidateWriteFence : Option CandidateWriteFence

/-- The execution is a HIGH one, blocked by its first failed verification.
mirrors src/adcp/store/sqlite.py:4474-4482,4614-4622 -/
def HighReworkState (row : SliceExecution) : Prop :=
  row.riskLevel = .HIGH ∧ row.maxAutoReworks = 0 ∧ row.makerReworkCount = 0 ∧
    row.state = BLOCKED ∧ row.resumeState = some VERIFYING ∧
    row.blockerCode = some "VERIFICATION_FAILED"

instance (row : SliceExecution) : Decidable (HighReworkState row) := by
  unfold HighReworkState; infer_instance

/-- mirrors src/adcp/store/sqlite.py:4473-4488 -/
def requireApprovalExpected (row : SliceExecution) (a : RequestApproval) : Tx PyError Db Unit :=
  if a.approvalType = "HIGH_REWORK" then
    match row.resultCommit with
    | some commit => do
      Tx.require (HighReworkState row) (storeError "HIGH_REWORK_APPROVAL_NOT_EXPECTED")
      requireSingleCompletedMaker a.executionId commit
    | none => Tx.fail (storeError "HIGH_REWORK_APPROVAL_NOT_EXPECTED")
  else Tx.require (row.state = WAITING_APPROVAL) (storeError "APPROVAL_NOT_EXPECTED")

/-- mirrors src/adcp/store/sqlite.py:4450-4521 -/
def requestApprovalTx (env : Env) (a : RequestApproval) : Tx PyError Db Unit := do
  requireSha256 a.idempotencyKey "idempotency_key"
  let now := env.clock 0
  begin env 1
  requireOptionalFence env 2 a.executionId a.candidateWriteFence true
  let row ← getExecution a.executionId
  requireFence row a.leaseOwner a.leaseGeneration now
  Tx.require (row.stateVersion = a.expectedStateVersion) (storeError "STALE_STATE_VERSION")
  requireApprovalExpected row a
  let existing ← Tx.read fun db =>
    db.approvalRequest.find? (·.idempotencyKey = a.idempotencyKey)
  match existing with
  | some found => do
    Tx.require (found.approvalId = a.approvalId ∧ found.executionId = a.executionId ∧
        found.approvalType = a.approvalType ∧ found.required = true ∧
        found.authorityRef = a.authorityRef) (storeError "IDEMPOTENCY_CONFLICT")
    requireOptionalFence env 3 a.executionId a.candidateWriteFence false
  | none => do
    let db ← Tx.read id
    Tx.requireAll (.check "approval_request")
      [("idempotency_key", sqliteLength a.idempotencyKey = 64),
       ("approval_type", 0 < sqliteLength a.approvalType),
       ("authority_ref", 0 < sqliteLength a.authorityRef)]
    Tx.require (db.approvalRequest? a.approvalId = none)
      (.integrity "UNIQUE constraint failed: approval_request.approval_id")
    Tx.require (db.approvalRequest.all fun r => ¬ (r.executionId = a.executionId ∧
        r.approvalType = a.approvalType ∧ r.authorityRef = a.authorityRef))
      (.integrity ("UNIQUE constraint failed: approval_request.execution_id, " ++
        "approval_request.approval_type, approval_request.authority_ref"))
    Tx.write fun db => { db with approvalRequest := db.approvalRequest ++
      [{ approvalId := a.approvalId, idempotencyKey := a.idempotencyKey
         executionId := a.executionId, approvalType := a.approvalType, required := true
         status := .PENDING, authorityRef := a.authorityRef, requestedAt := now
         resolvedAt := none, consumedAt := none }] }
    requireOptionalFence env 3 a.executionId a.candidateWriteFence false

structure ResolveApproval where
  approvalId : String
  executionId : String
  authorityRef : String
  approved : Bool
  candidateWriteFence : Option CandidateWriteFence

/-- mirrors src/adcp/store/sqlite.py:4531-4570 -/
def resolveApprovalTx (env : Env) (a : ResolveApproval) : Tx PyError Db Unit := do
  let status : ApprovalStatus := if a.approved then .APPROVED else .REJECTED
  let now := env.clock 0
  begin env 1
  requireOptionalFence env 2 a.executionId a.candidateWriteFence true
  let row ← getApproval a.approvalId
  Tx.require (row.executionId = a.executionId) (storeError "APPROVAL_EXECUTION_MISMATCH")
  Tx.require (row.authorityRef = a.authorityRef) (storeError "STALE_APPROVAL")
  Tx.require (row.consumedAt = none) (storeError "APPROVAL_ALREADY_CONSUMED")
  if row.status = status then
    requireOptionalFence env 3 a.executionId a.candidateWriteFence false
  else do
    Tx.require (row.status = .PENDING) (storeError "APPROVAL_ALREADY_RESOLVED")
    Tx.write fun db => { db with
      approvalRequest := Table.update (·.approvalId) db.approvalRequest a.approvalId
        (fun r => { r with status := status, resolvedAt := some now }) }
    requireOptionalFence env 3 a.executionId a.candidateWriteFence false

/-- `UPDATE approval_request SET consumed_at = ? WHERE approval_id = ? AND cond AND
consumed_at IS NULL`, with `APPROVAL_ALREADY_CONSUMED` when no row matched.
mirrors src/adcp/store/sqlite.py:739-743,4794-4800,5043-5048 -/
def consumeApproval (approvalId : String) (cond : ApprovalRequest → Bool) (now : Timestamp) :
    Tx PyError Db Unit := do
  let row ← Tx.find (fun db => (db.approvalRequest? approvalId).filter fun r =>
    cond r && r.consumedAt.isNone) (storeError "APPROVAL_ALREADY_CONSUMED")
  Tx.require (row.status = .APPROVED) (.check "approval_request" "status")
  Tx.write fun db => { db with
    approvalRequest := Table.update (·.approvalId) db.approvalRequest approvalId
      (fun r => { r with consumedAt := some now }) }


/-! ## What they do -/

variable {env : Env} {db db' : Db}

theorem insertContextSnapshot_bind_ok {α : Type} {row : ContextSnapshot}
    {f : Unit → Tx PyError Db α} {r : α × Db} (h : (insertContextSnapshot row >>= f) db = .ok r) :
    db.contextSnapshot? row.contextSnapshotId = none ∧ (db.execution? row.executionId).isSome ∧
      f () { db with contextSnapshot := db.contextSnapshot ++ [row] } = .ok r := by
  obtain ⟨u, s, hx, hf⟩ := Tx.bind_ok.mp h
  unfold insertContextSnapshot at hx
  have hx := Tx.read_bind_ok.mp hx
  obtain ⟨-, hx⟩ := Tx.requireAll_bind_ok.mp hx
  obtain ⟨hfree, hx⟩ := Tx.require_bind_ok.mp hx
  obtain ⟨-, hx⟩ := Tx.require_bind_ok.mp hx
  obtain ⟨hexec, hx⟩ := Tx.require_bind_ok.mp hx
  cases Tx.write_ok.mp hx
  exact ⟨hfree, hexec, hf⟩

theorem capsuleContent_bind_ok {α : Type} {a : RegisterContextSnapshot} {f : Json → Tx PyError Db α}
    {r : α × Db} (h : (a.capsuleContent >>= f) db = .ok r) : ∃ content, f content db = .ok r := by
  obtain ⟨content, s, hc, hf⟩ := Tx.bind_ok.mp h
  unfold RegisterContextSnapshot.capsuleContent at hc
  cases hcontent : a.content with
  | inl v =>
    rw [hcontent] at hc
    obtain ⟨-, hc⟩ := Tx.require_bind_ok.mp hc
    cases Tx.pure_ok.mp hc
    exact ⟨_, hf⟩
  | inr capsule =>
    rw [hcontent] at hc
    obtain ⟨-, hc⟩ := Tx.require_bind_ok.mp hc
    obtain ⟨-, hc⟩ := Tx.require_bind_ok.mp hc
    cases Tx.pure_ok.mp hc
    exact ⟨_, hf⟩

/-- A context is found, or a new one is appended for an execution there is. -/
theorem registerContextSnapshotTx_ok {a : RegisterContextSnapshot} {id : String}
    (h : registerContextSnapshotTx env a db = .ok (id, db')) :
    db' = db ∨ ∃ row : ContextSnapshot, row.executionId = a.executionId ∧ row.role = a.role ∧
      db.contextSnapshot? row.contextSnapshotId = none ∧
      db' = { db with contextSnapshot := db.contextSnapshot ++ [row] } := by
  unfold registerContextSnapshotTx at h
  obtain ⟨-, h⟩ := Tx.require_bind_ok.mp h
  obtain ⟨content, h⟩ := capsuleContent_bind_ok h
  obtain ⟨-, h⟩ := Tx.require_bind_ok.mp h
  obtain ⟨serialized, -, h⟩ := Tx.lift_bind_ok.mp h
  obtain ⟨fingerprint, -, h⟩ := Tx.lift_bind_ok.mp h
  have h := requireOptionalFence_bind_ok (begin_bind_ok h)
  rcases Tx.read_option_bind_ok h with ⟨found, -, h⟩ | ⟨-, h⟩
  · obtain ⟨-, h⟩ := Tx.require_bind_ok.mp h
    have h := requireOptionalFence_bind_ok h
    cases Tx.pure_ok.mp h
    exact Or.inl rfl
  · have h := Tx.read_bind_ok.mp h
    obtain ⟨-, h⟩ := Tx.require_bind_ok.mp h
    obtain ⟨hfree, -, h⟩ := insertContextSnapshot_bind_ok h
    have h := requireOptionalFence_bind_ok h
    cases Tx.pure_ok.mp h
    exact Or.inr ⟨_, rfl, rfl, hfree, rfl⟩

/-- A verification result is found, or the given one is appended. -/
theorem registerVerificationResultTx_ok {record : VerificationResultRecord} {id : String}
    (h : registerVerificationResultTx env record db = .ok (id, db')) :
    db' = db ∨ (db.verificationResult? record.row.verificationId = none ∧
      db' = { db with verificationResult := db.verificationResult ++ [record.row] }) := by
  unfold registerVerificationResultTx at h
  obtain ⟨_, -, h⟩ := Tx.lift_bind_ok.mp h
  obtain ⟨_, -, h⟩ := Tx.lift_bind_ok.mp h
  obtain ⟨_, -, h⟩ := Tx.lift_bind_ok.mp h
  obtain ⟨-, h⟩ := Tx.require_bind_ok.mp h
  rcases Tx.read_option_bind_ok (begin_bind_ok h) with ⟨found, -, h⟩ | ⟨-, h⟩
  · obtain ⟨-, h⟩ := Tx.require_bind_ok.mp h
    cases Tx.pure_ok.mp h
    exact Or.inl rfl
  · have h := Tx.read_bind_ok.mp h
    obtain ⟨-, h⟩ := Tx.requireAll_bind_ok.mp h
    obtain ⟨hfree, h⟩ := Tx.require_bind_ok.mp h
    obtain ⟨-, h⟩ := Tx.require_bind_ok.mp h
    have h := Tx.write_bind_ok.mp h
    cases Tx.pure_ok.mp h
    exact Or.inr ⟨hfree, rfl⟩

/-- The context an attempt names belongs to its execution and role. -/
def AgentAttempt.InContext (t : AgentAttempt) (db : Db) : Prop :=
  ∃ c, db.contextSnapshot? t.contextSnapshotId = some c ∧ c.executionId = t.executionId ∧
    c.role = t.role

theorem insertAgentAttempt_bind_ok {α : Type} {row : AgentAttempt} {f : Unit → Tx PyError Db α}
    {r : α × Db} (h : (insertAgentAttempt row >>= f) db = .ok r) :
    db.agentAttempt? row.attemptId = none ∧ row.InContext db ∧
      f () { db with agentAttempt := db.agentAttempt ++ [row] } = .ok r := by
  obtain ⟨u, s, hx, hf⟩ := Tx.bind_ok.mp h
  unfold insertAgentAttempt at hx
  have hx := Tx.read_bind_ok.mp hx
  obtain ⟨-, hx⟩ := Tx.requireAll_bind_ok.mp hx
  obtain ⟨hfree, hx⟩ := Tx.require_bind_ok.mp hx
  obtain ⟨-, hx⟩ := Tx.require_bind_ok.mp hx
  obtain ⟨-, hx⟩ := Tx.require_bind_ok.mp hx
  obtain ⟨-, hx⟩ := Tx.require_bind_ok.mp hx
  obtain ⟨⟨-, hctx⟩, hx⟩ := Tx.require_bind_ok.mp hx
  cases Tx.write_ok.mp hx
  obtain ⟨c, hc, hb⟩ := (Option.any_eq_true _ _).mp hctx
  simp only [Bool.and_eq_true, decide_eq_true_eq] at hb
  exact ⟨hfree, ⟨c, hc, hb.1, hb.2⟩, hf⟩

/-- An attempt is found, or the registered one is appended, in a context of its
execution and role. -/
theorem registerAgentAttemptTx_ok {a : RegisterAgentAttempt}
    (h : registerAgentAttemptTx env a db = .ok ((), db')) :
    db' = db ∨ (db.agentAttempt? a.attemptId = none ∧ a.row.InContext db ∧
      db' = { db with agentAttempt := db.agentAttempt ++ [a.row] }) := by
  unfold registerAgentAttemptTx requireSha256 requireCommit at h
  obtain ⟨-, h⟩ := Tx.require_bind_ok.mp h
  obtain ⟨-, h⟩ := Tx.require_bind_ok.mp h
  obtain ⟨-, h⟩ := Tx.require_bind_ok.mp h
  obtain ⟨-, h⟩ := Tx.require_bind_ok.mp h
  obtain ⟨-, h⟩ := Tx.require_bind_ok.mp h
  have h := requireOptionalFence_bind_ok (begin_bind_ok h)
  rcases Tx.read_option_bind_ok h with ⟨found, -, h⟩ | ⟨-, h⟩
  · obtain ⟨-, h⟩ := Tx.require_bind_ok.mp h
    cases requireOptionalFence_ok h
    exact Or.inl rfl
  · obtain ⟨hfree, hctx, h⟩ := insertAgentAttempt_bind_ok h
    cases requireOptionalFence_ok h
    exact Or.inr ⟨hfree, hctx, rfl⟩

theorem requireSingleCompletedMaker_ok {id commit : String} {r : Unit × Db}
    (h : requireSingleCompletedMaker id commit db = .ok r) : r = ((), db) := by
  unfold requireSingleCompletedMaker at h
  have h := Tx.read_bind_ok.mp h
  exact (Tx.require_ok.mp h).2

theorem requireApprovalExpected_ok {row : SliceExecution} {a : RequestApproval} {r : Unit × Db}
    (h : requireApprovalExpected row a db = .ok r) : r = ((), db) := by
  unfold requireApprovalExpected at h
  rcases Tx.ite_ok.mp h with ⟨-, h⟩ | ⟨-, h⟩
  · cases hc : row.resultCommit with
    | none =>
      rw [hc] at h
      exact (Tx.fail_ok.mp h).elim
    | some commit =>
      rw [hc] at h
      obtain ⟨-, h⟩ := Tx.require_bind_ok.mp h
      exact requireSingleCompletedMaker_ok h
  · exact (Tx.require_ok.mp h).2

/-- What an operation does to the approvals: nothing, a new pending request, the
resolution of a pending one, or the consumption of a granted one that it `spends`. -/
inductive ApprovalStep (spends : String → ApprovalRequest → Prop) (db : Db)
    (approvals : List ApprovalRequest) : Prop
  | keep (h : approvals = db.approvalRequest)
  | request {row : ApprovalRequest} (free : db.approvalRequest? row.approvalId = none)
      (pending : row.status = .PENDING) (unused : row.consumedAt = none)
      (h : approvals = db.approvalRequest ++ [row])
  | resolve {id : String} {row : ApprovalRequest} {status : ApprovalStatus} {now : Timestamp}
      (found : db.approvalRequest? id = some row) (pending : row.status = .PENDING)
      (unused : row.consumedAt = none) (resolved : status ≠ .PENDING)
      (h : approvals = Table.update (·.approvalId) db.approvalRequest id
        (fun r => { r with status := status, resolvedAt := some now }))
  | consume {id : String} {row : ApprovalRequest} {now : Timestamp}
      (found : db.approvalRequest? id = some row) (granted : row.status = .APPROVED)
      (unused : row.consumedAt = none) (spent : spends id row)
      (h : approvals = Table.update (·.approvalId) db.approvalRequest id
        (fun r => { r with consumedAt := some now }))

/-- The row of a new request. -/
def RequestApproval.row (a : RequestApproval) (now : Timestamp) : ApprovalRequest where
  approvalId := a.approvalId
  idempotencyKey := a.idempotencyKey
  executionId := a.executionId
  approvalType := a.approvalType
  required := true
  status := .PENDING
  authorityRef := a.authorityRef
  requestedAt := now
  resolvedAt := none
  consumedAt := none

/-- What a new request found: the execution at the version it names, where an
approval of this type is expected. -/
structure RequestApproval.Requests (a : RequestApproval) (now : Timestamp) (db : Db)
    (execution : SliceExecution) : Prop where
  found : db.execution? a.executionId = some execution
  live : FenceLive execution a.leaseOwner a.leaseGeneration now
  version : execution.stateVersion = a.expectedStateVersion
  expected : if a.approvalType = "HIGH_REWORK" then HighReworkState execution
    else execution.state = WAITING_APPROVAL
  free : db.approvalRequest? a.approvalId = none

theorem requireApprovalExpected_expected {row : SliceExecution} {a : RequestApproval}
    {r : Unit × Db} (h : requireApprovalExpected row a db = .ok r) :
    if a.approvalType = "HIGH_REWORK" then HighReworkState row
      else row.state = WAITING_APPROVAL := by
  unfold requireApprovalExpected at h
  rcases Tx.ite_ok.mp h with ⟨hkind, h⟩ | ⟨hkind, h⟩
  · rw [if_pos hkind]
    cases hc : row.resultCommit with
    | none =>
      rw [hc] at h
      exact (Tx.fail_ok.mp h).elim
    | some commit =>
      rw [hc] at h
      exact (Tx.require_bind_ok.mp h).1
  · rw [if_neg hkind]
    exact (Tx.require_ok.mp h).1

/-- An approval request finds its row or files it, and touches the approvals only. -/
theorem requestApprovalTx_ok {a : RequestApproval}
    (h : requestApprovalTx env a db = .ok ((), db')) :
    db' = db ∨ ∃ execution, a.Requests (env.clock 0) db execution ∧
      db' = { db with approvalRequest := db.approvalRequest ++ [a.row (env.clock 0)] } := by
  unfold requestApprovalTx requireSha256 at h
  obtain ⟨-, h⟩ := Tx.require_bind_ok.mp h
  have h := requireOptionalFence_bind_ok (begin_bind_ok h)
  obtain ⟨row, hrow, h⟩ := getExecution_bind_ok.mp h
  obtain ⟨hlive, h⟩ := requireFence_bind_ok.mp h
  obtain ⟨hv, h⟩ := Tx.require_bind_ok.mp h
  obtain ⟨u, s, he, h⟩ := Tx.bind_ok.mp h
  have hexpected := requireApprovalExpected_expected he
  cases requireApprovalExpected_ok he
  rcases Tx.read_option_bind_ok h with ⟨found, -, h⟩ | ⟨-, h⟩
  · obtain ⟨-, h⟩ := Tx.require_bind_ok.mp h
    cases requireOptionalFence_ok h
    exact Or.inl rfl
  · have h := Tx.read_bind_ok.mp h
    obtain ⟨-, h⟩ := Tx.requireAll_bind_ok.mp h
    obtain ⟨hfree, h⟩ := Tx.require_bind_ok.mp h
    obtain ⟨-, h⟩ := Tx.require_bind_ok.mp h
    have h := Tx.write_bind_ok.mp h
    cases requireOptionalFence_ok h
    exact Or.inr ⟨row, ⟨hrow, hlive, hv, hexpected, hfree⟩, rfl⟩

/-- How an approval is resolved. -/
def ResolveApproval.status (a : ResolveApproval) : ApprovalStatus :=
  if a.approved then .APPROVED else .REJECTED

theorem ResolveApproval.status_ne (a : ResolveApproval) : a.status ≠ .PENDING := by
  unfold ResolveApproval.status
  split
  · decide
  · decide

/-- What a resolution found: the pending approval, asked for this execution and
authority. -/
structure ResolveApproval.Resolves (a : ResolveApproval) (db : Db) (row : ApprovalRequest) :
    Prop where
  found : db.approvalRequest? a.approvalId = some row
  ofExecution : row.executionId = a.executionId
  ref : row.authorityRef = a.authorityRef
  pending : row.status = .PENDING
  unused : row.consumedAt = none

/-- Resolving an approval touches the approvals only. -/
theorem resolveApprovalTx_ok {a : ResolveApproval}
    (h : resolveApprovalTx env a db = .ok ((), db')) :
    db' = db ∨ ∃ row, a.Resolves db row ∧ db' = { db with
      approvalRequest := Table.update (·.approvalId) db.approvalRequest a.approvalId
        (fun r => { r with status := a.status, resolvedAt := some (env.clock 0) }) } := by
  unfold resolveApprovalTx at h
  have h := requireOptionalFence_bind_ok (begin_bind_ok h)
  unfold getApproval at h
  obtain ⟨row, hrow, h⟩ := Tx.find_bind_ok.mp h
  obtain ⟨hexecution, h⟩ := Tx.require_bind_ok.mp h
  obtain ⟨href, h⟩ := Tx.require_bind_ok.mp h
  obtain ⟨hunused, h⟩ := Tx.require_bind_ok.mp h
  rcases Tx.ite_ok.mp h with ⟨-, h⟩ | ⟨-, h⟩
  · cases requireOptionalFence_ok h
    exact Or.inl rfl
  · obtain ⟨hpending, h⟩ := Tx.require_bind_ok.mp h
    have h := Tx.write_bind_ok.mp h
    cases requireOptionalFence_ok h
    exact Or.inr ⟨row, ⟨hrow, hexecution, href, hpending, hunused⟩, rfl⟩

theorem consumeApproval_bind_ok {α : Type} {id : String} {cond : ApprovalRequest → Bool}
    {now : Timestamp} {f : Unit → Tx PyError Db α} {r : α × Db}
    (h : (consumeApproval id cond now >>= f) db = .ok r) :
    ∃ row, db.approvalRequest? id = some row ∧ cond row = true ∧ row.consumedAt = none ∧
      row.status = .APPROVED ∧
      f () { db with
        approvalRequest := Table.update (·.approvalId) db.approvalRequest id
          (fun r => { r with consumedAt := some now }) } = .ok r := by
  obtain ⟨u, s, hx, hf⟩ := Tx.bind_ok.mp h
  unfold consumeApproval at hx
  obtain ⟨row, hrow, hx⟩ := Tx.find_bind_ok.mp hx
  obtain ⟨hstatus, hx⟩ := Tx.require_bind_ok.mp hx
  cases Tx.write_ok.mp hx
  obtain ⟨hrow, hc⟩ := Option.filter_eq_some_iff.mp hrow
  simp only [Bool.and_eq_true, Option.isNone_iff_eq_none] at hc
  exact ⟨row, hrow, hc.1, hc.2, hstatus, hf⟩

end Adcp.L3
