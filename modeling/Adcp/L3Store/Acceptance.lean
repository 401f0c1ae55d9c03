import Adcp.L3Store.Rework

/-!
# Acceptance

`accept_execution`: the joins over the six tables the evidence lives in, the
consumption of the approval, and the three writes that accept.

The manifest is an object the caller hands in; every value in it is compared
before it is stored.

* `AcceptsExecution`, `AcceptsEvidence`, `AcceptsContexts`, `AcceptsTransitions`,
  `Consumes`, `Files`: what each part of the call found or wrote, when it let the
  call go on (`require…_bind_ok`, `consume_bind_ok`, `insertManifest_bind_ok`).
-/
namespace Adcp.L3

open Adcp.L1 Adcp.L2 ExecutionState

/-- mirrors src/adcp/evidence.py:74-86 -/
structure EvidenceManifest where
  materializedFields : Json
  canonicalJson : String
  manifestSha256 : String

namespace EvidenceManifest

def field (m : EvidenceManifest) (k : String) : Option Json := m.materializedFields.get? k

/-- `fields.get(outer, {}).get(inner)` -/
def nested (m : EvidenceManifest) (outer inner : String) : Tx PyError Db (Option Json) :=
  match m.field outer with
  | none => pure none
  | some (.obj fields) => pure ((Json.obj fields).get? inner)
  | some _ => Tx.fail (.raised "AttributeError" "get")

/-- An identity the manifest names: a non-empty text. -/
def identity (v : Option Json) : Tx PyError Db String := do
  let id ← Tx.find (fun _ => v.bind Json.asStr?) (storeError "EVIDENCE_MANIFEST_INVALID")
  Tx.require (id ≠ "") (storeError "EVIDENCE_MANIFEST_INVALID")
  pure id

/-- The member `inner` of the evidence `outer` is the text `s`. -/
def member (m : EvidenceManifest) (outer inner s : String) : Bool :=
  Json.strIs ((m.field outer).bind (·.get? inner)) s

/-- The items of `fields.get(k, [])`; an object or a text has none that is an
object. -/
def items (m : EvidenceManifest) (k : String) : Tx PyError Db (List Json) :=
  match m.field k with
  | none => pure []
  | some (.arr l) => pure l
  | some (.obj _) | some (.str _) => pure []
  | some _ => Tx.fail (.raised "TypeError" "not iterable")

end EvidenceManifest

/-- A value a Python set can hold. -/
def hashable : Option Json → Bool
  | some (.arr _) | some (.obj _) => false
  | _ => true

/-- The context an attempt ran in, as the triple the manifest names. -/
structure ContextRef where
  role : CapsuleRole
  contextSnapshotId : String
  fingerprint : String

def ContextRef.matches (c : ContextRef) (item : Json) : Bool :=
  Json.strIs (item.get? "role") c.role.value &&
    Json.strIs (item.get? "context_snapshot_id") c.contextSnapshotId &&
    Json.strIs (item.get? "fingerprint") c.fingerprint

/-- mirrors src/adcp/store/sqlite.py:4997-5004 -/
def transitionEvidence (events : List TransitionEvent) : Json :=
  .arr (events.map fun e => .obj [("event_id", .str e.eventId), ("event_type", .str e.eventType.value),
    ("to_state", .str e.toState.value), ("to_state_version", .int e.toStateVersion)])

def Db.evaluationResult? (db : Db) (evaluationId : String) : Option EvaluationResult :=
  Table.lookup (·.evaluationId) db.evaluationResult evaluationId

/-- mirrors src/adcp/store/sqlite.py:4409-4415 -/
def getEvaluationResult (evaluationId : String) : Tx PyError Db EvaluationResult :=
  Tx.find (·.evaluationResult? evaluationId) (.store "EVALUATION_RESULT_NOT_FOUND" evaluationId)

/-- The row is bound to this execution, commit, contract and authority. -/
def EvaluationResult.BoundTo (v : EvaluationResult) (executionId resultCommit contract
    authority : String) : Prop :=
  v.executionId = executionId ∧ v.resultCommit = resultCommit ∧ v.contractFingerprint = contract ∧
    v.authorityFingerprint = authority

instance (v : EvaluationResult) (e r c a : String) : Decidable (v.BoundTo e r c a) := by
  unfold EvaluationResult.BoundTo; infer_instance

structure AcceptExecution where
  executionId : String
  expectedStateVersion : Int
  operationKey : String
  manifest : EvidenceManifest
  leaseOwner : String
  leaseGeneration : Int
  approvalId : Option String
  approvalAuthorityRef : Option String
  actorId : String

/-- The four identities a manifest names. -/
structure EvidenceIds where
  makerId : String
  verificationId : String
  evaluatorId : String
  evaluationId : String

/-- The rows they name. -/
structure EvidenceRows where
  maker : AgentAttempt
  evaluator : AgentAttempt
  verification : VerificationResult
  evaluation : EvaluationResult

/-- An attempt of this execution and role that succeeded on this commit. -/
def AgentAttempt.Completed (t : AgentAttempt) (role : CapsuleRole) (executionId commit : String) :
    Prop :=
  t.executionId = executionId ∧ t.role = role ∧ t.status = .SUCCEEDED ∧ t.resultCommit = some commit

instance (t : AgentAttempt) (role : CapsuleRole) (e c : String) : Decidable (t.Completed role e c) := by
  unfold AgentAttempt.Completed; infer_instance

namespace AcceptExecution

/-- mirrors src/adcp/store/sqlite.py:4924-4929 -/
def payload (a : AcceptExecution) : Json :=
  .obj [("execution_id", .str a.executionId),
    ("expected_state_version", .int a.expectedStateVersion),
    ("manifest_sha256", .str a.manifest.manifestSha256), ("approval_id", .ofOption a.approvalId),
    ("approval_authority_ref", .ofOption a.approvalAuthorityRef),
    ("lease_owner", .str a.leaseOwner), ("lease_generation", .int a.leaseGeneration)]

/-- mirrors src/adcp/store/sqlite.py:4914-4923 -/
def validate (a : AcceptExecution) : Tx PyError Db EvidenceIds := do
  requireSha256 a.operationKey "operation_key"
  let text ← Tx.lift (canonicalJson a.manifest.materializedFields)
  let sha ← Tx.lift (canonicalSha256 a.manifest.materializedFields)
  Tx.require (text = a.manifest.canonicalJson ∧ sha = a.manifest.manifestSha256)
    (storeError "EVIDENCE_MANIFEST_CANONICAL_MISMATCH")
  let maker ← a.manifest.nested "maker_attempt_evidence" "attempt_id"
  let verification ← a.manifest.nested "verification_evidence" "verification_id"
  let evaluator ← a.manifest.nested "evaluator_attempt_evidence" "attempt_id"
  let evaluation ← a.manifest.nested "evaluation_evidence" "evaluation_id"
  let makerId ← EvidenceManifest.identity maker
  let verificationId ← EvidenceManifest.identity verification
  let evaluatorId ← EvidenceManifest.identity evaluator
  let evaluationId ← EvidenceManifest.identity evaluation
  pure ⟨makerId, verificationId, evaluatorId, evaluationId⟩

/-- The row is the caller's, EVALUATING, and bound as the manifest says; answers
its result commit.
mirrors src/adcp/store/sqlite.py:4936-4951 -/
def requireExecution (a : AcceptExecution) (execution : SliceExecution) (now : Timestamp) :
    Tx PyError Db String := do
  requireFence execution a.leaseOwner a.leaseGeneration now
  Tx.require (execution.stateVersion = a.expectedStateVersion) (storeError "STALE_STATE_VERSION")
  Tx.require (execution.state = EVALUATING) (storeError "ACCEPTANCE_STATE_INVALID")
  let mismatch := storeError "ACCEPTANCE_BINDING_MISMATCH"
  let commit ← Tx.find (fun _ => execution.resultCommit) mismatch
  Tx.require (Json.strIs (a.manifest.field "execution_id") a.executionId ∧
    Json.strIs (a.manifest.field "slice_id") execution.sliceId ∧
    Json.strIs (a.manifest.field "contract_fingerprint") execution.contractFingerprint ∧
    Json.strIs (a.manifest.field "authority_fingerprint") execution.authorityFingerprint ∧
    Json.strIs (a.manifest.field "base_commit") execution.baseCommit ∧
    Json.strIs (a.manifest.field "result_commit") commit) mismatch
  pure commit

/-- mirrors src/adcp/store/sqlite.py:4952-4983 -/
def requireEvidence (a : AcceptExecution) (ids : EvidenceIds) (execution : SliceExecution)
    (commit : String) : Tx PyError Db EvidenceRows := do
  let maker ← getAgentAttempt ids.makerId
  let evaluator ← getAgentAttempt ids.evaluatorId
  let verification ← getVerificationResult ids.verificationId
  let evaluation ← getEvaluationResult ids.evaluationId
  let contract := execution.contractFingerprint
  let authority := execution.authorityFingerprint
  Tx.require (maker.Completed .MAKER a.executionId commit ∧
    evaluator.Completed .EVALUATOR a.executionId commit ∧
    verification.BoundTo a.executionId commit contract authority ∧ verification.verdict = .PASS ∧
    evaluation.BoundTo a.executionId commit contract authority ∧
    evaluation.evaluatorAttemptId = ids.evaluatorId ∧ evaluation.verdict = .PASS ∧
    a.manifest.member "maker_attempt_evidence" "status" "SUCCEEDED" ∧
    a.manifest.member "verification_evidence" "verdict" "PASS" ∧
    a.manifest.member "evaluator_attempt_evidence" "status" "SUCCEEDED" ∧
    a.manifest.member "evaluation_evidence" "verdict" "PASS")
    (storeError "ACCEPTANCE_BINDING_MISMATCH")
  pure ⟨maker, evaluator, verification, evaluation⟩

def contextRef (t : AgentAttempt) : Tx PyError Db ContextRef := do
  let context ← getContextSnapshot t.contextSnapshotId
  pure ⟨t.role, t.contextSnapshotId, context.fingerprint⟩

/-- The contexts of the two attempts are, as sets, those the manifest names.
mirrors src/adcp/store/sqlite.py:4984-4996 -/
def requireContexts (a : AcceptExecution) (rows : EvidenceRows) : Tx PyError Db Unit := do
  let maker ← contextRef rows.maker
  let evaluator ← contextRef rows.evaluator
  let items ← a.manifest.items "context_fingerprints"
  let objects := items.filter Json.isObj
  Tx.require (objects.all fun item => hashable (item.get? "role") &&
      hashable (item.get? "context_snapshot_id") && hashable (item.get? "fingerprint"))
    (.raised "TypeError" "unhashable type")
  Tx.require (objects.any maker.matches ∧ objects.any evaluator.matches ∧
      objects.all fun item => maker.matches item || evaluator.matches item)
    (storeError "ACCEPTANCE_CONTEXT_MISMATCH")

/-- mirrors src/adcp/store/sqlite.py:4997-5009 -/
def requireTransitions (a : AcceptExecution) : Tx PyError Db Unit := do
  let expected ← Tx.read fun db => transitionEvidence (db.events a.executionId)
  let found ← Tx.lift (canonicalJson ((a.manifest.field "transition_evidence").getD (.arr [])))
  let text ← Tx.lift (canonicalJson expected)
  Tx.require (found = text) (storeError "ACCEPTANCE_TRANSITION_EVIDENCE_MISMATCH")

/-- What an acceptance approval authorises: the row as it was when the approval
was requested.
mirrors src/adcp/store/sqlite.py:5018-5027 -/
def approvalRef (a : AcceptExecution) (execution : SliceExecution) (commit evaluationId : String) :
    Json :=
  .obj [("execution_id", .str a.executionId),
    ("state_version", .int (a.expectedStateVersion - 1)), ("result_commit", .str commit),
    ("evaluation_id", .str evaluationId),
    ("contract_fingerprint", .str execution.contractFingerprint),
    ("authority_fingerprint", .str execution.authorityFingerprint)]

/-- mirrors src/adcp/store/sqlite.py:5010-5052 -/
def consume (a : AcceptExecution) (execution : SliceExecution) (commit evaluationId : String)
    (now : Timestamp) : Tx PyError Db Unit := do
  let required ← Tx.read fun db =>
    db.approvalRequest.any fun r => r.executionId = a.executionId && r.required
  if required = true then
    match a.approvalId, a.approvalAuthorityRef with
    | some approvalId, some authorityRef => do
      let approval ← getApproval approvalId
      let expected ← Tx.lift (canonicalSha256 (a.approvalRef execution commit evaluationId))
      Tx.require (approval.executionId = a.executionId ∧ approval.authorityRef = authorityRef ∧
          authorityRef = expected ∧ approval.status = .APPROVED ∧ approval.consumedAt = none)
        (storeError "APPROVAL_BINDING_MISMATCH")
      let refs ← a.manifest.items "approval_refs"
      Tx.require (refs.any fun item => Json.strIs (item.get? "approval_id") approvalId &&
          Json.strIs (item.get? "authority_ref") authorityRef &&
          Json.strIs (item.get? "status") "APPROVED")
        (storeError "APPROVAL_BINDING_MISMATCH")
      consumeApproval approvalId (fun _ => true) now
    | _, _ => Tx.fail (storeError "APPROVAL_REQUIRED")
  else do
    Tx.require (a.approvalId = none) (storeError "UNEXPECTED_APPROVAL")
    Tx.require (((a.manifest.field "approval_refs").map truthy).getD false = false)
      (storeError "UNEXPECTED_APPROVAL")

end AcceptExecution

/-- A value bound to a text column; a list or a dict cannot be bound. -/
def sqlBind : Json → Except PyError (Option String)
  | .arr _ | .obj _ => .error (.raised "ProgrammingError" "type not supported")
  | v => .ok (jsonText v)

/-- `INSERT INTO evidence_manifest`, its keys and foreign keys.
mirrors src/adcp/store/migrations.py:201-223,264-269 -/
def insertEvidenceManifest (row : EvidenceManifestRow) : Tx PyError Db Unit := do
  let db ← Tx.read id
  let succeeded (id : String) (role : CapsuleRole) : Bool := (db.agentAttempt? id).any fun t =>
    t.executionId = row.executionId && t.role = role && t.status = .SUCCEEDED
  Tx.require (succeeded row.makerAttemptId .MAKER ∧ succeeded row.evaluatorAttemptId .EVALUATOR)
    (.integrity "EVIDENCE_ATTEMPT_BINDING_MISMATCH")
  Tx.requireAll (.check "evidence_manifest")
    [("contract_fingerprint", sqliteLength row.contractFingerprint = 64),
     ("authority_fingerprint", sqliteLength row.authorityFingerprint = 64),
     ("base_commit", commitLength row.baseCommit), ("result_commit", commitLength row.resultCommit),
     ("manifest_sha256", sqliteLength row.manifestSha256 = 64)]
  Tx.require (db.evidenceManifest.all fun m => m.manifestId = none ∨ m.manifestId ≠ row.manifestId)
    (.integrity "UNIQUE constraint failed: evidence_manifest.manifest_id")
  Tx.require (db.evidenceManifest.all (·.executionId ≠ row.executionId))
    (.integrity "UNIQUE constraint failed: evidence_manifest.execution_id")
  Tx.require (db.evidenceManifest.all (·.manifestSha256 ≠ row.manifestSha256))
    (.integrity "UNIQUE constraint failed: evidence_manifest.manifest_sha256")
  Tx.require ((db.execution? row.executionId).isSome ∧
      ((db.verificationResult? row.verificationId).any fun v => decide
        (v.BoundTo row.executionId row.resultCommit row.contractFingerprint row.authorityFingerprint)) ∧
      ((db.evaluationResult? row.evaluationId).any fun v => decide
        (v.BoundTo row.executionId row.resultCommit row.contractFingerprint row.authorityFingerprint ∧
          v.evaluatorAttemptId = row.evaluatorAttemptId)))
    (.integrity "FOREIGN KEY constraint failed")
  Tx.write fun db => { db with evidenceManifest := db.evidenceManifest ++ [row] }

namespace AcceptExecution

/-- The row of an accepted manifest. Each bound column was compared with the
execution's, so it is written as that.
mirrors src/adcp/store/sqlite.py:5053-5071 -/
def insertManifest (a : AcceptExecution) (ids : EvidenceIds) (execution : SliceExecution)
    (commit : String) : Tx PyError Db Unit := do
  let bound (k : String) : Tx PyError Db (Option String) := do
    let v ← Tx.find (fun _ => a.manifest.field k) (.raised "KeyError" k)
    Tx.lift (sqlBind v)
  let manifestId ← bound "manifest_id"
  let refs ← Tx.lift (canonicalJson ((a.manifest.field "approval_refs").getD (.arr [])))
  let contexts ← Tx.lift (canonicalJson ((a.manifest.field "context_fingerprints").getD (.arr [])))
  let transitions ← Tx.lift
    (canonicalJson ((a.manifest.field "transition_evidence").getD (.arr [])))
  let created ← bound "created_at"
  let createdAt ← Tx.find (fun _ => created)
    (.integrity "NOT NULL constraint failed: evidence_manifest.created_at")
  insertEvidenceManifest
    { manifestId := manifestId, executionId := a.executionId, sliceId := execution.sliceId
      contractFingerprint := execution.contractFingerprint
      authorityFingerprint := execution.authorityFingerprint, baseCommit := execution.baseCommit
      resultCommit := commit, makerAttemptId := ids.makerId
      verificationId := ids.verificationId, evaluatorAttemptId := ids.evaluatorId
      evaluationId := ids.evaluationId, approvalRefsJson := refs
      contextFingerprintsJson := contexts, transitionEvidenceJson := transitions
      canonicalJson := a.manifest.canonicalJson, createdAt := createdAt
      manifestSha256 := a.manifest.manifestSha256 }

def accepted (now : Timestamp) (r : SliceExecution) : SliceExecution :=
  { r with
    state := ACCEPTED, resumeState := none, stateVersion := r.stateVersion + 1
    currentActorRole := .CONTROLLER, acceptedAt := some now, updatedAt := now }

/-- mirrors src/adcp/store/sqlite.py:4936-5091 -/
def body (env : Env) (a : AcceptExecution) (ids : EvidenceIds) (payloadJson : String) :
    Tx PyError Db Unit := do
  let now := env.clock 0
  let execution ← getExecution a.executionId
  let commit ← a.requireExecution execution now
  let rows ← a.requireEvidence ids execution commit
  a.requireContexts rows
  a.requireTransitions
  a.consume execution commit ids.evaluationId now
  a.insertManifest ids execution commit
  updateExecution a.executionId
    (fun r => r.stateVersion = a.expectedStateVersion &&
      decide (FenceLive r a.leaseOwner a.leaseGeneration now))
    (accepted now) (storeError "STALE_FENCING_TOKEN")
  insertEvent (env.uuid 0)
    { executionId := a.executionId, operationKey := a.operationKey, eventType := .ACCEPTED
      fromState := some EVALUATING, toState := ACCEPTED
      fromStateVersion := a.expectedStateVersion, toStateVersion := a.expectedStateVersion + 1
      actorRole := .CONTROLLER, actorId := a.actorId, leaseGeneration := a.leaseGeneration
      reasonCode := "EVIDENCE_ACCEPTED", reasonDetail := none, metadataJson := payloadJson
      createdAt := now }

end AcceptExecution

/-- mirrors src/adcp/store/sqlite.py:4899-5094 -/
def acceptExecutionTx (env : Env) (a : AcceptExecution) : Tx PyError Db Commit := do
  let ids ← a.validate
  let payloadJson ← Tx.lift (canonicalJson a.payload)
  begin env 1
  replayOr a.executionId a.operationKey .ACCEPTED payloadJson (a.body env ids payloadJson)

def acceptExecution (env : Env) (a : AcceptExecution) : Db → Except PyError SliceExecution × Db :=
  Tx.commitThen (acceptExecutionTx env a) fun _ => getExecution a.executionId


/-! ## What it does -/

variable {α : Type} {env : Env} {db db' : Db}

theorem items_readOnly (m : EvidenceManifest) (k : String) : Tx.ReadOnly (m.items k) := by
  unfold EvidenceManifest.items
  split
  · exact .pure
  · exact .pure
  · exact .pure
  · exact .pure
  · exact .fail

namespace AcceptExecution

/-- The execution it accepts: leased to the caller, EVALUATING, with a result. -/
structure AcceptsExecution (a : AcceptExecution) (now : Timestamp) (db : Db)
    (execution : SliceExecution) (commit : String) : Prop where
  found : db.execution? a.executionId = some execution
  live : FenceLive execution a.leaseOwner a.leaseGeneration now
  version : execution.stateVersion = a.expectedStateVersion
  state : execution.state = EVALUATING
  commit : execution.resultCommit = some commit

/-- The evidence it accepts: the named rows, each bound to the execution's commit,
contract and authority. -/
structure AcceptsEvidence (a : AcceptExecution) (db : Db) (ids : EvidenceIds)
    (execution : SliceExecution) (commit : String) (rows : EvidenceRows) : Prop where
  maker : db.agentAttempt? ids.makerId = some rows.maker
  makerDone : rows.maker.Completed .MAKER a.executionId commit
  evaluator : db.agentAttempt? ids.evaluatorId = some rows.evaluator
  evaluatorDone : rows.evaluator.Completed .EVALUATOR a.executionId commit
  verification : db.verificationResult? ids.verificationId = some rows.verification
  verificationBound : rows.verification.BoundTo a.executionId commit execution.contractFingerprint
    execution.authorityFingerprint
  verificationPassed : rows.verification.verdict = .PASS
  evaluation : db.evaluationResult? ids.evaluationId = some rows.evaluation
  evaluationBound : rows.evaluation.BoundTo a.executionId commit execution.contractFingerprint
    execution.authorityFingerprint
  evaluationPassed : rows.evaluation.verdict = .PASS
  produced : rows.evaluation.evaluatorAttemptId = ids.evaluatorId

/-- An object among the manifest's contexts names the context of one of the two
attempts, and each of the two is named. -/
structure AcceptsContexts (a : AcceptExecution) (db : Db) (rows : EvidenceRows)
    (maker evaluator : ContextRef) : Prop where
  makerContext : ∃ c, db.contextSnapshot? rows.maker.contextSnapshotId = some c ∧
    maker = ⟨rows.maker.role, rows.maker.contextSnapshotId, c.fingerprint⟩
  evaluatorContext : ∃ c, db.contextSnapshot? rows.evaluator.contextSnapshotId = some c ∧
    evaluator = ⟨rows.evaluator.role, rows.evaluator.contextSnapshotId, c.fingerprint⟩
  named : ∀ items, a.manifest.field "context_fingerprints" = some (.arr items) →
    ∀ item ∈ items, item.isObj = true → maker.matches item = true ∨ evaluator.matches item = true
  complete : ∃ items, a.manifest.field "context_fingerprints" = some (.arr items) ∧
    (∃ item ∈ items, maker.matches item = true) ∧ ∃ item ∈ items, evaluator.matches item = true

theorem requireExecution_bind_ok {a : AcceptExecution} {execution : SliceExecution}
    {now : Timestamp} {f : String → Tx PyError Db α} {r : α × Db}
    (hrow : db.execution? a.executionId = some execution)
    (h : (a.requireExecution execution now >>= f) db = .ok r) :
    ∃ commit, a.AcceptsExecution now db execution commit ∧ f commit db = .ok r := by
  obtain ⟨commit, s, hx, hf⟩ := Tx.bind_ok.mp h
  unfold requireExecution at hx
  obtain ⟨hlive, hx⟩ := requireFence_bind_ok.mp hx
  obtain ⟨hv, hx⟩ := Tx.require_bind_ok.mp hx
  obtain ⟨hstate, hx⟩ := Tx.require_bind_ok.mp hx
  obtain ⟨commit', hcommit, hx⟩ := Tx.find_bind_ok.mp hx
  obtain ⟨-, hx⟩ := Tx.require_bind_ok.mp hx
  cases Tx.pure_ok.mp hx
  exact ⟨commit, ⟨hrow, hlive, hv, hstate, hcommit⟩, hf⟩

theorem requireEvidence_bind_ok {a : AcceptExecution} {ids : EvidenceIds}
    {execution : SliceExecution} {commit : String} {f : EvidenceRows → Tx PyError Db α}
    {r : α × Db} (h : (a.requireEvidence ids execution commit >>= f) db = .ok r) :
    ∃ rows, a.AcceptsEvidence db ids execution commit rows ∧ f rows db = .ok r := by
  obtain ⟨rows, s, hx, hf⟩ := Tx.bind_ok.mp h
  unfold requireEvidence getAgentAttempt getVerificationResult getEvaluationResult at hx
  obtain ⟨maker, hmaker, hx⟩ := Tx.find_bind_ok.mp hx
  obtain ⟨evaluator, hevaluator, hx⟩ := Tx.find_bind_ok.mp hx
  obtain ⟨verification, hverification, hx⟩ := Tx.find_bind_ok.mp hx
  obtain ⟨evaluation, hevaluation, hx⟩ := Tx.find_bind_ok.mp hx
  obtain ⟨⟨hm, he, hvb, hvp, heb, hproduced, hep, -⟩, hx⟩ := Tx.require_bind_ok.mp hx
  cases Tx.pure_ok.mp hx
  exact ⟨_, ⟨hmaker, hm, hevaluator, he, hverification, hvb, hvp, hevaluation, heb, hep, hproduced⟩,
    hf⟩

theorem contextRef_bind_ok {t : AgentAttempt} {f : ContextRef → Tx PyError Db α} {r : α × Db}
    (h : (contextRef t >>= f) db = .ok r) :
    ∃ ref, (∃ c, db.contextSnapshot? t.contextSnapshotId = some c ∧
      ref = ⟨t.role, t.contextSnapshotId, c.fingerprint⟩) ∧ f ref db = .ok r := by
  obtain ⟨ref, s, hx, hf⟩ := Tx.bind_ok.mp h
  unfold contextRef getContextSnapshot at hx
  obtain ⟨c, hc, hx⟩ := Tx.find_bind_ok.mp hx
  cases Tx.pure_ok.mp hx
  exact ⟨_, ⟨c, hc, rfl⟩, hf⟩

theorem requireContexts_bind_ok {a : AcceptExecution} {rows : EvidenceRows}
    {f : Unit → Tx PyError Db α} {r : α × Db}
    (h : (a.requireContexts rows >>= f) db = .ok r) :
    (∃ maker evaluator, a.AcceptsContexts db rows maker evaluator) ∧ f () db = .ok r := by
  obtain ⟨u, s, hx, hf⟩ := Tx.bind_ok.mp h
  unfold requireContexts at hx
  obtain ⟨maker, hmaker, hx⟩ := contextRef_bind_ok hx
  obtain ⟨evaluator, hevaluator, hx⟩ := contextRef_bind_ok hx
  obtain ⟨items, s', hitems, hx⟩ := Tx.bind_ok.mp hx
  obtain ⟨-, hx⟩ := Tx.require_bind_ok.mp hx
  obtain ⟨⟨hm, he, hall⟩, hx⟩ := Tx.require_ok.mp hx
  cases hx
  obtain ⟨m, hmem, hmatch⟩ := List.any_eq_true.mp hm
  obtain ⟨e, heem, hematch⟩ := List.any_eq_true.mp he
  have hm' := (List.mem_filter.mp hmem).1
  have he' := (List.mem_filter.mp heem).1
  unfold EvidenceManifest.items at hitems
  cases hfield : a.manifest.field "context_fingerprints" with
  | none =>
    rw [hfield] at hitems
    cases Tx.pure_ok.mp hitems
    cases hm'
  | some v =>
    rw [hfield] at hitems
    cases v with
    | arr l =>
      cases Tx.pure_ok.mp hitems
      refine ⟨⟨maker, evaluator, hmaker, hevaluator, ?_, _, hfield, ⟨m, hm', hmatch⟩,
        ⟨e, he', hematch⟩⟩, hf⟩
      rintro _ hl item hitem hobj
      rw [hfield] at hl
      cases hl
      have := List.all_eq_true.mp hall item (List.mem_filter.mpr ⟨hitem, hobj⟩)
      exact (Bool.or_eq_true _ _).mp this
    | obj fields =>
      cases Tx.pure_ok.mp hitems
      cases hm'
    | str t =>
      cases Tx.pure_ok.mp hitems
      cases hm'
    | null => exact (Tx.fail_ok.mp hitems).elim
    | bool b => exact (Tx.fail_ok.mp hitems).elim
    | int n => exact (Tx.fail_ok.mp hitems).elim
    | float t => exact (Tx.fail_ok.mp hitems).elim

/-- The manifest's transition evidence is, as text, the event log. -/
def AcceptsTransitions (a : AcceptExecution) (db : Db) : Prop :=
  ∃ text, canonicalJson ((a.manifest.field "transition_evidence").getD (.arr [])) = .ok text ∧
    canonicalJson (transitionEvidence (db.events a.executionId)) = .ok text

theorem requireTransitions_bind_ok {a : AcceptExecution} {f : Unit → Tx PyError Db α}
    {r : α × Db} (h : (a.requireTransitions >>= f) db = .ok r) :
    a.AcceptsTransitions db ∧ f () db = .ok r := by
  obtain ⟨u, s, hx, hf⟩ := Tx.bind_ok.mp h
  unfold requireTransitions at hx
  have hx := Tx.read_bind_ok.mp hx
  obtain ⟨found, hfound, hx⟩ := Tx.lift_bind_ok.mp hx
  obtain ⟨text, htext, hx⟩ := Tx.lift_bind_ok.mp hx
  obtain ⟨hsame, hx⟩ := Tx.require_ok.mp hx
  cases hx
  exact ⟨⟨found, hfound, by rw [hsame]; exact htext⟩, hf⟩

/-- The approval it consumes. -/
structure Consumes (a : AcceptExecution) (db : Db) (execution : SliceExecution) (commit : String)
    (evaluationId approvalId : String) (approval : ApprovalRequest) : Prop where
  named : a.approvalId = some approvalId
  presented : a.approvalAuthorityRef = some approval.authorityRef
  found : db.approvalRequest? approvalId = some approval
  ofExecution : approval.executionId = a.executionId
  granted : approval.status = .APPROVED
  unused : approval.consumedAt = none
  ref : canonicalSha256 (a.approvalRef execution commit evaluationId) = .ok approval.authorityRef

/-- A required approval of the execution. -/
def approvalRequired (a : AcceptExecution) (db : Db) : Bool :=
  db.approvalRequest.any fun r => r.executionId = a.executionId && r.required

/-- Where an approval is required one is consumed, elsewhere none is touched. -/
theorem consume_bind_ok {a : AcceptExecution} {execution : SliceExecution}
    {commit evaluationId : String} {now : Timestamp} {f : Unit → Tx PyError Db α} {r : α × Db}
    (h : (a.consume execution commit evaluationId now >>= f) db = .ok r) :
    ∃ approvals, ((a.approvalRequired db = false ∧ approvals = db.approvalRequest) ∨
        ∃ id approval, a.Consumes db execution commit evaluationId id approval ∧
          approvals = Table.update (·.approvalId) db.approvalRequest id
            (fun r => { r with consumedAt := some now })) ∧
      f () { db with approvalRequest := approvals } = .ok r := by
  obtain ⟨u, s, hx, hf⟩ := Tx.bind_ok.mp h
  unfold consume at hx
  have hx := Tx.read_bind_ok.mp hx
  rcases Tx.ite_ok.mp hx with ⟨-, hx⟩ | ⟨hnone, hx⟩
  · cases hid : a.approvalId with
    | none =>
      rw [hid] at hx
      exact (Tx.fail_ok.mp hx).elim
    | some id =>
      cases href : a.approvalAuthorityRef with
      | none =>
        rw [hid, href] at hx
        exact (Tx.fail_ok.mp hx).elim
      | some ref =>
        rw [hid, href] at hx
        unfold getApproval at hx
        obtain ⟨approval, hfound, hx⟩ := Tx.find_bind_ok.mp hx
        obtain ⟨expected, hexpected, hx⟩ := Tx.lift_bind_ok.mp hx
        obtain ⟨⟨hexec, hauth, hsame, hstatus, hunused⟩, hx⟩ := Tx.require_bind_ok.mp hx
        obtain ⟨refs, -, hx⟩ := (items_readOnly a.manifest "approval_refs").bind_ok hx
        obtain ⟨-, hx⟩ := Tx.require_bind_ok.mp hx
        obtain ⟨row, hrow, -, -, -, hx⟩ := consumeApproval_bind_ok (f := pure)
          (Tx.bind_ok.mpr ⟨_, _, hx, rfl⟩)
        cases Tx.pure_ok.mp hx
        refine ⟨_, Or.inr ⟨id, approval, ⟨hid, ?_, hfound, hexec, hstatus, hunused, ?_⟩, rfl⟩, hf⟩
        · rw [href, hauth]
        · rw [hexpected, hauth, hsame]
  · obtain ⟨-, hx⟩ := Tx.require_bind_ok.mp hx
    obtain ⟨-, hx⟩ := Tx.require_ok.mp hx
    cases hx
    exact ⟨_, Or.inl ⟨Bool.not_eq_true _ |>.mp hnone, rfl⟩, hf⟩

/-- The manifest row is appended, with the execution's own binding. -/
structure Files (a : AcceptExecution) (ids : EvidenceIds) (execution : SliceExecution)
    (commit : String) (row : EvidenceManifestRow) : Prop where
  ofExecution : row.executionId = a.executionId
  contract : row.contractFingerprint = execution.contractFingerprint
  authority : row.authorityFingerprint = execution.authorityFingerprint
  commit : row.resultCommit = commit
  maker : row.makerAttemptId = ids.makerId
  verification : row.verificationId = ids.verificationId
  evaluator : row.evaluatorAttemptId = ids.evaluatorId
  evaluation : row.evaluationId = ids.evaluationId
  transitions : canonicalJson ((a.manifest.field "transition_evidence").getD (.arr [])) =
    .ok row.transitionEvidenceJson
  contexts : canonicalJson ((a.manifest.field "context_fingerprints").getD (.arr [])) =
    .ok row.contextFingerprintsJson

theorem insertManifest_bind_ok {a : AcceptExecution} {ids : EvidenceIds}
    {execution : SliceExecution} {commit : String} {f : Unit → Tx PyError Db α} {r : α × Db}
    (h : (a.insertManifest ids execution commit >>= f) db = .ok r) :
    ∃ row, a.Files ids execution commit row ∧
      (∀ m ∈ db.evidenceManifest, m.executionId ≠ a.executionId) ∧
      f () { db with evidenceManifest := db.evidenceManifest ++ [row] } = .ok r := by
  obtain ⟨u, s, hx, hf⟩ := Tx.bind_ok.mp h
  unfold insertManifest at hx
  obtain ⟨id, -, hx⟩ := (Tx.ReadOnly.bind .find fun _ => .lift).bind_ok hx
  obtain ⟨refs, -, hx⟩ := Tx.lift_bind_ok.mp hx
  obtain ⟨contexts, hcontexts, hx⟩ := Tx.lift_bind_ok.mp hx
  obtain ⟨transitions, htransitions, hx⟩ := Tx.lift_bind_ok.mp hx
  obtain ⟨created, -, hx⟩ := (Tx.ReadOnly.bind .find fun _ => .lift).bind_ok hx
  obtain ⟨createdAt, -, hx⟩ := Tx.find_bind_ok.mp hx
  unfold insertEvidenceManifest at hx
  have hx := Tx.read_bind_ok.mp hx
  obtain ⟨-, hx⟩ := Tx.require_bind_ok.mp hx
  obtain ⟨-, hx⟩ := Tx.requireAll_bind_ok.mp hx
  obtain ⟨-, hx⟩ := Tx.require_bind_ok.mp hx
  obtain ⟨honce, hx⟩ := Tx.require_bind_ok.mp hx
  obtain ⟨-, hx⟩ := Tx.require_bind_ok.mp hx
  obtain ⟨-, hx⟩ := Tx.require_bind_ok.mp hx
  cases Tx.write_ok.mp hx
  refine ⟨_, ⟨rfl, rfl, rfl, rfl, rfl, rfl, rfl, rfl, htransitions, hcontexts⟩, fun m hm => ?_, hf⟩
  exact of_decide_eq_true (List.all_eq_true.mp honce m hm)

theorem nested_readOnly (m : EvidenceManifest) (outer inner : String) :
    Tx.ReadOnly (m.nested outer inner) := by
  unfold EvidenceManifest.nested
  split
  · exact .pure
  · exact .pure
  · exact .fail

theorem validate_readOnly (a : AcceptExecution) : Tx.ReadOnly a.validate := by
  unfold validate requireSha256
  have hid (v : Option Json) : Tx.ReadOnly (EvidenceManifest.identity v) :=
    .bind .find fun _ => .bind .require fun _ => .pure
  exact .bind .require fun _ => .bind .lift fun _ => .bind .lift fun _ => .bind .require fun _ =>
    .bind (nested_readOnly _ _ _) fun _ => .bind (nested_readOnly _ _ _) fun _ =>
    .bind (nested_readOnly _ _ _) fun _ => .bind (nested_readOnly _ _ _) fun _ =>
    .bind (hid _) fun _ => .bind (hid _) fun _ => .bind (hid _) fun _ => .bind (hid _) fun _ =>
    .pure

end AcceptExecution

end Adcp.L3
