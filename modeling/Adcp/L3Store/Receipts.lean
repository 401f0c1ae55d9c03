import Adcp.L3Store.Records

/-!
# Receipts of typed Postgres operations, and projection records

A typed operation on Postgres leaves two receipts: PREPARED before its effect and
FINAL after it, the second bound to the first. They are appended under the W08
lease of the deployment and never changed. The lease is checked before the
transaction, and once more by `begin` on a store that requires the global writer.

A projection record is the store's note of one projection and of how its writing
ended.

* `receiptState`: how the receipts of an operation are classified.
* `appendReceiptTx_ok`: what a committed receipt found, and what it appended.
-/
namespace Adcp.L3

open Adcp.L1 Adcp.L2 ExecutionState

/-! ## Receipts -/

def Db.receipts (db : Db) (operationId : String) : List ReceiptEvent :=
  db.typedPostgresOperationReceiptEvent.filter (·.operationId = operationId)

/-- mirrors src/adcp/store/sqlite.py:930-945 -/
def typedPostgresOperationReceiptEvents (operationId : String) :
    Tx PyError Db (List ReceiptEvent) := do
  Tx.require (operationId ≠ "") (.store "INVALID_INPUT" "operation_id")
  Tx.read (·.receipts operationId)

/-- mirrors src/adcp/store/sqlite.py:947-960 -/
def getTypedPostgresOperationReceiptEvent (operationId : String) (phase : ReceiptPhase) :
    Tx PyError Db (Option ReceiptEvent) := do
  Tx.require (operationId ≠ "") (.store "INVALID_INPUT" "operation_id")
  Tx.read fun db => (db.receipts operationId).find? (·.receiptPhase = phase)

inductive ReceiptState where
  | ABSENT
  | PREPARED_ONLY (prepared : ReceiptEvent)
  | FINAL (prepared final : ReceiptEvent)
  deriving DecidableEq, Repr

/-- mirrors src/adcp/store/sqlite.py:962-983 -/
def typedPostgresOperationReceiptState (operationId requestFingerprint : String) :
    Tx PyError Db ReceiptState := do
  requireSha256 requestFingerprint "request_fingerprint"
  let rows ← typedPostgresOperationReceiptEvents operationId
  if rows = [] then pure .ABSENT
  else do
    Tx.require (¬ rows.any (·.requestFingerprint ≠ requestFingerprint))
      (.store "TYPED_POSTGRES_OPERATION_REQUEST_CONFLICT" operationId)
    let prepared ← Tx.find (fun _ => rows.find? (·.receiptPhase = .PREPARED))
      (.store "TYPED_POSTGRES_RECEIPT_STATE_INVALID" "PREPARED missing")
    match rows.find? (·.receiptPhase = .FINAL) with
    | some final => pure (.FINAL prepared final)
    | none => pure (.PREPARED_ONLY prepared)

/-- A receipt to append. `authority` is the lease bound to a store that does not
require the global writer; on one that does, it is the guard's. -/
structure AppendReceipt where
  fields : ReceiptFields
  authority : Option (String × Int)

namespace AppendReceipt

/-- The lease bound to the store. -/
def boundAuthority (env : Env) (a : AppendReceipt) : Option (String × Int) :=
  match env.guard with
  | some bound => bound
  | none => a.authority

/-- A PREPARED receipt waits for its effect, a FINAL one records it. -/
def Shaped (f : ReceiptFields) : Prop :=
  match f.receiptPhase with
  | .PREPARED => f.effectStatus = .PENDING ∧ f.afterStateFingerprint = none
  | .FINAL => f.effectStatus ≠ .PENDING ∧ f.afterStateFingerprint.isSome

instance decidableShaped (f : ReceiptFields) : Decidable (Shaped f) := by
  unfold Shaped
  cases f.receiptPhase <;> infer_instance

/-- mirrors src/adcp/store/sqlite.py:1018-1052 -/
def validate (a : AppendReceipt) : Tx PyError Db Unit := do
  let f := a.fields
  let invalid (field : String) : PyError := .store "INVALID_INPUT" field
  let nullOrText (v : Option String) : Bool := v.all (· ≠ "")
  Tx.require (f.receiptVersion = 1) (invalid "receipt_version")
  Tx.requireAll invalid
    [("change_id", f.changeId ≠ ""), ("control_decision_ref", f.controlDecisionRef ≠ ""),
     ("deployment_id", f.deploymentId ≠ ""), ("operation_id", f.operationId ≠ ""),
     ("operation_type", f.operationType ≠ ""), ("target_service", f.targetService ≠ ""),
     ("created_at", f.createdAt ≠ "")]
  Tx.require (Shaped f)
    (invalid (if f.receiptPhase = .PREPARED then "prepared receipt shape"
      else "final receipt shape"))
  requireSha256 f.requestFingerprint "request_fingerprint"
  requireSha256 f.beforeStateFingerprint "before_state_fingerprint"
  Tx.require (f.afterStateFingerprint.all isSha256 = true)
    (invalid "after_state_fingerprint must be lowercase SHA-256")
  Tx.require (f.artifactSha256.all isSha256 = true)
    (invalid "artifact_sha256 must be lowercase SHA-256")
  Tx.requireAll invalid
    [("target_database", nullOrText f.targetDatabase),
     ("principal_identity", nullOrText f.principalIdentity),
     ("credential_reference", nullOrText f.credentialReference),
     ("artifact_path", nullOrText f.artifactPath)]
  Tx.require (0 < f.w08FencingToken) (invalid "w08_fencing_token")

/-- The bound lease is the deployment's, and current; answers its owner.
mirrors src/adcp/store/sqlite.py:1054-1072 -/
def requireLease (env : Env) (a : AppendReceipt) : Tx PyError Db String := do
  let f := a.fields
  let authority ← Tx.find (fun _ => a.boundAuthority env)
    (storeError "TYPED_POSTGRES_W08_RECEIPT_AUTHORITY_REQUIRED")
  Tx.require (authority.2 = f.w08FencingToken)
    (storeError "TYPED_POSTGRES_W08_RECEIPT_FENCING_MISMATCH")
  let lease ← assertCurrentGlobalWriter env 0 authority.1 authority.2
  Tx.require (lease.context.writerClass = some "W08_CONTROLLED_PRODUCTION_DEPLOYMENT")
    (storeError "TYPED_POSTGRES_W08_RECEIPT_WRITER_CLASS_INVALID")
  Tx.require (lease.context.changeId = some f.changeId ∧
      lease.context.sliceId = some f.deploymentId)
    (storeError "TYPED_POSTGRES_W08_RECEIPT_CONTEXT_MISMATCH")
  let acquire ← Tx.find (fun db => latest (fun e =>
      (e.eventType = .ACQUIRE || e.eventType = .EXPIRED_TAKEOVER) &&
      e.new.ownerId = some authority.1 && e.toFencingToken = authority.2) db.globalWriterEvent)
    (storeError "TYPED_POSTGRES_CONTROL_DECISION_BINDING_MISMATCH")
  Tx.require (acquire.controlDecisionRef = some f.controlDecisionRef)
    (storeError "TYPED_POSTGRES_CONTROL_DECISION_BINDING_MISMATCH")
  pure authority.1

end AppendReceipt

def receiptOperationTypes : List String :=
  ["EXECUTE_AUTHORIZED_SQL_FILE", "TRANSITION_DATABASE_OWNER",
    "APPLY_ROLE_PASSWORD_FROM_PROTECTED_FILE", "PROVISION_CLEANER_APP_PRINCIPAL"]

/-- The `CHECK`s of a receipt that its caller has not made.
mirrors src/adcp/store/migrations.py:1588-1639 -/
def receiptChecks (env : Env) (row : ReceiptEvent) : Bool :=
  0 < sqliteLength row.receiptId && 0 < sqliteLength row.changeId &&
  0 < sqliteLength row.controlDecisionRef && 0 < sqliteLength row.deploymentId &&
  0 < sqliteLength row.operationId && receiptOperationTypes.contains row.operationType &&
  0 < sqliteLength row.targetService && 0 < sqliteLength row.createdAt &&
  env.julianText row.createdAt && row.createdAt.endsWith "+00:00"

/-- The two receipts agree on all that is fixed before the effect.
mirrors src/adcp/store/migrations.py:1670-1693 -/
def ReceiptFields.BoundTo (f prepared : ReceiptFields) : Prop :=
  prepared.operationId = f.operationId ∧ prepared.receiptPhase = .PREPARED ∧
    prepared.receiptVersion = f.receiptVersion ∧ prepared.changeId = f.changeId ∧
    prepared.controlDecisionRef = f.controlDecisionRef ∧ prepared.deploymentId = f.deploymentId ∧
    prepared.operationType = f.operationType ∧ prepared.targetService = f.targetService ∧
    prepared.targetDatabase = f.targetDatabase ∧
    prepared.principalIdentity = f.principalIdentity ∧
    prepared.credentialReference = f.credentialReference ∧
    prepared.artifactPath = f.artifactPath ∧ prepared.artifactSha256 = f.artifactSha256 ∧
    prepared.requestFingerprint = f.requestFingerprint ∧
    prepared.beforeStateFingerprint = f.beforeStateFingerprint ∧
    prepared.w08FencingToken = f.w08FencingToken

instance ReceiptFields.decidableBoundTo (f prepared : ReceiptFields) :
    Decidable (f.BoundTo prepared) := by
  unfold ReceiptFields.BoundTo; infer_instance

theorem ReceiptFields.BoundTo.fingerprint {f prepared : ReceiptFields} (h : f.BoundTo prepared) :
    prepared.requestFingerprint = f.requestFingerprint := by
  obtain ⟨-, -, -, -, -, -, -, -, -, -, -, -, -, hfingerprint, -⟩ := h
  exact hfingerprint

/-- The `INSERT` of a receipt; every constraint it meets is a conflict.
mirrors src/adcp/store/sqlite.py:1090-1109 -/
def insertReceipt (env : Env) (row : ReceiptEvent) : Tx PyError Db Unit := do
  let db ← Tx.read id
  let rows := db.typedPostgresOperationReceiptEvent
  Tx.require (receiptChecks env row = true ∧ (rows.all fun r => r.receiptId ≠ row.receiptId ∧
        ¬ (r.operationId = row.operationId ∧ r.receiptPhase = row.receiptPhase)) ∧
      (row.receiptPhase = .FINAL → rows.any fun r => row.BoundTo r.toReceiptFields))
    (.store "TYPED_POSTGRES_RECEIPT_CONFLICT" "IntegrityError")
  Tx.write fun db => { db with
    typedPostgresOperationReceiptEvent := db.typedPostgresOperationReceiptEvent ++ [row] }

/-- The transaction of `append_typed_postgres_operation_receipt_event`, after what it
checks before it.
mirrors src/adcp/store/sqlite.py:985-1115 -/
def appendReceiptTx (env : Env) (snap : Db) (a : AppendReceipt) : Tx PyError Db Unit := do
  a.validate
  let _ ← before snap (a.requireLease env)
  begin env 1
  insertReceipt env { a.fields with receiptId := env.uuid 0 }

def appendTypedPostgresOperationReceiptEvent (env : Env) (snap : Db) (a : AppendReceipt) :
    Db → Except PyError ReceiptEvent × Db :=
  Tx.commitThen (appendReceiptTx env snap a) fun _ => do
    let found ← getTypedPostgresOperationReceiptEvent a.fields.operationId a.fields.receiptPhase
    let row ← Tx.find (fun _ => found.filter (·.receiptId = env.uuid 0))
      (.store "TYPED_POSTGRES_RECEIPT_DURABILITY_ACK_FAILED" "identity")
    Tx.require (row.toReceiptFields = a.fields)
      (.store "TYPED_POSTGRES_RECEIPT_DURABILITY_ACK_FAILED" "readback")
    pure row

/-! ## Projection records -/

structure PendingProjection where
  projectionId : String
  executionId : String
  targetType : String
  targetRef : String
  projectionVersion : Int
  idempotencyKey : String

/-- mirrors src/adcp/projection.py:399-406 -/
def projectionManifestId (executionId : String) : Tx PyError Db String := do
  let row ← Tx.find (fun db => db.evidenceManifest.find? (·.executionId = executionId))
    (.raised "ProjectionError" "EVIDENCE_MANIFEST_REQUIRED")
  Tx.find (fun _ => row.manifestId) (.integrity "NOT NULL constraint failed: manifest_id")

/-- The attempt that a record counts before the target is written.
mirrors src/adcp/projection.py:316-365 -/
def projectionPendingTx (env : Env) (a : PendingProjection) : Tx PyError Db Unit := do
  let now := env.clock 0
  begin env 1
  let existing ← Tx.read fun db =>
    db.projectionRecord.find? (·.idempotencyKey = a.idempotencyKey)
  match existing with
  | some r =>
    Tx.require (r.projectionId = a.projectionId ∧ r.executionId = a.executionId ∧
        r.targetType = a.targetType ∧ r.targetRef = a.targetRef ∧
        r.projectionVersion = a.projectionVersion)
      (.raised "ProjectionError" "PROJECTION_IDEMPOTENCY_CONFLICT")
  | none => do
    let manifestId ← projectionManifestId a.executionId
    let db ← Tx.read id
    Tx.requireAll (.check "projection_record")
      [("target_type", 0 < sqliteLength a.targetType),
       ("target_ref", 0 < sqliteLength a.targetRef),
       ("projection_version", 0 < a.projectionVersion),
       ("idempotency_key", sqliteLength a.idempotencyKey = 64)]
    Tx.require (db.projectionRecord.all (·.projectionId ≠ a.projectionId))
      (.integrity "UNIQUE constraint failed: projection_record.projection_id")
    Tx.require (db.projectionRecord.all fun r => ¬ (r.executionId = a.executionId ∧
        r.targetType = a.targetType ∧ r.targetRef = a.targetRef ∧
        r.projectionVersion = a.projectionVersion))
      (.integrity "UNIQUE constraint failed: projection_record")
    Tx.require ((db.execution? a.executionId).isSome) (.integrity "FOREIGN KEY constraint failed")
    Tx.write fun db => { db with projectionRecord := db.projectionRecord ++
      [{ projectionId := a.projectionId, executionId := a.executionId, manifestId := manifestId
         targetType := a.targetType, targetRef := a.targetRef
         projectionVersion := a.projectionVersion, status := .PENDING
         idempotencyKey := a.idempotencyKey, attemptCount := 0, lastError := none
         createdAt := now, lastAttemptAt := none, projectedAt := none }] }
  Tx.write fun db => { db with
    projectionRecord := Table.update (·.idempotencyKey) db.projectionRecord a.idempotencyKey
      (fun r => { r with
        status := .PENDING, attemptCount := r.attemptCount + 1, lastAttemptAt := some now
        lastError := none, projectedAt := none }) }

/-- mirrors src/adcp/projection.py:375-384 -/
def projectionFailedTx (env : Env) (idempotencyKey code : String) : Tx PyError Db Unit := do
  begin env 0
  Tx.write fun db => { db with
    projectionRecord := Table.update (·.idempotencyKey) db.projectionRecord idempotencyKey
      (fun r => { r with status := .FAILED, lastError := some code }) }

/-- mirrors src/adcp/projection.py:386-397 -/
def projectionSucceededTx (env : Env) (idempotencyKey : String) : Tx PyError Db Unit := do
  let completedAt := env.clock 0
  begin env 1
  Tx.write fun db => { db with
    projectionRecord := Table.update (·.idempotencyKey) db.projectionRecord idempotencyKey
      (fun r => { r with
        status := .SUCCEEDED, projectedAt := some completedAt, lastError := none }) }

/-- A transaction on the projection records. -/
inductive ProjectionCall where
  | pending (a : PendingProjection)
  | failed (idempotencyKey code : String)
  | succeeded (idempotencyKey : String)

def ProjectionCall.tx (env : Env) : ProjectionCall → Tx PyError Db Unit
  | pending a => projectionPendingTx env a
  | failed key code => projectionFailedTx env key code
  | succeeded key => projectionSucceededTx env key

/-! ## What they do -/

variable {env : Env} {db db' snap : Db}

/-- What a receipt found before its transaction: the bound lease, current. -/
structure AppendReceipt.Presents (a : AppendReceipt) (env : Env) (snap : Db) (owner : String) :
    Prop where
  bound : a.boundAuthority env = some (owner, a.fields.w08FencingToken)
  current : WriterCurrent env snap.globalWriterLease owner a.fields.w08FencingToken (env.clock 0)

/-- On a store that requires the global writer, the guard has found the same lease
current. -/
theorem AppendReceipt.Presents.held {a : AppendReceipt} {owner : String} {n : Nat}
    (h : a.Presents env snap owner) (hguard : GuardHolds env n db) (hguarded : env.guard ≠ none) :
    WriterCurrent env db.globalWriterLease owner a.fields.w08FencingToken (env.clock n) := by
  have hbound := h.bound
  unfold boundAuthority at hbound
  unfold GuardHolds at hguard
  rcases hg : env.guard with _ | bound
  · exact (hguarded hg).elim
  · rw [hg] at hbound hguard
    obtain rfl : bound = some (owner, a.fields.w08FencingToken) := hbound
    exact hguard

theorem AppendReceipt.requireLease_ok {a : AppendReceipt} {owner : String} {db : Db}
    (h : a.requireLease env snap = .ok (owner, db)) : a.Presents env snap owner := by
  unfold requireLease at h
  obtain ⟨authority, hbound, h⟩ := Tx.find_bind_ok.mp h
  obtain ⟨htoken, h⟩ := Tx.require_bind_ok.mp h
  obtain ⟨lease, s, hlease, hrest⟩ := Tx.bind_ok.mp h
  have hcurrent := (assertCurrentGlobalWriter_ok hlease).1
  obtain ⟨-, hrest⟩ := Tx.require_bind_ok.mp hrest
  obtain ⟨-, hrest⟩ := Tx.require_bind_ok.mp hrest
  obtain ⟨_, -, hrest⟩ := Tx.find_bind_ok.mp hrest
  obtain ⟨-, hrest⟩ := Tx.require_bind_ok.mp hrest
  cases Tx.pure_ok.mp hrest
  obtain ⟨owner, token⟩ := authority
  obtain rfl : token = a.fields.w08FencingToken := htoken
  exact ⟨hbound, hcurrent⟩

theorem AppendReceipt.validate_readOnly (a : AppendReceipt) : Tx.ReadOnly a.validate := by
  unfold validate requireSha256
  exact .bind .require fun _ => .bind .requireAll fun _ => .bind .require fun _ =>
    .bind .require fun _ => .bind .require fun _ => .bind .require fun _ => .bind .require fun _ =>
    .bind .requireAll fun _ => .require

/-- What the `INSERT` of a receipt found: no receipt of this phase, and for a FINAL one
the PREPARED one it is bound to. -/
structure ReceiptEvent.Inserts (row : ReceiptEvent) (db : Db) : Prop where
  first : ∀ r ∈ db.typedPostgresOperationReceiptEvent,
    ¬ (r.operationId = row.operationId ∧ r.receiptPhase = row.receiptPhase)
  prepared : row.receiptPhase = .FINAL → ∃ r ∈ db.typedPostgresOperationReceiptEvent,
    row.BoundTo r.toReceiptFields

/-- A receipt is appended in the shape of its phase, to a store whose guard holds,
under a lease that was current before the transaction. -/
theorem appendReceiptTx_ok {a : AppendReceipt} (h : appendReceiptTx env snap a db = .ok ((), db')) :
    ∃ row owner, row.toReceiptFields = a.fields ∧ a.Presents env snap owner ∧
      GuardHolds env 1 db ∧ row.Inserts db ∧ db' = { db with
        typedPostgresOperationReceiptEvent := db.typedPostgresOperationReceiptEvent ++ [row] } := by
  unfold appendReceiptTx at h
  obtain ⟨_, -, h⟩ := a.validate_readOnly.bind_ok h
  obtain ⟨owner, s, hlease, h⟩ := before_bind_ok h
  obtain ⟨hguard, h⟩ := begin_bind_guard h
  unfold insertReceipt at h
  have h := Tx.read_bind_ok.mp h
  obtain ⟨⟨-, hfree, hbound⟩, h⟩ := Tx.require_bind_ok.mp h
  cases Tx.write_ok.mp h
  refine ⟨_, owner, rfl, AppendReceipt.requireLease_ok hlease, hguard, ⟨fun r hr => ?_, fun hf => ?_⟩,
    rfl⟩
  · exact (of_decide_eq_true (List.all_eq_true.mp hfree r hr)).2
  · obtain ⟨r, hr, hb⟩ := List.any_eq_true.mp (hbound hf)
    exact ⟨r, hr, of_decide_eq_true hb⟩

theorem projectionPendingTx_ok {a : PendingProjection}
    (h : projectionPendingTx env a db = .ok ((), db')) :
    ∃ records, db' = { db with projectionRecord := records } := by
  unfold projectionPendingTx projectionManifestId at h
  have h := begin_bind_ok h
  obtain ⟨existing, s, hread, h⟩ := Tx.bind_ok.mp h
  cases Tx.read_ok.mp hread
  cases hfound : db.projectionRecord.find? (·.idempotencyKey = a.idempotencyKey) with
  | some r =>
    rw [hfound] at h
    obtain ⟨-, h⟩ := Tx.require_bind_ok.mp h
    cases Tx.write_ok.mp h
    exact ⟨_, rfl⟩
  | none =>
    rw [hfound] at h
    obtain ⟨manifestId, -, h⟩ := (Tx.ReadOnly.bind .find fun _ => .find).bind_ok h
    have h := Tx.read_bind_ok.mp h
    obtain ⟨-, h⟩ := Tx.requireAll_bind_ok.mp h
    obtain ⟨-, h⟩ := Tx.require_bind_ok.mp h
    obtain ⟨-, h⟩ := Tx.require_bind_ok.mp h
    obtain ⟨-, h⟩ := Tx.require_bind_ok.mp h
    have h := Tx.write_bind_ok.mp h
    cases Tx.write_ok.mp h
    exact ⟨_, rfl⟩

theorem projectionFailedTx_ok {key code : String}
    (h : projectionFailedTx env key code db = .ok ((), db')) :
    ∃ records, db' = { db with projectionRecord := records } := by
  unfold projectionFailedTx at h
  have h := begin_bind_ok h
  cases Tx.write_ok.mp h
  exact ⟨_, rfl⟩

theorem projectionSucceededTx_ok {key : String}
    (h : projectionSucceededTx env key db = .ok ((), db')) :
    ∃ records, db' = { db with projectionRecord := records } := by
  unfold projectionSucceededTx at h
  have h := begin_bind_ok h
  cases Tx.write_ok.mp h
  exact ⟨_, rfl⟩

/-- A projection transaction writes the projection records, and nothing else. -/
theorem ProjectionCall.tx_ok {call : ProjectionCall} (h : call.tx env db = .ok ((), db')) :
    ∃ records, db' = { db with projectionRecord := records } := by
  cases call with
  | pending a => exact projectionPendingTx_ok h
  | failed key code => exact projectionFailedTx_ok h
  | succeeded key => exact projectionSucceededTx_ok h

end Adcp.L3
