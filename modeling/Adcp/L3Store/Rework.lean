import Adcp.L3Store.Records

/-!
# Scheduling a rework

The three ways an execution gets back to its Maker: within its budget
(`schedule_rework`), and for a HIGH execution in two calls under one Human
approval, `authorize_high_rework` (blocked to rework-ready, two events in one
transaction) and `schedule_human_authorized_rework`, which consumes the
approval.
-/
namespace Adcp.L3

open Adcp.L1 Adcp.L2 ExecutionState

structure AuthorizeHighRework where
  executionId : String
  expectedStateVersion : Int
  resumeOperationKey : String
  readyOperationKey : String
  approvalId : String
  authorityRef : String
  verificationId : String
  resultCommit : String
  contractFingerprint : String
  authorityFingerprint : String
  leaseOwner : String
  leaseGeneration : Int
  actorId : String

namespace AuthorizeHighRework

/-- The metadata of both events; `step` tells them apart.
mirrors src/adcp/store/sqlite.py:4599-4610,4686,4718 -/
def payload (a : AuthorizeHighRework) (step : String) : Json :=
  .obj [("execution_id", .str a.executionId),
    ("authorized_from_state_version", .int a.expectedStateVersion),
    ("approval_id", .str a.approvalId), ("authority_ref", .str a.authorityRef),
    ("verification_id", .str a.verificationId), ("result_commit", .str a.resultCommit),
    ("contract_fingerprint", .str a.contractFingerprint),
    ("authority_fingerprint", .str a.authorityFingerprint), ("lease_owner", .str a.leaseOwner),
    ("lease_generation", .int a.leaseGeneration), ("step", .str step)]

/-- mirrors src/adcp/store/sqlite.py:4672-4688,4704-4720 -/
def event (a : AuthorizeHighRework) (key : String) (source target : ExecutionState) (version : Int)
    (reason payloadJson : String) (now : Timestamp) : EventFields where
  executionId := a.executionId
  operationKey := key
  eventType := .STATE_TRANSITION
  fromState := some source
  toState := target
  fromStateVersion := version
  toStateVersion := version + 1
  actorRole := .CONTROLLER
  actorId := a.actorId
  leaseGeneration := a.leaseGeneration
  reasonCode := reason
  reasonDetail := none
  metadataJson := payloadJson
  createdAt := now

/-- mirrors src/adcp/store/sqlite.py:4626-4654 -/
def requireBinding (a : AuthorizeHighRework) (row : SliceExecution) : Tx PyError Db Unit := do
  Tx.require (row.resultCommit = some a.resultCommit ∧
      row.contractFingerprint = a.contractFingerprint ∧
      row.authorityFingerprint = a.authorityFingerprint)
    (storeError "HIGH_REWORK_EXECUTION_BINDING_MISMATCH")
  requireSingleCompletedMaker a.executionId a.resultCommit
  let verification ← getVerificationResult a.verificationId
  Tx.require (verification.BoundTo a.executionId a.resultCommit a.contractFingerprint
      a.authorityFingerprint ∧ verification.verdict = .FAIL)
    (storeError "HIGH_REWORK_VERIFICATION_BINDING_MISMATCH")
  let approval ← getApproval a.approvalId
  Tx.require (approval.executionId = a.executionId) (storeError "APPROVAL_EXECUTION_MISMATCH")
  Tx.require (approval.approvalType = "HIGH_REWORK")
    (storeError "HIGH_REWORK_APPROVAL_TYPE_MISMATCH")
  Tx.require (approval.authorityRef = a.authorityRef) (storeError "STALE_APPROVAL")
  Tx.require (approval.consumedAt = none) (storeError "APPROVAL_ALREADY_CONSUMED")
  Tx.require (approval.status = .APPROVED) (storeError "HIGH_REWORK_APPROVAL_REQUIRED")

end AuthorizeHighRework

/-- mirrors src/adcp/store/sqlite.py:4572-4725 -/
def authorizeHighReworkTx (env : Env) (a : AuthorizeHighRework) : Tx PyError Db Unit := do
  requireSha256 a.resumeOperationKey "resume_operation_key"
  requireSha256 a.readyOperationKey "ready_operation_key"
  requireCommit a.resultCommit "result_commit"
  requireSha256 a.contractFingerprint "contract_fingerprint"
  requireSha256 a.authorityFingerprint "authority_fingerprint"
  Tx.require (a.approvalId ≠ "" ∧ a.authorityRef ≠ "" ∧ a.verificationId ≠ "")
    (.store "INVALID_INPUT" "HIGH rework binding is incomplete")
  let now := env.clock 0
  begin env 1
  let row ← getExecution a.executionId
  requireFence row a.leaseOwner a.leaseGeneration now
  Tx.require (row.stateVersion = a.expectedStateVersion) (storeError "STALE_STATE_VERSION")
  Tx.require (HighReworkState row) (storeError "HIGH_REWORK_STATE_INVALID")
  a.requireBinding row
  validateTransition BLOCKED VERIFYING (some VERIFYING) none
  updateExecution a.executionId (fun r => r.stateVersion = a.expectedStateVersion)
    (fun r => { r with
      state := VERIFYING, resumeState := none, stateVersion := r.stateVersion + 1
      currentActorRole := .CONTROLLER, blockerCode := none, blockerDetail := none
      updatedAt := now })
    (storeError "STALE_STATE_VERSION")
  let resumeJson ← Tx.lift (canonicalJson (a.payload "resume_verifying"))
  insertEvent (env.uuid 0) (a.event a.resumeOperationKey BLOCKED VERIFYING a.expectedStateVersion
    "HUMAN_HIGH_REWORK_RESUME" resumeJson now)
  validateTransition VERIFYING REWORK_READY none none
  updateExecution a.executionId (fun r => r.stateVersion = a.expectedStateVersion + 1)
    (fun r => { r with
      state := REWORK_READY, stateVersion := r.stateVersion + 1
      currentActorRole := .CONTROLLER, updatedAt := now })
    (storeError "STALE_STATE_VERSION")
  let readyJson ← Tx.lift (canonicalJson (a.payload "rework_ready"))
  insertEvent (env.uuid 1) (a.event a.readyOperationKey VERIFYING REWORK_READY
    (a.expectedStateVersion + 1) "HUMAN_AUTHORIZED_HIGH_REWORK" readyJson now)

def authorizeHighRework (env : Env) (a : AuthorizeHighRework) :
    Db → Except PyError SliceExecution × Db :=
  Tx.commitThen (authorizeHighReworkTx env a) fun _ => getExecution a.executionId

structure ScheduleHumanAuthorizedRework where
  executionId : String
  expectedStateVersion : Int
  operationKey : String
  approvalId : String
  authorityRef : String
  leaseOwner : String
  leaseGeneration : Int
  actorId : String

namespace ScheduleHumanAuthorizedRework

/-- mirrors src/adcp/store/sqlite.py:4810-4820 -/
def payload (a : ScheduleHumanAuthorizedRework) (authorizationEventSeq : Nat) : Json :=
  .obj [("execution_id", .str a.executionId),
    ("expected_state_version", .int a.expectedStateVersion), ("approval_id", .str a.approvalId),
    ("authority_ref", .str a.authorityRef),
    ("authorization_event_seq", .int authorizationEventSeq), ("lease_owner", .str a.leaseOwner),
    ("lease_generation", .int a.leaseGeneration)]

/-- The approval is a live HIGH one, for this execution and authority.
mirrors src/adcp/store/sqlite.py:4761-4771 -/
def requireApproval (a : ScheduleHumanAuthorizedRework) : Tx PyError Db Unit := do
  let approval ← getApproval a.approvalId
  Tx.require (approval.executionId = a.executionId) (storeError "APPROVAL_EXECUTION_MISMATCH")
  Tx.require (approval.approvalType = "HIGH_REWORK")
    (storeError "HIGH_REWORK_APPROVAL_TYPE_MISMATCH")
  Tx.require (approval.authorityRef = a.authorityRef) (storeError "STALE_APPROVAL")
  Tx.require (approval.status = .APPROVED) (storeError "HIGH_REWORK_APPROVAL_REQUIRED")
  Tx.require (approval.consumedAt = none) (storeError "APPROVAL_ALREADY_CONSUMED")

/-- The latest authorization event is the execution's last one, and names this
approval and the row's binding; answers its number.
mirrors src/adcp/store/sqlite.py:4772-4792 -/
def authorization (a : ScheduleHumanAuthorizedRework) (row : SliceExecution)
    (resultCommit : String) : Tx PyError Db Nat := do
  let event ← Tx.find (fun db => (db.events a.executionId).reverse.find? fun e =>
      e.reasonCode = "HUMAN_AUTHORIZED_HIGH_REWORK")
    (storeError "HIGH_REWORK_AUTHORIZATION_REQUIRED")
  Tx.require (event.toStateVersion = a.expectedStateVersion)
    (storeError "HIGH_REWORK_AUTHORIZATION_REQUIRED")
  let metadata ← match jsonLoads event.metadataJson with
    | .ok v => pure v
    | .error _ => Tx.fail (storeError "HIGH_REWORK_AUTHORIZATION_INVALID")
  Tx.require (metadata.isObj = true) (.raised "AttributeError" "get")
  Tx.require (Json.strIs (metadata.get? "approval_id") a.approvalId ∧
      Json.strIs (metadata.get? "authority_ref") a.authorityRef ∧
      Json.strIs (metadata.get? "result_commit") resultCommit ∧
      Json.strIs (metadata.get? "contract_fingerprint") row.contractFingerprint ∧
      Json.strIs (metadata.get? "authority_fingerprint") row.authorityFingerprint)
    (storeError "HIGH_REWORK_AUTHORIZATION_STALE")
  pure event.eventSeq

end ScheduleHumanAuthorizedRework

/-- mirrors src/adcp/store/sqlite.py:4727-4841 -/
def scheduleHumanAuthorizedReworkTx (env : Env) (a : ScheduleHumanAuthorizedRework) :
    Tx PyError Db Unit := do
  requireSha256 a.operationKey "operation_key"
  let now := env.clock 0
  begin env 1
  let row ← getExecution a.executionId
  requireFence row a.leaseOwner a.leaseGeneration now
  Tx.require (row.stateVersion = a.expectedStateVersion) (storeError "STALE_STATE_VERSION")
  Tx.require (row.riskLevel = .HIGH ∧ row.maxAutoReworks = 0 ∧ row.state = REWORK_READY ∧
      row.makerReworkCount = 0) (storeError "HIGH_REWORK_SCHEDULING_STATE_INVALID")
  let resultCommit ← Tx.find (fun _ => row.resultCommit)
    (storeError "HIGH_REWORK_EXECUTION_BINDING_MISMATCH")
  requireSingleCompletedMaker a.executionId resultCommit
  a.requireApproval
  let authorizationEventSeq ← a.authorization row resultCommit
  consumeApproval a.approvalId (fun r => r.status = .APPROVED) now
  updateExecution a.executionId (fun r => r.stateVersion = a.expectedStateVersion)
    (fun r => { r with
      state := MAKER_RUNNING, stateVersion := r.stateVersion + 1
      currentActorRole := .CONTROLLER, updatedAt := now })
    (storeError "STALE_STATE_VERSION")
  let payloadJson ← Tx.lift (canonicalJson (a.payload authorizationEventSeq))
  insertEvent (env.uuid 0)
    { executionId := a.executionId, operationKey := a.operationKey
      eventType := .STATE_TRANSITION, fromState := some REWORK_READY, toState := MAKER_RUNNING
      fromStateVersion := a.expectedStateVersion, toStateVersion := a.expectedStateVersion + 1
      actorRole := .CONTROLLER, actorId := a.actorId, leaseGeneration := a.leaseGeneration
      reasonCode := "HUMAN_AUTHORIZED_MAKER_REWORK_SCHEDULED", reasonDetail := none
      metadataJson := payloadJson, createdAt := now }

def scheduleHumanAuthorizedRework (env : Env) (a : ScheduleHumanAuthorizedRework) :
    Db → Except PyError SliceExecution × Db :=
  Tx.commitThen (scheduleHumanAuthorizedReworkTx env a) fun _ => getExecution a.executionId

structure ScheduleRework where
  executionId : String
  expectedStateVersion : Int
  operationKey : String
  leaseOwner : String
  leaseGeneration : Int
  actorId : String

def ScheduleRework.payload (a : ScheduleRework) : Json :=
  .obj [("execution_id", .str a.executionId),
    ("expected_state_version", .int a.expectedStateVersion), ("lease_owner", .str a.leaseOwner),
    ("lease_generation", .int a.leaseGeneration)]

/-- mirrors src/adcp/store/sqlite.py:4843-4897 -/
def scheduleReworkTx (env : Env) (a : ScheduleRework) : Tx PyError Db Commit := do
  requireSha256 a.operationKey "operation_key"
  let payloadJson ← Tx.lift (canonicalJson a.payload)
  let now := env.clock 0
  begin env 1
  replayOr a.executionId a.operationKey .STATE_TRANSITION payloadJson do
    let row ← getExecution a.executionId
    requireFence row a.leaseOwner a.leaseGeneration now
    Tx.require (row.stateVersion = a.expectedStateVersion) (storeError "STALE_STATE_VERSION")
    Tx.require (row.state = REWORK_READY)
      (.store "INVALID_TRANSITION" "rework scheduling requires REWORK_READY")
    Tx.require (row.makerReworkCount < row.maxAutoReworks) (storeError "REWORK_BUDGET_EXHAUSTED")
    updateExecution a.executionId (fun r => r.stateVersion = a.expectedStateVersion)
      (fun r => { r with
        state := MAKER_RUNNING, stateVersion := r.stateVersion + 1
        makerReworkCount := r.makerReworkCount + 1, currentActorRole := .CONTROLLER
        updatedAt := now })
      (storeError "STALE_STATE_VERSION")
    insertEvent (env.uuid 0)
      { executionId := a.executionId, operationKey := a.operationKey
        eventType := .STATE_TRANSITION, fromState := some REWORK_READY, toState := MAKER_RUNNING
        fromStateVersion := a.expectedStateVersion, toStateVersion := a.expectedStateVersion + 1
        actorRole := .CONTROLLER, actorId := a.actorId, leaseGeneration := a.leaseGeneration
        reasonCode := "MAKER_REWORK_SCHEDULED", reasonDetail := none
        metadataJson := payloadJson, createdAt := now }

def scheduleRework (env : Env) (a : ScheduleRework) : Db → Except PyError SliceExecution × Db :=
  Tx.commitThen (scheduleReworkTx env a) fun _ => getExecution a.executionId

end Adcp.L3
