import Adcp.L3Store.Statements

/-!
# Operations on one execution

Creating an execution, its lease, the generic transition and registering a
result commit, each as the body of its transaction (`…Tx`) and as the call
(transaction, then the re-read of the row).

Clock readings are numbered in the order the call takes them: `now` is reading
0 where it is read before the transaction is opened, the guard of `begin` takes
the next.
-/
namespace Adcp.L3

open Adcp.L1 Adcp.L2 ExecutionState

/-! ## Creation -/

/-- mirrors src/adcp/domain.py:310-341 -/
structure ExecutionCreate where
  executionId : String
  sliceId : String
  riskLevel : RiskLevel
  environment : Environment
  contractFingerprint : String
  authorityFingerprint : String
  sourceRoot : String
  branch : String
  baseCommit : String
  currentActorRole : ActorRole

namespace ExecutionCreate

/-- mirrors src/adcp/domain.py:328-341 -/
def validate (spec : ExecutionCreate) : Tx PyError Db Unit := do
  Tx.requireAll (fun field => .store "INVALID_INPUT" (field ++ " is required"))
    [("execution_id", spec.executionId ≠ ""), ("slice_id", spec.sliceId ≠ ""),
     ("branch", spec.branch ≠ "")]
  requireSha256 spec.contractFingerprint "contract_fingerprint"
  requireSha256 spec.authorityFingerprint "authority_fingerprint"
  requireCommit spec.baseCommit "base_commit"

/-- mirrors src/adcp/store/sqlite.py:2089-2100,2605-2616 -/
def payload (spec : ExecutionCreate) (sourceRoot : String) : Json :=
  .obj [("execution_id", .str spec.executionId), ("slice_id", .str spec.sliceId),
    ("risk_level", .str spec.riskLevel.value), ("environment", .str spec.environment.value),
    ("contract_fingerprint", .str spec.contractFingerprint),
    ("authority_fingerprint", .str spec.authorityFingerprint), ("source_root", .str sourceRoot),
    ("branch", .str spec.branch), ("base_commit", .str spec.baseCommit),
    ("current_actor_role", .str spec.currentActorRole.value)]

/-- The row both `INSERT`s of a new execution write, column defaults included. -/
def row (spec : ExecutionCreate) (operationKey sourceRoot : String) (now : Timestamp) :
    SliceExecution where
  executionId := spec.executionId
  createIdempotencyKey := operationKey
  sliceId := spec.sliceId
  riskLevel := spec.riskLevel
  environment := spec.environment
  state := READY
  resumeState := none
  stateVersion := 0
  contractFingerprint := spec.contractFingerprint
  authorityFingerprint := spec.authorityFingerprint
  sourceRoot := sourceRoot
  branch := spec.branch
  baseCommit := spec.baseCommit
  resultCommit := none
  makerReworkCount := 0
  maxAutoReworks := spec.riskLevel.maxAutoReworks
  currentActorRole := spec.currentActorRole
  leaseOwner := none
  leaseGeneration := 0
  leaseExpiresAt := none
  blockerCode := none
  blockerDetail := none
  createdAt := now
  updatedAt := now
  acceptedAt := none

/-- The `EXECUTION_CREATED` event of both. -/
def event (spec : ExecutionCreate) (operationKey actorId payloadJson : String) (now : Timestamp) :
    EventFields where
  executionId := spec.executionId
  operationKey := operationKey
  eventType := .EXECUTION_CREATED
  fromState := none
  toState := READY
  fromStateVersion := -1
  toStateVersion := 0
  actorRole := spec.currentActorRole
  actorId := actorId
  leaseGeneration := 0
  reasonCode := "EXECUTION_CREATED"
  reasonDetail := none
  metadataJson := payloadJson
  createdAt := now

end ExecutionCreate

/-- The transaction of `create_execution`, with the id of the execution found or
made.
mirrors src/adcp/store/sqlite.py:2085-2154 -/
def createExecutionTx (env : Env) (spec : ExecutionCreate) (operationKey : String) :
    Tx PyError Db (Commit × String) := do
  spec.validate
  requireSha256 operationKey "operation_key"
  let sourceRoot ← Tx.lift (env.canonicalSourceRoot spec.sourceRoot)
  let payloadJson ← Tx.lift (canonicalJson (spec.payload sourceRoot))
  let now := env.clock 0
  begin env 1
  let existing ← Tx.read fun db =>
    db.sliceExecution.find? (·.createIdempotencyKey = operationKey)
  match existing with
  | some row => do
    let _ ← existingEvent row.executionId operationKey .EXECUTION_CREATED payloadJson
    pure (.replayed, row.executionId)
  | none => do
    insertExecution (spec.row operationKey sourceRoot now)
    insertEvent (env.uuid 0) (spec.event operationKey "controller" payloadJson now)
    pure (.fresh, spec.executionId)

/-- mirrors src/adcp/store/sqlite.py:2085-2164 -/
def createExecution (env : Env) (spec : ExecutionCreate) (operationKey : String) :
    Db → Except PyError SliceExecution × Db :=
  Tx.commitThen (createExecutionTx env spec operationKey) fun c => getExecution c.2

/-! ## The lease -/

structure AcquireLease where
  executionId : String
  expectedStateVersion : Int
  operationKey : String
  leaseOwner : String
  ttlSeconds : Int

def AcquireLease.payload (a : AcquireLease) : Json :=
  .obj [("execution_id", .str a.executionId),
    ("expected_state_version", .int a.expectedStateVersion), ("lease_owner", .str a.leaseOwner),
    ("ttl_seconds", .int a.ttlSeconds)]

/-- The row has an owner whose lease is unexpired at `now`. -/
def leaseHeld (row : SliceExecution) (now : Timestamp) : Bool :=
  row.leaseOwner.isSome && row.leaseExpiresAt.any (now < ·)

/-- mirrors src/adcp/store/sqlite.py:3084-3148 -/
def acquireLeaseTx (env : Env) (a : AcquireLease) : Tx PyError Db Commit := do
  requireSha256 a.operationKey "operation_key"
  Tx.require (a.leaseOwner ≠ "") (.store "INVALID_INPUT" "lease_owner is required")
  requireTtl a.ttlSeconds
  let payloadJson ← Tx.lift (canonicalJson a.payload)
  let now := env.clock 0
  let expires ← Tx.lift (now.addSeconds a.ttlSeconds)
  begin env 1
  replayOr a.executionId a.operationKey .LEASE_ACQUIRED payloadJson do
    let row ← getExecution a.executionId
    Tx.require (row.state ∉ terminalStates)
      (.store "INVALID_TRANSITION" "terminal execution cannot be leased")
    Tx.require (row.stateVersion = a.expectedStateVersion) (storeError "STALE_STATE_VERSION")
    Tx.require (leaseHeld row now = false) (storeError "LEASE_HELD")
    let generation := row.leaseGeneration + 1
    updateExecution a.executionId (fun r => r.stateVersion = a.expectedStateVersion)
      (fun r => { r with
        leaseOwner := some a.leaseOwner, leaseGeneration := generation
        leaseExpiresAt := some expires, stateVersion := r.stateVersion + 1, updatedAt := now })
      (storeError "STALE_STATE_VERSION")
    insertEvent (env.uuid 0)
      { executionId := a.executionId, operationKey := a.operationKey
        eventType := .LEASE_ACQUIRED, fromState := some row.state, toState := row.state
        fromStateVersion := a.expectedStateVersion, toStateVersion := a.expectedStateVersion + 1
        actorRole := .CONTROLLER, actorId := a.leaseOwner, leaseGeneration := generation
        reasonCode := "LEASE_ACQUIRED", reasonDetail := none, metadataJson := payloadJson
        createdAt := now }

def acquireLease (env : Env) (a : AcquireLease) : Db → Except PyError SliceExecution × Db :=
  Tx.commitThen (acquireLeaseTx env a) fun _ => getExecution a.executionId

structure Heartbeat where
  executionId : String
  expectedStateVersion : Int
  leaseOwner : String
  leaseGeneration : Int
  ttlSeconds : Int

/-- mirrors src/adcp/store/sqlite.py:3154-3190 -/
def heartbeatTx (env : Env) (a : Heartbeat) : Tx PyError Db Unit := do
  requireTtl a.ttlSeconds
  let now := env.clock 0
  let expires ← Tx.lift (now.addSeconds a.ttlSeconds)
  begin env 1
  let row ← getExecution a.executionId
  requireFence row a.leaseOwner a.leaseGeneration now
  Tx.require (row.stateVersion = a.expectedStateVersion) (storeError "STALE_STATE_VERSION")
  updateExecution a.executionId
    (fun r => r.stateVersion = a.expectedStateVersion &&
      decide (FenceLive r a.leaseOwner a.leaseGeneration now))
    (fun r => { r with leaseExpiresAt := some expires, updatedAt := now })
    (storeError "STALE_FENCING_TOKEN")

def heartbeat (env : Env) (a : Heartbeat) : Db → Except PyError SliceExecution × Db :=
  Tx.commitThen (heartbeatTx env a) fun _ => getExecution a.executionId

structure ReleaseLease where
  executionId : String
  expectedStateVersion : Int
  operationKey : String
  leaseOwner : String
  leaseGeneration : Int

def ReleaseLease.payload (a : ReleaseLease) : Json :=
  .obj [("execution_id", .str a.executionId),
    ("expected_state_version", .int a.expectedStateVersion), ("lease_owner", .str a.leaseOwner),
    ("lease_generation", .int a.leaseGeneration)]

/-- The `UPDATE` carries no check of its row count; the row was read with this
version in the same transaction.
mirrors src/adcp/store/sqlite.py:3195-3247 -/
def releaseLeaseTx (env : Env) (a : ReleaseLease) : Tx PyError Db Commit := do
  requireSha256 a.operationKey "operation_key"
  let payloadJson ← Tx.lift (canonicalJson a.payload)
  let now := env.clock 0
  begin env 1
  replayOr a.executionId a.operationKey .LEASE_RELEASED payloadJson do
    let row ← getExecution a.executionId
    requireFence row a.leaseOwner a.leaseGeneration now
    Tx.require (row.stateVersion = a.expectedStateVersion) (storeError "STALE_STATE_VERSION")
    updateExecution a.executionId (fun r => r.stateVersion = a.expectedStateVersion)
      (fun r => { r with
        leaseOwner := none, leaseExpiresAt := none, stateVersion := r.stateVersion + 1
        updatedAt := now })
      (storeError "STALE_STATE_VERSION")
    insertEvent (env.uuid 0)
      { executionId := a.executionId, operationKey := a.operationKey
        eventType := .LEASE_RELEASED, fromState := some row.state, toState := row.state
        fromStateVersion := a.expectedStateVersion, toStateVersion := a.expectedStateVersion + 1
        actorRole := .CONTROLLER, actorId := a.leaseOwner, leaseGeneration := a.leaseGeneration
        reasonCode := "LEASE_RELEASED", reasonDetail := none, metadataJson := payloadJson
        createdAt := now }

def releaseLease (env : Env) (a : ReleaseLease) : Db → Except PyError SliceExecution × Db :=
  Tx.commitThen (releaseLeaseTx env a) fun _ => getExecution a.executionId

/-! ## The generic transition -/

structure Transition where
  executionId : String
  expectedStateVersion : Int
  operationKey : String
  toState : ExecutionState
  actorRole : ActorRole
  actorId : String
  leaseOwner : String
  leaseGeneration : Int
  resumeState : Option ExecutionState
  blockerCode : Option String
  blockerDetail : Option String
  reasonCode : String
  reasonDetail : Option String
  candidateWriteFence : Option CandidateWriteFence

namespace Transition

def payload (a : Transition) : Json :=
  .obj [("execution_id", .str a.executionId),
    ("expected_state_version", .int a.expectedStateVersion), ("to_state", .str a.toState.value),
    ("actor_role", .str a.actorRole.value), ("actor_id", .str a.actorId),
    ("lease_owner", .str a.leaseOwner), ("lease_generation", .int a.leaseGeneration),
    ("resume_state", .ofOption (a.resumeState.map ExecutionState.value)),
    ("blocker_code", .ofOption a.blockerCode), ("blocker_detail", .ofOption a.blockerDetail),
    ("reason_code", .str a.reasonCode), ("reason_detail", .ofOption a.reasonDetail)]

def eventType (a : Transition) : EventType :=
  if a.toState = ACCEPTED then .ACCEPTED else .STATE_TRANSITION

/-- mirrors src/adcp/store/sqlite.py:3319-3323 -/
def requireBlocker (a : Transition) : Tx PyError Db Unit :=
  if a.toState = BLOCKED ∨ a.toState = DESIGN_ESCALATION then
    Tx.require (nonEmptyText a.blockerCode = true)
      (.store "INVALID_TRANSITION" "blocker_code is required")
  else
    Tx.require (a.blockerCode = none ∧ a.blockerDetail = none)
      (.store "INVALID_TRANSITION" "blocker fields are not allowed")

/-- The columns the `UPDATE` sets. -/
def set (a : Transition) (now : Timestamp) (r : SliceExecution) : SliceExecution :=
  { r with
    state := a.toState, resumeState := a.resumeState, stateVersion := r.stateVersion + 1
    currentActorRole := a.actorRole, blockerCode := a.blockerCode
    blockerDetail := a.blockerDetail
    acceptedAt := if a.toState = ACCEPTED then some now else none, updatedAt := now }

/-- mirrors src/adcp/store/sqlite.py:3305-3358 -/
def body (env : Env) (a : Transition) (payloadJson : String) : Tx PyError Db Unit := do
  let now := env.clock 0
  let row ← getExecution a.executionId
  requireFence row a.leaseOwner a.leaseGeneration now
  Tx.require (row.stateVersion = a.expectedStateVersion) (storeError "STALE_STATE_VERSION")
  validateTransition row.state a.toState row.resumeState a.resumeState
  a.requireBlocker
  updateExecution a.executionId (fun r => r.stateVersion = a.expectedStateVersion) (a.set now)
    (storeError "STALE_STATE_VERSION")
  insertEvent (env.uuid 0)
    { executionId := a.executionId, operationKey := a.operationKey, eventType := a.eventType
      fromState := some row.state, toState := a.toState
      fromStateVersion := a.expectedStateVersion, toStateVersion := a.expectedStateVersion + 1
      actorRole := a.actorRole, actorId := a.actorId, leaseGeneration := a.leaseGeneration
      reasonCode := a.reasonCode, reasonDetail := a.reasonDetail, metadataJson := payloadJson
      createdAt := now }

end Transition

/-- mirrors src/adcp/store/sqlite.py:3253-3363 -/
def transitionTx (env : Env) (a : Transition) : Tx PyError Db Commit := do
  requireSha256 a.operationKey "operation_key"
  Tx.require (a.actorRole ≠ .EVALUATOR) (storeError "EVALUATOR_STATE_TRANSITION_FORBIDDEN")
  Tx.require (a.toState = ACCEPTED → a.actorRole = .CONTROLLER)
    (storeError "CONTROLLER_ACCEPTANCE_REQUIRED")
  let payloadJson ← Tx.lift (canonicalJson a.payload)
  begin env 1
  requireOptionalFence env 2 a.executionId a.candidateWriteFence true
  let c ← replayOr a.executionId a.operationKey a.eventType payloadJson (a.body env payloadJson)
  requireOptionalFence env 3 a.executionId a.candidateWriteFence false
  pure c

def transition (env : Env) (a : Transition) : Db → Except PyError SliceExecution × Db :=
  Tx.commitThen (transitionTx env a) fun _ => getExecution a.executionId

/-! ## The result commit -/

structure RegisterResultCommit where
  executionId : String
  expectedStateVersion : Int
  operationKey : String
  resultCommit : String
  leaseOwner : String
  leaseGeneration : Int
  actorRole : ActorRole
  actorId : String

def RegisterResultCommit.payload (a : RegisterResultCommit) : Json :=
  .obj [("execution_id", .str a.executionId),
    ("expected_state_version", .int a.expectedStateVersion),
    ("result_commit", .str a.resultCommit), ("lease_owner", .str a.leaseOwner),
    ("lease_generation", .int a.leaseGeneration), ("actor_role", .str a.actorRole.value),
    ("actor_id", .str a.actorId)]

/-- mirrors src/adcp/store/sqlite.py:3369-3428 -/
def registerResultCommitTx (env : Env) (a : RegisterResultCommit) : Tx PyError Db Commit := do
  requireSha256 a.operationKey "operation_key"
  requireCommit a.resultCommit "result_commit"
  let payloadJson ← Tx.lift (canonicalJson a.payload)
  let now := env.clock 0
  begin env 1
  replayOr a.executionId a.operationKey .RESULT_COMMIT_REGISTERED payloadJson do
    let row ← getExecution a.executionId
    requireFence row a.leaseOwner a.leaseGeneration now
    Tx.require (row.stateVersion = a.expectedStateVersion) (storeError "STALE_STATE_VERSION")
    updateExecution a.executionId (fun r => r.stateVersion = a.expectedStateVersion)
      (fun r => { r with
        resultCommit := some a.resultCommit, stateVersion := r.stateVersion + 1
        updatedAt := now })
      (storeError "STALE_STATE_VERSION")
    insertEvent (env.uuid 0)
      { executionId := a.executionId, operationKey := a.operationKey
        eventType := .RESULT_COMMIT_REGISTERED, fromState := some row.state, toState := row.state
        fromStateVersion := a.expectedStateVersion, toStateVersion := a.expectedStateVersion + 1
        actorRole := a.actorRole, actorId := a.actorId, leaseGeneration := a.leaseGeneration
        reasonCode := "RESULT_COMMIT_REGISTERED", reasonDetail := none
        metadataJson := payloadJson, createdAt := now }

def registerResultCommit (env : Env) (a : RegisterResultCommit) :
    Db → Except PyError SliceExecution × Db :=
  Tx.commitThen (registerResultCommitTx env a) fun _ => getExecution a.executionId

end Adcp.L3
