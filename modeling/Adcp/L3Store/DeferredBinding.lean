import Adcp.L3Store.Slices

/-!
# Deferred bindings

The three operations that write an execution and its Slice in one transaction:
binding a deferred Slice to a new READY execution, giving both the Maker's
result commit, and releasing an untouched binding.
-/
namespace Adcp.L3

open Adcp.L1 Adcp.L2 ExecutionState

/-! ## Binding -/

/-- `field` of an object, `TypeError` / `KeyError` when there is none. -/
def member (v : Json) (field : String) (e : PyError) : Tx PyError Db Json :=
  Tx.find (fun _ => v.get? field) e

/-- `slice["slice_id"]` of a capsule's content, or the bare id. -/
def capsuleSliceId (content : Json) : Option Json :=
  match content.get? "slice" with
  | some (.obj fields) => (Json.obj fields).get? "slice_id"
  | v => v

structure BindDeferredExecution where
  spec : ExecutionCreate
  expectedStateVersion : Int
  operationKey : String
  makerContextSnapshotId : String
  makerCapsule : ContextCapsule
  packetRef : String
  worktreePath : String
  branchCreated : Bool
  worktreeCreated : Bool
  actorId : String

namespace BindDeferredExecution

def requiredCapsuleFields : List String :=
  ["slice", "current_task", "contract_fingerprint", "authority_fingerprint", "source_root",
   "branch", "base_commit", "current_commit", "acceptance_criteria", "constraints", "risk",
   "environment", "allowed_actions", "forbidden_actions", "relevant_authority_refs",
   "relevant_authority_excerpts"]

/-- The members of a capsule that repeat the execution's binding. -/
def expectedContent (spec : ExecutionCreate) (worktreePath : String) : List (String × String) :=
  [("contract_fingerprint", spec.contractFingerprint),
   ("authority_fingerprint", spec.authorityFingerprint), ("source_root", worktreePath),
   ("branch", spec.branch), ("base_commit", spec.baseCommit), ("current_commit", spec.baseCommit),
   ("risk", spec.riskLevel.value), ("environment", spec.environment.value)]

def contentMismatch (field : String) : PyError :=
  .store (if field = "contract_fingerprint" then "CONTRACT_FINGERPRINT_MISMATCH"
    else if field = "authority_fingerprint" then "AUTHORITY_FINGERPRINT_MISMATCH"
    else "CAPSULE_BINDING_MISMATCH") field

/-- mirrors src/adcp/store/sqlite.py:2166-2222 -/
def validatePreexecutionCapsule (a : BindDeferredExecution) : Tx PyError Db Unit := do
  let content := a.makerCapsule.content
  Tx.require (a.makerCapsule.role = .MAKER)
    (.store "CAPSULE_BINDING_MISMATCH" "Maker capsule required")
  Tx.requireAll (fun field => .store "CAPSULE_BINDING_MISMATCH" ("missing:" ++ field))
    (requiredCapsuleFields.map fun field => (field, (content.get? field).isSome))
  Tx.require (Json.strIs (capsuleSliceId content) a.spec.sliceId = true)
    (.store "CAPSULE_BINDING_MISMATCH" "slice")
  Tx.requireAll contentMismatch
    ((expectedContent a.spec a.worktreePath).map fun p =>
      (p.1, Json.strIs (content.get? p.1) p.2))

/-- mirrors src/adcp/store/sqlite.py:2618-2634 -/
def metadata (a : BindDeferredExecution) (sourceRoot : String) : Json :=
  .obj [("execution_id", .str a.spec.executionId), ("slice_id", .str a.spec.sliceId),
    ("repository_toplevel", .str sourceRoot), ("worktree_path", .str a.worktreePath),
    ("branch", .str a.spec.branch), ("base_commit", .str a.spec.baseCommit),
    ("contract_fingerprint", .str a.spec.contractFingerprint),
    ("authority_fingerprint", .str a.spec.authorityFingerprint),
    ("risk_level", .str a.spec.riskLevel.value), ("environment", .str a.spec.environment.value),
    ("packet_ref", .str a.packetRef), ("context_snapshot_id", .str a.makerContextSnapshotId),
    ("context_fingerprint", .str a.makerCapsule.fingerprint),
    ("branch_created", .bool a.branchCreated), ("worktree_created", .bool a.worktreeCreated)]

/-- The bound Slice row, its fingerprint still the old one. -/
def target (a : BindDeferredExecution) (sourceRoot : String) (f : SliceControlFields) :
    SliceControlFields :=
  { f with
    executionEligibility := .ELIGIBLE_PREEXECUTION_BOUND, deferReason := none
    repositoryToplevel := some sourceRoot, branch := some a.spec.branch
    baseCommit := some a.spec.baseCommit, implementationResultCommit := none
    currentBranchHead := some a.spec.baseCommit, activeExecutionId := some a.spec.executionId }

/-- mirrors src/adcp/store/sqlite.py:2674-2712 -/
def replay (a : BindDeferredExecution) (event : SliceControlEvent) (current : SliceControlState)
    (sourceRoot executionJson sliceJson : String) : Tx PyError Db Unit := do
  let conflict := storeError "PREEXECUTION_BIND_CONFLICT"
  Tx.require (event.sliceId = a.spec.sliceId ∧ event.reasonCode = "PREEXECUTION_BIND" ∧
    event.metadataJson = sliceJson) conflict
  let execution ← getExecution a.spec.executionId
  Tx.require (execution.createIdempotencyKey = a.operationKey) conflict
  let _ ← existingEvent a.spec.executionId a.operationKey .EXECUTION_CREATED executionJson
  let context ← getContextSnapshot a.makerContextSnapshotId
  Tx.require (context.executionId = a.spec.executionId ∧ context.role = .MAKER ∧
    context.fingerprint = a.makerCapsule.fingerprint ∧
    context.canonicalJson = a.makerCapsule.canonicalJson) conflict
  Tx.require (current.activeExecutionId = some a.spec.executionId ∧
    current.repositoryToplevel = some sourceRoot ∧ current.branch = some a.spec.branch ∧
    current.baseCommit = some a.spec.baseCommit) conflict

/-- mirrors src/adcp/store/sqlite.py:2714-2757 -/
def requireFree (a : BindDeferredExecution) (current : SliceControlState) (sourceRoot : String)
    (now : Timestamp) : Tx PyError Db Unit := do
  Tx.require (current.activeExecutionId = none ∧
      current.executionEligibility ≠ .ELIGIBLE_PREEXECUTION_BOUND)
    (storeError "PREEXECUTION_BIND_CONFLICT")
  Tx.require (current.executionEligibility = .INELIGIBLE_UNTIL_PREFLIGHT)
    (storeError "SLICE_NOT_DEFERRED_BINDING")
  Tx.require (current.stateVersion = a.expectedStateVersion)
    (storeError "STALE_CONTROL_STATE_VERSION")
  let db ← Tx.read id
  Tx.require (db.sliceExecution.all fun r => ¬ (r.sliceId = a.spec.sliceId ∧
      (leaseHeld r now = true ∨ db.agentAttempt.any fun t =>
        t.executionId = r.executionId && t.status = .RUNNING)))
    (storeError "ACTIVE_ATTEMPT_OR_LEASE_CONFLICT")
  Tx.require (db.sliceExecution.all fun r => ¬ (r.sourceRoot = sourceRoot ∧
      r.sliceId = a.spec.sliceId ∧ r.state ∉ terminalStates))
    (storeError "OPEN_EXECUTION_EXISTS")
  Tx.require (db.execution? a.spec.executionId = none) (storeError "PREEXECUTION_BIND_CONFLICT")

/-- The five writes, with the points a fault is injected at.
mirrors src/adcp/store/sqlite.py:2759-2849 -/
def writes (env : Env) (a : BindDeferredExecution) (sourceRoot executionJson sliceJson : String)
    (fingerprint : String) (now : Timestamp) : Tx PyError Db Unit := do
  insertExecution (a.spec.row a.operationKey sourceRoot now)
  inject env "execution"
  insertEvent (env.uuid 0) { a.spec.event a.operationKey a.actorId executionJson now with
    actorRole := .CONTROLLER }
  inject env "execution_event"
  insertContextSnapshot
    { contextSnapshotId := a.makerContextSnapshotId, executionId := a.spec.executionId
      role := .MAKER, capsuleVersion := a.makerCapsule.capsuleVersion
      fingerprint := a.makerCapsule.fingerprint, canonicalJson := a.makerCapsule.canonicalJson
      createdAt := now }
  inject env "context_snapshot"
  insertSliceEvent
    { operationKey := a.operationKey, sliceId := a.spec.sliceId
      fromStateVersion := a.expectedStateVersion, toStateVersion := a.expectedStateVersion + 1
      reasonCode := "PREEXECUTION_BIND", metadataJson := sliceJson, createdAt := now }
  inject env "slice_event"
  updateSlice a.spec.sliceId a.expectedStateVersion
    (fun f => { a.target sourceRoot f with authorityFingerprint := fingerprint }) now
  inject env "slice_state"

end BindDeferredExecution

/-- mirrors src/adcp/store/sqlite.py:2851-2858 -/
def bindIntegrityError : PyError → PyError
  | .integrity "PREEXECUTION_CONTEXT_BINDING_MISMATCH" => storeError "CAPSULE_BINDING_MISMATCH"
  | e => e

/-- mirrors src/adcp/store/sqlite.py:2553-2861 -/
def bindDeferredExecutionTx (env : Env) (a : BindDeferredExecution) : Tx PyError Db Commit := do
  a.spec.validate
  requireSha256 a.operationKey "operation_key"
  Tx.require (a.spec.currentActorRole = .CONTROLLER)
    (.store "INVALID_INPUT" "deferred binding is Controller-owned")
  Tx.require (0 ≤ a.expectedStateVersion) (storeError "INVALID_EXPECTED_STATE_VERSION")
  Tx.require (a.makerContextSnapshotId ≠ "" ∧ hasText a.packetRef = true ∧ a.worktreePath ≠ "")
    (.store "CAPSULE_BINDING_MISMATCH" "binding identity is incomplete")
  let sourceRoot ← Tx.lift (env.canonicalSourceRoot a.spec.sourceRoot)
  a.validatePreexecutionCapsule
  let executionJson ← Tx.lift (canonicalJson (a.spec.payload sourceRoot))
  let now := env.clock 0
  begin env 1
  Tx.mapError bindIntegrityError do
    let current ← Tx.find (·.slice? a.spec.sliceId) (storeError "SLICE_NOT_DEFERRED_BINDING")
    Tx.require (current.migrationClass = .DEFER_BINDING) (storeError "SLICE_NOT_DEFERRED_BINDING")
    Tx.requireAll (.store "PREEXECUTION_BIND_CONFLICT")
      [("repository_toplevel", current.repositoryToplevel.all (· = sourceRoot)),
       ("branch", current.branch.all (· = a.spec.branch))]
    let target := a.target sourceRoot current.toSliceControlFields
    let fingerprint ← Tx.lift target.controlStateAuthorityFingerprint
    let target := { target with authorityFingerprint := fingerprint }
    validateSliceControlTarget target
    let sliceJson ← Tx.lift (canonicalJson (.obj [("reason_code", .str "PREEXECUTION_BIND"),
      ("target", target.json), ("metadata", a.metadata sourceRoot)]))
    let found ← Tx.read (·.sliceEvent? a.operationKey)
    match found with
    | some event => do
      a.replay event current sourceRoot executionJson sliceJson
      pure .replayed
    | none => do
      a.requireFree current sourceRoot now
      a.writes env sourceRoot executionJson sliceJson fingerprint now
      pure .fresh

/-! ## Finalizing -/

structure FinalizeDeferredResultCommit where
  executionId : String
  expectedStateVersion : Int
  expectedSliceStateVersion : Int
  operationKey : String
  resultCommit : String
  expectedCurrentBranchHead : String
  leaseOwner : String
  leaseGeneration : Int
  actorRole : ActorRole
  actorId : String

/-- The Slice that names the execution as its active one. -/
def Db.boundSlice? (db : Db) (executionId : String) : Option SliceControlState :=
  db.sliceControlState.find? (·.activeExecutionId = some executionId)

namespace FinalizeDeferredResultCommit

def payload (a : FinalizeDeferredResultCommit) : Json :=
  .obj [("execution_id", .str a.executionId),
    ("expected_state_version", .int a.expectedStateVersion),
    ("expected_slice_state_version", .int a.expectedSliceStateVersion),
    ("expected_current_branch_head", .str a.expectedCurrentBranchHead),
    ("result_commit", .str a.resultCommit), ("lease_owner", .str a.leaseOwner),
    ("lease_generation", .int a.leaseGeneration), ("actor_role", .str a.actorRole.value),
    ("actor_id", .str a.actorId)]

/-- mirrors src/adcp/store/sqlite.py:2919-2952 -/
def replay (a : FinalizeDeferredResultCommit) (executionEvent : Option TransitionEvent)
    (sliceEvent : Option SliceControlEvent) : Tx PyError Db Unit := do
  let conflict := storeError "IDEMPOTENCY_CONFLICT"
  match executionEvent, sliceEvent with
  | some _, some event => do
    let slicePayload ← match jsonLoads event.metadataJson with
      | .ok v => pure v
      | .error _ => Tx.fail conflict
    Tx.require (event.reasonCode = "RESULT_COMMIT_BOUND" ∧
      ((slicePayload.get? "metadata").any (·.pyEq a.payload)) = true) conflict
    let execution ← getExecution a.executionId
    let state ← Tx.find (·.boundSlice? a.executionId) conflict
    Tx.require (execution.resultCommit = some a.resultCommit ∧
      state.implementationResultCommit = some a.resultCommit ∧
      state.currentBranchHead = some a.resultCommit ∧
      state.executionEligibility = .ELIGIBLE_BOUND) conflict
  | _, _ => Tx.fail conflict

/-- The row and the Slice that a new finalization works on.
mirrors src/adcp/store/sqlite.py:2954-2983 -/
def requireBound (a : FinalizeDeferredResultCommit) (execution : SliceExecution)
    (now : Timestamp) : Tx PyError Db SliceControlState := do
  requireFence execution a.leaseOwner a.leaseGeneration now
  Tx.require (execution.stateVersion = a.expectedStateVersion) (storeError "STALE_STATE_VERSION")
  Tx.require (execution.state = MAKER_RUNNING) (storeError "MAKER_COMPLETION_STATE_INVALID")
  let state ← Tx.find (·.boundSlice? a.executionId) (storeError "SLICE_NOT_DEFERRED_BINDING")
  Tx.require (state.migrationClass = .DEFER_BINDING ∧
      (state.executionEligibility = .ELIGIBLE_PREEXECUTION_BOUND ∨
        state.executionEligibility = .ELIGIBLE_BOUND)) (storeError "SLICE_NOT_DEFERRED_BINDING")
  Tx.require (state.stateVersion = a.expectedSliceStateVersion)
    (storeError "STALE_CONTROL_STATE_VERSION")
  Tx.require (state.repositoryToplevel = some execution.sourceRoot ∧
      state.branch = some execution.branch ∧ state.baseCommit = some execution.baseCommit ∧
      state.currentBranchHead = some a.expectedCurrentBranchHead ∧
      state.implementationResultCommit = execution.resultCommit)
    (storeError "PREEXECUTION_BIND_CONFLICT")
  pure state

def target (a : FinalizeDeferredResultCommit) (f : SliceControlFields) : SliceControlFields :=
  { f with
    executionEligibility := .ELIGIBLE_BOUND, deferReason := none
    implementationResultCommit := some a.resultCommit, currentBranchHead := some a.resultCommit }

/-- mirrors src/adcp/store/sqlite.py:3006-3059 -/
def writes (env : Env) (a : FinalizeDeferredResultCommit) (row : SliceExecution)
    (state : SliceControlState) (payloadJson sliceJson fingerprint : String) (now : Timestamp) :
    Tx PyError Db Unit := do
  updateExecution a.executionId (fun r => r.stateVersion = a.expectedStateVersion)
    (fun r => { r with
      resultCommit := some a.resultCommit, stateVersion := r.stateVersion + 1, updatedAt := now })
    (storeError "STALE_STATE_VERSION")
  inject env "execution_result"
  insertEvent (env.uuid 0)
    { executionId := a.executionId, operationKey := a.operationKey
      eventType := .RESULT_COMMIT_REGISTERED, fromState := some row.state, toState := row.state
      fromStateVersion := a.expectedStateVersion, toStateVersion := a.expectedStateVersion + 1
      actorRole := a.actorRole, actorId := a.actorId, leaseGeneration := a.leaseGeneration
      reasonCode := "RESULT_COMMIT_REGISTERED", reasonDetail := none, metadataJson := payloadJson
      createdAt := now }
  inject env "execution_event"
  insertSliceEvent
    { operationKey := a.operationKey, sliceId := state.sliceId
      fromStateVersion := a.expectedSliceStateVersion
      toStateVersion := a.expectedSliceStateVersion + 1
      reasonCode := "RESULT_COMMIT_BOUND", metadataJson := sliceJson, createdAt := now }
  inject env "slice_event"
  updateSlice state.sliceId a.expectedSliceStateVersion
    (fun f => { a.target f with authorityFingerprint := fingerprint }) now
  inject env "slice_state"

end FinalizeDeferredResultCommit

/-- mirrors src/adcp/store/sqlite.py:2871-3062 -/
def finalizeDeferredResultCommitTx (env : Env) (a : FinalizeDeferredResultCommit) :
    Tx PyError Db Commit := do
  requireSha256 a.operationKey "operation_key"
  requireCommit a.resultCommit "result_commit"
  requireCommit a.expectedCurrentBranchHead "expected_current_branch_head"
  Tx.require (a.actorRole = .CONTROLLER) (storeError "CONTROLLER_RESULT_FINALIZATION_REQUIRED")
  let payloadJson ← Tx.lift (canonicalJson a.payload)
  let now := env.clock 0
  begin env 1
  let executionEvent ← existingEvent a.executionId a.operationKey .RESULT_COMMIT_REGISTERED
    payloadJson
  let sliceEvent ← Tx.read (·.sliceEvent? a.operationKey)
  if executionEvent.isSome ∨ sliceEvent.isSome then do
    a.replay executionEvent sliceEvent
    pure .replayed
  else do
    let execution ← getExecution a.executionId
    let state ← a.requireBound execution now
    let target := a.target state.toSliceControlFields
    let fingerprint ← Tx.lift target.controlStateAuthorityFingerprint
    let target := { target with authorityFingerprint := fingerprint }
    validateSliceControlTarget target
    let sliceJson ← Tx.lift (canonicalJson (.obj [("reason_code", .str "RESULT_COMMIT_BOUND"),
      ("target", target.json), ("metadata", a.payload)]))
    a.writes env execution state payloadJson sliceJson fingerprint now
    pure .fresh

/-! ## Releasing -/

def deferredBindingFields : List String :=
  ["execution_id", "slice_id", "repository_toplevel", "worktree_path", "branch", "base_commit",
   "contract_fingerprint", "authority_fingerprint", "risk_level", "environment", "packet_ref",
   "context_snapshot_id", "context_fingerprint", "branch_created", "worktree_created"]

/-- mirrors src/adcp/store/sqlite.py:2224-2264 -/
def getDeferredBinding (executionId : String) : Tx PyError Db Json := do
  let corrupt := storeError "PREEXECUTION_BINDING_CORRUPT"
  let event ← Tx.find (fun db => db.sliceControlEvent.find? fun e =>
      e.reasonCode = "PREEXECUTION_BIND" &&
      (match jsonExtract e.metadataJson ["metadata", "execution_id"] with
        | .ok v => v = some executionId
        | .error _ => false))
    (.store "PREEXECUTION_BINDING_NOT_FOUND" executionId)
  let payload ← match jsonLoads event.metadataJson with
    | .ok v => pure v
    | .error _ => Tx.fail corrupt
  let metadata ← member payload "metadata" corrupt
  Tx.require (deferredBindingFields.all fun k => (metadata.get? k).isSome) corrupt
  Tx.require (Json.strIs (metadata.get? "execution_id") executionId = true) corrupt
  pure metadata

structure ReleaseDeferred where
  executionId : String
  sliceId : String
  expectedExecutionStateVersion : Int
  expectedSliceStateVersion : Int
  operationKey : String
  releaseReason : String
  authorityRef : String
  actorId : String

namespace ReleaseDeferred

def reasons : List String :=
  ["BASE_STALE", "CONTRACT_STALE", "AUTHORITY_STALE", "BRANCH_STALE", "ENVIRONMENT_STALE",
   "PREMAKER_PREREQUISITE_CHANGED"]

def conflict : PyError := storeError "PREBOUND_RELEASE_IDEMPOTENCY_CONFLICT"

/-- The Slice row after a release, its fingerprint still the old one. -/
def target (f : SliceControlFields) : SliceControlFields :=
  { f with
    executionEligibility := .INELIGIBLE_UNTIL_PREFLIGHT
    deferReason := some "PREEXECUTION_BIND_SUPERSEDED", repositoryToplevel := none, branch := none
    baseCommit := none, implementationResultCommit := none, currentBranchHead := none
    activeExecutionId := none }

/-- mirrors src/adcp/store/sqlite.py:2303-2357 -/
def replay (a : ReleaseDeferred) (event : SliceControlEvent) : Tx PyError Db Unit := do
  let payload ← match jsonLoads event.metadataJson with
    | .ok v => pure v
    | .error _ => Tx.fail conflict
  let metadata ← member payload "metadata" conflict
  let execution ← getExecution a.executionId
  let state ← getSliceControlState a.sliceId
  let transition ← Tx.find (fun db =>
    (db.events a.executionId).find? (·.operationKey = a.operationKey)) conflict
  Tx.require (metadata.isObj = true) (.raised "AttributeError" "get")
  Tx.require (event.sliceId = a.sliceId ∧ event.reasonCode = "PREEXECUTION_RELEASE" ∧
    Json.strIs (payload.get? "reason_code") "PREEXECUTION_RELEASE" ∧
    Json.strIs (metadata.get? "released_execution_id") a.executionId ∧
    Json.strIs (metadata.get? "release_reason") a.releaseReason ∧
    Json.strIs (metadata.get? "authority_ref") a.authorityRef) conflict
  Tx.require (event.fromStateVersion = a.expectedSliceStateVersion ∧
    event.toStateVersion = a.expectedSliceStateVersion + 1 ∧
    transition.reasonCode = "PREEXECUTION_BIND_RELEASED" ∧
    transition.fromStateVersion = a.expectedExecutionStateVersion ∧
    transition.toStateVersion = a.expectedExecutionStateVersion + 1 ∧
    execution.state = CANCELLED ∧
    execution.stateVersion = a.expectedExecutionStateVersion + 1) conflict
  Tx.require (state.stateVersion = a.expectedSliceStateVersion + 1 ∧
    state.migrationClass = .DEFER_BINDING ∧
    state.toSliceControlFields = target state.toSliceControlFields) conflict

/-- mirrors src/adcp/store/sqlite.py:2368-2411 -/
def requireReleasable (a : ReleaseDeferred) (execution : SliceExecution)
    (state : SliceControlState) : Tx PyError Db Unit := do
  Tx.require (execution.sliceId = a.sliceId) (storeError "PREBOUND_RELEASE_EXECUTION_MISMATCH")
  Tx.require (execution.stateVersion = a.expectedExecutionStateVersion)
    (storeError "STALE_EXECUTION_STATE_VERSION")
  Tx.require (state.stateVersion = a.expectedSliceStateVersion)
    (storeError "STALE_CONTROL_STATE_VERSION")
  Tx.require (state.activeExecutionId = some a.executionId)
    (storeError "PREBOUND_RELEASE_EXECUTION_MISMATCH")
  Tx.require (execution.resultCommit = none ∧ state.implementationResultCommit = none)
    (storeError "PREBOUND_RELEASE_RESULT_EXISTS")
  Tx.require (execution.leaseOwner = none) (storeError "PREBOUND_RELEASE_LEASE_CONFLICT")
  let db ← Tx.read id
  Tx.require (db.agentAttempt.all (·.executionId ≠ a.executionId))
    (storeError "PREBOUND_RELEASE_ATTEMPT_EXISTS")
  Tx.require (state.migrationClass = .DEFER_BINDING ∧
      state.executionEligibility = .ELIGIBLE_PREEXECUTION_BOUND ∧
      state.repositoryToplevel.isSome ∧ state.branch.isSome ∧ state.baseCommit.isSome ∧
      state.currentBranchHead = state.baseCommit ∧ execution.state = READY)
    (storeError "PREBOUND_RELEASE_STATE_INVALID")
  validateTransition READY CANCELLED none none

/-- mirrors src/adcp/store/sqlite.py:2413-2449 -/
def requireCoherent (a : ReleaseDeferred) (binding : Json) (execution : SliceExecution)
    (state : SliceControlState) : Tx PyError Db Unit := do
  let mismatch := storeError "PREBOUND_RELEASE_BINDING_MISMATCH"
  let contextId ← Tx.find (fun _ => (binding.get? "context_snapshot_id").bind Json.asStr?) mismatch
  let context ← Tx.find (·.contextSnapshot? contextId) mismatch
  let capsule ← match jsonLoads context.canonicalJson with
    | .ok v => pure v
    | .error _ => Tx.fail mismatch
  let content ← member capsule "content" mismatch
  let bound (field value : String) : Bool := Json.strIs (binding.get? field) value
  let holds (field value : String) : Bool := Json.strIs (content.get? field) value
  Tx.require (bound "slice_id" a.sliceId ∧ bound "repository_toplevel" execution.sourceRoot ∧
    state.repositoryToplevel = some execution.sourceRoot ∧ bound "branch" execution.branch ∧
    state.branch = some execution.branch ∧ bound "base_commit" execution.baseCommit ∧
    state.baseCommit = some execution.baseCommit ∧
    bound "contract_fingerprint" execution.contractFingerprint ∧
    bound "authority_fingerprint" execution.authorityFingerprint ∧
    bound "risk_level" execution.riskLevel.value ∧
    bound "environment" execution.environment.value ∧
    ((binding.get? "packet_ref").bind Json.asStr?).any hasText ∧
    bound "context_fingerprint" context.fingerprint ∧ context.executionId = a.executionId ∧
    context.role = .MAKER) mismatch
  Tx.require (content.isObj = true) (.raised "AttributeError" "get")
  Tx.require (holds "contract_fingerprint" execution.contractFingerprint ∧
    holds "authority_fingerprint" execution.authorityFingerprint ∧
    ((content.get? "source_root").any fun v =>
      (binding.get? "worktree_path").any v.pyEq) ∧
    holds "branch" execution.branch ∧ holds "base_commit" execution.baseCommit ∧
    holds "current_commit" execution.baseCommit ∧ holds "risk" execution.riskLevel.value ∧
    holds "environment" execution.environment.value ∧
    Json.strIs (capsuleSliceId content) a.sliceId) mismatch

/-- mirrors src/adcp/store/sqlite.py:2464-2478 -/
def metadata (a : ReleaseDeferred) (binding : Json) : Json :=
  let old (field : String) : Json := (binding.get? field).getD .null
  .obj [("released_execution_id", .str a.executionId),
    ("old_repository_toplevel", old "repository_toplevel"),
    ("old_worktree_path", old "worktree_path"), ("old_branch", old "branch"),
    ("old_base_commit", old "base_commit"),
    ("old_contract_fingerprint", old "contract_fingerprint"),
    ("old_authority_fingerprint", old "authority_fingerprint"),
    ("old_context_snapshot_id", old "context_snapshot_id"),
    ("old_context_fingerprint", old "context_fingerprint"),
    ("branch_created", .bool (truthy (old "branch_created"))),
    ("worktree_created", .bool (truthy (old "worktree_created"))),
    ("release_reason", .str a.releaseReason), ("authority_ref", .str a.authorityRef)]

/-- mirrors src/adcp/store/sqlite.py:2482-2491 -/
def executionPayload (a : ReleaseDeferred) : Json :=
  .obj [("execution_id", .str a.executionId), ("slice_id", .str a.sliceId),
    ("expected_execution_state_version", .int a.expectedExecutionStateVersion),
    ("expected_slice_state_version", .int a.expectedSliceStateVersion),
    ("release_reason", .str a.releaseReason), ("authority_ref", .str a.authorityRef)]

/-- mirrors src/adcp/store/sqlite.py:2492-2536 -/
def writes (env : Env) (a : ReleaseDeferred) (execution : SliceExecution)
    (executionJson sliceJson fingerprint : String) (now : Timestamp) : Tx PyError Db Unit := do
  updateExecution a.executionId (fun r => r.stateVersion = a.expectedExecutionStateVersion)
    (fun r => { r with
      state := CANCELLED, stateVersion := r.stateVersion + 1, currentActorRole := .CONTROLLER
      updatedAt := now })
    (storeError "STALE_EXECUTION_STATE_VERSION")
  inject env "execution_state"
  insertEvent (env.uuid 0)
    { executionId := a.executionId, operationKey := a.operationKey
      eventType := .STATE_TRANSITION, fromState := some READY, toState := CANCELLED
      fromStateVersion := a.expectedExecutionStateVersion
      toStateVersion := a.expectedExecutionStateVersion + 1
      actorRole := .CONTROLLER, actorId := a.actorId
      leaseGeneration := execution.leaseGeneration, reasonCode := "PREEXECUTION_BIND_RELEASED"
      reasonDetail := some a.releaseReason, metadataJson := executionJson, createdAt := now }
  inject env "execution_event"
  insertSliceEvent
    { operationKey := a.operationKey, sliceId := a.sliceId
      fromStateVersion := a.expectedSliceStateVersion
      toStateVersion := a.expectedSliceStateVersion + 1, reasonCode := "PREEXECUTION_RELEASE"
      metadataJson := sliceJson, createdAt := now }
  inject env "slice_event"
  updateSlice a.sliceId a.expectedSliceStateVersion
    (fun f => { target f with authorityFingerprint := fingerprint }) now
  inject env "slice_state"

end ReleaseDeferred

/-- Its clock reading is taken inside the transaction, after the guard's.
mirrors src/adcp/store/sqlite.py:2266-2543 -/
def releaseDeferredTx (env : Env) (a : ReleaseDeferred) : Tx PyError Db Commit := do
  requireSha256 a.operationKey "operation_key"
  Tx.require (a.executionId ≠ "" ∧ a.sliceId ≠ "" ∧ a.releaseReason ≠ "" ∧ a.authorityRef ≠ "")
    (.store "INVALID_INPUT" "release identity is incomplete")
  Tx.require (a.releaseReason ∈ ReleaseDeferred.reasons)
    (storeError "PREBOUND_RELEASE_REASON_INVALID")
  Tx.require (0 ≤ a.expectedExecutionStateVersion ∧ 0 ≤ a.expectedSliceStateVersion)
    (storeError "INVALID_EXPECTED_STATE_VERSION")
  begin env 0
  let found ← Tx.read (·.sliceEvent? a.operationKey)
  match found with
  | some event => do
    a.replay event
    pure .replayed
  | none => do
    let prior ← Tx.read fun db => db.sliceControlEvent.any fun e =>
      e.reasonCode = "PREEXECUTION_RELEASE" &&
      (match jsonExtract e.metadataJson ["metadata", "released_execution_id"] with
        | .ok v => v = some a.executionId
        | .error _ => false)
    Tx.require (prior = false) ReleaseDeferred.conflict
    let execution ← getExecution a.executionId
    let state ← getSliceControlState a.sliceId
    a.requireReleasable execution state
    let binding ← getDeferredBinding a.executionId
    a.requireCoherent binding execution state
    let target := ReleaseDeferred.target state.toSliceControlFields
    let fingerprint ← Tx.lift target.controlStateAuthorityFingerprint
    let target := { target with authorityFingerprint := fingerprint }
    validateSliceControlTarget target
    let sliceJson ← Tx.lift (canonicalJson (.obj [("reason_code", .str "PREEXECUTION_RELEASE"),
      ("target", target.json), ("metadata", a.metadata binding)]))
    let executionJson ← Tx.lift (canonicalJson a.executionPayload)
    a.writes env execution executionJson sliceJson fingerprint (env.clock 1)
    pure .fresh

end Adcp.L3
