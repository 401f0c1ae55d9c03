import Adcp.L3Store.Records

/-!
# Slice control rows and control authority

The reconcile of one Slice row, with the constraints and triggers of its table
and of its event log, and the global authority row.

`ExecutionBinding` is the trigger every statement on a bound Slice row passes:
the row names an execution of its own Slice, with the same root, branch, base
and result.

* `insertSlice_ok`, `updateSlice_bind_ok`: what a statement that succeeded found and
  wrote.
-/
namespace Adcp.L3

open Adcp.L1 Adcp.L2 ExecutionState

/-! ## Queries -/

def Db.slice? (db : Db) (sliceId : String) : Option SliceControlState :=
  Table.lookup (·.sliceId) db.sliceControlState sliceId

/-- mirrors src/adcp/store/sqlite.py:819-825 -/
def getSliceControlState (sliceId : String) : Tx PyError Db SliceControlState :=
  Tx.find (·.slice? sliceId) (.store "SLICE_CONTROL_STATE_NOT_FOUND" sliceId)

/-- The event of the operation key `key`, if it was used. -/
def Db.sliceEvent? (db : Db) (key : String) : Option SliceControlEvent :=
  db.sliceControlEvent.find? (·.operationKey = key)

/-! ## Targets -/

namespace SliceControlFields

def semanticFields (f : SliceControlFields) : List (String × Json) :=
  [("slice_id", .str f.sliceId), ("stage", .str f.stage), ("status", .str f.status),
   ("migration_class", .str f.migrationClass.value),
   ("execution_eligibility", .str f.executionEligibility.value),
   ("defer_reason", .ofOption f.deferReason),
   ("logical_source_root", .str f.logicalSourceRoot),
   ("repository_toplevel", .ofOption f.repositoryToplevel), ("branch", .ofOption f.branch),
   ("base_commit", .ofOption f.baseCommit),
   ("implementation_result_commit", .ofOption f.implementationResultCommit),
   ("current_branch_head", .ofOption f.currentBranchHead),
   ("active_execution_id", .ofOption f.activeExecutionId)]

def json (f : SliceControlFields) : Json :=
  .obj (f.semanticFields ++ [("authority_fingerprint", .str f.authorityFingerprint)])

/-- `control_state_authority_fingerprint`.
mirrors src/adcp/store/sqlite.py:105-108 -/
def controlStateAuthorityFingerprint (f : SliceControlFields) : Except PyError String :=
  canonicalSha256 (.obj f.semanticFields)

/-- The columns a bound disposition needs, those of a deferred one excluded. -/
def bindingFields (f : SliceControlFields) : List (String × Option String) :=
  [("repository_toplevel", f.repositoryToplevel), ("branch", f.branch),
   ("base_commit", f.baseCommit), ("current_branch_head", f.currentBranchHead),
   ("active_execution_id", f.activeExecutionId)]

/-- mirrors src/adcp/store/sqlite.py:1612-1662 -/
def validateDisposition (f : SliceControlFields) : Tx PyError Db Unit := do
  let required (code : String) (fields : List (String × Option String)) : Tx PyError Db Unit :=
    Tx.requireAll (.store code) (fields.map fun p => (p.1, p.2.isSome))
  match f.migrationClass, f.executionEligibility with
  | .MIGRATE_AS_READY_CURRENT_STATE, .ELIGIBLE_BOUND => do
    Tx.require (f.deferReason = none) (storeError "EXECUTABLE_SLICE_DEFER_REASON_FORBIDDEN")
    required "EXECUTABLE_SLICE_BINDING_REQUIRED"
      (("implementation_result_commit", f.implementationResultCommit) :: f.bindingFields)
  | .DEFER_BINDING, .ELIGIBLE_BOUND => do
    Tx.require (f.deferReason = none) (storeError "EXECUTABLE_SLICE_DEFER_REASON_FORBIDDEN")
    required "EXECUTABLE_SLICE_BINDING_REQUIRED"
      (("implementation_result_commit", f.implementationResultCommit) :: f.bindingFields)
    Tx.require (f.currentBranchHead = f.implementationResultCommit)
      (storeError "BOUND_RESULT_HEAD_MISMATCH")
  | .DEFER_BINDING, .ELIGIBLE_PREEXECUTION_BOUND => do
    Tx.require (f.deferReason = none) (storeError "EXECUTABLE_SLICE_DEFER_REASON_FORBIDDEN")
    required "PREEXECUTION_BINDING_REQUIRED" f.bindingFields
    Tx.require (f.implementationResultCommit = none)
      (storeError "PREEXECUTION_RESULT_COMMIT_FORBIDDEN")
    Tx.require (f.currentBranchHead = f.baseCommit) (storeError "PREEXECUTION_HEAD_MISMATCH")
  | .DEFER_BINDING, .INELIGIBLE_UNTIL_PREFLIGHT
  | .DEFER_PREREQUISITE, .INELIGIBLE_UNTIL_PREREQUISITE => do
    Tx.require f.deferReason.isSome (storeError "DEFER_REASON_REQUIRED")
    Tx.requireAll (.store "DEFERRED_EXECUTION_FORBIDDEN")
      [("base_commit", f.baseCommit.isNone),
       ("implementation_result_commit", f.implementationResultCommit.isNone),
       ("current_branch_head", f.currentBranchHead.isNone),
       ("active_execution_id", f.activeExecutionId.isNone)]
  | _, _ => Tx.fail (storeError "SLICE_CONTROL_DISPOSITION_INVALID")

end SliceControlFields

/-- mirrors src/adcp/store/sqlite.py:1590-1664 -/
def validateSliceControlTarget (f : SliceControlFields) : Tx PyError Db Unit := do
  Tx.requireAll (.store "SLICE_CONTROL_STATE_FIELD_REQUIRED")
    [("slice_id", f.sliceId ≠ ""), ("stage", f.stage ≠ ""), ("status", f.status ≠ ""),
     ("logical_source_root", f.logicalSourceRoot ≠ "")]
  Tx.requireAll (.store "SLICE_CONTROL_STATE_FIELD_INVALID")
    [("repository_toplevel", f.repositoryToplevel.all (· ≠ "")), ("branch", f.branch.all (· ≠ "")),
     ("defer_reason", f.deferReason.all (· ≠ "")),
     ("active_execution_id", f.activeExecutionId.all (· ≠ ""))]
  Tx.requireAll (fun field => .store "INVALID_INPUT"
      (field ++ " must be a 40- or 64-character hex id"))
    [("base_commit", f.baseCommit.all isCommit),
     ("implementation_result_commit", f.implementationResultCommit.all isCommit),
     ("current_branch_head", f.currentBranchHead.all isCommit)]
  requireSha256 f.authorityFingerprint "authority_fingerprint"
  let fingerprint ← Tx.lift f.controlStateAuthorityFingerprint
  Tx.require (f.authorityFingerprint = fingerprint)
    (storeError "CONTROL_AUTHORITY_FINGERPRINT_MISMATCH")
  f.validateDisposition

/-! ## Statements -/

/-- `json_extract(text, '$.a.b')` as SQL text, for a text without repeated keys;
`none` is `NULL`. -/
def jsonExtract (text : String) (path : List String) : Except PyError (Option String) := do
  let v ← jsonLoads text
  pure ((path.foldl (fun v k => v.bind (·.get? k)) (some v)).bind jsonText)

/-- The Slice row agrees with the execution it names.
mirrors src/adcp/store/migrations.py:786-812 (`slice_control_state_execution_binding_*`) -/
def ExecutionBinding (db : Db) (f : SliceControlFields) : Prop :=
  ∀ e ∈ f.activeExecutionId, ∃ row ∈ db.execution? e, row.sliceId = f.sliceId ∧
    f.repositoryToplevel = some row.sourceRoot ∧ f.branch = some row.branch ∧
    f.baseCommit = some row.baseCommit ∧ row.resultCommit = f.implementationResultCommit

instance (db : Db) (f : SliceControlFields) : Decidable (ExecutionBinding db f) := by
  unfold ExecutionBinding
  cases f.activeExecutionId with
  | none => exact isTrue (by simp)
  | some e =>
    cases h : db.execution? e with
    | none => exact isFalse (by simp [h])
    | some row =>
      refine decidable_of_iff (row.sliceId = f.sliceId ∧ f.repositoryToplevel = some row.sourceRoot ∧
        f.branch = some row.branch ∧ f.baseCommit = some row.baseCommit ∧
        row.resultCommit = f.implementationResultCommit) ?_
      simp [h]

/-- The event that binds a Slice before execution carries the execution's own
values, and names a Maker context that does too.
mirrors src/adcp/store/migrations.py:854-893
(`slice_control_state_preexecution_context_*`) -/
def preexecutionContext (db : Db) (f : SliceControlFields) (version : Int) : Bool :=
  match f.activeExecutionId.bind db.execution? with
  | none => false
  | some row => db.sliceControlEvent.any fun event =>
    event.sliceId = f.sliceId && event.toStateVersion = version &&
    event.reasonCode = "PREEXECUTION_BIND" && db.contextSnapshot.any fun context =>
      let metadata (k : String) := jsonExtract event.metadataJson ["metadata", k]
      let content (k : String) := jsonExtract context.canonicalJson ["content", k]
      let is (v : Except PyError (Option String)) (s : String) : Bool :=
        match v with
        | .ok t => t = some s
        | .error _ => false
      is (metadata "context_snapshot_id") context.contextSnapshotId &&
      context.executionId = row.executionId && context.role = .MAKER &&
      is (metadata "context_fingerprint") context.fingerprint &&
      is (content "contract_fingerprint") row.contractFingerprint &&
      is (content "authority_fingerprint") row.authorityFingerprint &&
      is (content "branch") row.branch && is (content "base_commit") row.baseCommit &&
      is (content "current_commit") row.baseCommit &&
      is (content "environment") row.environment.value && is (content "risk") row.riskLevel.value &&
      (match content "source_root", metadata "worktree_path" with
        | .ok (some a), .ok (some b) => a = b
        | _, _ => false) &&
      is (metadata "repository_toplevel") row.sourceRoot && is (metadata "branch") row.branch &&
      is (metadata "base_commit") row.baseCommit &&
      is (metadata "contract_fingerprint") row.contractFingerprint &&
      is (metadata "authority_fingerprint") row.authorityFingerprint &&
      (match metadata "packet_ref" with
        | .ok (some s) => 0 < sqliteLength s
        | _ => false)

def hexOf (sizes : List Nat) (s : String) : Bool :=
  sqliteLength s ∈ sizes && s.toList.all isLowerHex

/-- The `CHECK`s of a Slice row; `disposition` is the last one.
mirrors src/adcp/store/migrations.py:585-671 -/
def sliceChecks (f : SliceControlFields) : List (String × Bool) :=
  let bound := f.deferReason.isNone && f.bindingFields.all (·.2.isSome)
  let deferred := f.deferReason.isSome && f.baseCommit.isNone &&
    f.implementationResultCommit.isNone && f.currentBranchHead.isNone && f.activeExecutionId.isNone
  [("slice_id", 0 < sqliteLength f.sliceId), ("stage", 0 < sqliteLength f.stage),
   ("status", 0 < sqliteLength f.status),
   ("authority_fingerprint", hexOf [64] f.authorityFingerprint),
   ("defer_reason", f.deferReason.all (0 < sqliteLength ·)),
   ("logical_source_root", 0 < sqliteLength f.logicalSourceRoot),
   ("repository_toplevel", f.repositoryToplevel.all (0 < sqliteLength ·)),
   ("branch", f.branch.all (0 < sqliteLength ·)), ("base_commit", f.baseCommit.all (hexOf [40, 64])),
   ("implementation_result_commit", f.implementationResultCommit.all (hexOf [40, 64])),
   ("current_branch_head", f.currentBranchHead.all (hexOf [40, 64])),
   ("disposition", match f.migrationClass, f.executionEligibility with
      | .MIGRATE_AS_READY_CURRENT_STATE, .ELIGIBLE_BOUND =>
        bound && f.implementationResultCommit.isSome
      | .DEFER_BINDING, .INELIGIBLE_UNTIL_PREFLIGHT => deferred
      | .DEFER_BINDING, .ELIGIBLE_PREEXECUTION_BOUND =>
        bound && f.implementationResultCommit.isNone && f.currentBranchHead = f.baseCommit
      | .DEFER_BINDING, .ELIGIBLE_BOUND =>
        bound && f.implementationResultCommit.isSome &&
          f.currentBranchHead = f.implementationResultCommit
      | .DEFER_PREREQUISITE, .INELIGIBLE_UNTIL_PREREQUISITE => deferred
      | _, _ => false)]

/-- `INSERT INTO slice_control_event`, with its monotonic trigger.
mirrors src/adcp/store/migrations.py:673-687,727-745 -/
def insertSliceEvent (event : SliceControlEvent) : Tx PyError Db Unit := do
  let db ← Tx.read id
  let versions := (db.sliceControlEvent.filter (·.sliceId = event.sliceId)).map (·.toStateVersion)
  Tx.requireAll (.check "slice_control_event")
    [("operation_key", hexOf [64] event.operationKey), ("from_state_version", -1 ≤ event.fromStateVersion),
     ("reason_code", 0 < sqliteLength event.reasonCode),
     ("to_state_version", event.toStateVersion = event.fromStateVersion + 1)]
  Tx.require (if event.fromStateVersion = -1 then db.slice? event.sliceId = none ∧ versions = []
      else (db.slice? event.sliceId).map (·.stateVersion) = some event.fromStateVersion ∧
        event.fromStateVersion ∈ versions)
    (.integrity "CONTROL_EVENT_VERSION_MISMATCH")
  Tx.require (db.sliceEvent? event.operationKey = none)
    (.integrity "UNIQUE constraint failed: slice_control_event.operation_key")
  Tx.require (event.toStateVersion ∉ versions)
    (.integrity ("UNIQUE constraint failed: slice_control_event.slice_id, " ++
      "slice_control_event.to_state_version"))
  Tx.write fun db => { db with sliceControlEvent := db.sliceControlEvent ++ [event] }

/-- The two triggers every written Slice row passes. -/
def requireSliceTriggers (f : SliceControlFields) (version : Int) : Tx PyError Db Unit := do
  let db ← Tx.read id
  Tx.require (ExecutionBinding db f) (.integrity "CONTROL_EXECUTION_BINDING_MISMATCH")
  Tx.require (f.executionEligibility = .ELIGIBLE_PREEXECUTION_BOUND →
      preexecutionContext db f version = true)
    (.integrity "PREEXECUTION_CONTEXT_BINDING_MISMATCH")

/-- `INSERT INTO slice_control_state`, version 0. -/
def insertSlice (f : SliceControlFields) (now : Timestamp) : Tx PyError Db Unit := do
  let db ← Tx.read id
  Tx.require (db.sliceControlEvent.any fun e =>
      e.sliceId = f.sliceId && e.fromStateVersion = -1 && e.toStateVersion = 0)
    (.integrity "CONTROL_STATE_EVENT_REQUIRED")
  requireSliceTriggers f 0
  Tx.requireAll (.check "slice_control_state") (sliceChecks f)
  Tx.require (db.slice? f.sliceId = none)
    (.integrity "UNIQUE constraint failed: slice_control_state.slice_id")
  Tx.write fun db => { db with sliceControlState := db.sliceControlState ++
    [{ f with stateVersion := 0, createdAt := now, updatedAt := now }] }

/-- Unbinding is the release of a binding made before execution, and nothing else.
mirrors src/adcp/store/migrations.py:974-1013
(`slice_control_state_rebinding_forbidden`) -/
def rebindAllowed (db : Db) (old : SliceControlState) (new : SliceControlFields) : Bool :=
  old.activeExecutionId.isNone || new.activeExecutionId = old.activeExecutionId ||
  (old.migrationClass = .DEFER_BINDING &&
   old.executionEligibility = .ELIGIBLE_PREEXECUTION_BOUND && new.migrationClass = .DEFER_BINDING &&
   new.executionEligibility = .INELIGIBLE_UNTIL_PREFLIGHT &&
   new.deferReason = some "PREEXECUTION_BIND_SUPERSEDED" && new.repositoryToplevel.isNone &&
   new.branch.isNone && new.baseCommit.isNone && new.implementationResultCommit.isNone &&
   new.currentBranchHead.isNone && new.activeExecutionId.isNone &&
   db.sliceControlEvent.any fun e =>
     e.sliceId = new.sliceId && e.fromStateVersion = old.stateVersion &&
     e.toStateVersion = old.stateVersion + 1 && e.reasonCode = "PREEXECUTION_RELEASE" &&
     (match jsonExtract e.metadataJson ["metadata", "released_execution_id"] with
      | .ok v => v = old.activeExecutionId
      | .error _ => false))

/-- `UPDATE slice_control_state SET …, state_version = state_version + 1 WHERE
slice_id = ? AND state_version = ?`; `set` computes the new columns. -/
def updateSlice (sliceId : String) (expectedVersion : Int)
    (set : SliceControlFields → SliceControlFields) (now : Timestamp) : Tx PyError Db Unit := do
  let db ← Tx.read id
  let old ← Tx.find (fun db => (db.slice? sliceId).filter (·.stateVersion = expectedVersion))
    (storeError "STALE_CONTROL_STATE_VERSION")
  let new := { set old.toSliceControlFields with sliceId := sliceId }
  Tx.require (db.sliceControlEvent.any fun e =>
      e.sliceId = sliceId && e.fromStateVersion = old.stateVersion &&
      e.toStateVersion = old.stateVersion + 1)
    (.integrity "CONTROL_STATE_VERSION_MISMATCH")
  Tx.require (rebindAllowed db old new = true) (.integrity "ACTIVE_EXECUTION_REBIND_FORBIDDEN")
  requireSliceTriggers new (old.stateVersion + 1)
  Tx.requireAll (.check "slice_control_state") (sliceChecks new)
  Tx.write fun db => { db with
    sliceControlState := Table.update (·.sliceId) db.sliceControlState sliceId (fun old =>
      { set old.toSliceControlFields with
        sliceId := sliceId, stateVersion := old.stateVersion + 1, createdAt := old.createdAt
        updatedAt := now }) }

/-! ## Reconcile -/

structure ReconcileSlice where
  target : SliceControlFields
  expectedStateVersion : Int
  operationKey : String
  reasonCode : String
  metadata : Json
  requiredAuthorityMode : Option AuthorityMode
  expectedAuthorityGeneration : Option Int
  insertOnly : Bool

namespace ReconcileSlice

def payload (a : ReconcileSlice) : Json :=
  .obj [("reason_code", .str a.reasonCode), ("target", a.target.json), ("metadata", a.metadata)]

def conflict (a : ReconcileSlice) : PyError :=
  storeError (if a.insertOnly then "SLICE_REGISTRATION_IDEMPOTENCY_CONFLICT"
    else "IDEMPOTENCY_CONFLICT")

/-- mirrors src/adcp/store/sqlite.py:1718-1783 -/
def body (a : ReconcileSlice) (payloadJson : String) (now : Timestamp) : Tx PyError Db Unit := do
  let current ← Tx.read (·.slice? a.target.sliceId)
  match current with
  | some row =>
    if row.toSliceControlFields = a.target then
      Tx.require (a.insertOnly = false) (storeError "SLICE_ALREADY_REGISTERED_CONFLICT")
    else do
      Tx.require (a.insertOnly = false) (storeError "SLICE_ALREADY_REGISTERED_CONFLICT")
      Tx.require (row.stateVersion = a.expectedStateVersion)
        (storeError "STALE_CONTROL_STATE_VERSION")
      Tx.require (row.activeExecutionId.isSome → a.target.activeExecutionId = row.activeExecutionId)
        (storeError "ACTIVE_EXECUTION_REBIND_FORBIDDEN")
      insertSliceEvent
        { operationKey := a.operationKey, sliceId := a.target.sliceId
          fromStateVersion := a.expectedStateVersion
          toStateVersion := a.expectedStateVersion + 1
          reasonCode := a.reasonCode, metadataJson := payloadJson, createdAt := now }
      updateSlice a.target.sliceId a.expectedStateVersion (fun _ => a.target) now
  | none => do
    Tx.require (a.expectedStateVersion = -1) (storeError "STALE_CONTROL_STATE_VERSION")
    insertSliceEvent
      { operationKey := a.operationKey, sliceId := a.target.sliceId, fromStateVersion := -1
        toStateVersion := 0, reasonCode := a.reasonCode, metadataJson := payloadJson
        createdAt := now }
    insertSlice a.target now

end ReconcileSlice

/-- mirrors src/adcp/store/sqlite.py:1666-1793 -/
def reconcileSliceTx (env : Env) (a : ReconcileSlice) : Tx PyError Db Unit := do
  validateSliceControlTarget a.target
  requireSha256 a.operationKey "operation_key"
  Tx.require (-1 ≤ a.expectedStateVersion) (storeError "INVALID_EXPECTED_STATE_VERSION")
  Tx.require (a.reasonCode ≠ "") (storeError "REASON_CODE_REQUIRED")
  Tx.require (a.metadata.isObj = true) (.raised "TypeError" "dict")
  let payloadJson ← Tx.lift (canonicalJson a.payload)
  let now := env.clock 0
  begin env 1
  let authority ← getControlAuthorityState
  Tx.require (a.requiredAuthorityMode.all (authority.mode = ·))
    (storeError "CONTROL_AUTHORITY_MODE_REQUIRED")
  Tx.require (a.requiredAuthorityMode.isSome →
      a.expectedAuthorityGeneration = some authority.authorityGeneration)
    (storeError "STALE_AUTHORITY_GENERATION")
  let replay ← Tx.read (·.sliceEvent? a.operationKey)
  match replay with
  | some event => do
    Tx.require (event.sliceId = a.target.sliceId ∧ event.metadataJson = payloadJson) a.conflict
    let row ← getSliceControlState a.target.sliceId
    Tx.require (row.toSliceControlFields = a.target) a.conflict
  | none => a.body payloadJson now

/-! ## Control authority -/

/-- Answers the row of a replay; what a fresh call answers is read after its commit.
mirrors src/adcp/store/sqlite.py:1795-1838 -/
def reconcileTransitionalAuthorityTx (env : Env) (expectedGeneration : Int)
    (sliceSnapshot rollbackSnapshot : String) : Tx PyError Db (Option ControlAuthorityState) := do
  requireSha256 sliceSnapshot "slice_snapshot_fingerprint"
  requireSha256 rollbackSnapshot "rollback_snapshot_fingerprint"
  let now := env.clock 0
  begin env 1
  let row ← getControlAuthorityState
  Tx.require (row.mode = .TRANSITIONAL_AUTHORITY) (storeError "AUTHORITY_SWITCH_FORBIDDEN_BY_E1")
  if row.sliceSnapshotFingerprint = sliceSnapshot ∧
      row.rollbackSnapshotFingerprint = rollbackSnapshot then pure (some row)
  else do
    Tx.require (row.authorityGeneration = expectedGeneration)
      (storeError "STALE_AUTHORITY_GENERATION")
    Tx.write fun db => { db with controlAuthorityState :=
      { row with
        authorityGeneration := row.authorityGeneration + 1
        sliceSnapshotFingerprint := sliceSnapshot, rollbackSnapshotFingerprint := rollbackSnapshot
        updatedAt := now } }
    pure none

def reconcileTransitionalAuthority (env : Env) (expectedGeneration : Int)
    (sliceSnapshot rollbackSnapshot : String) :
    Db → Except PyError (ControlAuthorityState × Bool) × Db :=
  Tx.commitThen (reconcileTransitionalAuthorityTx env expectedGeneration sliceSnapshot
      rollbackSnapshot) fun
    | some row => pure (row, true)
    | none => do
      let row ← getControlAuthorityState
      pure (row, false)

structure TransitionAuthority where
  eventType : AuthorityEventType
  expectedGeneration : Int
  expectedSliceSnapshotFingerprint : String
  expectedRollbackSnapshotFingerprint : String
  cutoverId : String
  humanDecisionRef : String
  operationKey : String

namespace TransitionAuthority

def fromMode (a : TransitionAuthority) : AuthorityMode :=
  match a.eventType with
  | .AUTHORITY_SWITCH => .TRANSITIONAL_AUTHORITY
  | .AUTHORITY_ROLLBACK => .CONTROL_STORE_AUTHORITY

def toMode (a : TransitionAuthority) : AuthorityMode :=
  match a.eventType with
  | .AUTHORITY_SWITCH => .CONTROL_STORE_AUTHORITY
  | .AUTHORITY_ROLLBACK => .TRANSITIONAL_AUTHORITY

/-- The row after the transition recorded at `t`, which is what the trigger
`authority_transition_event_apply` writes. -/
def applied (a : TransitionAuthority) (t : Timestamp) : ControlAuthorityState where
  mode := a.toMode
  authorityGeneration := a.expectedGeneration + 1
  cutoverId := if a.eventType = .AUTHORITY_SWITCH then some a.cutoverId else none
  sliceSnapshotFingerprint := a.expectedSliceSnapshotFingerprint
  rollbackSnapshotFingerprint := a.expectedRollbackSnapshotFingerprint
  updatedAt := t
  switchedAt := if a.eventType = .AUTHORITY_SWITCH then some t else none

def event (a : TransitionAuthority) (eventId : String) (t : Timestamp) : AuthorityTransitionEvent where
  eventId := eventId
  operationKey := a.operationKey
  cutoverId := a.cutoverId
  eventType := a.eventType
  fromMode := a.fromMode
  toMode := a.toMode
  fromGeneration := a.expectedGeneration
  toGeneration := a.expectedGeneration + 1
  sliceSnapshotFingerprint := a.expectedSliceSnapshotFingerprint
  rollbackSnapshotFingerprint := a.expectedRollbackSnapshotFingerprint
  humanDecisionRef := a.humanDecisionRef
  createdAt := t

end TransitionAuthority

/-- mirrors src/adcp/store/sqlite.py:1895-1910 -/
def TransitionAuthority.validate (a : TransitionAuthority) : Tx PyError Db Unit := do
  Tx.require (0 ≤ a.expectedGeneration) (storeError "INVALID_EXPECTED_AUTHORITY_GENERATION")
  requireSha256 a.expectedSliceSnapshotFingerprint "expected_slice_snapshot_fingerprint"
  requireSha256 a.expectedRollbackSnapshotFingerprint "expected_rollback_snapshot_fingerprint"
  requireSha256 a.operationKey "operation_key"
  Tx.require (hasText a.cutoverId = true) (storeError "CUTOVER_ID_REQUIRED")
  Tx.require (hasText a.humanDecisionRef = true) (storeError "HUMAN_DECISION_REF_REQUIRED")

/-- `_transition_authority`; its clock reading is taken inside the transaction,
after the guard's, and every constraint it meets is `AUTHORITY_TRANSITION_REJECTED`.
Answers the row and whether the call was a replay.
mirrors src/adcp/store/sqlite.py:1884-2027 -/
def transitionAuthorityTx (env : Env) (a : TransitionAuthority) :
    Tx PyError Db (ControlAuthorityState × Bool) := do
  a.validate
  begin env 0
  let replay ← Tx.read fun db =>
    db.authorityTransitionEvent.find? (·.operationKey = a.operationKey)
  let row ← getControlAuthorityState
  match replay with
  | some found => do
    Tx.require (found = a.event found.eventId found.createdAt) (storeError "IDEMPOTENCY_CONFLICT")
    Tx.require (row = a.applied found.createdAt) (storeError "IDEMPOTENCY_CONFLICT")
    pure (row, true)
  | none => do
    Tx.require (row.mode = a.fromMode) (storeError "AUTHORITY_MODE_CONFLICT")
    Tx.require (row.authorityGeneration = a.expectedGeneration)
      (storeError "STALE_AUTHORITY_GENERATION")
    Tx.require (row.sliceSnapshotFingerprint = a.expectedSliceSnapshotFingerprint)
      (storeError "SLICE_SNAPSHOT_FINGERPRINT_MISMATCH")
    Tx.require (row.rollbackSnapshotFingerprint = a.expectedRollbackSnapshotFingerprint)
      (storeError "ROLLBACK_SNAPSHOT_FINGERPRINT_MISMATCH")
    Tx.require (a.eventType = .AUTHORITY_SWITCH → row.cutoverId = none ∧ row.switchedAt = none)
      (storeError "AUTHORITY_MODE_CONFLICT")
    Tx.require (a.eventType = .AUTHORITY_ROLLBACK →
        row.cutoverId = some a.cutoverId ∧ row.switchedAt.isSome) (storeError "CUTOVER_ID_MISMATCH")
    let t := env.clock 1
    let db ← Tx.read id
    Tx.require (0 < sqliteTrimLength a.cutoverId ∧ 0 < sqliteTrimLength a.humanDecisionRef)
      (storeError "AUTHORITY_TRANSITION_REJECTED")
    Tx.require (db.authorityTransitionEvent.all fun e => e.eventId ≠ env.uuid 0 ∧
        e.fromGeneration ≠ a.expectedGeneration ∧
        ¬ (e.cutoverId = a.cutoverId ∧ e.eventType = a.eventType))
      (storeError "AUTHORITY_TRANSITION_REJECTED")
    Tx.write fun db => { db with
      authorityTransitionEvent := db.authorityTransitionEvent ++ [a.event (env.uuid 0) t]
      controlAuthorityState := a.applied t }
    pure (a.applied t, false)


/-! ## What they do -/

variable {α : Type} {env : Env} {db db' : Db}

theorem requireSliceTriggers_bind_ok {fields : SliceControlFields} {version : Int}
    {f : Unit → Tx PyError Db α} {r : α × Db}
    (h : (requireSliceTriggers fields version >>= f) db = .ok r) :
    ExecutionBinding db fields ∧ f () db = .ok r := by
  obtain ⟨u, s, hx, hf⟩ := Tx.bind_ok.mp h
  unfold requireSliceTriggers at hx
  have hx := Tx.read_bind_ok.mp hx
  obtain ⟨hb, hx⟩ := Tx.require_bind_ok.mp hx
  cases (Tx.require_ok.mp hx).2
  exact ⟨hb, hf⟩

theorem insertSliceEvent_bind_ok {event : SliceControlEvent} {f : Unit → Tx PyError Db α}
    {r : α × Db} (h : (insertSliceEvent event >>= f) db = .ok r) :
    f () { db with sliceControlEvent := db.sliceControlEvent ++ [event] } = .ok r := by
  obtain ⟨u, s, hx, hf⟩ := Tx.bind_ok.mp h
  unfold insertSliceEvent at hx
  have hx := Tx.read_bind_ok.mp hx
  obtain ⟨-, hx⟩ := Tx.requireAll_bind_ok.mp hx
  obtain ⟨-, hx⟩ := Tx.require_bind_ok.mp hx
  obtain ⟨-, hx⟩ := Tx.require_bind_ok.mp hx
  obtain ⟨-, hx⟩ := Tx.require_bind_ok.mp hx
  cases Tx.write_ok.mp hx
  exact hf

/-- A new Slice row has a free id and agrees with the execution it names. -/
theorem insertSlice_ok {fields : SliceControlFields} {now : Timestamp} {u : Unit}
    (h : insertSlice fields now db = .ok (u, db')) :
    ExecutionBinding db fields ∧ db.slice? fields.sliceId = none ∧
      ∃ row : SliceControlState, row.toSliceControlFields = fields ∧ row.stateVersion = 0 ∧
        db' = { db with sliceControlState := db.sliceControlState ++ [row] } := by
  unfold insertSlice at h
  have h := Tx.read_bind_ok.mp h
  obtain ⟨-, h⟩ := Tx.require_bind_ok.mp h
  obtain ⟨hb, h⟩ := requireSliceTriggers_bind_ok h
  obtain ⟨-, h⟩ := Tx.requireAll_bind_ok.mp h
  obtain ⟨hfree, h⟩ := Tx.require_bind_ok.mp h
  cases Tx.write_ok.mp h
  exact ⟨hb, hfree, _, rfl, rfl, rfl⟩

/-- What an update makes of a row. -/
def rewriteSlice (id : String) (set : SliceControlFields → SliceControlFields) (now : Timestamp)
    (old : SliceControlState) : SliceControlState :=
  { set old.toSliceControlFields with
    sliceId := id, stateVersion := old.stateVersion + 1, createdAt := old.createdAt
    updatedAt := now }

/-- An updated Slice row keeps its id and agrees with the execution it names. -/
theorem updateSlice_bind_ok {id : String} {version : Int}
    {set : SliceControlFields → SliceControlFields} {now : Timestamp} {f : Unit → Tx PyError Db α}
    {r : α × Db} (h : (updateSlice id version set now >>= f) db = .ok r) :
    ∃ old, db.slice? id = some old ∧ old.stateVersion = version ∧
      ExecutionBinding db { set old.toSliceControlFields with sliceId := id } ∧
      f () { db with
        sliceControlState :=
          Table.update (·.sliceId) db.sliceControlState id (rewriteSlice id set now) } = .ok r := by
  obtain ⟨u, s, hx, hf⟩ := Tx.bind_ok.mp h
  unfold updateSlice at hx
  have hx := Tx.read_bind_ok.mp hx
  obtain ⟨old, hold, hx⟩ := Tx.find_bind_ok.mp hx
  obtain ⟨hold, hv⟩ := Option.filter_eq_some_iff.mp hold
  obtain ⟨-, hx⟩ := Tx.require_bind_ok.mp hx
  obtain ⟨-, hx⟩ := Tx.require_bind_ok.mp hx
  obtain ⟨hb, hx⟩ := requireSliceTriggers_bind_ok hx
  obtain ⟨-, hx⟩ := Tx.requireAll_bind_ok.mp hx
  cases Tx.write_ok.mp hx
  exact ⟨old, hold, of_decide_eq_true hv, hb, hf⟩


theorem validateDisposition_readOnly (f : SliceControlFields) :
    Tx.ReadOnly (f.validateDisposition) := by
  unfold SliceControlFields.validateDisposition
  split
  · exact .bind .require fun _ => .requireAll
  · exact .bind .require fun _ => .bind .requireAll fun _ => .require
  · exact .bind .require fun _ => .bind .requireAll fun _ => .bind .require fun _ => .require
  · exact .bind .require fun _ => .requireAll
  · exact .bind .require fun _ => .requireAll
  · exact .fail

theorem validateSliceControlTarget_readOnly (f : SliceControlFields) :
    Tx.ReadOnly (validateSliceControlTarget f) := by
  unfold validateSliceControlTarget requireSha256
  exact .bind .requireAll fun _ => .bind .requireAll fun _ => .bind .requireAll fun _ =>
    .bind .require fun _ => .bind .lift fun _ => .bind .require fun _ =>
    validateDisposition_readOnly f


/-- A target that is accepted carries its own fingerprint. -/
theorem validateSliceControlTarget_bind_ok {target : SliceControlFields} {f : Unit → Tx PyError Db α}
    {r : α × Db} (h : (validateSliceControlTarget target >>= f) db = .ok r) :
    target.controlStateAuthorityFingerprint = .ok target.authorityFingerprint ∧ f () db = .ok r := by
  obtain ⟨u, hx, hf⟩ := (validateSliceControlTarget_readOnly target).bind_ok h
  refine ⟨?_, hf⟩
  unfold validateSliceControlTarget requireSha256 at hx
  obtain ⟨-, hx⟩ := Tx.requireAll_bind_ok.mp hx
  obtain ⟨-, hx⟩ := Tx.requireAll_bind_ok.mp hx
  obtain ⟨-, hx⟩ := Tx.requireAll_bind_ok.mp hx
  obtain ⟨-, hx⟩ := Tx.require_bind_ok.mp hx
  obtain ⟨fingerprint, hfingerprint, hx⟩ := Tx.lift_bind_ok.mp hx
  obtain ⟨he, -⟩ := Tx.require_bind_ok.mp hx
  rw [hfingerprint, he]

/-- The text an event records is that of a payload whose target is `f`. -/
def SliceControlEvent.Records (event : SliceControlEvent) (f : SliceControlFields) : Prop :=
  ∃ metadata, canonicalJson (.obj [("reason_code", .str event.reasonCode), ("target", f.json),
    ("metadata", metadata)]) = .ok event.metadataJson

/-- The Slice event of an operation: its key, its Slice and its reason. -/
structure SliceControlEvent.Logs (event : SliceControlEvent) (key id reason : String) : Prop where
  key : event.operationKey = key
  slice : event.sliceId = id
  reason : event.reasonCode = reason

/-- `set` may be applied to the Slice row `id`: it finds `old`, and what it makes of
it agrees with the execution it names. -/
structure SliceSet (db : Db) (id : String) (set : SliceControlState → SliceControlState)
    (old : SliceControlState) : Prop where
  found : db.slice? id = some old
  keepsId : ∀ s, (set s).sliceId = id
  bound : ExecutionBinding db (set old).toSliceControlFields

/-- `set` rewrites the Slice row `old`, and `event` records what it makes of it. -/
structure SliceMove (db : Db) (set : SliceControlState → SliceControlState)
    (old : SliceControlState) (event : SliceControlEvent) : Prop
    extends SliceSet db event.sliceId set old where
  source : event.fromStateVersion = old.stateVersion
  target : event.toStateVersion = old.stateVersion + 1
  version : (set old).stateVersion = old.stateVersion + 1
  recorded : event.Records (set old).toSliceControlFields
  fingerprint : (set old).controlStateAuthorityFingerprint = .ok (set old).authorityFingerprint

/-- `row` is a new Slice row, and `event` records it. -/
structure SliceAdd (db : Db) (row : SliceControlState) (event : SliceControlEvent) : Prop where
  free : db.slice? row.sliceId = none
  bound : ExecutionBinding db row.toSliceControlFields
  id : event.sliceId = row.sliceId
  source : event.fromStateVersion = -1
  target : event.toStateVersion = 0
  version : row.stateVersion = 0
  recorded : event.Records row.toSliceControlFields
  fingerprint : row.controlStateAuthorityFingerprint = .ok row.authorityFingerprint

theorem SliceSet.of_same {db₁ : Db} {id : String} {set : SliceControlState → SliceControlState}
    {old : SliceControlState} (h : SliceSet db₁ id set old)
    (hslices : db₁.sliceControlState = db.sliceControlState)
    (hrows : db₁.sliceExecution = db.sliceExecution) : SliceSet db id set old := by
  have hslice : db₁.slice? id = db.slice? id := by
    unfold Db.slice?
    rw [hslices]
  have hexecution : ∀ id, db₁.execution? id = db.execution? id := fun id => by
    unfold Db.execution?
    rw [hrows]
  obtain ⟨found, keepsId, bound⟩ := h
  refine ⟨hslice ▸ found, keepsId, fun e he => ?_⟩
  rw [← hexecution e]
  exact bound e he

theorem SliceMove.of_same {db₁ : Db} {set : SliceControlState → SliceControlState}
    {old : SliceControlState} {event : SliceControlEvent} (h : SliceMove db₁ set old event)
    (hslices : db₁.sliceControlState = db.sliceControlState)
    (hrows : db₁.sliceExecution = db.sliceExecution) : SliceMove db set old event :=
  ⟨h.toSliceSet.of_same hslices hrows, h.source, h.target, h.version, h.recorded, h.fingerprint⟩

/-- A row rewritten into the target that its event records. -/
theorem SliceMove.of_target (event : SliceControlEvent) (target : SliceControlFields)
    (set : SliceControlFields → SliceControlFields) (now : Timestamp) {metadata : Json}
    {old : SliceControlState}
    (hbound : ExecutionBinding db { set old.toSliceControlFields with sliceId := event.sliceId })
    (hold : db.slice? event.sliceId = some old) (hversion : old.stateVersion = event.fromStateVersion)
    (hset : set old.toSliceControlFields = target) (hid : target.sliceId = event.sliceId)
    (hnext : event.toStateVersion = event.fromStateVersion + 1)
    (hjson : canonicalJson (.obj [("reason_code", .str event.reasonCode), ("target", target.json),
      ("metadata", metadata)]) = .ok event.metadataJson)
    (hfingerprint : target.controlStateAuthorityFingerprint = .ok target.authorityFingerprint) :
    SliceMove db (rewriteSlice event.sliceId set now) old event := by
  have hfields : { set old.toSliceControlFields with sliceId := event.sliceId } = target := by
    rw [hset, ← hid]
  have hrecords : event.Records { set old.toSliceControlFields with sliceId := event.sliceId } := by
    rw [hfields]
    exact ⟨metadata, hjson⟩
  rw [← hfields] at hfingerprint
  refine ⟨⟨hold, fun _ => rfl, hbound⟩, hversion.symm, ?_, rfl, hrecords, hfingerprint⟩
  rw [hnext, hversion]

/-- A reconcile leaves the Slice rows, appends one, or rewrites one without giving it
another execution. -/
theorem reconcileSliceTx_ok {a : ReconcileSlice} (h : reconcileSliceTx env a db = .ok ((), db')) :
    db' = db ∨
    (∃ row event, SliceAdd db row event ∧
      db' = { db with
        sliceControlEvent := db.sliceControlEvent ++ [event]
        sliceControlState := db.sliceControlState ++ [row] }) ∨
    (∃ set old event, SliceMove db set old event ∧
      (old.activeExecutionId.isSome → (set old).activeExecutionId = old.activeExecutionId) ∧
      db' = { db with
        sliceControlEvent := db.sliceControlEvent ++ [event]
        sliceControlState :=
          Table.update (·.sliceId) db.sliceControlState event.sliceId set }) := by
  unfold reconcileSliceTx requireSha256 getControlAuthorityState getSliceControlState at h
  obtain ⟨hfingerprint, h⟩ := validateSliceControlTarget_bind_ok h
  obtain ⟨-, h⟩ := Tx.require_bind_ok.mp h
  obtain ⟨-, h⟩ := Tx.require_bind_ok.mp h
  obtain ⟨-, h⟩ := Tx.require_bind_ok.mp h
  obtain ⟨-, h⟩ := Tx.require_bind_ok.mp h
  obtain ⟨json, hjson, h⟩ := Tx.lift_bind_ok.mp h
  have h := Tx.read_bind_ok.mp (begin_bind_ok h)
  obtain ⟨-, h⟩ := Tx.require_bind_ok.mp h
  obtain ⟨-, h⟩ := Tx.require_bind_ok.mp h
  rcases Tx.read_option_bind_ok h with ⟨event, -, h⟩ | ⟨-, h⟩
  · obtain ⟨-, h⟩ := Tx.require_bind_ok.mp h
    obtain ⟨row, -, h⟩ := Tx.find_bind_ok.mp h
    cases (Tx.require_ok.mp h).2
    exact Or.inl rfl
  unfold ReconcileSlice.body at h
  rcases Tx.read_option_bind_ok h with ⟨row, hrow, h⟩ | ⟨-, h⟩
  · rcases Tx.ite_ok.mp h with ⟨-, h⟩ | ⟨-, h⟩
    · cases (Tx.require_ok.mp h).2
      exact Or.inl rfl
    · obtain ⟨-, h⟩ := Tx.require_bind_ok.mp h
      obtain ⟨-, h⟩ := Tx.require_bind_ok.mp h
      obtain ⟨hkeeps, h⟩ := Tx.require_bind_ok.mp h
      have h := insertSliceEvent_bind_ok h
      obtain ⟨old, hold, hversion, hb, h⟩ := updateSlice_bind_ok (f := pure)
        (Tx.bind_ok.mpr ⟨_, _, h, rfl⟩)
      obtain rfl : row = old := Option.some.inj (hrow.symm.trans hold)
      cases Tx.pure_ok.mp h
      have hmove := SliceMove.of_target ⟨a.operationKey, a.target.sliceId, a.expectedStateVersion,
        a.expectedStateVersion + 1, a.reasonCode, json, env.clock 0⟩ a.target (fun _ => a.target)
        (env.clock 0) hb hold hversion rfl rfl rfl hjson hfingerprint
      exact Or.inr (Or.inr ⟨_, row, _, hmove.of_same rfl rfl, hkeeps, rfl⟩)
  · obtain ⟨-, h⟩ := Tx.require_bind_ok.mp h
    have h := insertSliceEvent_bind_ok h
    obtain ⟨hb, hfree, row, hrow, hversion, rfl⟩ := insertSlice_ok h
    refine Or.inr (Or.inl ⟨row, _, ⟨hrow ▸ hfree, hrow ▸ hb, hrow ▸ rfl, rfl, rfl, hversion,
      ⟨a.metadata, ?_⟩, ?_⟩, rfl⟩)
    · rw [hrow]
      exact hjson
    · rw [hrow]
      exact hfingerprint

/-- The row after a snapshot reconcile at `t`. -/
def ControlAuthorityState.reconciled (row : ControlAuthorityState) (slice rollback : String)
    (t : Timestamp) : ControlAuthorityState :=
  { row with
    authorityGeneration := row.authorityGeneration + 1
    sliceSnapshotFingerprint := slice
    rollbackSnapshotFingerprint := rollback
    updatedAt := t }

/-- A snapshot reconcile finds its material in the row, or writes it there at the
generation it expects; it writes nothing else. -/
theorem reconcileTransitionalAuthorityTx_ok {generation : Int} {slice rollback : String}
    {found : Option ControlAuthorityState}
    (h : reconcileTransitionalAuthorityTx env generation slice rollback db = .ok (found, db')) :
    db.controlAuthorityState.mode = .TRANSITIONAL_AUTHORITY ∧
      ((found = some db.controlAuthorityState ∧ db' = db) ∨
        (found = none ∧ db.controlAuthorityState.authorityGeneration = generation ∧
          db' = { db with controlAuthorityState :=
            db.controlAuthorityState.reconciled slice rollback (env.clock 0) })) := by
  unfold reconcileTransitionalAuthorityTx requireSha256 getControlAuthorityState at h
  obtain ⟨-, h⟩ := Tx.require_bind_ok.mp h
  obtain ⟨-, h⟩ := Tx.require_bind_ok.mp h
  have h := Tx.read_bind_ok.mp (begin_bind_ok h)
  obtain ⟨hmode, h⟩ := Tx.require_bind_ok.mp h
  rcases Tx.ite_ok.mp h with ⟨-, h⟩ | ⟨-, h⟩
  · cases Tx.pure_ok.mp h
    exact ⟨hmode, Or.inl ⟨rfl, rfl⟩⟩
  · obtain ⟨hgeneration, h⟩ := Tx.require_bind_ok.mp h
    have h := Tx.write_bind_ok.mp h
    cases Tx.pure_ok.mp h
    exact ⟨hmode, Or.inr ⟨rfl, hgeneration, rfl⟩⟩

namespace TransitionAuthority

/-- What a fresh switch or rollback found: the row it leads from, and a free key,
generation and cutover id. -/
structure Transits (a : TransitionAuthority) (env : Env) (db : Db) : Prop where
  mode : db.controlAuthorityState.mode = a.fromMode
  generation : db.controlAuthorityState.authorityGeneration = a.expectedGeneration
  slice : db.controlAuthorityState.sliceSnapshotFingerprint = a.expectedSliceSnapshotFingerprint
  rollback : db.controlAuthorityState.rollbackSnapshotFingerprint =
    a.expectedRollbackSnapshotFingerprint
  fresh : a.eventType = .AUTHORITY_SWITCH →
    db.controlAuthorityState.cutoverId = none ∧ db.controlAuthorityState.switchedAt = none
  current : a.eventType = .AUTHORITY_ROLLBACK →
    db.controlAuthorityState.cutoverId = some a.cutoverId ∧
      db.controlAuthorityState.switchedAt.isSome
  unused : ∀ e ∈ db.authorityTransitionEvent, e.operationKey ≠ a.operationKey
  free : ∀ e ∈ db.authorityTransitionEvent, e.fromGeneration ≠ a.expectedGeneration ∧
    ¬ (e.cutoverId = a.cutoverId ∧ e.eventType = a.eventType)

theorem validate_readOnly (a : TransitionAuthority) : Tx.ReadOnly a.validate := by
  unfold validate requireSha256
  exact .bind .require fun _ => .bind .require fun _ => .bind .require fun _ =>
    .bind .require fun _ => .bind .require fun _ => .require

end TransitionAuthority

/-- A switch or rollback finds its own event and the row it left, or commits both. -/
theorem transitionAuthorityTx_ok {a : TransitionAuthority} {row : ControlAuthorityState}
    {replayed : Bool} (h : transitionAuthorityTx env a db = .ok ((row, replayed), db')) :
    (replayed = true ∧ db' = db ∧ row = db.controlAuthorityState ∧
      ∃ found ∈ db.authorityTransitionEvent, found = a.event found.eventId found.createdAt ∧
        row = a.applied found.createdAt) ∨
    (replayed = false ∧ a.validate db = .ok ((), db) ∧ a.Transits env db ∧
      row = a.applied (env.clock 1) ∧ db' = { db with
        authorityTransitionEvent :=
          db.authorityTransitionEvent ++ [a.event (env.uuid 0) (env.clock 1)]
        controlAuthorityState := a.applied (env.clock 1) }) := by
  unfold transitionAuthorityTx getControlAuthorityState at h
  obtain ⟨_, hvalid, h⟩ := a.validate_readOnly.bind_ok h
  have h := begin_bind_ok h
  rcases Tx.read_option_bind_ok h with ⟨found, hfound, h⟩ | ⟨hnone, h⟩
  · have h := Tx.read_bind_ok.mp h
    obtain ⟨hevent, h⟩ := Tx.require_bind_ok.mp h
    obtain ⟨hrow, h⟩ := Tx.require_bind_ok.mp h
    cases Tx.pure_ok.mp h
    exact Or.inl ⟨rfl, rfl, rfl, found, List.mem_of_find?_eq_some hfound, hevent, hrow⟩
  · have h := Tx.read_bind_ok.mp h
    obtain ⟨hmode, h⟩ := Tx.require_bind_ok.mp h
    obtain ⟨hgeneration, h⟩ := Tx.require_bind_ok.mp h
    obtain ⟨hslice, h⟩ := Tx.require_bind_ok.mp h
    obtain ⟨hrollback, h⟩ := Tx.require_bind_ok.mp h
    obtain ⟨hfresh, h⟩ := Tx.require_bind_ok.mp h
    obtain ⟨hcurrent, h⟩ := Tx.require_bind_ok.mp h
    have h := Tx.read_bind_ok.mp h
    obtain ⟨-, h⟩ := Tx.require_bind_ok.mp h
    obtain ⟨hfree, h⟩ := Tx.require_bind_ok.mp h
    have h := Tx.write_bind_ok.mp h
    cases Tx.pure_ok.mp h
    refine Or.inr ⟨rfl, hvalid, ⟨hmode, hgeneration, hslice, hrollback, hfresh, hcurrent,
      fun e he => ?_, fun e he => ?_⟩, rfl, rfl⟩
    · exact of_decide_eq_false (eq_false_of_ne_true (List.find?_eq_none.mp hnone e he))
    · exact (of_decide_eq_true (List.all_eq_true.mp hfree e he)).2

end Adcp.L3
