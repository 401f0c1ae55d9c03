import Adcp.L1Base.Method
import Adcp.L1Base.Sha256
import Adcp.L3Store.GlobalWriter

/-!
# The production migration orchestrator

`ProductionMigrationOrchestrator.run` takes a schema-v6 database to schema v7 while every
writer is stopped: it takes the writer lease, stops the writers, backs the database up,
lets go of its client for the one migration transaction, binds a new client to the same
lease, checks what the migration has preserved, starts the writers and frees the lease.
Its object keeps its fields when an exception leaves a step, and one handler turns every
exception into a `ProductionMigrationError` with a phase.

* `MigrationCall`: what it calls, and `Answer`, what each call answers. Whatever reads a
  file or a database is a call: its answer is not the orchestrator's.
* `Site`: where in `run` a call stands, that is, what an exception of it does.
* `prepare`, `transact`, `rebind`, `conclude`: `run` in four parts; `report`: its handler.
-/
namespace Adcp.L5.Migration

open Adcp.L1 Adcp.L2 Adcp.L3

/-! ## Constants -/

def changeId : String := "ADCP-V6V7-PRODUCTION-MIGRATION-ORCHESTRATOR-01A"
def resource : String := "GLOBAL_PRODUCTION"
def leaseWriterClass : String := "ADCP_PRODUCTION_MIGRATION_ORCHESTRATOR"
def leaseOperationClass : String := "PRODUCTION_SCHEMA_MIGRATION"
def migrationVersion : Int := 7
def migrationName : String := "0007_evaluator_artifact_seal"
def migrationChecksum : String := "e2488288c73cfb0572430eb38bfd4279b98ddaf4b5eb81468d0b7a666c495596"
def leaseTtlSeconds : Int := 300
def preBeginMinRemainingHorizonMicroseconds : Int := 240000000
def migrationTransactionBudgetNanoseconds : Int := 30000000000
def postTransactionRebindMaxDelayNanoseconds : Int := 15000000000

def propertyAiWriterCodes : List String := ["W01", "W02", "W03", "W04", "W05", "W06", "W07"]
def adcpWriterCodes : List String := ["W08", "W09"]
def expectedWriterCodes : List String := propertyAiWriterCodes ++ adcpWriterCodes

/-- `_LEASE_CONTEXT_FIELDS` -/
def leaseContextFields : List String :=
  ["resource_key", "owner_id", "owner_execution_id", "change_id", "slice_id", "writer_class",
   "owner_session_role", "track", "repository_or_runtime", "operation_class", "target",
   "fencing_token", "acquired_at"]

/-- `_LEASE_LIFECYCLE_FIELDS` -/
def leaseLifecycleFields : List String := ["state", "expires_at", "heartbeat_at", "updated_at"]

/-! ## Exceptions -/

/-- The phases an error reports.
mirrors src/adcp/production_migration_orchestrator.py:60-75 -/
inductive Phase where
  | preflight | preTransaction | rollback | postCommit | ambiguous
  deriving DecidableEq, Repr

/-- mirrors src/adcp/production_migration_orchestrator.py:52-57 (`_ExecutionState`) -/
inductive ExecutionState where
  | notYetQuiesced | quiescedPreTransaction | migrationTransactionOrRollback | committedV7
  | ambiguousAuthority
  deriving DecidableEq, Repr

/-- A `ProductionMigrationError`, or any other exception with its text. -/
inductive MigrationError where
  | migration (code detail : String) (phase : Phase) (schemaVersion : Option Int)
  | other (text : String)
  deriving DecidableEq, Repr

/-- `str(error)` -/
def MigrationError.text : MigrationError → String
  | .migration code detail _ _ => if detail = "" then code else code ++ ": " ++ detail
  | .other text => text

/-! ## What the calls answer -/

/-- mirrors src/adcp/production_migration_orchestrator.py:91-105 -/
structure RuntimeWriter where
  serviceCode : String
  runtimeId : String
  classification : String
  state : String
  identityValidation : String
  writeCapable : Bool
  conflicting : Bool
  deriving DecidableEq, Repr

def RuntimeWriter.identity (w : RuntimeWriter) : String × String := (w.serviceCode, w.runtimeId)

/-- A row of `global_production_writer_lease` as a client answers it. -/
structure LeaseRow where
  resourceKey : Option String
  lease : GlobalWriterLease
  deriving DecidableEq, Repr

/-- The columns read of the latest row of `global_production_writer_event`. -/
structure LatestWriterEvent where
  eventSeq : Int
  eventType : String
  toFencingToken : Int
  newOwnerId : Option String
  newOwnerExecutionId : Option String
  newChangeId : Option String
  deriving DecidableEq, Repr

structure LaterWriterEvent where
  eventSeq : Int
  eventType : String
  fromFencingToken : Int
  toFencingToken : Int
  deriving DecidableEq, Repr

/-- A value of SQLite, with the type it is stored with. -/
inductive SqliteValue where
  | null
  | integer (n : Int)
  | real (hex : String)
  | text (s : String)
  | blob (hex : String)
  deriving DecidableEq, Repr

/-- mirrors src/adcp/production_migration_orchestrator.py:119-123 -/
structure TableFingerprint where
  columns : List String
  rowCount : Int
  sha256 : String
  deriving DecidableEq, Repr

/-- mirrors src/adcp/production_migration_orchestrator.py:126-131 -/
structure ExactRowSet where
  columns : List String
  rows : List (List (String × String))
  deriving DecidableEq, Repr

/-- Mappings, each with its keys in order.
mirrors src/adcp/production_migration_orchestrator.py:134-139 -/
structure PreservationBaseline where
  tables : List (String × TableFingerprint)
  authority : List (String × SqliteValue)
  lease : List (String × SqliteValue)
  schemaMigration0001To0006 : ExactRowSet
  deriving DecidableEq, Repr

/-- mirrors src/adcp/production_migration_orchestrator.py:142-151 -/
structure BackupEvidence where
  evidenceDirectory : String
  backupPath : String
  manifestPath : String
  manifestIdentity : String
  sourceSha256 : String
  backupSha256 : String
  sourceSize : Int
  backupSize : Int
  deriving DecidableEq, Repr

/-- mirrors src/adcp/production_migration_orchestrator.py:154-165 -/
structure ProductionMigrationResult where
  ownerId : String
  ownerExecutionId : String
  fencingToken : Int
  previousVersion : Int
  version : Int
  backup : BackupEvidence
  preservedTableCount : Nat
  quiescedIdentities : List (String × String)
  finalLeaseState : WriterState
  productionEffect : Int
  deriving DecidableEq, Repr

/-! ## Calls -/

/-- What becomes of an exception of the call: it leaves the body of `run`; it is wrapped as
an ambiguous rebind; it is raised while such a one is reported; it is caught and kept, or
ignored; it is raised by the last `finally`. -/
inductive Site where
  | run | rebind | rebindFailed | caught | closing
  deriving DecidableEq, Repr

/-- What the orchestrator calls. `resolveDcs` and `resolveRepository` are the two ways the
path is resolved, `contractProfile` is `_thin_contract().profile_for_version`, `joinPump`
answers whether the heartbeat thread is still alive, `pumpError` what it has recorded;
`now` and the expiries are in microseconds, `monotonic` in nanoseconds. `bindGuard` hands
methods of the orchestrator to the adapter: they read, and write none of its fields. -/
inductive MigrationCall where
  | suppliedPathIsSymlink
  | resolveDcs
  | resolveRepository
  | isFile (path : String)
  | evidenceRootIsDir
  | evidenceRootIsSymlink
  | resolveCanonical (path : String)
  | validateAuthority
  | readSchemaVersion (site : Site)
  | contractProfile (version : Int)
  | openClient (site : Site)
  | acquire (a : AcquireWriter)
  | assertCurrent (site : Site) (ownerId : String) (fencingToken : Int)
  | latestWriterEvent
  | eventsAfter (site : Site) (cursor : Int)
  | bindGuard
  | startPump
  | joinPump (site : Site)
  | pumpError (site : Site)
  | discover
  | quiesce (writer : RuntimeWriter)
  | inspect (writer : RuntimeWriter)
  | reactivate (writer : RuntimeWriter)
  | now
  | monotonic
  | createBackup (fencingToken now : Int)
  | verifyBackup (evidence : BackupEvidence)
  | heartbeat (ownerId : String) (fencingToken ttlSeconds : Int)
  | captureBaseline (version : Int)
  | closeClient (site : Site)
  | connect
  | enableForeignKeys
  | migrate
  | closeConnection
  | lineage
  | sealCount
  | release (site : Site) (r : ReleaseWriter)
  | getLease

/-- `discover` may answer values that are no `RuntimeWriter`; an authority's evidence is a
mapping with its keys in order, or `None`. -/
abbrev Answer : MigrationCall → Type
  | .suppliedPathIsSymlink | .isFile _ | .evidenceRootIsDir | .evidenceRootIsSymlink
  | .joinPump _ => Bool
  | .resolveDcs | .resolveRepository | .resolveCanonical _ => String
  | .validateAuthority => Option (List (String × String))
  | .readSchemaVersion _ | .now | .monotonic | .sealCount => Int
  | .acquire _ | .assertCurrent .. | .heartbeat .. | .getLease => LeaseRow
  | .latestWriterEvent => Option LatestWriterEvent
  | .eventsAfter .. => List LaterWriterEvent
  | .pumpError _ => Option String
  | .discover => List (Option RuntimeWriter)
  | .inspect _ => RuntimeWriter
  | .createBackup .. => BackupEvidence
  | .captureBaseline _ => PreservationBaseline
  | .lineage => List (Int × String × String)
  | .contractProfile _ | .openClient _ | .bindGuard | .startPump | .quiesce _ | .reactivate _
  | .verifyBackup _ | .closeClient _ | .connect | .enableForeignKeys | .migrate
  | .closeConnection | .release .. => Unit

def MigrationCall.site : MigrationCall → Site
  | .readSchemaVersion site | .openClient site | .assertCurrent site .. | .eventsAfter site _
  | .joinPump site | .pumpError site | .closeClient site | .release site _ => site
  | .migrate => .caught
  | _ => .run

/-! ## The object -/

/-- mirrors src/adcp/production_migration_orchestrator.py:78-88 -/
structure ExecutionContext where
  evidenceRoot : String
  acceptedGitHead : String
  acceptedGitTree : String
  authorityRef : String
  canonicalProductionPath : Option String
  canonicalProductionAuthorized : Bool
  backgroundHeartbeat : Bool

/-- What the constructor fixes, the constants of the migration registry, and how Python
writes an identity and a number of seconds with six decimals. -/
structure Orchestrator where
  context : ExecutionContext
  ownerId : String
  ownerExecutionId : String
  migration7Name : String
  migration7Checksum : String
  migrations : List (Int × String × String)
  reprIdentity : String × String → String
  formatMicroseconds : Int → String
  formatNanoseconds : Int → String

/-- The fields that `run` writes; a client and a pump are there or not. -/
structure Fields where
  token : Option Int
  client : Bool
  pump : Bool
  quiesced : List RuntimeWriter
  authorityEvidence : Option (List (String × String))
  executionState : ExecutionState
  rebindProven : Bool
  globalWriterEventCursor : Option Int

/-- mirrors src/adcp/production_migration_orchestrator.py:650-657 -/
def Fields.initial : Fields where
  token := none
  client := false
  pump := false
  quiesced := []
  authorityEvidence := none
  executionState := .notYetQuiesced
  rebindProven := false
  globalWriterEventCursor := none

abbrev MigrationMethod (α : Type) : Type := Method Fields MigrationError Answer α

open Method

def call (c : MigrationCall) : MigrationMethod (Answer c) := Method.ask c

/-- `raise ProductionMigrationError(code, detail, phase=…, schema_version=…)` -/
def reject {α : Type} (code : String) (detail : String := "") (phase : Phase := .preflight)
    (schemaVersion : Option Int := none) : MigrationMethod α :=
  raise (.migration code detail phase schemaVersion)

/-- Go on when `c` holds. -/
def demand (c : Prop) [Decidable c] (code : String) (detail : String := "")
    (phase : Phase := .preflight) (schemaVersion : Option Int := none) : MigrationMethod Unit :=
  if c then pure () else reject code detail phase schemaVersion

def setClient (b : Bool) : MigrationMethod Unit := modify fun s => { s with client := b }
def setState (e : ExecutionState) : MigrationMethod Unit :=
  modify fun s => { s with executionState := e }

/-! ## The inventory of writers -/

/-- mirrors src/adcp/production_migration_orchestrator.py:603-607 -/
def expectedClassification (serviceCode : String) : String :=
  if serviceCode ∈ propertyAiWriterCodes then "PROPERTYAI"
  else if serviceCode ∈ adcpWriterCodes then "ADCP"
  else "DYNAMIC"

namespace Orchestrator

variable (o : Orchestrator)

local instance identityLawful : LawfulBEq (String × String) := inferInstance

/-- The checks of one writer, against the writers before it. -/
def checkWriter (inventory : List RuntimeWriter) (w : RuntimeWriter) : MigrationMethod Unit := do
  demand (w.writeCapable = true) "WRITER_INVENTORY_INVALID"
  demand (w.classification = expectedClassification w.serviceCode) "UNKNOWN_OR_UNCLASSIFIED_WRITER"
    w.serviceCode
  demand (w.identity ∉ inventory.map (·.identity)) "DUPLICATE_WRITER_IDENTITY"
    (o.reprIdentity w.identity)
  demand (w.identityValidation = "MATCH") "STALE_WRITER_IDENTITY" (o.reprIdentity w.identity)
  demand (w.conflicting = false) "CONFLICTING_WRITER" (o.reprIdentity w.identity)
  demand (w.state = "ACTIVE" ∨ w.state = "QUIESCED") "WRITER_STATE_INVALID"
    (o.reprIdentity w.identity)

def inventoryOf (inventory : List RuntimeWriter) :
    List (Option RuntimeWriter) → MigrationMethod (List RuntimeWriter)
  | [] => pure inventory
  | none :: _ => reject "WRITER_INVENTORY_INVALID"
  | some w :: rest => do
    o.checkWriter inventory w
    inventoryOf (inventory ++ [w]) rest

/-- The inventory, a dictionary by identity in the order of discovery.
mirrors src/adcp/production_migration_orchestrator.py:598-622 -/
def classifyInventory (writers : List (Option RuntimeWriter)) :
    MigrationMethod (List RuntimeWriter) := do
  let inventory ← o.inventoryOf [] writers
  let missing := expectedWriterCodes.filter (· ∉ inventory.map (·.serviceCode))
  demand (missing = []) "EXPECTED_WRITER_MISSING" (String.intercalate "," missing)
  pure inventory

/-! ## Authority and lease -/

/-- mirrors src/adcp/production_migration_orchestrator.py:723-729 -/
def freshAuthority : MigrationMethod Unit := do
  let evidence ← call .validateAuthority
  let normalized := evidence.getD []
  match (← fields).authorityEvidence with
  | none => modify fun s => { s with authorityEvidence := some normalized }
  | some first => demand (normalized = first) "AUTHORITY_SOURCE_DRIFT"

/-- The columns of the lease that identify this run, each with whether the row has the
expected value.
mirrors src/adcp/production_migration_orchestrator.py:738-747 -/
def contextMatches (target : String) (row : LeaseRow) : List (String × Bool) :=
  [("resource_key", row.resourceKey = some resource),
   ("owner_execution_id", row.lease.context.ownerExecutionId = some o.ownerExecutionId),
   ("writer_class", row.lease.context.writerClass = some leaseWriterClass),
   ("operation_class", row.lease.context.operationClass = some leaseOperationClass),
   ("target", row.lease.context.target = some target)]

/-- `if self.pump is not None and self.pump.error is not None: raise …` -/
def checkPump : MigrationMethod Unit := do
  if (← fields).pump = true then
    match ← call (.pumpError .run) with
    | some error => reject "HEARTBEAT_FAILED" error
    | none => pure ()

/-- mirrors src/adcp/production_migration_orchestrator.py:731-748 -/
def assertCurrent : MigrationMethod LeaseRow := do
  let s ← fields
  match s.client, s.token with
  | true, some token => do
    freshAuthority
    checkPump
    let row ← call (.assertCurrent .run o.ownerId token)
    let target ← call .resolveDcs
    match (o.contextMatches target row).find? (·.2 = false) with
    | some (field, _) => reject "LEASE_CONTEXT_MISMATCH" field
    | none => pure row
  | _, _ => reject "LEASE_NOT_BOUND"

/-- The latest event is the acquisition of this run. -/
def ownAcquire (token : Option Int) (row : LatestWriterEvent) : Bool :=
  (row.eventType = "ACQUIRE" || row.eventType = "EXPIRED_TAKEOVER") &&
  some row.toFencingToken = token && row.newOwnerId = some o.ownerId &&
  row.newOwnerExecutionId = some o.ownerExecutionId && row.newChangeId = some changeId

/-- mirrors src/adcp/production_migration_orchestrator.py:659-685 -/
def captureGlobalWriterEventCursor : MigrationMethod Unit := do
  match ← call .latestWriterEvent with
  | none => reject "GLOBAL_WRITER_EVENT_CURSOR_MISSING"
  | some row => do
    let s ← fields
    demand (o.ownAcquire s.token row = true) "GLOBAL_WRITER_EVENT_CURSOR_NOT_OWN_ACQUIRE"
    modify fun s => { s with globalWriterEventCursor := some row.eventSeq }

/-- mirrors src/adcp/production_migration_orchestrator.py:687-712 -/
def assertGlobalWriterEventGuard (site : Site) : MigrationMethod Unit := do
  match (← fields).globalWriterEventCursor with
  | none => reject "GLOBAL_WRITER_EVENT_CURSOR_UNBOUND"
  | some cursor =>
    match ← call (.eventsAfter site cursor) with
    | [] => pure ()
    | row :: _ =>
      reject "GLOBAL_WRITER_EVENT_CONFLICT"
        (row.eventType ++ ":" ++ toString row.eventSeq ++ ":" ++ toString row.fromFencingToken ++
          "->" ++ toString row.toFencingToken)

/-- `self._assert_current(); self._assert_global_writer_event_guard()` -/
def guarded : MigrationMethod Unit := do
  let _ ← o.assertCurrent
  assertGlobalWriterEventGuard .run

/-- mirrors src/adcp/production_migration_orchestrator.py:750-756 -/
def startPump : MigrationMethod Unit := do
  if o.context.backgroundHeartbeat = true then
    modify fun s => { s with pump := true }
    call .startPump

/-- mirrors src/adcp/production_migration_orchestrator.py:588-595,758-761 -/
def stopPump (site : Site) : MigrationMethod Unit := do
  if (← fields).pump = true then
    modify fun s => { s with pump := false }
    let alive ← call (.joinPump site)
    demand (alive = false) "HEARTBEAT_STOP_TIMEOUT"
    match ← call (.pumpError site) with
    | some error => reject "HEARTBEAT_FAILED" error
    | none => pure ()

/-- `_operation_key` -/
def operationKey (label : String) : String :=
  Sha256.hexdigest (Sha256.utf8 (changeId ++ ":" ++ o.ownerExecutionId ++ ":" ++ label).toList)

def releaseRequest (token : Int) : ReleaseWriter where
  operationKey := o.operationKey "release"
  ownerId := o.ownerId
  fencingToken := token
  reason := "ADCP_PRODUCTION_MIGRATION_ORCHESTRATOR_RELEASED"
  controlDecisionRef := some o.context.authorityRef

/-- mirrors src/adcp/production_migration_orchestrator.py:802-816 -/
def safeRelease (site : Site) : MigrationMethod Bool := do
  let s ← fields
  match s.client, s.token with
  | true, some token => do
    match ← attempt (call (.assertCurrent .caught o.ownerId token)) with
    | .error _ => pure false
    | .ok _ => do
      call (.release site (o.releaseRequest token))
      pure true
  | _, _ => pure false

/-! ## Quiescence -/

/-- mirrors src/adcp/production_migration_orchestrator.py:766-780 -/
def quiesceWriter (writer : RuntimeWriter) : MigrationMethod Unit := do
  if writer.state = "ACTIVE" then
    o.guarded
    call (.quiesce writer)
    setState .quiescedPreTransaction
    let observed ← call (.inspect writer)
    demand (observed.identity = writer.identity ∧ observed.identityValidation = "MATCH")
      "QUIESCED_WRITER_IDENTITY_MISMATCH" (o.reprIdentity writer.identity)
    demand (observed.state = "QUIESCED" ∧ observed.conflicting = false)
      "WRITER_QUIESCENCE_FAILED" (o.reprIdentity writer.identity)
    o.guarded
    modify fun s => { s with quiesced := s.quiesced ++ [observed] }

/-- mirrors src/adcp/production_migration_orchestrator.py:763-789 -/
def quiesce : MigrationMethod Unit := do
  let before ← o.classifyInventory (← call .discover)
  each o.quiesceWriter before
  o.guarded
  let after ← o.classifyInventory (← call .discover)
  demand ((∀ w ∈ after, w.identity ∈ before.map (·.identity)) ∧
      ∀ w ∈ before, w.identity ∈ after.map (·.identity)) "WRITER_INVENTORY_CHANGED_DURING_QUIESCE"
  demand (∀ w ∈ after, w.state = "QUIESCED") "CONFLICTING_WRITER_AFTER_QUIESCE"
  o.guarded

/-- mirrors src/adcp/production_migration_orchestrator.py:793-800 -/
def reactivateWriter (writer : RuntimeWriter) : MigrationMethod Unit := do
  o.guarded
  let current ← call (.inspect writer)
  demand (current.identity = writer.identity ∧ current.identityValidation = "MATCH" ∧
    current.state = "QUIESCED") "REACTIVATION_IDENTITY_NOT_C_VALIDATED"
    (o.reprIdentity writer.identity)
  call (.reactivate current)
  o.guarded

/-- mirrors src/adcp/production_migration_orchestrator.py:791-800 -/
def reactivate : MigrationMethod Unit := do
  each o.reactivateWriter (← fields).quiesced

/-! ## Before the transaction -/

/-- Forty lower-case hexadecimal digits. -/
def gitObjectId (value : String) : Bool :=
  value.length = 40 && value.toList.all (· ∈ "0123456789abcdef".toList)

/-- mirrors src/adcp/production_migration_orchestrator.py:818-842 -/
def preflight : MigrationMethod Unit := do
  demand (o.migration7Name = migrationName ∧ o.migration7Checksum = migrationChecksum)
    "FROZEN_MIGRATION_BINDING_MISMATCH"
  demand ((← call .suppliedPathIsSymlink) = false) "CANONICAL_DCS_PATH_INVALID"
  let path ← call .resolveDcs
  demand ((← call (.isFile path)) = true) "CANONICAL_DCS_PATH_INVALID"
  demand ((← call .evidenceRootIsDir) = true) "EVIDENCE_ROOT_NOT_PRECREATED"
  demand ((← call .evidenceRootIsSymlink) = false) "EVIDENCE_ROOT_NOT_PRECREATED"
  demand (gitObjectId o.context.acceptedGitHead = true) "EXECUTION_GIT_BINDING_INVALID"
    "accepted_git_head"
  demand (gitObjectId o.context.acceptedGitTree = true) "EXECUTION_GIT_BINDING_INVALID"
    "accepted_git_tree"
  match o.context.canonicalProductionPath with
  | none => pure ()
  | some canonical => do
    let resolved ← call (.resolveCanonical canonical)
    demand (path = resolved → o.context.canonicalProductionAuthorized = true)
      "CANONICAL_PRODUCTION_AUTHORIZATION_REQUIRED"
  freshAuthority
  demand ((← call (.readSchemaVersion .run)) = 6) "STARTING_SCHEMA_V6_REQUIRED"
  call (.contractProfile 6)

def acquireRequest (repository target : String) : AcquireWriter where
  operationKey := o.operationKey "acquire"
  context :=
    { ownerId := some o.ownerId, ownerExecutionId := some o.ownerExecutionId
      changeId := some changeId, sliceId := some o.ownerExecutionId
      writerClass := some leaseWriterClass
      ownerSessionRole := some "SEPARATELY_AUTHORIZED_PRODUCTION_MIGRATION"
      track := some "CONTROL", repositoryOrRuntime := some repository
      operationClass := some leaseOperationClass, target := some target }
  ttlSeconds := leaseTtlSeconds
  controlDecisionRef := some o.context.authorityRef

/-- mirrors src/adcp/production_migration_orchestrator.py:889-905 -/
def bindLease : MigrationMethod Unit := do
  call (.openClient .run)
  setClient true
  let repository ← call .resolveRepository
  let target ← call .resolveDcs
  let acquired ← call (.acquire (o.acquireRequest repository target))
  modify fun s => { s with token := some acquired.lease.fencingToken }

/-- The token of the lease, once it is bound. -/
def boundToken : MigrationMethod Int := do
  match (← fields).token with
  | some token => pure token
  | none => raise (.other "fencing_token")

/-- The backup, and the last heartbeat before the transaction.
mirrors src/adcp/production_migration_orchestrator.py:915-929 -/
def backUp : MigrationMethod BackupEvidence := do
  let token ← boundToken
  let now ← call .now
  let backup ← call (.createBackup token now)
  call (.verifyBackup backup)
  let heartbeat ← call (.heartbeat o.ownerId token leaseTtlSeconds)
  let _ ← o.assertCurrent
  match heartbeat.lease.expiresAt with
  | none => raise (.other "fromisoformat: argument must be str")
  | some expires => do
    let now ← call .now
    demand (preBeginMinRemainingHorizonMicroseconds ≤ (expires.micros : Int) - now)
      "LEASE_HORIZON_INSUFFICIENT" (o.formatMicroseconds ((expires.micros : Int) - now))
    pure backup

/-- mirrors src/adcp/production_migration_orchestrator.py:888-932 -/
def prepare : MigrationMethod (BackupEvidence × PreservationBaseline) := do
  o.preflight
  o.bindLease
  let _ ← o.assertCurrent
  o.captureGlobalWriterEventCursor
  assertGlobalWriterEventGuard .run
  call .bindGuard
  o.startPump
  o.quiesce
  stopPump .run
  o.guarded
  let backup ← o.backUp
  let baseline ← call (.captureBaseline 6)
  call (.closeClient .run)
  setClient false
  pure (backup, baseline)

/-! ## The transaction and after it -/

/-- What is left of the migration transaction: how it ended, when it began and when it
returned. -/
structure Returned where
  outcome : Except MigrationError Unit
  started : Int
  returned : Int

/-- mirrors src/adcp/production_migration_orchestrator.py:934-946 -/
def transact : MigrationMethod Returned := do
  call .connect
  call .enableForeignKeys
  let started ← call .monotonic
  setState .migrationTransactionOrRollback
  let outcome ← attempt (call .migrate)
  let returned ← call .monotonic
  call .closeConnection
  pure { outcome := outcome, started := started, returned := returned }

/-- mirrors src/adcp/production_migration_orchestrator.py:954-959 -/
def rebindLease : MigrationMethod Unit := do
  call (.openClient .rebind)
  setClient true
  let token ← boundToken
  let rebound ← call (.assertCurrent .rebind o.ownerId token)
  demand (rebound.lease.context.ownerExecutionId = some o.ownerExecutionId)
    "POST_TRANSACTION_LEASE_CONTEXT_MISMATCH"
  modify fun s => { s with rebindProven := true }
  assertGlobalWriterEventGuard .rebind

/-- mirrors src/adcp/production_migration_orchestrator.py:948-966 -/
def rebind (returned : Int) : MigrationMethod Unit := do
  let rebindStarted ← call .monotonic
  if postTransactionRebindMaxDelayNanoseconds < rebindStarted - returned then
    setState .ambiguousAuthority
    reject "POST_TRANSACTION_REBIND_DELAY_EXCEEDED" "" .ambiguous
  match ← attempt o.rebindLease with
  | .ok () => pure ()
  | .error error => do
    setClient false
    setState .ambiguousAuthority
    let version ← call (.readSchemaVersion .rebindFailed)
    reject "POST_TRANSACTION_FENCING_AMBIGUOUS" error.text .ambiguous (some version)

/-- `"POST_COMMIT" if self._execution_state is _ExecutionState.COMMITTED_V7 else "ROLLBACK"` -/
def phaseAfter (version : Int) : Phase := if version = 7 then .postCommit else .rollback

def stateAfter (version : Int) : ExecutionState :=
  if version = 7 then .committedV7 else .migrationTransactionOrRollback

/-- mirrors src/adcp/production_migration_orchestrator.py:878-881 -/
def inspectRollback (baseline : PreservationBaseline) : MigrationMethod Unit := do
  let observed ← call (.captureBaseline 6)
  demand (observed = baseline) "ROLLBACK_V6_STATE_CHANGED" "" .rollback (some 6)

/-- `mapping[key]` -/
def item {α : Type} (mapping : List (String × α)) (key : String) : MigrationMethod α :=
  match mapping.lookup key with
  | some a => pure a
  | none => raise (.other ("KeyError: " ++ key))

/-- The values of `key` are equal in both mappings. -/
def sameItem {α : Type} [DecidableEq α] (post baseline : List (String × α)) (code : String)
    (key : String) : MigrationMethod Unit := do
  let a ← item post key
  let b ← item baseline key
  demand (a = b) code key .postCommit (some 7)

/-- mirrors src/adcp/production_migration_orchestrator.py:844-876 -/
def postMigrationValidation (baseline : PreservationBaseline) : MigrationMethod Unit := do
  let post ← call (.captureBaseline 7)
  -- a set in the source: which of several changed tables is named is not fixed there
  let stable := (baseline.tables.map (·.1)).filter
    (· ∉ ["schema_migration", "global_production_writer_lease"])
  each (sameItem post.tables baseline.tables "AUTHORITATIVE_TABLE_CHANGED") stable
  demand (post.schemaMigration0001To0006 = baseline.schemaMigration0001To0006)
    "MIGRATION_REGISTRY_0001_0006_CHANGED" "" .postCommit (some 7)
  demand ((← call .lineage) = o.migrations.filter (·.1 ≤ migrationVersion))
    "MIGRATION_LINEAGE_CHANGED" "" .postCommit (some 7)
  demand ((← call .sealCount) = 0) "MIGRATION_CREATED_ARTIFACT_SEAL_ROWS" "" .postCommit (some 7)
  demand (post.authority = baseline.authority) "AUTHORITY_GENERATION_OR_CUTOVER_DRIFT" ""
    .postCommit (some 7)
  each (sameItem post.lease baseline.lease "LEASE_CONTINUITY_CHANGED") leaseContextFields
  let lifecycle := (post.lease.map (·.1)).filter (· ∉ leaseContextFields)
  demand ((∀ f ∈ lifecycle, f ∈ leaseLifecycleFields) ∧ ∀ f ∈ leaseLifecycleFields, f ∈ lifecycle)
    "LEASE_SHAPE_CHANGED" "" .postCommit (some 7)

/-- What the version read after the transaction and the outcome of the migration leave to
report.
mirrors src/adcp/production_migration_orchestrator.py:967-997 -/
def observe (baseline : PreservationBaseline) (r : Returned) : MigrationMethod Unit := do
  let observed ← call (.readSchemaVersion .run)
  setState (stateAfter observed)
  let exact ← call (.captureBaseline observed)
  demand (exact.lease = baseline.lease) "MIGRATION_TRANSACTION_CHANGED_LEASE" ""
    (phaseAfter observed) (some observed)
  if observed = 7 then
    let _ ← call (.heartbeat o.ownerId (← boundToken) leaseTtlSeconds)
    o.startPump
  demand (r.returned - r.started < migrationTransactionBudgetNanoseconds)
    "MIGRATION_TRANSACTION_BUDGET_EXCEEDED" (o.formatNanoseconds (r.returned - r.started))
    (phaseAfter observed) (some observed)
  match r.outcome with
  | .error error => do
    if observed = 6 then
      inspectRollback baseline
    reject "ACCEPTED_MIGRATION_FAILED" error.text (phaseAfter observed) (some observed)
  | .ok () =>
    if observed ≠ 7 then
      inspectRollback baseline
      reject "MIGRATION_DID_NOT_COMMIT_V7" "" .rollback (some observed)

/-- mirrors src/adcp/production_migration_orchestrator.py:998-1015 -/
def finish (backup : BackupEvidence) (baseline : PreservationBaseline) :
    MigrationMethod ProductionMigrationResult := do
  o.postMigrationValidation baseline
  freshAuthority
  o.reactivate
  o.guarded
  stopPump .run
  o.guarded
  demand ((← o.safeRelease .run) = true) "FINAL_RELEASE_NOT_PROVABLY_SAFE" "" .postCommit (some 7)
  let final ← call .getLease
  let token ← boundToken
  demand (final.lease.state = .FREE ∧ final.lease.fencingToken = token) "FINAL_LEASE_NOT_FREE" ""
    .postCommit (some 7)
  pure { ownerId := o.ownerId, ownerExecutionId := o.ownerExecutionId, fencingToken := token
         previousVersion := 6, version := 7, backup := backup
         preservedTableCount := baseline.tables.length
         quiescedIdentities := (← fields).quiesced.map (·.identity)
         finalLeaseState := final.lease.state, productionEffect := 0 }

/-! ## The run -/

/-- What stands under `try`.
mirrors src/adcp/production_migration_orchestrator.py:887-1015 -/
def body : MigrationMethod ProductionMigrationResult := do
  let (backup, baseline) ← o.prepare
  let r ← transact
  o.rebind r.returned
  o.observe baseline r
  o.finish backup baseline

/-- The phase of an exception that the orchestrator does not know. -/
def phaseOf : ExecutionState → Phase
  | .notYetQuiesced | .quiescedPreTransaction => .preTransaction
  | .migrationTransactionOrRollback => .rollback
  | .committedV7 => .postCommit
  | .ambiguousAuthority => .ambiguous

/-- The error that `run` raises for an exception of its body in the given state. -/
def reported (state : ExecutionState) : MigrationError → MigrationError
  | .migration code detail phase version => .migration code detail phase version
  | .other text => .migration "PRODUCTION_MIGRATION_FAILED" text (phaseOf state)
      (some (if state = .committedV7 then 7 else 6))

/-- The phase the handler goes by. -/
def reportedPhase (state : ExecutionState) : MigrationError → Phase
  | .migration _ _ phase _ => phase
  | .other _ => phaseOf state

/-- mirrors src/adcp/production_migration_orchestrator.py:1016-1045 -/
def report (error : MigrationError) : MigrationMethod MigrationError := do
  let _ ← attempt (stopPump .caught)
  let phase := reportedPhase (← fields).executionState error
  if phase = .ambiguous then
    setState .ambiguousAuthority
  let s ← fields
  if phase ≠ .ambiguous ∧ s.client = true then
    let _ ← attempt (o.safeRelease .caught)
  pure (reported s.executionState error)

/-- mirrors src/adcp/production_migration_orchestrator.py:883-1048 -/
def run : MigrationMethod ProductionMigrationResult := do
  let outcome ← attempt o.body
  let outcome ← match outcome with
    | .ok result => pure (.ok result)
    | .error error => do pure (.error (← o.report error))
  if (← fields).client = true then
    call (.closeClient .closing)
  lift outcome

end Orchestrator

end Adcp.L5.Migration
