import Adcp.L1Base.JsonAscii
import Adcp.L1Base.Script
import Adcp.L1Base.Sha256
import Adcp.L3Store.GlobalWriter

/-!
# The schema-9 backup and the lease that is acquired for it

`_create_schema9_to10_immutable_backup` copies the database to a new file, between two
readings of the main file's size, times and hash; `_acquire_schema9_w08` takes the W08 lease
for a backup, after it has found the main file's identity and hash to be the backup's.

* `BackupCall`: what the two call. What reads a file or the database is a call, and so is
  `verify_schema9_to10_immutable_backup`, which reads the backup and its manifest alone.
* `createImmutableBackup`, `acquireSchema9W08`: the two programs.
-/
namespace Adcp.L5.Migration.Schema10

open Adcp.L1 Adcp.L2 Adcp.L3 Script

/-! ## Constants -/

def changeId : String := "P0-CLEANER-POSTGRES-AUTHORITY-CUTOVER-01"
def controlDecisionRef : String :=
  "CHAT.PROJ.HQ:DECISION:TK43_DL84_SCHEMA10_OPERATIONAL_MACHINERY_CLOSURE:V1"
def schema9 : Int := 9
def schema10 : Int := 10
def migration10Name : String := "0010_typed_postgres_operation_receipt_provision_principal"
def migration10Checksum : String :=
  "fa241b5205b014bca2524ef35018c319050d560cbcf2c79d004a9d587dc78d6f"
def w08TtlSeconds : Int := 300

/-! ## Exceptions and answers -/

/-- `ProductionSchema10OperationalError`, an `OSError` (a `FileExistsError` or another), a
`StoreError`, or any other exception with its text. -/
inductive OperationalError where
  | operational (code : String) (detail : String := "")
  | fileExists
  | os (text : String)
  | store (code : String)
  | other (text : String)
  deriving DecidableEq, Repr

/-- The kind of a file, not followed when it is a link. -/
structure LinkStat where
  link : Bool
  regular : Bool
  deriving DecidableEq, Repr

structure FileStat where
  device : Int
  inode : Int
  size : Int
  mtimeNs : Int
  deriving DecidableEq, Repr

/-- mirrors src/adcp/production_schema10_operational.py:286-292 (`_SchemaState`) -/
structure SchemaState where
  version : Int
  profile : String
  history : List (Int × String × String)
  integrity : String
  foreignKeyViolations : Int
  deriving DecidableEq, Repr

/-- The columns read of a row of `global_production_writer_event`. -/
structure WriterEventRow where
  eventSeq : Int
  eventType : String
  newOwnerId : Option String
  toFencingToken : Int
  deriving DecidableEq, Repr

/-- mirrors src/adcp/production_schema10_operational.py:229-242 -/
structure BackupEvidence where
  operationId : String
  sourcePath : String
  sourceDevice : Int
  sourceInode : Int
  sourceSha256 : String
  sourceSize : Int
  backupPath : String
  backupSha256 : String
  backupSize : Int
  manifestPath : String
  backupIdentity : String
  schemaProfile : String
  deriving DecidableEq, Repr

/-! ## Calls -/

/-- Which of the hashes of a file it is: the ones of the main file before the copy, after it
and at the acquisition, or the one of the backup. -/
inductive Reading where
  | before | after | acquisition | backup
  deriving DecidableEq, Repr

/-- What the two programs call. `copyPages` is `source.backup(destination)`, `openNew` an
exclusive creation, `write`, `flush`, `syncStream` and `closeStream` are those of the stream
it opens. -/
inductive BackupCall where
  | lstat (path : String)
  | resolve (path : String)
  | inspectSchema (path : String) (version : Int)
  | w08Row (path : String)
  | stat (path : String)
  | sha256File (reading : Reading) (path : String)
  | now
  | makeRoot (path : String)
  | makeDirectory (path : String)
  | openNew (path : String)
  | connectSource (path : String)
  | connectDestination (path : String)
  | queryOnly
  | validateSchema (version : Int)
  | copyPages (path : String)
  | commitDestination
  | closeDestination
  | closeSource
  | makeReadOnly (path : String)
  | syncFile (path : String)
  | syncDirectory (path : String)
  | write (text : String)
  | flush
  | syncStream
  | closeStream
  | verifyBackup (evidence : BackupEvidence)
  | newAttempt
  | openStore (path : String)
  | acquire (request : AcquireWriter)
  | closeStore
  | writerEvents
  | assertCurrent (ownerId : String) (fencingToken : Int)

abbrev Answer : BackupCall → Type
  | .lstat _ => LinkStat
  | .resolve _ | .now | .newAttempt => String
  | .inspectSchema .. => SchemaState
  | .w08Row _ | .acquire _ | .assertCurrent .. => GlobalWriterLease
  | .stat _ => FileStat
  | .sha256File .. => String × Int
  | .writerEvents => List WriterEventRow
  | .makeRoot _ | .makeDirectory _ | .openNew _ | .connectSource _ | .connectDestination _
  | .queryOnly | .validateSchema _ | .copyPages _ | .commitDestination | .closeDestination
  | .closeSource | .makeReadOnly _ | .syncFile _ | .syncDirectory _ | .write _ | .flush
  | .syncStream | .closeStream | .verifyBackup _ | .openStore _ | .closeStore => Unit

abbrev BackupScript (α : Type) : Type := Script OperationalError Answer α

def call (c : BackupCall) : BackupScript (Answer c) := invoke c

def reject {α : Type} (code : String) (detail : String := "") : BackupScript α :=
  fail (.operational code detail)

def demand (c : Prop) [Decidable c] (code : String) (detail : String := "") : BackupScript Unit :=
  require c (.operational code detail)

/-- `try: … finally: …`: an exception of the last part is the one that leaves. -/
def finally' {α : Type} (x : BackupScript α) (last : BackupScript Unit) : BackupScript α := do
  let outcome ← attempt x
  last
  lift outcome

/-! ## What both check -/

def operationIdCharacters : List Char :=
  "abcdefghijklmnopqrstuvwxyzABCDEFGHIJKLMNOPQRSTUVWXYZ0123456789-_.:/".toList

/-- mirrors src/adcp/production_schema10_operational.py:1795-1799 -/
def validateOperationId (value : String) : BackupScript Unit := do
  demand (value ≠ "" ∧ value.length ≤ 200) "SCHEMA10_OPERATION_ID_INVALID"
  demand (value.toList.all (· ∈ operationIdCharacters)) "SCHEMA10_OPERATION_ID_INVALID"

/-- The database file, which is no link.
mirrors src/adcp/production_schema10_operational.py:1963-1970,2399-2406 -/
def databaseFile (path : String) : BackupScript String := do
  match ← attempt (call (.lstat path)) with
  | .error (.os _) | .error .fileExists => reject "SCHEMA10_DCS_PATH_INVALID"
  | .error e => fail e
  | .ok mode =>
    demand (mode.link = false ∧ mode.regular = true) "SCHEMA10_DCS_PATH_INVALID"
    call (.resolve path)

/-- The columns of the lease that are empty while it is free. -/
def occupied (c : WriterContext) : Bool :=
  [c.ownerId, c.ownerExecutionId, c.changeId, c.sliceId, c.writerClass, c.ownerSessionRole, c.track,
    c.repositoryOrRuntime, c.operationClass, c.target].any fun column =>
    column ≠ none && column ≠ some ""

/-- mirrors src/adcp/production_schema10_operational.py:1884-1895 -/
def requireW08Free (path : String) : BackupScript Unit := do
  let row ← call (.w08Row path)
  demand (row.state = .FREE ∧ occupied row.context = false) "SCHEMA10_W08_NOT_FREE"

/-! ## The backup -/

def canonical (v : Json) : String := String.ofList v.dumps

def sha256Bytes (text : String) : String := Sha256.hexdigest (Sha256.utf8 text.toList)

/-- The first members of the manifest, which name the backup's directory.
mirrors src/adcp/production_schema10_operational.py:1976-1986 -/
def seed (operationId source : String) (before : FileStat) (sha profile stamp : String) :
    List (String × Json) :=
  [("format", .str "TK43_DL85_SCHEMA9_TO10_BACKUP_V1"), ("operation_id", .str operationId),
   ("source", .str source), ("device", .int before.device), ("inode", .int before.inode),
   ("source_sha256", .str sha), ("schema_profile", .str profile), ("created_at", .str stamp)]

/-- mirrors src/adcp/production_schema10_operational.py:2022-2043 -/
def manifestPayload (seed : List (String × Json)) (sourceSize : Int) (backupPath : String)
    (backup : String × Int) (state backupState : SchemaState) : List (String × Json) :=
  seed ++
  [("source_size", .int sourceSize), ("backup_path", .str backupPath),
   ("backup_sha256", .str backup.1), ("backup_size", .int backup.2), ("source_schema", .int schema9),
   ("target_schema", .int schema10), ("migration10_name", .str migration10Name),
   ("migration10_checksum", .str migration10Checksum),
   ("migration_history", .arr (state.history.map fun row =>
     .arr [.int row.1, .str row.2.1, .str row.2.2])),
   ("source_integrity", .str state.integrity),
   ("source_foreign_key_violations", .int state.foreignKeyViolations),
   ("backup_schema_profile", .str backupState.profile),
   ("backup_integrity", .str backupState.integrity),
   ("backup_foreign_key_violations", .int backupState.foreignKeyViolations),
   ("create_new_only", .bool true), ("overwrite", .bool false), ("prune", .bool false),
   ("retention_delete", .bool false)]

/-- A new directory for the backup, named by what it is made of.
mirrors src/adcp/production_schema10_operational.py:1987-1994 -/
def backupDirectory (evidenceRoot : String) (seed : List (String × Json)) : BackupScript String := do
  call (.makeRoot evidenceRoot)
  let directory := evidenceRoot ++ "/schema9-to10-" ++ sha256Bytes (canonical (.obj seed))
  match ← attempt (call (.makeDirectory directory)) with
  | .error .fileExists => reject "SCHEMA10_BACKUP_CREATE_NEW_COLLISION"
  | .error e => fail e
  | .ok () => pure directory

/-- mirrors src/adcp/production_schema10_operational.py:1997-2011 -/
def copyDatabase (source backupPath : String) : BackupScript Unit := do
  call (.openNew backupPath)
  call (.connectSource source)
  call (.connectDestination backupPath)
  finally' (do
    call .queryOnly
    call (.validateSchema schema9)
    call (.copyPages backupPath)
    call .commitDestination) do
    call .closeDestination
    call .closeSource
  call (.makeReadOnly backupPath)
  call (.syncFile backupPath)

/-- mirrors src/adcp/production_schema10_operational.py:2047-2055 -/
def writeManifest (manifestPath directory evidenceRoot text : String) : BackupScript Unit := do
  call (.openNew manifestPath)
  finally' (do
    call (.write text)
    call .flush
    call .syncStream) (call .closeStream)
  call (.makeReadOnly manifestPath)
  call (.syncFile manifestPath)
  call (.makeReadOnly directory)
  call (.syncDirectory directory)
  call (.syncDirectory evidenceRoot)

def stampOf : Option String → BackupScript String
  | some text => pure text
  | none => call .now

/-- `now` is the time the caller gives, written as `isoformat` does.
mirrors src/adcp/production_schema10_operational.py:1955-2069 -/
def createImmutableBackup (path evidenceRoot operationId : String) (now : Option String) :
    BackupScript BackupEvidence := do
  validateOperationId operationId
  let resolved ← databaseFile path
  let state ← call (.inspectSchema resolved schema9)
  requireW08Free resolved
  let before ← call (.stat resolved)
  let shaBefore ← call (.sha256File .before resolved)
  let stamp ← stampOf now
  let seed := seed operationId resolved before shaBefore.1 state.profile stamp
  let directory ← backupDirectory evidenceRoot seed
  let backupPath := directory ++ "/canonical-schema9.sqlite3.bak"
  let manifestPath := directory ++ "/manifest.json"
  copyDatabase resolved backupPath
  let backupState ← call (.inspectSchema backupPath schema9)
  let backup ← call (.sha256File .backup backupPath)
  let after ← call (.stat resolved)
  let shaAfter ← call (.sha256File .after resolved)
  demand (before = after ∧ shaBefore = shaAfter) "SCHEMA10_BACKUP_SOURCE_CHANGED"
  requireW08Free resolved
  let payload := manifestPayload seed shaAfter.2 backupPath backup state backupState
  let identity := sha256Bytes (canonical (.obj payload))
  writeManifest manifestPath directory evidenceRoot
    (canonical (.obj (payload ++ [("backup_identity", .str identity)])) ++ "\n")
  let evidence : BackupEvidence :=
    { operationId := operationId, sourcePath := resolved, sourceDevice := before.device
      sourceInode := before.inode, sourceSha256 := shaAfter.1, sourceSize := shaAfter.2
      backupPath := backupPath, backupSha256 := backup.1, backupSize := backup.2
      manifestPath := manifestPath, backupIdentity := identity, schemaProfile := state.profile }
  call (.verifyBackup evidence)
  pure evidence

/-! ## The lease -/

/-- The lease that an acquisition answers; what `Schema10HeldW08` is made of.
mirrors src/adcp/production_schema10_operational.py:2155-2192 -/
structure HeldW08 where
  path : String
  operationId : String
  backup : BackupEvidence
  ownerId : String
  ownerExecutionId : String
  fencingToken : Int
  acquireEventSeq : Int
  releaseOperationKey : String

/-- mirrors src/adcp/domain.py:210-212 (`operation_key`) -/
def operationKey (operationType : String) (inputs : Json) : BackupScript String :=
  match canonicalJson inputs with
  | .ok text => pure (sha256Bytes ("v1|" ++ operationType ++ "|" ++ text))
  | .error _ => fail (.other "CanonicalizationError")

/-- mirrors src/adcp/production_schema10_operational.py:2138-2151 (`_expected_lease_context`) -/
def expectedLeaseContext (operationId ownerId attemptId : String) : WriterContext where
  ownerId := some ownerId
  ownerExecutionId := some attemptId
  changeId := some changeId
  sliceId := some operationId
  writerClass := some "W08_CONTROLLED_PRODUCTION_DEPLOYMENT"
  ownerSessionRole := some "TK43_DL85_SCHEMA10_ADOPTION"
  track := some "CLEANER_POSTGRES_AUTHORITY_CUTOVER"
  repositoryOrRuntime := some "ADCP_CONTROL_DCS"
  operationClass := some "DCS_SCHEMA_V9_TO_V10_MIGRATION"
  target := some "GLOBAL_PRODUCTION"

/-- The row is the lease of this operation. -/
def expectedLease (operationId ownerId attemptId : String) (row : GlobalWriterLease) : Bool :=
  row.state = .HELD && row.context = expectedLeaseContext operationId ownerId attemptId

/-- mirrors src/adcp/production_schema10_operational.py:2194-2228 (`assert_current`) -/
def HeldW08.assertCurrent (held : HeldW08) : BackupScript Unit := do
  match ← attempt (call (.assertCurrent held.ownerId held.fencingToken)) with
  | .error (.store code) => reject "SCHEMA10_W08_AUTHORITY_LOST" code
  | .error e => fail e
  | .ok row =>
    demand (expectedLease held.operationId held.ownerId held.ownerExecutionId row = true)
      "SCHEMA10_W08_IDENTITY_MISMATCH"
    demand (row.fencingToken = held.fencingToken) "SCHEMA10_W08_FENCE_CHANGED"
    match (← call .writerEvents).find? (fun row => held.acquireEventSeq < row.eventSeq) with
    | some first =>
      reject "SCHEMA10_W08_EVENT_CONFLICT" (first.eventType ++ ":" ++ toString first.eventSeq)
    | none => pure ()

/-- The acquisition proper; an error of the store closes it.
mirrors src/adcp/production_schema10_operational.py:2440-2465 -/
def acquireLease (request : AcquireWriter) : BackupScript GlobalWriterLease := do
  match ← attempt (call (.acquire request)) with
  | .error (.store code) =>
    call .closeStore
    reject "SCHEMA10_W08_ACQUIRE_FAILED" code
  | .error e => fail e
  | .ok row => pure row

/-- Go on when `c` holds, or close the store. -/
def demandOrClose (c : Prop) [Decidable c] (code : String) : BackupScript Unit :=
  if c then pure () else do
    call .closeStore
    reject code

/-- mirrors src/adcp/production_schema10_operational.py:2391-2495 -/
def acquireSchema9W08 (path operationId : String) (backup : BackupEvidence) :
    BackupScript HeldW08 := do
  validateOperationId operationId
  demand (backup.operationId = operationId) "SCHEMA10_W08_BACKUP_BINDING_REQUIRED"
  let resolved ← databaseFile path
  demand (backup.sourcePath = resolved) "SCHEMA10_W08_BACKUP_SOURCE_MISMATCH"
  call (.verifyBackup backup)
  requireW08Free resolved
  let current ← call (.stat resolved)
  let sha ← call (.sha256File .acquisition resolved)
  demand (current.device = backup.sourceDevice ∧ current.inode = backup.sourceInode ∧
    sha = (backup.sourceSha256, backup.sourceSize)) "SCHEMA10_W08_BACKUP_SOURCE_IDENTITY_STALE"
  let state ← call (.inspectSchema resolved schema9)
  demand (state.profile = backup.schemaProfile) "SCHEMA10_W08_BACKUP_SOURCE_PROFILE_STALE"
  requireW08Free resolved
  let attemptId ← call .newAttempt
  let ownerId := "TK43_DL85_SCHEMA10:" ++ attemptId
  let semantic : Json := .obj [("change_id", .str changeId), ("operation_id", .str operationId),
    ("attempt_id", .str attemptId), ("backup_identity", .str backup.backupIdentity),
    ("from_schema", .int schema9), ("to_schema", .int schema10)]
  let acquireKey ← operationKey "tk43-dl85-schema10-w08-acquire" semantic
  let releaseKey ← operationKey "tk43-dl85-schema10-w08-release" semantic
  call (.openStore resolved)
  let row ← acquireLease
    { operationKey := acquireKey, context := expectedLeaseContext operationId ownerId attemptId
      ttlSeconds := w08TtlSeconds, controlDecisionRef := some controlDecisionRef }
  demandOrClose (expectedLease operationId ownerId attemptId row = true ∧ 0 < row.fencingToken)
    "SCHEMA10_W08_ACQUIRE_IDENTITY_INVALID"
  match (← call .writerEvents).getLast? with
  | none =>
    call .closeStore
    reject "SCHEMA10_W08_ACQUIRE_EVENT_MISSING"
  | some event =>
    demandOrClose (event.eventType = "ACQUIRE" ∧ event.newOwnerId = some ownerId ∧
      event.toFencingToken = row.fencingToken) "SCHEMA10_W08_ACQUIRE_EVENT_INVALID"
    let held : HeldW08 :=
      { path := resolved, operationId := operationId, backup := backup, ownerId := ownerId
        ownerExecutionId := attemptId, fencingToken := row.fencingToken
        acquireEventSeq := event.eventSeq, releaseOperationKey := releaseKey }
    held.assertCurrent
    pure held

/-- A backup, and the lease acquired for it. -/
def backUpAndAcquire (path evidenceRoot operationId : String) (now : Option String) :
    BackupScript (BackupEvidence × HeldW08) := do
  let evidence ← createImmutableBackup path evidenceRoot operationId now
  let held ← acquireSchema9W08 path operationId evidence
  pure (evidence, held)

end Adcp.L5.Migration.Schema10
