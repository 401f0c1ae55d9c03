import Mathlib.Data.List.Sort
import Adcp.L1Base.FileSystem
import Adcp.L3Store.WriterClient

/-!
# The migration of the control store

`migrate` brings a database to a schema version. A copy of the database is made before, under a
name of its own, and when the migration has succeeded the backups of the directory are pruned to
the first five of their names in descending order.

* `UtcTime`, `BackupName`: what the name of a backup is made of.
* `MigrationCall`: what is called of the connection, the clock and the backup directory; the files
  are those of the directory, by their names.
* `backup`, `pruneBackups`, `migrate`: the programs.
-/
namespace Adcp.L3.Migrations

open Adcp.L1 Adcp.L2 Script FileSystem

/-! ## Times -/

/-- The fields of a `datetime` in UTC. -/
structure UtcTime where
  year : Nat
  month : Nat
  day : Nat
  hour : Nat
  minute : Nat
  second : Nat
  microsecond : Nat
  date : year ≤ 9999 ∧ month ≤ 12 ∧ day ≤ 31
  clock : hour < 24 ∧ minute < 60 ∧ second < 60 ∧ microsecond < 1000000
  deriving DecidableEq

namespace UtcTime

/-- The fields, the greatest first. -/
def fields (t : UtcTime) : List Nat :=
  [t.year, t.month, t.day, t.hour, t.minute, t.second, t.microsecond]

instance : LT UtcTime := ⟨fun s t => s.fields < t.fields⟩
instance : LE UtcTime := ⟨fun s t => ¬ t < s⟩
instance (s t : UtcTime) : Decidable (s < t) := inferInstanceAs (Decidable (s.fields < t.fields))
instance (s t : UtcTime) : Decidable (s ≤ t) := inferInstanceAs (Decidable (¬ t < s))

end UtcTime

/-- The last `width` decimal digits of a number. -/
def zeroPadded : Nat → Nat → List Char
  | 0, _ => []
  | width + 1, n => Nat.digitChar (n / 10 ^ width % 10) :: zeroPadded width n

/-- `now.strftime("%Y%m%dT%H%M%S%fZ")` -/
def UtcTime.stamp (t : UtcTime) : List Char :=
  zeroPadded 4 t.year ++ (zeroPadded 2 t.month ++ (zeroPadded 2 t.day ++ 'T' ::
    (zeroPadded 2 t.hour ++ (zeroPadded 2 t.minute ++ (zeroPadded 2 t.second ++
      (zeroPadded 6 t.microsecond ++ ['Z']))))))

/-- `now.isoformat(timespec="microseconds")` -/
def UtcTime.isoformat (t : UtcTime) : String :=
  String.ofList (zeroPadded 4 t.year ++ '-' :: zeroPadded 2 t.month ++ '-' :: zeroPadded 2 t.day ++
    'T' :: zeroPadded 2 t.hour ++ ':' :: zeroPadded 2 t.minute ++ ':' :: zeroPadded 2 t.second ++
    '.' :: zeroPadded 6 t.microsecond ++ "+00:00".toList)

/-! ## Backups -/

/-- What is in the name of a backup: the version the database had, when the backup was made, and
the first characters of the checksum of the first migration. -/
structure BackupName where
  version : Nat
  created : UtcTime
  checksum : List Char
  deriving DecidableEq

def BackupName.versionText (b : BackupName) : List Char := Nat.toDigits 10 b.version

def BackupName.chars (b : BackupName) : List Char :=
  "control.sqlite3.v".toList ++ (b.versionText ++ '.' :: (b.created.stamp ++ '.' ::
    (b.checksum ++ ".bak".toList)))

/-- mirrors src/adcp/store/migrations.py:1988 -/
def BackupName.text (b : BackupName) : String := String.ofList b.chars

/-- `fnmatch(name, "control.sqlite3.v*.bak")` -/
def isBackup (name : String) : Bool :=
  let chars := name.toList
  "control.sqlite3.v".toList.isPrefixOf chars && ".bak".toList.isSuffixOf chars &&
    decide (21 ≤ chars.length)

/-! ## Migrations -/

/-- mirrors src/adcp/store/migrations.py:1814-1819, without the SQL text -/
structure Migration where
  version : Nat
  name : String
  checksum : String
  deriving DecidableEq, Repr

/-- mirrors src/adcp/store/migrations.py:1822-1833 -/
def registered : List Migration := [
  ⟨1, "0001_mvp_a_control_store",
    "8f5d1e0d2c9fe9f457aa26bf16a0963131a64a2a6a71d7fdf71490f74acd516c"⟩,
  ⟨2, "0002_slice_control_state",
    "29b79d1d91841015955dd1cc2678a51765a79fced08aa741c4bd99cc658fac5f"⟩,
  ⟨3, "0003_authority_transition_control",
    "8a3714a074d314e09e9fbe03d714b2d4a43497ef1653436dcb79bd55668cde46"⟩,
  ⟨4, "0004_deferred_preexecution_binding",
    "2d95ec8f895fa26b4db70d6b961893f527916ec80e68df8c08c0c7c2749eceb5"⟩,
  ⟨5, "0005_prebound_release_invariant",
    "e872acac22c59b5a585e3b224300ab20a9e890bcd73342e0ab35282bf4b29eb3"⟩,
  ⟨6, "0006_global_production_writer_lease",
    "55eecd199ba5e6963cc72d42b4c19bf59f3fe02ee6df3d4ac0f8bd73f45952c0"⟩,
  ⟨7, "0007_evaluator_artifact_seal",
    "e2488288c73cfb0572430eb38bfd4279b98ddaf4b5eb81468d0b7a666c495596"⟩,
  ⟨8, "0008_typed_postgres_operation_receipt_event",
    "dcdfd8a9c0e06e8f0c11490c8fd4e080fa6aab6c22e1b9126f98eeb07675faa3"⟩,
  ⟨9, "0009_uncommitted_candidate_review",
    "de5877e7eb00e26b50f1adfbb11dae46293f0391843a54dbca5569bc26a9e39f"⟩,
  ⟨10, "0010_typed_postgres_operation_receipt_provision_principal",
    "fa241b5205b014bca2524ef35018c319050d560cbcf2c79d004a9d587dc78d6f"⟩]

/-- mirrors src/adcp/store/migrations.py:1791-1797 -/
def migrationChecksum (sql : String) : String :=
  Sha256.hexdigest (Sha256.utf8 (Client.strip (Client.unixLines sql.toList) ++ ['\n']))

/-- mirrors src/adcp/store/migrations.py:1868-1890 -/
def pendingMigrations (current : Nat) (target : Int) : Except PyError (List Migration) :=
  if target < 0 then .error (.store "MIGRATION_TARGET_VERSION_INVALID" (toString target))
  else if target ≠ 0 ∧ ∀ m ∈ registered, (m.version : Int) ≠ target then
    .error (.store "MIGRATION_TARGET_VERSION_UNREGISTERED" (toString target))
  else if target < current then
    .error (.store "FAIL_CLOSED_TARGET_VERSION_OVERSHOOT"
      ("current=" ++ toString current ++ ",target=" ++ toString target))
  else .ok (registered.filter fun m => current < m.version ∧ (m.version : Int) ≤ target)

/-- mirrors src/adcp/store/migrations.py:1836-1841; the path is the name in the directory. -/
structure MigrationResult where
  previousVersion : Nat
  version : Int
  applied : Bool
  backupPath : Option String
  deriving DecidableEq, Repr

/-! ## Calls -/

/-- A row of `schema_migration`. -/
abbrev HistoryRow : Type := Nat × String × String

/-- What `migrate` calls. `executeStatements` is the helper that executes a text statement by
statement. -/
inductive MigrationCall where
  | userObjects
  | createSchemaMigration
  | history
  | validateSchema (version : Int)
  | now
  | makeDirectory
  | connect (name : String)
  | copyPages (name : String)
  | integrityCheck (name : String)
  | closeDestination (name : String)
  | unlinkMissingOk (name : String)
  | replace (source target : String)
  | beginImmediate
  | executeStatements (sql : String)
  | insertMigration (version : Nat) (name checksum appliedAt : String)
  | maxVersion
  | commit
  | rollback
  | glob
  | unlink (name : String)
  deriving DecidableEq

abbrev MigrationAnswer : MigrationCall → Type
  | .userObjects => List (String × String)
  | .history => List HistoryRow
  | .now => UtcTime
  | .integrityCheck _ => List String
  | .maxVersion => Option Int
  | .glob => List String
  | _ => Unit

abbrev MigrationScript (α : Type) : Type := Script PyError MigrationAnswer α

/-! ## The programs -/

def ask (c : MigrationCall) : MigrationScript (MigrationAnswer c) := invoke c


/-- mirrors src/adcp/store/migrations.py:1979-2003 (`_backup`); `describe` is `repr`. -/
def backup (describe : List String → String) (name : BackupName) : MigrationScript String := do
  ask .makeDirectory
  let target := name.text
  let temporary := target ++ ".tmp"
  ask (.connect temporary)
  let copied ← attempt <| ensuring (do
      ask (.copyPages temporary)
      let result ← ask (.integrityCheck temporary)
      require (result = ["ok"]) (.store "MIGRATION_BACKUP_INVALID" (describe result)))
    (ask (.closeDestination temporary))
  match copied with
  | .error e =>
    ask (.unlinkMissingOk temporary)
    fail e
  | .ok () =>
    ask (.replace temporary target)
    pure target

/-- The names in descending order. -/
def descending (names : List String) : List String := names.insertionSort fun a b => b ≤ a

/-- mirrors src/adcp/store/migrations.py:2006-2009 -/
def pruneBackups : MigrationScript Unit := do
  let backups ← ask .glob
  each (fun old => ask (.unlink old)) ((descending backups).drop 5)

/-- The arguments of `migrate`: whether there is a backup directory, the time if one is given, and
the SQL text of each version. -/
structure MigrateRequest where
  backupRoot : Bool
  now : Option UtcTime
  sql : Nat → String
  target : Int

/-- `now or datetime.now(timezone.utc)` -/
def MigrateRequest.readNow (q : MigrateRequest) : MigrationScript UtcTime :=
  match q.now with
  | some t => pure t
  | none => ask .now

/-- The history is the registered one, as far as it goes. -/
def historyRecognized (rows : List HistoryRow) : Bool :=
  rows.map Prod.fst = (List.range rows.length).map (· + 1) ∧
    ∀ row ∈ rows, ∃ m ∈ registered, m.version = row.1 ∧ row.2 = (m.name, m.checksum)

/-- mirrors src/adcp/store/migrations.py:2112-2131: what is done between `BEGIN` and `COMMIT`. -/
def MigrateRequest.apply (q : MigrateRequest)
    (pending : List Migration) : MigrationScript Unit := do
  let appliedAt := (← q.readNow).isoformat
  each (fun m => do
    ask (.executeStatements (q.sql m.version))
    ask (.insertMigration m.version m.name (migrationChecksum (q.sql m.version)) appliedAt))
    pending
  let actual ← ask .maxVersion
  require (actual = some q.target) (.store "FAIL_CLOSED_TARGET_VERSION_OVERSHOOT"
    ("actual=" ++ (actual.elim "None" toString) ++ ",target=" ++ toString q.target))
  ask (.validateSchema q.target)
  ask .commit

/-- mirrors src/adcp/store/migrations.py:2047-2054: whether the table of the history had to be
created, and the objects of the database. -/
def recognizedObjects : MigrationScript (Bool × List (String × String)) := do
  let objects ← ask .userObjects
  if objects = [] then do
    ask .createSchemaMigration
    let created ← ask .userObjects
    pure (true, created)
  else do
    require (("table", "schema_migration") ∈ objects) (.store "UNRECOGNIZED_DATABASE" "")
    pure (false, objects)

/-- mirrors src/adcp/store/migrations.py:2099-2138 -/
def MigrateRequest.migrateFrom (describe : List String → String) (q : MigrateRequest)
    (bootstrapCreated : Bool) (current : Nat) (first : Migration) (rest : List Migration) :
    MigrationScript MigrationResult := do
  let checksum := migrationChecksum (q.sql first.version)
  let backupPath ← if bootstrapCreated = false ∧ q.backupRoot = true then do
      let now ← q.readNow
      some <$> backup describe ⟨current, now, checksum.toList.take 12⟩
    else pure none
  ask .beginImmediate
  match ← attempt (q.apply (first :: rest)) with
  | .error e =>
    ask .rollback
    fail e
  | .ok () =>
    (if q.backupRoot = true then pruneBackups else pure ())
    pure ⟨current, q.target, true, backupPath⟩

/-- mirrors src/adcp/store/migrations.py:2028-2138 -/
def MigrateRequest.migrate (describe : List String → String) (q : MigrateRequest) :
    MigrationScript MigrationResult := do
  let (bootstrapCreated, objects) ← recognizedObjects
  let rows ← ask .history
  let current := (rows.getLast?.map Prod.fst).getD 0
  require (∃ m ∈ registered, current ≤ m.version) (.store "MIGRATION_VERSION_AHEAD" "")
  require (historyRecognized rows = true) (.store "MIGRATION_CHECKSUM_MISMATCH" "")
  let pending ← lift (pendingMigrations current q.target)
  if (current : Int) = q.target then
    ask (.validateSchema q.target)
    pure ⟨current, current, false, none⟩
  else
    require (current = 0 → ("table", "schema_migration") ∈ objects ∧
        ∀ o ∈ objects, o = ("table", "schema_migration")) (.store "UNRECOGNIZED_DATABASE" "")
    match pending with
    | [] => fail (.store "MIGRATION_TARGET_VERSION_UNREACHABLE"
        ("current=" ++ toString current ++ ",target=" ++ toString q.target))
    | first :: rest => q.migrateFrom describe bootstrapCreated current first rest

end Adcp.L3.Migrations
