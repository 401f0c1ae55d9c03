import Adcp.L3Store.GlobalWriter

/-!
# The standalone writer client

The `GlobalWriterStore` of the thin client package: its own implementation of
the writer protocol on the database that the control store migrates. It takes
the schema from a generated contract and checks, whenever it reads the lease,
that the database still has one of the contract's profiles.

Its tables, constraints and surroundings are the control store's (`Schema`,
`writerRowChecks`, `writerEventChecks`, `Env`); everything else is the client's
own code. `ClientError` keeps its exception apart from those it lets through. The
files cited are those below src/packages/adcp-global-writer-client/src.
-/
namespace Adcp.L3.Client

open Adcp.L1 Adcp.L2

/-! ## Errors and canonical texts -/

/-- `client` is `GlobalWriterClientError(code, detail)`; `other` is any exception
the client did not raise. -/
inductive ClientError where
  | client (code detail : String)
  | other (e : PyError)
  deriving DecidableEq, Repr

def clientError (code : String) : ClientError := .client code ""

/-- mirrors adcp_global_writer_client/canonical.py:28-36 -/
def canonicalJson (v : Json) : Except ClientError String :=
  if v.noFloat then .ok (String.ofList v.render)
  else .error (.client "CANONICAL_JSON_INVALID" "float forbidden")

/-- mirrors adcp_global_writer_client/canonical.py:49-51 -/
def requireSha256 (value field : String) : Tx ClientError Db Unit :=
  Tx.require (value.toList.length = 64 ∧ value.toList.all isLowerHex = true)
    (.client "INVALID_INPUT" (field ++ " must be lowercase SHA-256"))

/-! ## The schema -/

/-- A row of `sqlite_schema`; `sql` is NULL for what has no text. -/
structure SchemaObject where
  kind : String
  name : String
  sql : Option String

/-- mirrors adcp_global_writer_client/schema_contract.py:26-33 -/
structure SchemaProfile where
  migrationHistory : List (Int × String × String)
  expectedTables : List String
  expectedIndexes : List String
  expectedTriggers : List String
  expectedObjectFingerprints : List ((String × String) × String)

/-- A client connected to a database: the profiles of its verified contract,
oldest first, and what the catalogue queries find. -/
structure Connection where
  oldest : SchemaProfile
  later : List SchemaProfile
  migrations : List (Int × String × String)
  objects : List SchemaObject
  integrityCheck : List String
  foreignKeyCheck : List String

def schemaInvalid (detail : String) : ClientError :=
  .client "GLOBAL_WRITER_CLIENT_SCHEMA_INVALID" detail

/-- `sql.replace("\r\n", "\n").replace("\r", "\n")`. -/
def unixLines : List Char → List Char
  | '\r' :: '\n' :: rest => '\n' :: unixLines rest
  | '\r' :: rest => '\n' :: unixLines rest
  | c :: rest => c :: unixLines rest
  | [] => []

/-- `text.strip()`. -/
def strip (text : List Char) : List Char :=
  ((text.dropWhile isPySpace).reverse.dropWhile isPySpace).reverse

/-- mirrors adcp_global_writer_client/store.py:47-49 -/
def schemaObjectFingerprint (sql : String) : String :=
  Sha256.hexdigest (Sha256.utf8 (strip (unixLines sql.toList) ++ ['\n']))

/-- mirrors adcp_global_writer_client/store.py:52-68 -/
def selectSchemaProfile (conn : Connection) : Except ClientError SchemaProfile :=
  let oldest := conn.oldest.migrationHistory
  if conn.migrations = [] then
    .error (.client "GLOBAL_WRITER_CLIENT_SCHEMA_NOT_READY" "no migrations applied")
  else
    match (conn.oldest :: conn.later).find? (·.migrationHistory = conn.migrations) with
    | some profile => .ok profile
    | none =>
      if conn.migrations.length < oldest.length ∧
          conn.migrations = oldest.take conn.migrations.length then
        .error (.client "GLOBAL_WRITER_CLIENT_SCHEMA_NOT_READY"
          "expected one of the exact supported canonical schemas")
      else .error (schemaInvalid "migration history/checksum mismatch")

/-- The two lists hold the same elements, as sets and dictionaries are compared. -/
def sameElements {α : Type} [DecidableEq α] (xs ys : List α) : Bool :=
  xs.all (· ∈ ys) && ys.all (· ∈ xs)

def Connection.names (conn : Connection) (kind : String) : List String :=
  (conn.objects.filter (·.kind = kind)).map (·.name)

def Connection.fingerprints (conn : Connection) : List ((String × String) × String) :=
  conn.objects.map fun o => ((o.kind, o.name), schemaObjectFingerprint (o.sql.getD ""))

/-- mirrors adcp_global_writer_client/store.py:71-131 -/
def validateSchemaConnection (conn : Connection) : Except ClientError SchemaProfile := do
  let profile ← selectSchemaProfile conn
  let require (c : Bool) (detail : String) : Except ClientError Unit :=
    if c then .ok () else .error (schemaInvalid detail)
  require (sameElements (conn.names "table") profile.expectedTables) "table inventory mismatch"
  require (sameElements (conn.names "index") profile.expectedIndexes) "index inventory mismatch"
  require (sameElements (conn.names "trigger") profile.expectedTriggers)
    "trigger inventory mismatch"
  require (conn.names "view").isEmpty "view inventory mismatch"
  match conn.objects.find? (·.sql.isNone) with
  | some o => .error (schemaInvalid ("missing SQL for " ++ o.kind ++ ":" ++ o.name))
  | none => .ok ()
  require (sameElements conn.fingerprints profile.expectedObjectFingerprints)
    "schema object definition mismatch"
  require (conn.integrityCheck = ["ok"]) "integrity_check failed"
  require conn.foreignKeyCheck.isEmpty "foreign_key_check failed"
  .ok profile

/-! ## The row -/

/-- `GLOBAL_WRITER_REQUIRED_CONTEXT_FIELDS`.
mirrors adcp_global_writer_client/store.py:30-39 -/
def requiredContextFields (c : WriterContext) : List (String × Option String) :=
  [("owner_id", c.ownerId), ("change_id", c.changeId), ("writer_class", c.writerClass),
   ("owner_session_role", c.ownerSessionRole), ("track", c.track),
   ("repository_or_runtime", c.repositoryOrRuntime), ("operation_class", c.operationClass),
   ("target", c.target)]

/-- `GLOBAL_WRITER_OPTIONAL_CONTEXT_FIELDS`.
mirrors adcp_global_writer_client/store.py:40 -/
def optionalContextFields (c : WriterContext) : List (String × Option String) :=
  [("owner_execution_id", c.ownerExecutionId), ("slice_id", c.sliceId)]

/-- `GLOBAL_WRITER_CONTEXT_FIELDS`.
mirrors adcp_global_writer_client/store.py:18-29 -/
def contextFields (c : WriterContext) : List (String × Option String) :=
  [("owner_id", c.ownerId), ("owner_execution_id", c.ownerExecutionId), ("change_id", c.changeId),
   ("slice_id", c.sliceId), ("writer_class", c.writerClass),
   ("owner_session_role", c.ownerSessionRole), ("track", c.track),
   ("repository_or_runtime", c.repositoryOrRuntime), ("operation_class", c.operationClass),
   ("target", c.target)]

def stateInvalid (field : String) : ClientError :=
  .client "GLOBAL_PRODUCTION_WRITER_STATE_INVALID" field

/-- mirrors adcp_global_writer_client/store.py:225-250;
the columns are typed, so a text that is no UTC timestamp cannot occur -/
def validateGlobalWriterRow (env : Env) (row : GlobalWriterLease) : Tx ClientError Db Unit := do
  Tx.require (0 ≤ row.fencingToken) (stateInvalid "fencing_token")
  match row.state with
  | .FREE =>
    Tx.requireAll stateInvalid
      ((contextFields row.context).map fun p => (p.1, p.2.isNone))
    Tx.requireAll stateInvalid
      [("acquired_at", row.acquiredAt.isNone), ("expires_at", row.expiresAt.isNone),
       ("heartbeat_at", row.heartbeatAt.isNone)]
  | .HELD =>
    Tx.requireAll stateInvalid ((requiredContextFields row.context).map fun p =>
      (p.1, nonEmptyText p.2))
    Tx.requireAll stateInvalid ((optionalContextFields row.context).map fun p =>
      (p.1, nullOrNonEmpty p.2))
    match row.acquiredAt, row.expiresAt, row.heartbeatAt with
    | none, _, _ => Tx.fail (stateInvalid "acquired_at")
    | some _, none, _ => Tx.fail (stateInvalid "expires_at")
    | some _, some _, none => Tx.fail (stateInvalid "heartbeat_at")
    | some acquired, some expires, some heartbeat =>
      Tx.require (env.julianday acquired ≤ env.julianday heartbeat ∧
          env.julianday heartbeat = env.julianday row.updatedAt ∧
          env.julianday row.updatedAt < env.julianday expires) (stateInvalid "lease timestamps")

/-- mirrors adcp_global_writer_client/store.py:252-263 -/
def get (conn : Connection) (env : Env) : Tx ClientError Db GlobalWriterLease := do
  let _ ← Tx.lift (validateSchemaConnection conn)
  let row ← Tx.read Db.globalWriterLease
  validateGlobalWriterRow env row
  pure row

/-- `expires_at` is at or before `now`; a NULL `expires_at` is an invalid row, which
`get` has refused. -/
def expired (env : Env) (row : GlobalWriterLease) (now : Timestamp) : Bool :=
  match row.expiresAt with
  | some expires => env.julianday expires ≤ env.julianday now
  | none => true

/-- mirrors adcp_global_writer_client/store.py:343-354 -/
def requireCurrent (env : Env) (row : GlobalWriterLease) (ownerId : String) (fencingToken : Int)
    (now : Timestamp) : Tx ClientError Db Unit := do
  Tx.require (row.fencingToken = fencingToken) (clientError "STALE_FENCING_TOKEN")
  Tx.require (row.state = .HELD) (clientError "GLOBAL_PRODUCTION_WRITER_NOT_HELD")
  Tx.require (row.context.ownerId = some ownerId)
    (clientError "GLOBAL_PRODUCTION_WRITER_OWNER_MISMATCH")
  Tx.require (expired env row now = false) (clientError "GLOBAL_PRODUCTION_WRITER_LEASE_EXPIRED")

/-- mirrors adcp_global_writer_client/store.py:356-361 -/
def assertCurrent (conn : Connection) (env : Env) (reading : Nat) (ownerId : String)
    (fencingToken : Int) : Tx ClientError Db GlobalWriterLease := do
  Tx.require (ownerId ≠ "") (.client "INVALID_INPUT" "owner_id is required")
  Tx.require (0 ≤ fencingToken) (.client "INVALID_INPUT" "fencing_token")
  let row ← get conn env
  requireCurrent env row ownerId fencingToken (env.clock reading)
  pure row

/-! ## Statements -/

/-- `except sqlite3.Error as error: raise GlobalWriterClientError("CONTROL_STORE_ERROR", …)`. -/
def controlStoreError : ClientError → ClientError
  | .other (.integrity detail) => .client "CONTROL_STORE_ERROR" detail
  | .other (.check table constraint) =>
    .client "CONTROL_STORE_ERROR" ("CHECK constraint failed: " ++ table ++ "." ++ constraint)
  | e => e

/-- `_fault_injector(point)`. -/
def inject (env : Env) (point : String) : Tx ClientError Db Unit :=
  match env.fault point with
  | some e => Tx.fail (.other e)
  | none => pure ()

/-- `UPDATE global_production_writer_lease … WHERE cond`, with the constraints of the
shared schema; `lost` is raised when `rowcount` is not 1. -/
def updateLease (env : Env) (cond : GlobalWriterLease → Bool)
    (set : GlobalWriterLease → GlobalWriterLease) (lost : ClientError) : Tx ClientError Db Unit := do
  let row ← Tx.read Db.globalWriterLease
  Tx.require (cond row = true) lost
  Tx.require (row.fencingToken ≤ (set row).fencingToken)
    (.other (.integrity "GLOBAL_PRODUCTION_WRITER_FENCING_DECREMENT_FORBIDDEN"))
  Tx.require (writerRowChecks env (set row) = true)
    (.other (.check "global_production_writer_lease" "row"))
  Tx.write fun db => { db with globalWriterLease := set db.globalWriterLease }

/-- mirrors adcp_global_writer_client/store.py:275-286 -/
def validateContext (context : WriterContext) : Tx ClientError Db Unit := do
  Tx.requireAll (.client "GLOBAL_PRODUCTION_WRITER_CONTEXT_INVALID")
    ((requiredContextFields context).map fun p => (p.1, nonEmptyText p.2))
  Tx.requireAll (.client "GLOBAL_PRODUCTION_WRITER_CONTEXT_INVALID")
    ((optionalContextFields context).map fun p => (p.1, nullOrNonEmpty p.2))

/-- mirrors adcp_global_writer_client/store.py:288-296 -/
def existingEvent (operationKey : String) (allowed : List WriterEventType) (requestJson : String) :
    Tx ClientError Db (Option GlobalWriterEvent) := do
  let row ← Tx.read fun db => db.globalWriterEvent.find? (·.operationKey = operationKey)
  match row with
  | none => pure none
  | some event =>
    if event.eventType ∉ allowed ∨ event.requestJson ≠ requestJson then
      Tx.fail (clientError "GLOBAL_PRODUCTION_WRITER_IDEMPOTENCY_CONFLICT")
    else pure (some event)

/-- mirrors adcp_global_writer_client/store.py:298-341 -/
def insertEvent (env : Env) (operationKey : String) (eventType : WriterEventType)
    (fromFencingToken toFencingToken : Int) (priorContext newContext : Option WriterContext)
    (reason : String) (controlDecisionRef : Option String) (requestJson : String)
    (createdAt : Timestamp) : Tx ClientError Db Unit := do
  let event : GlobalWriterEvent :=
    { eventId := env.uuid 0, operationKey := operationKey, eventType := eventType
      fromFencingToken := fromFencingToken, toFencingToken := toFencingToken
      prior := priorContext.getD .empty, new := newContext.getD .empty, reason := reason
      controlDecisionRef := controlDecisionRef, requestJson := requestJson, createdAt := createdAt }
  let db ← Tx.read id
  Tx.require (writerEventChecks event = true)
    (.other (.check "global_production_writer_event" "row"))
  Tx.require (db.globalWriterEvent.all fun e => e.eventId ≠ event.eventId ∧
      e.operationKey ≠ event.operationKey) (.other (.integrity "UNIQUE constraint failed"))
  Tx.write fun db => { db with globalWriterEvent := db.globalWriterEvent ++ [event] }

/-! ## Operations -/

def contextJson (c : WriterContext) : Json :=
  .obj ((contextFields c).map fun p => (p.1, .ofOption p.2))

def minLeaseTtlSeconds : Int := 15
def maxLeaseTtlSeconds : Int := 300

def requireTtl (ttlSeconds : Int) : Tx ClientError Db Unit :=
  Tx.require (minLeaseTtlSeconds ≤ ttlSeconds ∧ ttlSeconds ≤ maxLeaseTtlSeconds)
    (clientError "INVALID_LEASE_TTL")

/-- The UTC text of the expiry; `OverflowError` is no error of the client's. -/
def expiry (now : Timestamp) (ttlSeconds : Int) : Except ClientError Timestamp :=
  (now.addSeconds ttlSeconds).mapError .other

/-- The transaction of `acquire`.
mirrors adcp_global_writer_client/store.py:363-467 -/
def acquireTx (conn : Connection) (env : Env) (a : AcquireWriter) : Tx ClientError Db Grant := do
  requireSha256 a.operationKey "operation_key"
  requireTtl a.ttlSeconds
  Tx.require (nullOrNonEmpty a.controlDecisionRef = true)
    (.client "INVALID_INPUT" "control_decision_ref")
  validateContext a.context
  let requestJson ← Tx.lift (canonicalJson (.obj [("context", contextJson a.context),
    ("ttl_seconds", .int a.ttlSeconds), ("control_decision_ref", .ofOption a.controlDecisionRef)]))
  let now := env.clock 0
  let expires ← Tx.lift (expiry now a.ttlSeconds)
  Tx.mapError controlStoreError do
    let existing ← existingEvent a.operationKey [.ACQUIRE, .EXPIRED_TAKEOVER] requestJson
    match existing with
    | some event =>
      let current ← get conn env
      if current.state ≠ .HELD ∨ current.fencingToken ≠ event.toFencingToken ∨
          current.context ≠ a.context then
        Tx.fail (clientError "GLOBAL_PRODUCTION_WRITER_OPERATION_REPLAY_STALE")
      else pure (.replayed current.fencingToken)
    | none =>
      let prior ← get conn env
      if prior.state = .HELD ∧ expired env prior now = false then
        Tx.fail (clientError "GLOBAL_PRODUCTION_WRITER_HELD")
      else
        let held := prior.state = .HELD
        let newToken := prior.fencingToken + 1
        updateLease env (fun row => row.fencingToken = prior.fencingToken)
          (fun _ => { state := .HELD, context := a.context, fencingToken := newToken
                      acquiredAt := some now, expiresAt := some expires, heartbeatAt := some now
                      updatedAt := now })
          (.client "CONTROL_STORE_ERROR" "global writer singleton update lost")
        inject env "after_state_update"
        insertEvent env a.operationKey (if held then .EXPIRED_TAKEOVER else .ACQUIRE)
          prior.fencingToken newToken (if held then some prior.context else none) (some a.context)
          (if held then "GLOBAL_PRODUCTION_WRITER_EXPIRED_TAKEOVER"
            else "GLOBAL_PRODUCTION_WRITER_ACQUIRED")
          a.controlDecisionRef requestJson now
        inject env "after_event_insert"
        pure (.fresh newToken)

/-- mirrors adcp_global_writer_client/store.py:363-471 -/
def acquire (conn : Connection) (env : Env) (a : AcquireWriter) :
    Db → Except ClientError GlobalWriterLease × Db :=
  Tx.commitThen (acquireTx conn env a) fun g => do
    let current ← assertCurrent conn env 1 (a.context.ownerId.getD "") g.token
    Tx.require (current.context = a.context)
      (.client "CONTROL_STORE_ERROR" "global writer readback mismatch")
    pure current

/-- The transaction of `heartbeat`.
mirrors adcp_global_writer_client/store.py:473-496 -/
def heartbeatTx (conn : Connection) (env : Env) (ownerId : String) (fencingToken ttlSeconds : Int) :
    Tx ClientError Db Unit := do
  requireTtl ttlSeconds
  let now := env.clock 0
  let expires ← Tx.lift (expiry now ttlSeconds)
  Tx.mapError controlStoreError do
    let row ← get conn env
    requireCurrent env row ownerId fencingToken now
    updateLease env
      (fun row => row.state = .HELD && row.context.ownerId = some ownerId &&
        row.fencingToken = fencingToken && row.expiresAt.any (now < ·))
      (fun row => { row with expiresAt := some expires, heartbeatAt := some now, updatedAt := now })
      (clientError "STALE_FENCING_TOKEN")

/-- mirrors adcp_global_writer_client/store.py:473-497 -/
def heartbeat (conn : Connection) (env : Env) (ownerId : String) (fencingToken ttlSeconds : Int) :
    Db → Except ClientError GlobalWriterLease × Db :=
  Tx.commitThen (heartbeatTx conn env ownerId fencingToken ttlSeconds) fun _ =>
    assertCurrent conn env 1 ownerId fencingToken

/-- The part that `release` and `force_revoke` share, from the lookup of the key to
the COMMIT.
mirrors adcp_global_writer_client/store.py:523-569,603-650 -/
def free (conn : Connection) (env : Env) (eventType : WriterEventType)
    (operationKey ownerId : String) (fencingToken newToken : Int) (reason : String)
    (controlDecisionRef : Option String) (requestJson : String) (lost : ClientError) :
    Tx ClientError Db Grant := do
  let now := env.clock 0
  Tx.mapError controlStoreError do
    let existing ← existingEvent operationKey [eventType] requestJson
    match existing with
    | some event =>
      let current ← get conn env
      if current.state ≠ .FREE ∨ current.fencingToken ≠ event.toFencingToken then
        Tx.fail (clientError "GLOBAL_PRODUCTION_WRITER_OPERATION_REPLAY_STALE")
      else pure (.replayed current.fencingToken)
    | none =>
      let prior ← get conn env
      requireCurrent env prior ownerId fencingToken now
      updateLease env
        (fun row => row.state = .HELD && row.context.ownerId = some ownerId &&
          row.fencingToken = fencingToken && row.expiresAt.any (now < ·))
        (fun _ => { state := .FREE, context := .empty, fencingToken := newToken, acquiredAt := none
                    expiresAt := none, heartbeatAt := none, updatedAt := now }) lost
      inject env "after_state_update"
      insertEvent env operationKey eventType fencingToken newToken (some prior.context) none reason
        controlDecisionRef requestJson now
      inject env "after_event_insert"
      pure (.fresh newToken)

/-- The re-read that ends both. -/
def readBack (conn : Connection) (env : Env) (detail : String) (g : Grant) :
    Tx ClientError Db GlobalWriterLease := do
  let current ← get conn env
  if current.state ≠ .FREE ∨ current.fencingToken ≠ g.token then
    Tx.fail (.client "CONTROL_STORE_ERROR" detail)
  else pure current

/-- mirrors adcp_global_writer_client/store.py:499-569 -/
def releaseTx (conn : Connection) (env : Env) (a : ReleaseWriter) : Tx ClientError Db Grant := do
  requireSha256 a.operationKey "operation_key"
  Tx.require (a.reason ≠ "") (.client "INVALID_INPUT" "reason")
  Tx.require (nullOrNonEmpty a.controlDecisionRef = true)
    (.client "INVALID_INPUT" "control_decision_ref")
  Tx.require (0 ≤ a.fencingToken) (.client "INVALID_INPUT" "fencing_token")
  let requestJson ← Tx.lift (canonicalJson (.obj [("owner_id", .str a.ownerId),
    ("fencing_token", .int a.fencingToken), ("reason", .str a.reason),
    ("control_decision_ref", .ofOption a.controlDecisionRef)]))
  free conn env .RELEASE a.operationKey a.ownerId a.fencingToken a.fencingToken a.reason
    a.controlDecisionRef requestJson (clientError "STALE_FENCING_TOKEN")

/-- mirrors adcp_global_writer_client/store.py:499-573 -/
def release (conn : Connection) (env : Env) (a : ReleaseWriter) :
    Db → Except ClientError GlobalWriterLease × Db :=
  Tx.commitThen (releaseTx conn env a)
    (readBack conn env "global writer release readback mismatch")

/-- mirrors adcp_global_writer_client/store.py:575-650 -/
def forceRevokeTx (conn : Connection) (env : Env) (a : RevokeWriter) :
    Tx ClientError Db Grant := do
  requireSha256 a.operationKey "operation_key"
  Tx.requireAll (.client "INVALID_INPUT")
    [("reason", a.reason ≠ ""), ("control_decision_ref", a.controlDecisionRef ≠ ""),
     ("expected_owner_id", a.expectedOwnerId ≠ "")]
  Tx.require (0 ≤ a.expectedFencingToken) (.client "INVALID_INPUT" "expected_fencing_token")
  let requestJson ← Tx.lift (canonicalJson (.obj [("reason", .str a.reason),
    ("control_decision_ref", .str a.controlDecisionRef),
    ("expected_owner_id", .str a.expectedOwnerId),
    ("expected_fencing_token", .int a.expectedFencingToken)]))
  free conn env .FORCE_REVOKE a.operationKey a.expectedOwnerId a.expectedFencingToken
    (a.expectedFencingToken + 1) a.reason (some a.controlDecisionRef) requestJson
    (clientError "GLOBAL_PRODUCTION_WRITER_FORCE_REVOKE_MISMATCH")

/-- mirrors adcp_global_writer_client/store.py:575-654 -/
def forceRevoke (conn : Connection) (env : Env) (a : RevokeWriter) :
    Db → Except ClientError GlobalWriterLease × Db :=
  Tx.commitThen (forceRevokeTx conn env a)
    (readBack conn env "global writer revoke readback mismatch")

end Adcp.L3.Client
