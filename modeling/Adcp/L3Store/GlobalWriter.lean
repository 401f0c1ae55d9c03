import Adcp.L3Store.Schema

/-!
# The global production writer

The singleton lease that serialises production writers, and its event log. Each
operation is one `BEGIN IMMEDIATE` transaction, followed by a re-read of the
committed row (`Tx.commitThen`): a failing re-read reports an error but the
commit stands. `Grant.replayed` marks an operation key that was already used,
for which nothing is written.

Every ordinary write of a guarded store starts with `begin`, which requires the
bound owner and token to be the current holder.
-/
namespace Adcp.L3

open Adcp.L1 Adcp.L2

/-! ## The row -/

/-- `GLOBAL_WRITER_REQUIRED_CONTEXT_FIELDS`.
mirrors src/adcp/store/sqlite.py:75-84 -/
def WriterContext.requiredFields (c : WriterContext) : List (String × Option String) :=
  [("owner_id", c.ownerId), ("change_id", c.changeId), ("writer_class", c.writerClass),
   ("owner_session_role", c.ownerSessionRole), ("track", c.track),
   ("repository_or_runtime", c.repositoryOrRuntime), ("operation_class", c.operationClass),
   ("target", c.target)]

/-- `GLOBAL_WRITER_OPTIONAL_CONTEXT_FIELDS`.
mirrors src/adcp/store/sqlite.py:85 -/
def WriterContext.optionalFields (c : WriterContext) : List (String × Option String) :=
  [("owner_execution_id", c.ownerExecutionId), ("slice_id", c.sliceId)]

/-- `GLOBAL_WRITER_CONTEXT_FIELDS`.
mirrors src/adcp/store/sqlite.py:63-74 -/
def WriterContext.fields (c : WriterContext) : List (String × Option String) :=
  [("owner_id", c.ownerId), ("owner_execution_id", c.ownerExecutionId), ("change_id", c.changeId),
   ("slice_id", c.sliceId), ("writer_class", c.writerClass),
   ("owner_session_role", c.ownerSessionRole), ("track", c.track),
   ("repository_or_runtime", c.repositoryOrRuntime), ("operation_class", c.operationClass),
   ("target", c.target)]

def nonEmptyText : Option String → Bool
  | some s => s ≠ ""
  | none => false

def nullOrNonEmpty : Option String → Bool
  | some s => s ≠ ""
  | none => true

def sqlNonEmpty : Option String → Bool
  | some s => 0 < sqliteLength s
  | none => false

def sqlNullOrNonEmpty : Option String → Bool
  | some s => 0 < sqliteLength s
  | none => true

def writerStateInvalid (field : String) : PyError :=
  .store "GLOBAL_PRODUCTION_WRITER_STATE_INVALID" field

/-- `acquired <= heartbeat == updated < expires`, as SQLite's `julianday` sees the
columns. -/
def leaseTimesOrdered (env : Env) (row : GlobalWriterLease) : Bool :=
  match row.acquiredAt, row.heartbeatAt, row.expiresAt with
  | some acquired, some heartbeat, some expires =>
    env.julianday acquired ≤ env.julianday heartbeat &&
      env.julianday heartbeat = env.julianday row.updatedAt &&
      env.julianday row.updatedAt < env.julianday expires
  | _, _, _ => false

/-- mirrors src/adcp/store/sqlite.py:878-906; the columns are typed, so a text
that is no UTC timestamp cannot occur -/
def validateGlobalWriterRow (env : Env) (row : GlobalWriterLease) : Tx PyError Db Unit := do
  Tx.require (0 ≤ row.fencingToken) (writerStateInvalid "fencing_token")
  match row.state with
  | .FREE =>
    Tx.requireAll writerStateInvalid
      ((row.context.fields.map fun p => (p.1, p.2.isNone)) ++
        [("acquired_at", row.acquiredAt.isNone), ("expires_at", row.expiresAt.isNone),
         ("heartbeat_at", row.heartbeatAt.isNone)])
  | .HELD =>
    Tx.requireAll writerStateInvalid (row.context.requiredFields.map fun p => (p.1, nonEmptyText p.2))
    Tx.requireAll writerStateInvalid
      (row.context.optionalFields.map fun p => (p.1, nullOrNonEmpty p.2))
    Tx.requireAll writerStateInvalid
      [("acquired_at", row.acquiredAt.isSome), ("expires_at", row.expiresAt.isSome),
       ("heartbeat_at", row.heartbeatAt.isSome)]
    Tx.require (leaseTimesOrdered env row = true) (writerStateInvalid "lease timestamps")

/-- mirrors src/adcp/store/sqlite.py:908-918 -/
def getGlobalProductionWriterLease (env : Env) : Tx PyError Db GlobalWriterLease := do
  let row ← Tx.read Db.globalWriterLease
  validateGlobalWriterRow env row
  pure row

/-- `expires_at` is after `now`, as `julianday` sees both. -/
def writerUnexpired (env : Env) (row : GlobalWriterLease) (now : Timestamp) : Bool :=
  match row.expiresAt with
  | some expires => env.julianday now < env.julianday expires
  | none => false

/-- mirrors src/adcp/store/sqlite.py:1205-1222 -/
def requireCurrentGlobalWriter (env : Env) (row : GlobalWriterLease) (ownerId : String)
    (fencingToken : Int) (now : Timestamp) : Tx PyError Db Unit := do
  Tx.require (row.fencingToken = fencingToken) (storeError "STALE_FENCING_TOKEN")
  Tx.require (row.state = .HELD) (storeError "GLOBAL_PRODUCTION_WRITER_NOT_HELD")
  Tx.require (row.context.ownerId = some ownerId)
    (storeError "GLOBAL_PRODUCTION_WRITER_OWNER_MISMATCH")
  Tx.require (writerUnexpired env row now = true)
    (storeError "GLOBAL_PRODUCTION_WRITER_LEASE_EXPIRED")

/-- mirrors src/adcp/store/sqlite.py:1224-1242; `reading` is the clock reading of
the call that asserts -/
def assertCurrentGlobalWriter (env : Env) (reading : Nat) (ownerId : String) (fencingToken : Int) :
    Tx PyError Db GlobalWriterLease := do
  Tx.require (ownerId ≠ "") (.store "INVALID_INPUT" "owner_id is required")
  Tx.require (0 ≤ fencingToken) (.store "INVALID_INPUT" "fencing_token")
  let row ← getGlobalProductionWriterLease env
  requireCurrentGlobalWriter env row ownerId fencingToken (env.clock reading)
  pure row

/-- `_begin`: open an ordinary transaction of the store; on a guarded store the
bound authority must be current. `reading` is the clock reading it takes.
mirrors src/adcp/store/sqlite.py:766-780 -/
def begin (env : Env) (reading : Nat) : Tx PyError Db Unit :=
  match env.guard with
  | none => pure ()
  | some none => Tx.fail (storeError "GLOBAL_PRODUCTION_WRITER_REQUIRED")
  | some (some (ownerId, token)) => do
    let row ← getGlobalProductionWriterLease env
    requireCurrentGlobalWriter env row ownerId token (env.clock reading)

/-! ## Constraints and statements -/

/-- The `CHECK`s of the lease row.
mirrors src/adcp/store/migrations.py:1016-1078 -/
def writerRowChecks (env : Env) (row : GlobalWriterLease) : Bool :=
  0 ≤ row.fencingToken &&
  row.context.optionalFields.all (fun p => sqlNullOrNonEmpty p.2) &&
  (match row.state with
   | .FREE => row.context = .empty && row.acquiredAt.isNone && row.expiresAt.isNone &&
       row.heartbeatAt.isNone
   | .HELD => row.context.requiredFields.all (fun p => sqlNonEmpty p.2) &&
       leaseTimesOrdered env row)

/-- `UPDATE global_production_writer_lease … WHERE cond`; `lost` is the error
raised when no row matched.
mirrors src/adcp/store/migrations.py:1153-1156 -/
def updateWriterLease (env : Env) (cond : GlobalWriterLease → Bool)
    (set : GlobalWriterLease → GlobalWriterLease) (lost : PyError) : Tx PyError Db Unit := do
  let row ← Tx.read Db.globalWriterLease
  Tx.require (cond row = true) lost
  Tx.require (row.fencingToken ≤ (set row).fencingToken)
    (.integrity "GLOBAL_PRODUCTION_WRITER_FENCING_DECREMENT_FORBIDDEN")
  Tx.require (writerRowChecks env (set row) = true)
    (.check "global_production_writer_lease" "row")
  Tx.write fun db => { db with globalWriterLease := set db.globalWriterLease }

/-- mirrors src/adcp/store/sqlite.py:1129-1144 -/
def existingGlobalWriterEvent (operationKey : String) (allowed : List WriterEventType)
    (requestJson : String) : Tx PyError Db (Option GlobalWriterEvent) := do
  let row ← Tx.read fun db => db.globalWriterEvent.find? (·.operationKey = operationKey)
  match row with
  | none => pure none
  | some event =>
    Tx.require (event.eventType ∈ allowed ∧ event.requestJson = requestJson)
      (storeError "GLOBAL_PRODUCTION_WRITER_IDEMPOTENCY_CONFLICT")
    pure (some event)

/-- The `CHECK`s of an event.
mirrors src/adcp/store/migrations.py:1086-1144 -/
def writerEventChecks (e : GlobalWriterEvent) : Bool :=
  0 ≤ e.fromFencingToken && 0 ≤ e.toFencingToken && 0 < sqliteLength e.reason &&
  sqlNullOrNonEmpty e.controlDecisionRef && 0 < sqliteLength e.requestJson &&
  0 < sqliteLength e.eventId &&
  (if e.eventType = .RELEASE then e.toFencingToken = e.fromFencingToken
   else e.toFencingToken = e.fromFencingToken + 1) &&
  (match e.eventType with
   | .ACQUIRE => e.prior.ownerId.isNone && e.new.ownerId.isSome
   | .EXPIRED_TAKEOVER => e.prior.ownerId.isSome && e.new.ownerId.isSome
   | .RELEASE => e.prior.ownerId.isSome && e.new.ownerId.isNone
   | .FORCE_REVOKE => e.prior.ownerId.isSome && e.new.ownerId.isNone && e.controlDecisionRef.isSome)

/-- mirrors src/adcp/store/sqlite.py:1146-1203 -/
def insertGlobalWriterEvent (event : GlobalWriterEvent) : Tx PyError Db Unit := do
  let db ← Tx.read id
  Tx.require (writerEventChecks event = true) (.check "global_production_writer_event" "row")
  Tx.require (db.globalWriterEvent.all fun e => e.eventId ≠ event.eventId ∧
      e.operationKey ≠ event.operationKey) (.integrity "UNIQUE constraint failed")
  Tx.write fun db => { db with globalWriterEvent := db.globalWriterEvent ++ [event] }

/-! ## Operations -/

/-- mirrors src/adcp/store/sqlite.py:1115-1127 -/
def validateGlobalWriterContext (context : WriterContext) : Tx PyError Db Unit := do
  Tx.requireAll (.store "GLOBAL_PRODUCTION_WRITER_CONTEXT_INVALID")
    (context.requiredFields.map fun p => (p.1, nonEmptyText p.2))
  Tx.requireAll (.store "GLOBAL_PRODUCTION_WRITER_CONTEXT_INVALID")
    (context.optionalFields.map fun p => (p.1, nullOrNonEmpty p.2))

def WriterContext.json (c : WriterContext) : Json :=
  .obj [("owner_id", .ofOption c.ownerId), ("owner_execution_id", .ofOption c.ownerExecutionId),
    ("change_id", .ofOption c.changeId), ("slice_id", .ofOption c.sliceId),
    ("writer_class", .ofOption c.writerClass), ("owner_session_role", .ofOption c.ownerSessionRole),
    ("track", .ofOption c.track), ("repository_or_runtime", .ofOption c.repositoryOrRuntime),
    ("operation_class", .ofOption c.operationClass), ("target", .ofOption c.target)]

structure AcquireWriter where
  operationKey : String
  context : WriterContext
  ttlSeconds : Int
  controlDecisionRef : Option String

structure ReleaseWriter where
  operationKey : String
  ownerId : String
  fencingToken : Int
  reason : String
  controlDecisionRef : Option String

structure RevokeWriter where
  operationKey : String
  reason : String
  controlDecisionRef : String
  expectedOwnerId : String
  expectedFencingToken : Int

/-- What a committed transaction did: found its key used, or wrote, leaving the
lease with the given token. -/
inductive Grant where
  | replayed (token : Int)
  | fresh (token : Int)
  deriving DecidableEq, Repr

def Grant.token : Grant → Int
  | .replayed t => t
  | .fresh t => t

def minLeaseTtlSeconds : Int := 15
def maxLeaseTtlSeconds : Int := 300

def requireTtl {σ : Type} (ttlSeconds : Int) : Tx PyError σ Unit :=
  Tx.require (minLeaseTtlSeconds ≤ ttlSeconds ∧ ttlSeconds ≤ maxLeaseTtlSeconds)
    (storeError "INVALID_LEASE_TTL")

/-- `except sqlite3.Error as error: raise StoreError("CONTROL_STORE_ERROR", str(error))`. -/
def controlStoreError : PyError → PyError
  | .integrity detail => .store "CONTROL_STORE_ERROR" detail
  | .check table constraint =>
    .store "CONTROL_STORE_ERROR" ("CHECK constraint failed: " ++ table ++ "." ++ constraint)
  | e => e

/-- The transaction of `acquire_global_production_writer`.
mirrors src/adcp/store/sqlite.py:1244-1366 -/
def acquireWriterTx (env : Env) (a : AcquireWriter) : Tx PyError Db Grant := do
  requireSha256 a.operationKey "operation_key"
  requireTtl a.ttlSeconds
  Tx.require (nullOrNonEmpty a.controlDecisionRef = true)
    (.store "INVALID_INPUT" "control_decision_ref")
  validateGlobalWriterContext a.context
  let requestJson ← Tx.lift (canonicalJson (.obj [("context", a.context.json),
    ("ttl_seconds", .int a.ttlSeconds), ("control_decision_ref", .ofOption a.controlDecisionRef)]))
  let now := env.clock 0
  let expires ← Tx.lift (now.addSeconds a.ttlSeconds)
  Tx.mapError controlStoreError do
    let existing ← existingGlobalWriterEvent a.operationKey [.ACQUIRE, .EXPIRED_TAKEOVER] requestJson
    match existing with
    | some event =>
      let current ← getGlobalProductionWriterLease env
      Tx.require (current.state = .HELD ∧ current.fencingToken = event.toFencingToken ∧
          current.context = a.context) (storeError "GLOBAL_PRODUCTION_WRITER_OPERATION_REPLAY_STALE")
      pure (.replayed current.fencingToken)
    | none =>
      let prior ← getGlobalProductionWriterLease env
      Tx.require (prior.state = .FREE ∨ writerUnexpired env prior now = false)
        (storeError "GLOBAL_PRODUCTION_WRITER_HELD")
      let newToken := prior.fencingToken + 1
      updateWriterLease env (fun row => row.fencingToken = prior.fencingToken)
        (fun _ => { state := .HELD, context := a.context, fencingToken := newToken
                    acquiredAt := some now, expiresAt := some expires, heartbeatAt := some now
                    updatedAt := now })
        (.store "CONTROL_STORE_ERROR" "global writer singleton update lost")
      inject env "after_state_update"
      insertGlobalWriterEvent
        { eventId := env.uuid 0, operationKey := a.operationKey
          eventType := if prior.state = .HELD then .EXPIRED_TAKEOVER else .ACQUIRE
          fromFencingToken := prior.fencingToken, toFencingToken := newToken
          prior := if prior.state = .HELD then prior.context else .empty, new := a.context
          reason := if prior.state = .HELD then "GLOBAL_PRODUCTION_WRITER_EXPIRED_TAKEOVER"
            else "GLOBAL_PRODUCTION_WRITER_ACQUIRED"
          controlDecisionRef := a.controlDecisionRef, requestJson := requestJson, createdAt := now }
      inject env "after_event_insert"
      pure (.fresh newToken)

/-- mirrors src/adcp/store/sqlite.py:1244-1371 -/
def acquireGlobalProductionWriter (env : Env) (a : AcquireWriter) :
    Db → Except PyError GlobalWriterLease × Db :=
  Tx.commitThen (acquireWriterTx env a) fun g => do
    let current ← assertCurrentGlobalWriter env 1 (a.context.ownerId.getD "") g.token
    Tx.require (current.context = a.context)
      (.store "CONTROL_STORE_ERROR" "global writer readback mismatch")
    pure current

/-- The transaction of `heartbeat_global_production_writer`.
mirrors src/adcp/store/sqlite.py:1373-1406 -/
def heartbeatWriterTx (env : Env) (ownerId : String) (fencingToken ttlSeconds : Int) :
    Tx PyError Db Unit := do
  requireTtl ttlSeconds
  let now := env.clock 0
  let expires ← Tx.lift (now.addSeconds ttlSeconds)
  Tx.mapError controlStoreError do
    let row ← getGlobalProductionWriterLease env
    requireCurrentGlobalWriter env row ownerId fencingToken now
    updateWriterLease env
      (fun row => row.state = .HELD && row.context.ownerId = some ownerId &&
        row.fencingToken = fencingToken && row.expiresAt.any (now < ·))
      (fun row => { row with expiresAt := some expires, heartbeatAt := some now, updatedAt := now })
      (storeError "STALE_FENCING_TOKEN")

/-- mirrors src/adcp/store/sqlite.py:1373-1407 -/
def heartbeatGlobalProductionWriter (env : Env) (ownerId : String) (fencingToken ttlSeconds : Int) :
    Db → Except PyError GlobalWriterLease × Db :=
  Tx.commitThen (heartbeatWriterTx env ownerId fencingToken ttlSeconds) fun _ =>
    assertCurrentGlobalWriter env 1 ownerId fencingToken

/-- The row a release or a revocation leaves. -/
def freedLease (token : Int) (now : Timestamp) : GlobalWriterLease :=
  { state := .FREE, context := .empty, fencingToken := token, acquiredAt := none, expiresAt := none
    heartbeatAt := none, updatedAt := now }

/-- What a release and a revocation do after their own validation: replay a used
key, or free the lease held by `(ownerId, fencingToken)`, leaving `newToken`, and
log it.
mirrors src/adcp/store/sqlite.py:1441-1478,1530-1568 -/
def freeWriter (env : Env) (eventType : WriterEventType) (operationKey ownerId : String)
    (fencingToken newToken : Int) (reason : String) (controlDecisionRef : Option String)
    (requestJson : String) (lost : PyError) : Tx PyError Db Grant := do
  let now := env.clock 0
  Tx.mapError controlStoreError do
    let existing ← existingGlobalWriterEvent operationKey [eventType] requestJson
    match existing with
    | some event =>
      let current ← getGlobalProductionWriterLease env
      Tx.require (current.state = .FREE ∧ current.fencingToken = event.toFencingToken)
        (storeError "GLOBAL_PRODUCTION_WRITER_OPERATION_REPLAY_STALE")
      pure (.replayed current.fencingToken)
    | none =>
      let prior ← getGlobalProductionWriterLease env
      requireCurrentGlobalWriter env prior ownerId fencingToken now
      updateWriterLease env
        (fun row => row.state = .HELD && row.context.ownerId = some ownerId &&
          row.fencingToken = fencingToken && row.expiresAt.any (now < ·))
        (fun _ => freedLease newToken now) lost
      inject env "after_state_update"
      insertGlobalWriterEvent
        { eventId := env.uuid 0, operationKey := operationKey, eventType := eventType
          fromFencingToken := fencingToken, toFencingToken := newToken, prior := prior.context
          new := .empty, reason := reason, controlDecisionRef := controlDecisionRef
          requestJson := requestJson, createdAt := now }
      inject env "after_event_insert"
      pure (.fresh newToken)

/-- The re-read behind a release or a revocation. -/
def readBackFree (env : Env) (detail : String) (g : Grant) : Tx PyError Db GlobalWriterLease := do
  let current ← getGlobalProductionWriterLease env
  Tx.require (current.state = .FREE ∧ current.fencingToken = g.token)
    (.store "CONTROL_STORE_ERROR" detail)
  pure current

/-- mirrors src/adcp/store/sqlite.py:1409-1491 -/
def releaseWriterTx (env : Env) (a : ReleaseWriter) : Tx PyError Db Grant := do
  requireSha256 a.operationKey "operation_key"
  Tx.require (a.reason ≠ "") (.store "INVALID_INPUT" "reason")
  Tx.require (nullOrNonEmpty a.controlDecisionRef = true)
    (.store "INVALID_INPUT" "control_decision_ref")
  Tx.require (0 ≤ a.fencingToken) (.store "INVALID_INPUT" "fencing_token")
  let requestJson ← Tx.lift (canonicalJson (.obj [("owner_id", .str a.ownerId),
    ("fencing_token", .int a.fencingToken), ("reason", .str a.reason),
    ("control_decision_ref", .ofOption a.controlDecisionRef)]))
  freeWriter env .RELEASE a.operationKey a.ownerId a.fencingToken a.fencingToken a.reason
    a.controlDecisionRef requestJson (storeError "STALE_FENCING_TOKEN")

def releaseGlobalProductionWriter (env : Env) (a : ReleaseWriter) :
    Db → Except PyError GlobalWriterLease × Db :=
  Tx.commitThen (releaseWriterTx env a)
    (readBackFree env "global writer release readback mismatch")

/-- mirrors src/adcp/store/sqlite.py:1495-1585 -/
def revokeWriterTx (env : Env) (a : RevokeWriter) : Tx PyError Db Grant := do
  requireSha256 a.operationKey "operation_key"
  Tx.requireAll (.store "INVALID_INPUT")
    [("reason", a.reason ≠ ""), ("control_decision_ref", a.controlDecisionRef ≠ ""),
     ("expected_owner_id", a.expectedOwnerId ≠ "")]
  Tx.require (0 ≤ a.expectedFencingToken) (.store "INVALID_INPUT" "expected_fencing_token")
  let requestJson ← Tx.lift (canonicalJson (.obj [("reason", .str a.reason),
    ("control_decision_ref", .str a.controlDecisionRef),
    ("expected_owner_id", .str a.expectedOwnerId),
    ("expected_fencing_token", .int a.expectedFencingToken)]))
  freeWriter env .FORCE_REVOKE a.operationKey a.expectedOwnerId a.expectedFencingToken
    (a.expectedFencingToken + 1) a.reason (some a.controlDecisionRef) requestJson
    (storeError "GLOBAL_PRODUCTION_WRITER_FORCE_REVOKE_MISMATCH")

def forceRevokeGlobalProductionWriter (env : Env) (a : RevokeWriter) :
    Db → Except PyError GlobalWriterLease × Db :=
  Tx.commitThen (revokeWriterTx env a)
    (readBackFree env "global writer revoke readback mismatch")

/-! ## Inversion -/

/-- What `validate_global_writer_row` accepts. -/
def WriterRowValid (env : Env) (row : GlobalWriterLease) : Prop :=
  0 ≤ row.fencingToken ∧
  match row.state with
  | .FREE => row.context = .empty ∧ row.acquiredAt = none ∧ row.expiresAt = none ∧
      row.heartbeatAt = none
  | .HELD => (∀ p ∈ row.context.requiredFields, nonEmptyText p.2 = true) ∧
      (∀ p ∈ row.context.optionalFields, nullOrNonEmpty p.2 = true) ∧
      leaseTimesOrdered env row = true

theorem fields_isNone {c : WriterContext}
    (h : ∀ p ∈ c.fields, p.2 = none) : c = .empty := by
  obtain ⟨c1, c2, c3, c4, c5, c6, c7, c8, c9, c10⟩ := c
  simp [WriterContext.fields] at h
  simp [WriterContext.empty, h]

theorem leaseTimesOrdered_isSome {env : Env} {row : GlobalWriterLease}
    (h : leaseTimesOrdered env row = true) :
    row.acquiredAt.isSome ∧ row.expiresAt.isSome ∧ row.heartbeatAt.isSome := by
  unfold leaseTimesOrdered at h
  split at h
  · simp [*]
  · cases h

theorem validateGlobalWriterRow_ok {env : Env} {row : GlobalWriterLease} {db : Db}
    {r : Unit × Db} : validateGlobalWriterRow env row db = .ok r ↔
      WriterRowValid env row ∧ r = ((), db) := by
  unfold validateGlobalWriterRow WriterRowValid
  rw [Tx.require_bind_ok, and_assoc]
  refine and_congr_right fun _ => ?_
  cases row.state with
  | FREE =>
    simp only [Tx.requireAll_ok]
    refine and_congr_left fun _ => ?_
    constructor
    · intro h
      refine ⟨fields_isNone fun p hp => ?_, ?_, ?_, ?_⟩
      · have := h (p.1, p.2.isNone)
          (List.mem_append_left _ (List.mem_map.mpr ⟨p, hp, rfl⟩))
        simpa using this
      · simpa using h ("acquired_at", row.acquiredAt.isNone) (by simp)
      · simpa using h ("expires_at", row.expiresAt.isNone) (by simp)
      · simpa using h ("heartbeat_at", row.heartbeatAt.isNone) (by simp)
    · rintro ⟨h1, h2, h3, h4⟩ p hp
      simp [h1, h2, h3, h4, WriterContext.fields, WriterContext.empty] at hp
      rcases hp with h | h | h | h | h | h | h | h | h | h | h | h | h <;> simp [h]
  | HELD =>
    simp only [Tx.requireAll_bind_ok, Tx.require_ok, List.forall_mem_map]
    constructor
    · rintro ⟨h1, h2, -, h4, h5⟩
      exact ⟨⟨h1, h2, h4⟩, h5⟩
    · rintro ⟨⟨h1, h2, h4⟩, h5⟩
      have := leaseTimesOrdered_isSome h4
      exact ⟨h1, h2, by simp [this], h4, h5⟩

theorem getLease_ok {env : Env} {db : Db} {p : GlobalWriterLease × Db} :
    getGlobalProductionWriterLease env db = .ok p ↔
      WriterRowValid env db.globalWriterLease ∧ p = (db.globalWriterLease, db) := by
  unfold getGlobalProductionWriterLease
  rw [Tx.read_bind_ok, Tx.check_bind_ok fun _ => validateGlobalWriterRow_ok, Tx.pure_ok]

theorem getLease_bind_ok {α : Type} {env : Env} {f : GlobalWriterLease → Tx PyError Db α} {db : Db}
    {r : α × Db} : (getGlobalProductionWriterLease env >>= f) db = .ok r ↔
      WriterRowValid env db.globalWriterLease ∧ f db.globalWriterLease db = .ok r := by
  rw [Tx.bind_ok]
  constructor
  · rintro ⟨a, s, h, hf⟩
    obtain ⟨hv, he⟩ := getLease_ok.mp h
    cases he
    exact ⟨hv, hf⟩
  · rintro ⟨hv, hf⟩
    exact ⟨_, _, getLease_ok.mpr ⟨hv, rfl⟩, hf⟩

/-- On a valid row, only the rest of the program can fail. -/
theorem getLease_bind_error {α : Type} {env : Env} {f : GlobalWriterLease → Tx PyError Db α}
    {db : Db} {e : PyError} (hvalid : WriterRowValid env db.globalWriterLease)
    (h : (getGlobalProductionWriterLease env >>= f) db = .error e) :
    f db.globalWriterLease db = .error e := by
  have hrow : getGlobalProductionWriterLease env db = .ok (db.globalWriterLease, db) :=
    getLease_ok.mpr ⟨hvalid, rfl⟩
  rcases Tx.bind_error.mp h with hx | ⟨row, s, hx, hf⟩
  · cases hrow.symm.trans hx
  · cases hrow.symm.trans hx
    exact hf

/-- `owner` holds the lease with `token`, unexpired at `now`. -/
def WriterCurrent (env : Env) (row : GlobalWriterLease) (owner : String) (token : Int)
    (now : Timestamp) : Prop :=
  row.fencingToken = token ∧ row.state = .HELD ∧ row.context.ownerId = some owner ∧
    writerUnexpired env row now = true

theorem requireCurrentGlobalWriter_ok {env : Env} {row : GlobalWriterLease} {owner : String}
    {token : Int} {now : Timestamp} {db : Db} {r : Unit × Db} :
    requireCurrentGlobalWriter env row owner token now db = .ok r ↔
      WriterCurrent env row owner token now ∧ r = ((), db) := by
  unfold requireCurrentGlobalWriter WriterCurrent
  simp only [Tx.require_bind_ok, Tx.require_ok, and_assoc]

theorem requireCurrentGlobalWriter_bind_ok {α : Type} {env : Env} {row : GlobalWriterLease}
    {owner : String} {token : Int} {now : Timestamp} {f : Unit → Tx PyError Db α} {db : Db}
    {r : α × Db} : (requireCurrentGlobalWriter env row owner token now >>= f) db = .ok r ↔
      WriterCurrent env row owner token now ∧ f () db = .ok r :=
  Tx.check_bind_ok fun _ => requireCurrentGlobalWriter_ok

theorem existingGlobalWriterEvent_bind_ok {α : Type} {key : String} {allowed : List WriterEventType}
    {requestJson : String} {f : Option GlobalWriterEvent → Tx PyError Db α} {db : Db} {r : α × Db}
    (h : (existingGlobalWriterEvent key allowed requestJson >>= f) db = .ok r) :
    ∃ found, f found db = .ok r ∧
      db.globalWriterEvent.find? (·.operationKey = key) = found := by
  obtain ⟨found, s, hx, hf⟩ := Tx.bind_ok.mp h
  unfold existingGlobalWriterEvent at hx
  rw [Tx.read_bind_ok] at hx
  cases hfind : db.globalWriterEvent.find? (·.operationKey = key) with
  | none =>
    rw [hfind] at hx
    cases Tx.pure_ok.mp hx
    exact ⟨none, hf, rfl⟩
  | some event =>
    rw [hfind] at hx
    obtain ⟨-, hx⟩ := Tx.require_bind_ok.mp hx
    cases Tx.pure_ok.mp hx
    exact ⟨some event, hf, rfl⟩

theorem updateWriterLease_bind_ok {α : Type} {env : Env} {cond : GlobalWriterLease → Bool}
    {set : GlobalWriterLease → GlobalWriterLease} {lost : PyError} {f : Unit → Tx PyError Db α}
    {db : Db} {r : α × Db} (h : (updateWriterLease env cond set lost >>= f) db = .ok r) :
    f () { db with globalWriterLease := set db.globalWriterLease } = .ok r ∧
      writerRowChecks env (set db.globalWriterLease) = true := by
  obtain ⟨u, s, hx, hf⟩ := Tx.bind_ok.mp h
  unfold updateWriterLease at hx
  simp only [Tx.read_bind_ok, Tx.require_bind_ok, Tx.write_ok] at hx
  obtain ⟨-, -, hc, he⟩ := hx
  cases he
  exact ⟨hf, hc⟩

theorem insertGlobalWriterEvent_bind_ok {α : Type} {event : GlobalWriterEvent}
    {f : Unit → Tx PyError Db α} {db : Db} {r : α × Db}
    (h : (insertGlobalWriterEvent event >>= f) db = .ok r) :
    f () { db with globalWriterEvent := db.globalWriterEvent ++ [event] } = .ok r := by
  obtain ⟨u, s, hx, hf⟩ := Tx.bind_ok.mp h
  unfold insertGlobalWriterEvent at hx
  simp only [Tx.read_bind_ok, Tx.require_bind_ok, Tx.write_ok] at hx
  obtain ⟨-, -, he⟩ := hx
  cases he
  exact hf

theorem sqlNonEmpty_nonEmptyText {o : Option String} (h : sqlNonEmpty o = true) :
    nonEmptyText o = true := by
  cases o with
  | none => cases h
  | some s =>
    have hlen : 0 < sqliteLength s := by simpa [sqlNonEmpty] using h
    have hne : s ≠ "" := by
      rintro rfl
      simp [sqliteLength] at hlen
    simpa [nonEmptyText] using hne

theorem sqlNullOrNonEmpty_nullOrNonEmpty {o : Option String} (h : sqlNullOrNonEmpty o = true) :
    nullOrNonEmpty o = true := by
  cases o with
  | none => rfl
  | some s => exact sqlNonEmpty_nonEmptyText (o := some s) h

/-- A row that passes the `CHECK`s of its table passes the validator. -/
theorem writerRowChecks_valid {env : Env} {row : GlobalWriterLease}
    (h : writerRowChecks env row = true) : WriterRowValid env row := by
  unfold writerRowChecks at h
  unfold WriterRowValid
  simp only [Bool.and_eq_true, decide_eq_true_eq, List.all_eq_true] at h
  obtain ⟨⟨htoken, hoptional⟩, hstate⟩ := h
  refine ⟨htoken, ?_⟩
  cases hs : row.state with
  | FREE =>
    rw [hs] at hstate
    simpa [and_assoc] using hstate
  | HELD =>
    rw [hs] at hstate
    simp only [Bool.and_eq_true, List.all_eq_true] at hstate
    exact ⟨fun p hp => sqlNonEmpty_nonEmptyText (hstate.1 p hp),
      fun p hp => sqlNullOrNonEmpty_nullOrNonEmpty (hoptional p hp), hstate.2⟩

/-- The holder of a valid lease that is refused let it expire. -/
theorem assertCurrentGlobalWriter_error {env : Env} {n : Nat} {owner : String} {token : Int}
    {db : Db} {e : PyError} (hvalid : WriterRowValid env db.globalWriterLease)
    (htoken : db.globalWriterLease.fencingToken = token) (hheld : db.globalWriterLease.state = .HELD)
    (howner : db.globalWriterLease.context.ownerId = some owner)
    (h : assertCurrentGlobalWriter env n owner token db = .error e) :
    e = storeError "GLOBAL_PRODUCTION_WRITER_LEASE_EXPIRED" ∧
      writerUnexpired env db.globalWriterLease (env.clock n) = false := by
  have hfields := hvalid.2
  rw [hheld] at hfields
  have hne : owner ≠ "" := by
    have hfield := hfields.1 ("owner_id", some owner) (by
      rw [WriterContext.requiredFields, howner]
      exact List.mem_cons_self ..)
    simpa [nonEmptyText] using hfield
  unfold assertCurrentGlobalWriter at h
  rcases Tx.require_bind_error.mp h with ⟨hc, -⟩ | ⟨-, h⟩
  · exact (hc hne).elim
  rcases Tx.require_bind_error.mp h with ⟨hc, -⟩ | ⟨-, h⟩
  · exact (hc (htoken ▸ hvalid.1)).elim
  have h := getLease_bind_error hvalid h
  rcases Tx.bind_error.mp h with h | ⟨_, _, -, h⟩
  · unfold requireCurrentGlobalWriter at h
    rcases Tx.require_bind_error.mp h with ⟨hc, -⟩ | ⟨-, h⟩
    · exact (hc htoken).elim
    rcases Tx.require_bind_error.mp h with ⟨hc, -⟩ | ⟨-, h⟩
    · exact (hc hheld).elim
    rcases Tx.require_bind_error.mp h with ⟨hc, -⟩ | ⟨-, h⟩
    · exact (hc howner).elim
    obtain ⟨hc, he⟩ := Tx.require_error.mp h
    exact ⟨he.symm, Bool.eq_false_iff.mpr hc⟩
  · cases h

/-! ## What a transaction writes -/

/-- The columns of the row that its events carry. -/
structure WriterView where
  state : WriterState
  fencingToken : Int
  context : WriterContext

def GlobalWriterLease.view (row : GlobalWriterLease) : WriterView :=
  ⟨row.state, row.fencingToken, row.context⟩

/-- What an event says it left. -/
def GlobalWriterEvent.view (e : GlobalWriterEvent) : WriterView :=
  ⟨match e.eventType with
    | .ACQUIRE | .EXPIRED_TAKEOVER => .HELD
    | .RELEASE | .FORCE_REVOKE => .FREE, e.toFencingToken, e.new⟩

/-- A transaction that left the lease `row` and logged `event`. -/
structure WriterWrites (env : Env) (db : Db) (row : GlobalWriterLease) (event : GlobalWriterEvent)
    (db' : Db) : Prop where
  writes : db' = { db with
    globalWriterLease := row, globalWriterEvent := db.globalWriterEvent ++ [event] }
  token : event.fromFencingToken = db.globalWriterLease.fencingToken
  prior : event.prior = db.globalWriterLease.context
  leads : row.view = event.view
  checks : writerRowChecks env row = true

variable {env : Env} {db db' : Db} {g : Grant}

/-- A free row that is valid has no owner. -/
theorem WriterRowValid.free {row : GlobalWriterLease} (h : WriterRowValid env row)
    (hs : row.state ≠ .HELD) : row.context = .empty := by
  unfold WriterRowValid at h
  cases hrow : row.state with
  | FREE =>
    rw [hrow] at h
    exact h.2.1
  | HELD => exact (hs hrow).elim

/-- An acquisition replays its key, or it grants the next token to its context. -/
theorem acquireWriterTx_writes {a : AcquireWriter}
    (h : acquireWriterTx env a db = .ok (g, db')) :
    (∀ p ∈ a.context.requiredFields, nonEmptyText p.2 = true) ∧
    (((∃ t, g = .replayed t) ∧ db' = db) ∨
      ∃ expires row event, WriterWrites env db row event db' ∧
        g = .fresh (db.globalWriterLease.fencingToken + 1) ∧
        row.view = ⟨.HELD, db.globalWriterLease.fencingToken + 1, a.context⟩ ∧
        row.expiresAt = some expires) := by
  unfold acquireWriterTx validateGlobalWriterContext at h
  obtain ⟨-, h⟩ := Tx.require_bind_ok.mp h
  obtain ⟨-, h⟩ := Tx.require_bind_ok.mp h
  obtain ⟨-, h⟩ := Tx.require_bind_ok.mp h
  obtain ⟨_, _, hc, h⟩ := Tx.bind_ok.mp h
  simp only [Tx.requireAll_bind_ok, Tx.requireAll_ok, List.forall_mem_map] at hc
  obtain ⟨hrequired, -, he⟩ := hc
  cases he
  refine ⟨hrequired, ?_⟩
  obtain ⟨json, -, h⟩ := Tx.lift_bind_ok.mp h
  obtain ⟨expires, -, h⟩ := Tx.lift_bind_ok.mp h
  obtain ⟨found, h, -⟩ := existingGlobalWriterEvent_bind_ok (Tx.mapError_ok.mp h)
  cases found with
  | some event =>
    obtain ⟨-, h⟩ := getLease_bind_ok.mp h
    obtain ⟨-, h⟩ := Tx.require_bind_ok.mp h
    cases Tx.pure_ok.mp h
    exact Or.inl ⟨⟨_, rfl⟩, rfl⟩
  | none =>
    obtain ⟨hvalid, h⟩ := getLease_bind_ok.mp h
    obtain ⟨-, h⟩ := Tx.require_bind_ok.mp h
    obtain ⟨h, hchecks⟩ := updateWriterLease_bind_ok h
    obtain ⟨-, h⟩ := inject_bind_ok.mp h
    have h := insertGlobalWriterEvent_bind_ok h
    obtain ⟨-, h⟩ := inject_bind_ok.mp h
    cases Tx.pure_ok.mp h
    refine Or.inr ⟨expires, _, _, ⟨rfl, rfl, ?_, ?_, hchecks⟩, rfl, rfl, rfl⟩
    · by_cases hs : db.globalWriterLease.state = .HELD
      · exact if_pos hs
      · rw [hvalid.free hs]
        exact if_neg hs
    · by_cases hs : db.globalWriterLease.state = .HELD
      · simp only [GlobalWriterLease.view, GlobalWriterEvent.view, if_pos hs]
      · simp only [GlobalWriterLease.view, GlobalWriterEvent.view, if_neg hs]

/-- A heartbeat finds its owner and token current, and writes the lease's times. -/
theorem heartbeatWriterTx_writes {owner : String} {token ttl : Int}
    (h : heartbeatWriterTx env owner token ttl db = .ok ((), db')) :
    WriterRowValid env db.globalWriterLease ∧
    WriterCurrent env db.globalWriterLease owner token (env.clock 0) ∧
      ∃ expires row, row.view = db.globalWriterLease.view ∧ row.expiresAt = some expires ∧
        writerRowChecks env row = true ∧ db' = { db with globalWriterLease := row } := by
  unfold heartbeatWriterTx at h
  obtain ⟨-, h⟩ := Tx.require_bind_ok.mp h
  obtain ⟨expires, -, h⟩ := Tx.lift_bind_ok.mp h
  obtain ⟨hvalid, h⟩ := getLease_bind_ok.mp (Tx.mapError_ok.mp h)
  obtain ⟨hcur, h⟩ := requireCurrentGlobalWriter_bind_ok.mp h
  obtain ⟨h, hchecks⟩ := updateWriterLease_bind_ok (f := pure) (Tx.bind_ok.mpr ⟨_, _, h, rfl⟩)
  cases Tx.pure_ok.mp h
  exact ⟨hvalid, hcur, expires,
    { db.globalWriterLease with
      expiresAt := some expires, heartbeatAt := some (env.clock 0), updatedAt := env.clock 0 },
    rfl, rfl, hchecks, rfl⟩

/-- Freeing the lease replays its key, or it finds its owner and token current and
leaves a free row. -/
theorem freeWriter_writes {ty : WriterEventType} {key owner : String} {token newToken : Int}
    {reason : String} {ref : Option String} {json : String} {lost : PyError}
    (hty : ty = .RELEASE ∨ ty = .FORCE_REVOKE)
    (h : freeWriter env ty key owner token newToken reason ref json lost db = .ok (g, db')) :
    ((∃ t, g = .replayed t) ∧ db' = db) ∨
    ∃ row event, WriterWrites env db row event db' ∧ g = .fresh newToken ∧
      WriterCurrent env db.globalWriterLease owner token (env.clock 0) ∧
      row.view = ⟨.FREE, newToken, .empty⟩ := by
  unfold freeWriter at h
  obtain ⟨found, h, -⟩ := existingGlobalWriterEvent_bind_ok (Tx.mapError_ok.mp h)
  cases found with
  | some event =>
    obtain ⟨-, h⟩ := getLease_bind_ok.mp h
    obtain ⟨-, h⟩ := Tx.require_bind_ok.mp h
    cases Tx.pure_ok.mp h
    exact Or.inl ⟨⟨_, rfl⟩, rfl⟩
  | none =>
    obtain ⟨-, h⟩ := getLease_bind_ok.mp h
    obtain ⟨hcur, h⟩ := requireCurrentGlobalWriter_bind_ok.mp h
    obtain ⟨h, hchecks⟩ := updateWriterLease_bind_ok h
    obtain ⟨-, h⟩ := inject_bind_ok.mp h
    have h := insertGlobalWriterEvent_bind_ok h
    obtain ⟨-, h⟩ := inject_bind_ok.mp h
    cases Tx.pure_ok.mp h
    refine Or.inr ⟨_, _, ⟨rfl, hcur.1.symm, rfl, ?_, hchecks⟩, rfl, hcur, rfl⟩
    rcases hty with rfl | rfl
    · rfl
    · rfl

/-- Opening a transaction changes nothing. -/
theorem begin_ok {n : Nat} {r : Unit × Db} (h : begin env n db = .ok r) :
    r = ((), db) := by
  cases hg : env.guard with
  | none =>
    rw [begin, hg] at h
    exact Tx.pure_ok.mp h
  | some bound =>
    cases bound with
    | none =>
      rw [begin, hg] at h
      exact (Tx.fail_ok.mp h).elim
    | some holder =>
      rw [begin, hg] at h
      exact (requireCurrentGlobalWriter_ok.mp (getLease_bind_ok.mp h).2).2

/-- An assertion changes nothing and finds its owner and token current. -/
theorem assertCurrentGlobalWriter_ok {env : Env} {n : Nat} {owner : String} {token : Int}
    {db db' : Db} {row : GlobalWriterLease}
    (h : assertCurrentGlobalWriter env n owner token db = .ok (row, db')) :
    WriterCurrent env db.globalWriterLease owner token (env.clock n) ∧ db' = db := by
  unfold assertCurrentGlobalWriter at h
  obtain ⟨-, h⟩ := Tx.require_bind_ok.mp h
  obtain ⟨-, h⟩ := Tx.require_bind_ok.mp h
  obtain ⟨-, h⟩ := getLease_bind_ok.mp h
  obtain ⟨hcur, h⟩ := requireCurrentGlobalWriter_bind_ok.mp h
  cases Tx.pure_ok.mp h
  exact ⟨hcur, rfl⟩

/-- The transaction is open to its store: a guarded one finds the bound owner and token
current. -/
def GuardHolds (env : Env) (reading : Nat) (db : Db) : Prop :=
  match env.guard with
  | none => True
  | some none => False
  | some (some (ownerId, token)) =>
    WriterCurrent env db.globalWriterLease ownerId token (env.clock reading)

theorem begin_bind_guard {α : Type} {env : Env} {n : Nat} {f : Unit → Tx PyError Db α} {db : Db}
    {r : α × Db} (h : (begin env n >>= f) db = .ok r) : GuardHolds env n db ∧ f () db = .ok r := by
  unfold begin at h
  unfold GuardHolds
  rcases hg : env.guard with _ | _ | ⟨owner, token⟩ <;> rw [hg] at h
  · exact ⟨trivial, h⟩
  · obtain ⟨u, s, hx, -⟩ := Tx.bind_ok.mp h
    exact (Tx.fail_ok.mp hx).elim
  · obtain ⟨u, s, hx, hf⟩ := Tx.bind_ok.mp h
    obtain ⟨-, hx⟩ := getLease_bind_ok.mp hx
    obtain ⟨hcurrent, hr⟩ := requireCurrentGlobalWriter_ok.mp hx
    cases hr
    exact ⟨hcurrent, hf⟩

theorem begin_bind_ok {α : Type} {n : Nat} {f : Unit → Tx PyError Db α} {r : α × Db}
    (h : (begin env n >>= f) db = .ok r) : f () db = .ok r := by
  obtain ⟨u, s, hx, hf⟩ := Tx.bind_ok.mp h
  cases begin_ok hx
  exact hf

/-! ## What succeeds -/

/-- What a grant writes into the row. -/
def grantedRow (a : AcquireWriter) (token : Int) (now expires : Timestamp) : GlobalWriterLease where
  state := .HELD
  context := a.context
  fencingToken := token
  acquiredAt := some now
  expiresAt := some expires
  heartbeatAt := some now
  updatedAt := now

/-- The event of a grant of a free lease. -/
def grantedEvent (a : AcquireWriter) (eventId request : String) (token : Int) (now : Timestamp) :
    GlobalWriterEvent where
  eventId := eventId
  operationKey := a.operationKey
  eventType := .ACQUIRE
  fromFencingToken := token
  toFencingToken := token + 1
  prior := .empty
  new := a.context
  reason := "GLOBAL_PRODUCTION_WRITER_ACQUIRED"
  controlDecisionRef := a.controlDecisionRef
  requestJson := request
  createdAt := now

/-- A free lease is granted to a well-formed request with a key of its own. -/
theorem acquireWriterTx_free {env : Env} {a : AcquireWriter} {db : Db} {request : String}
    {expires : Timestamp} (hkey : isSha256 a.operationKey = true)
    (httl : minLeaseTtlSeconds ≤ a.ttlSeconds ∧ a.ttlSeconds ≤ maxLeaseTtlSeconds)
    (href : nullOrNonEmpty a.controlDecisionRef = true)
    (hcontext : validateGlobalWriterContext a.context db = .ok ((), db))
    (hrequest : canonicalJson (.obj [("context", a.context.json), ("ttl_seconds", .int a.ttlSeconds),
      ("control_decision_ref", .ofOption a.controlDecisionRef)]) = .ok request)
    (hexpires : (env.clock 0).addSeconds a.ttlSeconds = .ok expires)
    (hfind : db.globalWriterEvent.find? (·.operationKey = a.operationKey) = none)
    (hvalid : WriterRowValid env db.globalWriterLease) (hfree : db.globalWriterLease.state = .FREE)
    (hrow : writerRowChecks env
      (grantedRow a (db.globalWriterLease.fencingToken + 1) (env.clock 0) expires) = true)
    (hevent : writerEventChecks (grantedEvent a (env.uuid 0) request db.globalWriterLease.fencingToken
      (env.clock 0)) = true)
    (hunique : (db.globalWriterEvent.all fun e => e.eventId ≠ env.uuid 0 ∧
      e.operationKey ≠ a.operationKey) = true) (hfault : ∀ point, env.fault point = none) :
    acquireWriterTx env a db = .ok (.fresh (db.globalWriterLease.fencingToken + 1),
      { db with
        globalWriterLease := grantedRow a (db.globalWriterLease.fencingToken + 1) (env.clock 0) expires
        globalWriterEvent := db.globalWriterEvent ++ [grantedEvent a (env.uuid 0) request
          db.globalWriterLease.fencingToken (env.clock 0)] }) := by
  unfold acquireWriterTx
  refine Tx.require_bind_ok.mpr ⟨hkey, Tx.require_bind_ok.mpr ⟨httl, Tx.require_bind_ok.mpr ⟨href, ?_⟩⟩⟩
  refine Tx.bind_ok.mpr ⟨(), db, hcontext, Tx.lift_bind_ok.mpr ⟨request, hrequest, ?_⟩⟩
  refine Tx.lift_bind_ok.mpr ⟨expires, hexpires, Tx.mapError_ok.mpr ?_⟩
  have hnone : existingGlobalWriterEvent a.operationKey [.ACQUIRE, .EXPIRED_TAKEOVER] request db =
      .ok (none, db) := by
    unfold existingGlobalWriterEvent
    rw [Tx.read_bind_ok, hfind]
    exact Tx.pure_ok.mpr rfl
  refine Tx.bind_ok.mpr ⟨none, db, hnone, getLease_bind_ok.mpr ⟨hvalid, ?_⟩⟩
  refine Tx.require_bind_ok.mpr ⟨Or.inl hfree, ?_⟩
  have hheld : db.globalWriterLease.state ≠ .HELD := by
    rw [hfree]
    decide
  simp only [if_neg hheld]
  refine Tx.bind_ok.mpr ⟨(), _, Tx.read_bind_ok.mpr (Tx.require_bind_ok.mpr
    ⟨decide_eq_true rfl, Tx.require_bind_ok.mpr ⟨Int.le_add_one (Int.le_refl _),
      Tx.require_bind_ok.mpr ⟨hrow, rfl⟩⟩⟩), ?_⟩
  refine inject_bind_ok.mpr ⟨hfault _, Tx.bind_ok.mpr ⟨(), _, Tx.read_bind_ok.mpr
    (Tx.require_bind_ok.mpr ⟨hevent, Tx.require_bind_ok.mpr ⟨hunique, rfl⟩⟩), ?_⟩⟩
  exact inject_bind_ok.mpr ⟨hfault _, rfl⟩

/-- The event of a release. -/
def releasedEvent (a : ReleaseWriter) (eventId request : String) (prior : WriterContext)
    (now : Timestamp) : GlobalWriterEvent where
  eventId := eventId
  operationKey := a.operationKey
  eventType := .RELEASE
  fromFencingToken := a.fencingToken
  toFencingToken := a.fencingToken
  prior := prior
  new := .empty
  reason := a.reason
  controlDecisionRef := a.controlDecisionRef
  requestJson := request
  createdAt := now

/-- The holder's lease is released on a request with a key of its own. -/
theorem releaseWriterTx_current {env : Env} {a : ReleaseWriter} {db : Db} {request : String}
    (hkey : isSha256 a.operationKey = true) (hreason : a.reason ≠ "")
    (href : nullOrNonEmpty a.controlDecisionRef = true) (htoken : 0 ≤ a.fencingToken)
    (hrequest : canonicalJson (.obj [("owner_id", .str a.ownerId),
      ("fencing_token", .int a.fencingToken), ("reason", .str a.reason),
      ("control_decision_ref", .ofOption a.controlDecisionRef)]) = .ok request)
    (hfind : db.globalWriterEvent.find? (·.operationKey = a.operationKey) = none)
    (hvalid : WriterRowValid env db.globalWriterLease)
    (hcurrent : WriterCurrent env db.globalWriterLease a.ownerId a.fencingToken (env.clock 0))
    (hexpires : db.globalWriterLease.expiresAt.any (env.clock 0 < ·) = true)
    (hevent : writerEventChecks (releasedEvent a (env.uuid 0) request db.globalWriterLease.context
      (env.clock 0)) = true)
    (hunique : (db.globalWriterEvent.all fun e => e.eventId ≠ env.uuid 0 ∧
      e.operationKey ≠ a.operationKey) = true) (hfault : ∀ point, env.fault point = none) :
    releaseWriterTx env a db = .ok (.fresh a.fencingToken,
      { db with
        globalWriterLease := freedLease a.fencingToken (env.clock 0)
        globalWriterEvent := db.globalWriterEvent ++ [releasedEvent a (env.uuid 0) request
          db.globalWriterLease.context (env.clock 0)] }) := by
  unfold releaseWriterTx
  refine Tx.require_bind_ok.mpr ⟨hkey, Tx.require_bind_ok.mpr ⟨hreason, Tx.require_bind_ok.mpr ⟨href,
    Tx.require_bind_ok.mpr ⟨htoken, Tx.lift_bind_ok.mpr ⟨request, hrequest, ?_⟩⟩⟩⟩⟩
  unfold freeWriter
  refine Tx.mapError_ok.mpr ?_
  have hnone : existingGlobalWriterEvent a.operationKey [.RELEASE] request db = .ok (none, db) := by
    unfold existingGlobalWriterEvent
    rw [Tx.read_bind_ok, hfind]
    exact Tx.pure_ok.mpr rfl
  refine Tx.bind_ok.mpr ⟨none, db, hnone, getLease_bind_ok.mpr ⟨hvalid, ?_⟩⟩
  refine requireCurrentGlobalWriter_bind_ok.mpr ⟨hcurrent, ?_⟩
  obtain ⟨hfencing, hstate, howner, -⟩ := hcurrent
  have hheld : (db.globalWriterLease.state = .HELD && db.globalWriterLease.context.ownerId =
      some a.ownerId && db.globalWriterLease.fencingToken = a.fencingToken &&
        db.globalWriterLease.expiresAt.any (env.clock 0 < ·)) = true := by
    simp [hfencing, hstate, howner, hexpires]
  have hfreed : writerRowChecks env (freedLease a.fencingToken (env.clock 0)) = true := by
    simp [writerRowChecks, freedLease, htoken, WriterContext.optionalFields, WriterContext.empty,
      sqlNullOrNonEmpty]
  refine Tx.bind_ok.mpr ⟨(), _, Tx.read_bind_ok.mpr (Tx.require_bind_ok.mpr
    ⟨hheld, Tx.require_bind_ok.mpr ⟨Int.le_of_eq hfencing, Tx.require_bind_ok.mpr ⟨hfreed, rfl⟩⟩⟩), ?_⟩
  refine inject_bind_ok.mpr ⟨hfault _, Tx.bind_ok.mpr ⟨(), _, Tx.read_bind_ok.mpr
    (Tx.require_bind_ok.mpr ⟨hevent, Tx.require_bind_ok.mpr ⟨hunique, rfl⟩⟩), ?_⟩⟩
  exact inject_bind_ok.mpr ⟨hfault _, rfl⟩

/-- The holder of a valid lease is found current. -/
theorem assertCurrentGlobalWriter_current {env : Env} {n : Nat} {owner : String} {token : Int} {db : Db}
    (howner : owner ≠ "") (htoken : 0 ≤ token) (hvalid : WriterRowValid env db.globalWriterLease)
    (hcurrent : WriterCurrent env db.globalWriterLease owner token (env.clock n)) :
    assertCurrentGlobalWriter env n owner token db = .ok (db.globalWriterLease, db) := by
  unfold assertCurrentGlobalWriter
  refine Tx.require_bind_ok.mpr ⟨howner, Tx.require_bind_ok.mpr ⟨htoken, ?_⟩⟩
  exact getLease_bind_ok.mpr ⟨hvalid, requireCurrentGlobalWriter_bind_ok.mpr ⟨hcurrent, rfl⟩⟩

end Adcp.L3
