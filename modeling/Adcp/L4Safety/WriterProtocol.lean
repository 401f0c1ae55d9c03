import Adcp.L3Store.WriterClient
import Adcp.L4Safety.WriterLog

/-!
# Two implementations of the writer protocol

The control store and the thin client write the same two tables. On a database
whose schema the client accepts, each function of the client is the store's under
the client's exception: `Tx.mapError asStore` of the one is the other, from the
row validator up to the five operations. So which of the two a call is made
through can be seen neither in the database nor, up to the exception's class, in
the answer.

* `client_get`, `client_free` and the like: one equation for each function.
* `client_call`: one call of either.
* `writer_protocol_agrees`: every list of calls, each made through either.
-/
namespace Adcp.L4

open Adcp.L1 Adcp.L2 Adcp.L3 Adcp.L3.Client

/-- The store's exception with the code and the detail of a client's. -/
def asStore : ClientError → PyError
  | .client code detail => .store code detail
  | .other e => e

/-- The same call, made through a client on `conn`. -/
def WriterCall.client (conn : Connection) (env : Env) :
    WriterCall → Db → Except ClientError GlobalWriterLease × Db
  | .acquire a => Client.acquire conn env a
  | .heartbeat o t ttl => Client.heartbeat conn env o t ttl
  | .release a => Client.release conn env a
  | .forceRevoke a => Client.forceRevoke conn env a
  | .assertCurrent o t => Tx.atomically (Client.assertCurrent conn env 0 o t)

/-! ## Arguments and rows -/

theorem client_requireSha256 (value field : String) :
    Tx.mapError asStore (Client.requireSha256 value field) = L2.requireSha256 value field := by
  unfold Client.requireSha256 L2.requireSha256 isSha256
  rw [Tx.mapError_require]
  refine Tx.require_congr ?_
  rw [Bool.and_eq_true, decide_eq_true_eq]

theorem client_requireTtl (ttl : Int) :
    Tx.mapError asStore (Client.requireTtl ttl) = L3.requireTtl ttl :=
  Tx.mapError_require ..

theorem client_expiry (now : Timestamp) (ttl : Int) :
    (expiry now ttl).mapError asStore = now.addSeconds ttl := by
  unfold expiry
  cases now.addSeconds ttl <;> rfl

/-- The payloads of the protocol hold no float, which is all that either refuses. -/
theorem client_canonicalJson {v : Json} (h : v.noFloat = true) :
    (Client.canonicalJson v).mapError asStore = L2.canonicalJson v := by
  unfold Client.canonicalJson L2.canonicalJson
  rw [if_pos h, if_pos h]
  rfl

theorem client_validateContext (c : WriterContext) :
    Tx.mapError asStore (validateContext c) = validateGlobalWriterContext c := by
  unfold validateContext validateGlobalWriterContext
  simp only [Tx.mapError_bind, Tx.mapError_requireAll]
  rfl

/-- A row in FREE holds no context and no time; the client checks the times after
the context, the store checks one list. -/
theorem client_validateFree (row : GlobalWriterLease) :
    Tx.mapError asStore (do
      Tx.requireAll stateInvalid ((contextFields row.context).map fun p => (p.1, p.2.isNone))
      Tx.requireAll stateInvalid
        [("acquired_at", row.acquiredAt.isNone), ("expires_at", row.expiresAt.isNone),
         ("heartbeat_at", row.heartbeatAt.isNone)]) =
      (Tx.requireAll writerStateInvalid
        ((row.context.fields.map fun p => (p.1, p.2.isNone)) ++
          [("acquired_at", row.acquiredAt.isNone), ("expires_at", row.expiresAt.isNone),
           ("heartbeat_at", row.heartbeatAt.isNone)]) : Tx PyError Db Unit) := by
  rw [Tx.requireAll_append]
  simp only [Tx.mapError_bind, Tx.mapError_requireAll]
  rfl

/-- The times of a HELD row: the client matches on the three, the store checks that
each is there and then compares them. -/
theorem client_validateTimes (env : Env) (row : GlobalWriterLease) :
    Tx.mapError asStore
      (match row.acquiredAt, row.expiresAt, row.heartbeatAt with
      | none, _, _ => Tx.fail (stateInvalid "acquired_at")
      | some _, none, _ => Tx.fail (stateInvalid "expires_at")
      | some _, some _, none => Tx.fail (stateInvalid "heartbeat_at")
      | some acquired, some expires, some beat =>
        Tx.require (env.julianday acquired ≤ env.julianday beat ∧
            env.julianday beat = env.julianday row.updatedAt ∧
            env.julianday row.updatedAt < env.julianday expires) (stateInvalid "lease timestamps")) =
      (do
        Tx.requireAll writerStateInvalid
          [("acquired_at", row.acquiredAt.isSome), ("expires_at", row.expiresAt.isSome),
           ("heartbeat_at", row.heartbeatAt.isSome)]
        Tx.require (leaseTimesOrdered env row = true) (writerStateInvalid "lease timestamps") :
          Tx PyError Db Unit) := by
  unfold leaseTimesOrdered
  cases row.acquiredAt with
  | none => rfl
  | some acquired =>
    cases row.expiresAt with
    | none => rfl
    | some expires =>
      cases row.heartbeatAt with
      | none => rfl
      | some heartbeat =>
        show Tx.mapError asStore (Tx.require _ _) = Tx.require _ _
        rw [Tx.mapError_require]
        refine Tx.require_congr ?_
        simp only [Bool.and_eq_true, decide_eq_true_eq, and_assoc]

theorem client_validateRow (env : Env) (row : GlobalWriterLease) :
    Tx.mapError asStore (Client.validateGlobalWriterRow env row) =
      L3.validateGlobalWriterRow env row := by
  unfold Client.validateGlobalWriterRow L3.validateGlobalWriterRow
  rw [Tx.mapError_bind, Tx.mapError_require]
  congr 1
  funext _
  cases row.state with
  | FREE => exact client_validateFree row
  | HELD =>
    simp only [Tx.mapError_bind, Tx.mapError_requireAll]
    refine congrArg (Tx.requireAll _ _ >>= ·) (funext fun _ => ?_)
    exact congrArg (Tx.requireAll _ _ >>= ·) (funext fun _ => client_validateTimes env row)

section Protocol

variable {conn : Connection} {profile : SchemaProfile}

theorem client_get (hschema : validateSchemaConnection conn = .ok profile) (env : Env) :
    Tx.mapError asStore (Client.get conn env) = getGlobalProductionWriterLease env := by
  unfold Client.get getGlobalProductionWriterLease
  rw [hschema, Tx.lift_ok_bind]
  simp only [Tx.mapError_bind, client_validateRow]
  rfl

/-- The client asks whether the lease has expired, the store whether it has not. -/
theorem expired_iff (env : Env) (row : GlobalWriterLease) (now : Timestamp) :
    expired env row now = false ↔ writerUnexpired env row now = true := by
  unfold expired writerUnexpired
  cases row.expiresAt with
  | none => simp
  | some expires =>
    simp only [decide_eq_false_iff_not, decide_eq_true_eq]
    omega

theorem client_requireCurrent (env : Env) (row : GlobalWriterLease) (owner : String) (token : Int)
    (now : Timestamp) :
    Tx.mapError asStore (requireCurrent env row owner token now) =
      requireCurrentGlobalWriter env row owner token now := by
  unfold requireCurrent requireCurrentGlobalWriter
  simp only [Tx.mapError_bind, Tx.mapError_require]
  rw [Tx.require_congr (expired_iff env row now)]
  rfl

theorem client_assertCurrent (hschema : validateSchemaConnection conn = .ok profile) (env : Env)
    (n : Nat) (owner : String) (token : Int) :
    Tx.mapError asStore (assertCurrent conn env n owner token) =
      assertCurrentGlobalWriter env n owner token := by
  unfold assertCurrent assertCurrentGlobalWriter
  simp only [Tx.mapError_bind, Tx.mapError_require, client_get hschema, client_requireCurrent]
  rfl

/-! ## Statements -/

theorem asStore_controlStoreError (e : ClientError) :
    asStore (Client.controlStoreError e) = L3.controlStoreError (asStore e) := by
  cases e with
  | client code detail => rfl
  | other e => cases e <;> rfl

/-- The handler around a body of either. -/
theorem client_handled {α : Type} {x : Tx ClientError Db α} {y : Tx PyError Db α}
    (h : Tx.mapError asStore x = y) :
    Tx.mapError asStore (Tx.mapError Client.controlStoreError x) =
      Tx.mapError L3.controlStoreError y := by
  rw [← h, Tx.mapError_mapError, Tx.mapError_mapError]
  simp only [asStore_controlStoreError]

theorem client_inject (env : Env) (point : String) :
    Tx.mapError asStore (Client.inject env point) = L3.inject env point := by
  unfold Client.inject L3.inject
  cases env.fault point <;> rfl

theorem client_updateLease (env : Env) (cond : GlobalWriterLease → Bool)
    (set : GlobalWriterLease → GlobalWriterLease) (lost : ClientError) :
    Tx.mapError asStore (updateLease env cond set lost) =
      updateWriterLease env cond set (asStore lost) := by
  unfold updateLease updateWriterLease
  simp only [Tx.mapError_bind, Tx.mapError_require]
  rfl

theorem client_existingEvent (key : String) (allowed : List WriterEventType) (request : String) :
    Tx.mapError asStore (Client.existingEvent key allowed request) =
      existingGlobalWriterEvent key allowed request := by
  unfold Client.existingEvent existingGlobalWriterEvent
  rw [Tx.mapError_bind, Tx.mapError_read]
  congr 1
  funext row
  cases row with
  | none => rfl
  | some event =>
    show Tx.mapError asStore (if _ then _ else _) = _
    rw [Tx.ite_fail_eq, Tx.mapError_bind, Tx.mapError_require]
    refine congrArg (· >>= _) (Tx.require_congr ?_)
    simp only [not_or, ne_eq, Decidable.not_not]

theorem client_insertEvent (env : Env) (key : String) (type : WriterEventType)
    (fromToken toToken : Int) (prior new : Option WriterContext) (reason : String) (decision : Option String)
    (request : String) (createdAt : Timestamp) :
    Tx.mapError asStore
      (Client.insertEvent env key type fromToken toToken prior new reason decision request createdAt) =
      insertGlobalWriterEvent
        { eventId := env.uuid 0, operationKey := key, eventType := type, fromFencingToken := fromToken
          toFencingToken := toToken, prior := prior.getD .empty, new := new.getD .empty
          reason := reason, controlDecisionRef := decision, requestJson := request
          createdAt := createdAt } := by
  unfold Client.insertEvent insertGlobalWriterEvent
  simp only [Tx.mapError_bind, Tx.mapError_require]
  rfl

/-! ## Operations -/

theorem contextJson_eq (c : WriterContext) : contextJson c = c.json := rfl

theorem noFloat_contextJson (c : WriterContext) : (contextJson c).noFloat = true := by
  simp [contextJson, contextFields, Json.noFloat, Json.noFloatFields, Json.noFloat_ofOption]

/-- The request texts of the operations, which are what a key is compared by. -/
theorem client_request {v : Json} (h : v.noFloat = true) :
    Tx.mapError asStore (Tx.lift (Client.canonicalJson v) : Tx ClientError Db String) =
      Tx.lift (L2.canonicalJson v) := by
  rw [Tx.mapError_lift, client_canonicalJson h]

/-- The client's test for a lease in use is the store's for one that is free. -/
theorem held_iff (env : Env) (row : GlobalWriterLease) (now : Timestamp) :
    ¬ (row.state = .HELD ∧ expired env row now = false) ↔
      row.state = .FREE ∨ writerUnexpired env row now = false := by
  rw [expired_iff, not_and, Bool.not_eq_true]
  cases row.state with
  | FREE => simp
  | HELD => simp

/-- Two sequences whose first parts agree and whose rests agree. -/
theorem bind_agrees {α β : Type} {x : Tx ClientError Db α} {y : Tx PyError Db α}
    {f : α → Tx ClientError Db β} {g : α → Tx PyError Db β} (hx : Tx.mapError asStore x = y)
    (hf : ∀ a, Tx.mapError asStore (f a) = g a) : Tx.mapError asStore (x >>= f) = (y >>= g) := by
  rw [Tx.mapError_bind, hx]
  exact congrArg (y >>= ·) (funext hf)

/-- A test that raises agrees with a guard on the opposite. -/
theorem test_agrees {α : Type} {c c' : Prop} [Decidable c] [Decidable c'] {e : ClientError}
    {x : Tx ClientError Db α} {y : Tx PyError Db α} (hc : ¬ c ↔ c')
    (hx : Tx.mapError asStore x = y) :
    Tx.mapError asStore (if c then Tx.fail e else x) =
      (Tx.require c' (asStore e) >>= fun _ => y) := by
  rw [Tx.ite_fail_eq, Tx.mapError_bind, Tx.mapError_require, hx, Tx.require_congr hc]

theorem client_acquireTx (hschema : validateSchemaConnection conn = .ok profile) (env : Env)
    (a : AcquireWriter) :
    Tx.mapError asStore (acquireTx conn env a) = acquireWriterTx env a := by
  have hjson : (Json.obj [("context", contextJson a.context), ("ttl_seconds", .int a.ttlSeconds),
      ("control_decision_ref", .ofOption a.controlDecisionRef)]).noFloat = true := by
    simp [Json.noFloat, Json.noFloatFields, noFloat_contextJson, Json.noFloat_ofOption]
  unfold acquireTx acquireWriterTx
  refine bind_agrees (client_requireSha256 ..) fun _ => ?_
  refine bind_agrees (client_requireTtl _) fun _ => ?_
  refine bind_agrees (Tx.mapError_require ..) fun _ => ?_
  refine bind_agrees (client_validateContext _) fun _ => ?_
  refine bind_agrees (client_request hjson) fun request => ?_
  refine bind_agrees (Tx.mapError_lift .. |>.trans (by rw [client_expiry])) fun expires => ?_
  refine client_handled (bind_agrees (client_existingEvent ..) fun existing => ?_)
  cases existing with
  | some event =>
    refine bind_agrees (client_get hschema env) fun current => test_agrees ?_ rfl
    simp only [not_or, ne_eq, Decidable.not_not]
  | none =>
    refine bind_agrees (client_get hschema env) fun prior => test_agrees (held_iff ..) ?_
    refine bind_agrees (client_updateLease ..) fun _ => ?_
    refine bind_agrees (client_inject ..) fun _ => ?_
    refine bind_agrees ((client_insertEvent ..).trans ?_) fun _ => ?_
    · by_cases hheld : prior.state = .HELD
      · simp only [hheld, if_true, Option.getD_some]
      · simp only [hheld, if_false, Option.getD_some, Option.getD_none]
    · exact bind_agrees (client_inject ..) fun _ => rfl

theorem client_heartbeatTx (hschema : validateSchemaConnection conn = .ok profile) (env : Env)
    (owner : String) (token ttl : Int) :
    Tx.mapError asStore (Client.heartbeatTx conn env owner token ttl) =
      heartbeatWriterTx env owner token ttl := by
  unfold Client.heartbeatTx heartbeatWriterTx
  refine bind_agrees (client_requireTtl _) fun _ => ?_
  refine bind_agrees (Tx.mapError_lift .. |>.trans (by rw [client_expiry])) fun expires => ?_
  refine client_handled (bind_agrees (client_get hschema env) fun row => ?_)
  exact bind_agrees (client_requireCurrent ..) fun _ => client_updateLease ..

theorem client_free (hschema : validateSchemaConnection conn = .ok profile) (env : Env)
    (type : WriterEventType) (key owner : String) (token newToken : Int) (reason : String)
    (decision : Option String) (request : String) (lost : ClientError) :
    Tx.mapError asStore
      (free conn env type key owner token newToken reason decision request lost) =
      freeWriter env type key owner token newToken reason decision request (asStore lost) := by
  unfold free freeWriter
  refine client_handled (bind_agrees (client_existingEvent ..) fun existing => ?_)
  cases existing with
  | some event =>
    refine bind_agrees (client_get hschema env) fun current => test_agrees ?_ rfl
    simp only [not_or, ne_eq, Decidable.not_not]
  | none =>
    refine bind_agrees (client_get hschema env) fun prior => ?_
    refine bind_agrees (client_requireCurrent ..) fun _ => ?_
    refine bind_agrees (client_updateLease ..) fun _ => ?_
    refine bind_agrees (client_inject ..) fun _ => ?_
    refine bind_agrees (client_insertEvent ..) fun _ => ?_
    exact bind_agrees (client_inject ..) fun _ => rfl

theorem client_releaseTx (hschema : validateSchemaConnection conn = .ok profile) (env : Env)
    (a : ReleaseWriter) :
    Tx.mapError asStore (releaseTx conn env a) = releaseWriterTx env a := by
  have hjson : (Json.obj [("owner_id", .str a.ownerId), ("fencing_token", .int a.fencingToken),
      ("reason", .str a.reason),
      ("control_decision_ref", .ofOption a.controlDecisionRef)]).noFloat = true := by
    simp [Json.noFloat, Json.noFloatFields, Json.noFloat_ofOption]
  unfold releaseTx releaseWriterTx
  refine bind_agrees (client_requireSha256 ..) fun _ => ?_
  refine bind_agrees (Tx.mapError_require ..) fun _ => ?_
  refine bind_agrees (Tx.mapError_require ..) fun _ => ?_
  refine bind_agrees (Tx.mapError_require ..) fun _ => ?_
  exact bind_agrees (client_request hjson) fun request => client_free hschema ..

theorem client_forceRevokeTx (hschema : validateSchemaConnection conn = .ok profile) (env : Env)
    (a : RevokeWriter) :
    Tx.mapError asStore (forceRevokeTx conn env a) = revokeWriterTx env a := by
  have hjson : (Json.obj [("reason", .str a.reason),
      ("control_decision_ref", .str a.controlDecisionRef),
      ("expected_owner_id", .str a.expectedOwnerId),
      ("expected_fencing_token", .int a.expectedFencingToken)]).noFloat = true := by
    simp [Json.noFloat, Json.noFloatFields]
  unfold forceRevokeTx revokeWriterTx
  refine bind_agrees (client_requireSha256 ..) fun _ => ?_
  refine bind_agrees (Tx.mapError_requireAll ..) fun _ => ?_
  refine bind_agrees (Tx.mapError_require ..) fun _ => ?_
  exact bind_agrees (client_request hjson) fun request => client_free hschema ..

theorem client_readBack (hschema : validateSchemaConnection conn = .ok profile) (env : Env)
    (detail : String) (g : Grant) :
    Tx.mapError asStore (readBack conn env detail g) = readBackFree env detail g := by
  unfold readBack readBackFree
  refine bind_agrees (client_get hschema env) fun current => test_agrees ?_ rfl
  simp only [not_or, ne_eq, Decidable.not_not]

/-- A committed transaction and its re-read. -/
theorem commit_agrees {α β : Type} {x : Tx ClientError Db α} {y : Tx PyError Db α}
    {f : α → Tx ClientError Db β} {g : α → Tx PyError Db β} (hx : Tx.mapError asStore x = y)
    (hf : ∀ a, Tx.mapError asStore (f a) = g a) (db : Db) :
    ((Tx.commitThen x f db).1.mapError asStore, (Tx.commitThen x f db).2) =
      Tx.commitThen y g db := by
  rw [← Tx.commitThen_mapError, hx]
  exact congrArg (Tx.commitThen y · db) (funext hf)

/-- **One call.** Through a client or through the store: the same database, and the
same row or an error of the same code and detail. -/
theorem client_call (hschema : validateSchemaConnection conn = .ok profile) (env : Env)
    (call : WriterCall) (db : Db) :
    ((call.client conn env db).1.mapError asStore, (call.client conn env db).2) =
      call.exec env db := by
  cases call with
  | acquire a =>
    refine commit_agrees (client_acquireTx hschema env a) (fun g => ?_) db
    refine bind_agrees (client_assertCurrent hschema ..) fun current => ?_
    exact bind_agrees (Tx.mapError_require ..) fun _ => rfl
  | heartbeat owner token ttl =>
    exact commit_agrees (client_heartbeatTx hschema env owner token ttl)
      (fun _ => client_assertCurrent hschema ..) db
  | release a =>
    exact commit_agrees (client_releaseTx hschema env a) (client_readBack hschema env _) db
  | forceRevoke a =>
    exact commit_agrees (client_forceRevokeTx hschema env a) (client_readBack hschema env _) db
  | assertCurrent owner token =>
    show (_, _) = Tx.atomically _ db
    rw [← client_assertCurrent hschema, Tx.atomically_mapError]
    rfl

end Protocol

/-! ## Runs through both -/

/-- Which implementation a party uses. -/
inductive WriterSide where
  | store
  | client (conn : Connection)

/-- A call through one of the two, its error as the store's. -/
def WriterSide.exec (side : WriterSide) (env : Env) (call : WriterCall) (db : Db) :
    Except PyError GlobalWriterLease × Db :=
  match side with
  | .store => call.exec env db
  | .client conn => ((call.client conn env db).1.mapError asStore, (call.client conn env db).2)

/-- The parties' schemas are all accepted. -/
def WriterSide.Ready : WriterSide → Prop
  | .store => True
  | .client conn => ∃ profile, validateSchemaConnection conn = .ok profile

/-- The answers of a list of calls, each made by its own party, and the database
they leave. -/
def protocolRun : List (WriterSide × Env × WriterCall) → Db →
    List (Except PyError GlobalWriterLease) × Db
  | [], db => ([], db)
  | (side, env, call) :: rest, db =>
    let first := side.exec env call db
    let others := protocolRun rest first.2
    (first.1 :: others.1, others.2)

theorem WriterSide.exec_eq {side : WriterSide} (h : side.Ready) (env : Env) (call : WriterCall)
    (db : Db) : side.exec env call db = call.exec env db := by
  cases side with
  | store => rfl
  | client conn =>
    obtain ⟨profile, hschema⟩ := h
    exact client_call hschema env call db

/-- **One protocol.** Whatever the parties use, and in whatever order they call, the
answers, the lease row and the events are those of a run through the store alone;
in particular a key used through one replays, or conflicts, through the other. -/
theorem writer_protocol_agrees {calls : List (WriterSide × Env × WriterCall)}
    (hready : ∀ c ∈ calls, c.1.Ready) (db : Db) :
    protocolRun calls db = protocolRun (calls.map fun c => (.store, c.2)) db := by
  induction calls generalizing db with
  | nil => rfl
  | cons c rest ih =>
    obtain ⟨side, env, call⟩ := c
    have hfirst : side.exec env call db = call.exec env db :=
      WriterSide.exec_eq (hready _ (List.mem_cons_self ..)) env call db
    have hrest := ih fun c hc => hready c (List.mem_cons_of_mem _ hc)
    simp only [List.map_cons, protocolRun, hfirst, hrest]
    rfl

/-- A database with the lease table only, and a client that knows its text. -/
def sampleTable : SchemaObject :=
  { kind := "table", name := "global_production_writer_lease"
    sql := some "CREATE TABLE global_production_writer_lease (resource_key TEXT PRIMARY KEY)" }

def sampleProfile : SchemaProfile where
  migrationHistory := [(6, "global_writer", "0")]
  expectedTables := [sampleTable.name]
  expectedIndexes := []
  expectedTriggers := []
  expectedObjectFingerprints :=
    [((sampleTable.kind, sampleTable.name), schemaObjectFingerprint (sampleTable.sql.getD ""))]

def sampleConnection : Connection where
  oldest := sampleProfile
  later := []
  migrations := sampleProfile.migrationHistory
  objects := [sampleTable]
  integrityCheck := ["ok"]
  foreignKeyCheck := []

theorem sampleConnection_ready : (WriterSide.client sampleConnection).Ready := by
  refine ⟨sampleProfile, ?_⟩
  simp [validateSchemaConnection, selectSchemaProfile, sampleConnection, sampleProfile, sampleTable,
    sameElements, Connection.names, Connection.fingerprints, bind, Except.bind]

/-- The store acquires, and the client repeats the key. -/
theorem writer_protocol_agrees_sample :
    protocolRun
      [(.store, slowEnv, .acquire slowAcquire),
       (.client sampleConnection, slowEnv, .acquire slowAcquire)] Db.init =
    protocolRun
      [(.store, slowEnv, .acquire slowAcquire), (.store, slowEnv, .acquire slowAcquire)]
      Db.init :=
  writer_protocol_agrees (by
    intro c hc
    rcases List.mem_cons.mp hc with rfl | hc
    · exact trivial
    · cases List.mem_singleton.mp hc
      exact sampleConnection_ready) Db.init

end Adcp.L4
