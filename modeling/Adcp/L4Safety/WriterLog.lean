import Adcp.L1Base.VersionedLog
import Adcp.L4Safety.WriterFencing

/-!
# The event log of the global production writer

Every operation but the heartbeat changes the lease row together with one
appended event, and the heartbeat changes only its times. So the log, folded from
the FREE row of a fresh database, gives back what the row says of state, token
and owner.

* `WriterCall.exec_writes`: what a call leaves behind.
* `WriterCall.exec_error`: a call that raises leaves the row and the log as they
  were, or it committed and then found its lease expired.
* `writer_log_is_row`: the fold, the chain and the validity, over every run.
-/
namespace Adcp.L4

open Adcp.L1 Adcp.L2 Adcp.L3

/-! ## The fold -/

/-- The row of a fresh database. -/
def freeView : WriterView := ⟨.FREE, 0, .empty⟩

/-- The events of a log folded in order, each giving the state it says it left. -/
def replayWriter (log : List GlobalWriterEvent) : WriterView :=
  log.foldl (fun _ e => e.view) freeView

theorem replayWriter_append (log : List GlobalWriterEvent) (e : GlobalWriterEvent) :
    replayWriter (log ++ [e]) = e.view := by
  unfold replayWriter
  rw [List.foldl_append]
  rfl

/-- The event names, as the state it starts from, what the events before it left. -/
def Follows (before : List GlobalWriterEvent) (e : GlobalWriterEvent) : Prop :=
  e.fromFencingToken = (replayWriter before).fencingToken ∧ e.prior = (replayWriter before).context

/-! ## What a call leaves behind -/

/-- A writer call leaves everything as it was, logs what it made of the row, or
moves the times of the lease. -/
inductive WriterChange (env : Env) (db db' : Db) : Prop
  | keep (h : db' = db)
  | logs {row : GlobalWriterLease} {event : GlobalWriterEvent}
      (h : WriterWrites env db row event db')
  | renews {row : GlobalWriterLease} (same : row.view = db.globalWriterLease.view)
      (checks : writerRowChecks env row = true) (h : db' = { db with globalWriterLease := row })

variable {env : Env} {db db' : Db} {call : WriterCall} {e : PyError} {g : Grant}

theorem releaseWriterTx_writes {a : ReleaseWriter} (h : releaseWriterTx env a db = .ok (g, db')) :
    ((∃ t, g = .replayed t) ∧ db' = db) ∨
    ∃ row event, WriterWrites env db row event db' ∧ g = .fresh a.fencingToken ∧
      WriterCurrent env db.globalWriterLease a.ownerId a.fencingToken (env.clock 0) ∧
      row.view = ⟨.FREE, a.fencingToken, .empty⟩ := by
  unfold releaseWriterTx at h
  obtain ⟨-, h⟩ := Tx.require_bind_ok.mp h
  obtain ⟨-, h⟩ := Tx.require_bind_ok.mp h
  obtain ⟨-, h⟩ := Tx.require_bind_ok.mp h
  obtain ⟨-, h⟩ := Tx.require_bind_ok.mp h
  obtain ⟨json, -, h⟩ := Tx.lift_bind_ok.mp h
  exact freeWriter_writes (Or.inl rfl) h

theorem revokeWriterTx_writes {a : RevokeWriter} (h : revokeWriterTx env a db = .ok (g, db')) :
    ((∃ t, g = .replayed t) ∧ db' = db) ∨
    ∃ row event, WriterWrites env db row event db' ∧ g = .fresh (a.expectedFencingToken + 1) ∧
      WriterCurrent env db.globalWriterLease a.expectedOwnerId a.expectedFencingToken
        (env.clock 0) ∧
      row.view = ⟨.FREE, a.expectedFencingToken + 1, .empty⟩ := by
  unfold revokeWriterTx at h
  obtain ⟨-, h⟩ := Tx.require_bind_ok.mp h
  obtain ⟨-, h⟩ := Tx.requireAll_bind_ok.mp h
  obtain ⟨-, h⟩ := Tx.require_bind_ok.mp h
  obtain ⟨json, -, h⟩ := Tx.lift_bind_ok.mp h
  exact freeWriter_writes (Or.inr rfl) h

theorem WriterCall.exec_writes (env : Env) (call : WriterCall) (db : Db) :
    WriterChange env db (call.exec env db).2 := by
  cases call with
  | acquire a =>
    unfold exec acquireGlobalProductionWriter
    rcases Tx.commitThen_state (acquireWriterTx env a) _ db with he | ⟨g, hx⟩
    · exact .keep he
    · rcases (acquireWriterTx_writes hx).2 with ⟨-, he⟩ | ⟨_, row, event, hwrites, -⟩
      · exact .keep he
      · exact .logs hwrites
  | heartbeat owner token ttl =>
    unfold exec heartbeatGlobalProductionWriter
    rcases Tx.commitThen_state (heartbeatWriterTx env owner token ttl) _ db with he | ⟨⟨⟩, hx⟩
    · exact .keep he
    · obtain ⟨-, -, _, row, hview, -, hchecks, he⟩ := heartbeatWriterTx_writes hx
      exact .renews hview hchecks he
  | release a =>
    unfold exec releaseGlobalProductionWriter
    rcases Tx.commitThen_state (releaseWriterTx env a) _ db with he | ⟨g, hx⟩
    · exact .keep he
    · rcases releaseWriterTx_writes hx with ⟨-, he⟩ | ⟨row, event, hwrites, -⟩
      · exact .keep he
      · exact .logs hwrites
  | forceRevoke a =>
    unfold exec forceRevokeGlobalProductionWriter
    rcases Tx.commitThen_state (revokeWriterTx env a) _ db with he | ⟨g, hx⟩
    · exact .keep he
    · rcases revokeWriterTx_writes hx with ⟨-, he⟩ | ⟨row, event, hwrites, -⟩
      · exact .keep he
      · exact .logs hwrites
  | assertCurrent owner token =>
    unfold exec
    rcases Tx.atomically_state (assertCurrentGlobalWriter env 0 owner token) db with he | ⟨r, hx⟩
    · exact .keep he
    · exact .keep (assertCurrentGlobalWriter_ok hx).2

/-! ## Calls that raise -/

/-- The call committed a lease that it found expired when it read it back. -/
def WriterCall.Lapsed (env : Env) (call : WriterCall) (db db' : Db) (e : PyError) : Prop :=
  (match call with
    | .acquire a => ∃ token, acquireWriterTx env a db = .ok (.fresh token, db')
    | .heartbeat owner token ttl => heartbeatWriterTx env owner token ttl db = .ok ((), db')
    | _ => False) ∧
  writerUnexpired env db'.globalWriterLease (env.clock 1) = false ∧
  e = storeError "GLOBAL_PRODUCTION_WRITER_LEASE_EXPIRED"

/-- What a freed row answers when it is read back. -/
theorem readBackFree_ok {detail : String} {row : GlobalWriterLease} {event : GlobalWriterEvent}
    {token : Int} (hwrites : WriterWrites env db row event db')
    (hview : row.view = ⟨.FREE, token, .empty⟩) :
    readBackFree env detail (.fresh token) db' = .ok (row, db') := by
  have hrow : db'.globalWriterLease = row := by rw [hwrites.writes]
  have hvalid : WriterRowValid env db'.globalWriterLease :=
    hrow ▸ writerRowChecks_valid hwrites.checks
  unfold readBackFree
  refine getLease_bind_ok.mpr ⟨hvalid, Tx.require_bind_ok.mpr ⟨?_, ?_⟩⟩
  · rw [hrow]
    exact ⟨congrArg WriterView.state hview, congrArg WriterView.fencingToken hview⟩
  · rw [hrow]
    rfl

/-- A release or a revocation that raises left everything as it was. -/
theorem freed_error (token : Int) {x : Tx PyError Db Grant} {detail : String}
    (hx : ∀ {g mid}, x db = .ok (g, mid) → ((∃ t, g = .replayed t) ∧ mid = db) ∨
      ∃ row event, WriterWrites env db row event mid ∧ g = .fresh token ∧
        row.view = ⟨.FREE, token, .empty⟩)
    (h : Tx.commitThen x (readBackFree env detail) db = (.error e, db')) : db' = db := by
  rcases Tx.commitThen_error h with ⟨-, he⟩ | ⟨g, hg, hpost⟩
  · exact he
  · rcases hx hg with ⟨-, he⟩ | ⟨row, event, hwrites, rfl, hview⟩
    · exact he
    · cases hpost.symm.trans (readBackFree_ok hwrites hview)

/-- A written lease that is refused at its read-back has expired. -/
theorem written_error {owner : String} {token : Int} {n : Nat} {row : GlobalWriterLease}
    (hrow : db'.globalWriterLease = row) (hchecks : writerRowChecks env row = true)
    (hheld : row.state = .HELD) (htoken : row.fencingToken = token)
    (howner : row.context.ownerId = some owner)
    (h : assertCurrentGlobalWriter env n owner token db' = .error e) :
    writerUnexpired env db'.globalWriterLease (env.clock n) = false ∧
      e = storeError "GLOBAL_PRODUCTION_WRITER_LEASE_EXPIRED" := by
  obtain ⟨he, hexpired⟩ := assertCurrentGlobalWriter_error
    (hrow ▸ writerRowChecks_valid hchecks) (hrow ▸ htoken) (hrow ▸ hheld) (hrow ▸ howner) h
  exact ⟨hexpired, he⟩

/-- A call that raises leaves the row and the log as they were, unless it is an
acquisition or a heartbeat whose lease had expired when it read it back. -/
theorem WriterCall.exec_error (h : call.exec env db = (.error e, db')) :
    db' = db ∨ call.Lapsed env db db' e := by
  cases call with
  | acquire a =>
    rcases Tx.commitThen_error h with ⟨-, he⟩ | ⟨g, hg, hpost⟩
    · exact Or.inl he
    obtain ⟨hrequired, hcases⟩ := acquireWriterTx_writes hg
    rcases hcases with ⟨-, he⟩ | ⟨_, row, event, hwrites, rfl, hview, -⟩
    · exact Or.inl he
    right
    have hrow : db'.globalWriterLease = row := by rw [hwrites.writes]
    have hcontext : row.context = a.context := congrArg WriterView.context hview
    -- the owner is a required field of the context
    obtain ⟨owner, howner⟩ : ∃ owner, a.context.ownerId = some owner := by
      have hfield := hrequired ("owner_id", a.context.ownerId) (List.mem_cons_self ..)
      cases ho : a.context.ownerId with
      | none =>
        rw [ho] at hfield
        cases hfield
      | some owner => exact ⟨owner, rfl⟩
    rw [howner, Option.getD_some] at hpost
    rcases Tx.bind_error.mp hpost with hpost | ⟨current, s, hok, hpost⟩
    · exact ⟨⟨_, hg⟩, written_error hrow hwrites.checks (congrArg WriterView.state hview)
        (congrArg WriterView.fencingToken hview) (hcontext ▸ howner) hpost⟩
    · -- the row read back is the one written
      unfold assertCurrentGlobalWriter at hok
      obtain ⟨-, hok⟩ := Tx.require_bind_ok.mp hok
      obtain ⟨-, hok⟩ := Tx.require_bind_ok.mp hok
      obtain ⟨-, hok⟩ := getLease_bind_ok.mp hok
      obtain ⟨-, hok⟩ := requireCurrentGlobalWriter_bind_ok.mp hok
      cases Tx.pure_ok.mp hok
      rcases Tx.require_bind_error.mp hpost with ⟨hne, -⟩ | ⟨-, hpost⟩
      · rw [hrow] at hne
        exact (hne hcontext).elim
      · cases hpost
  | heartbeat owner token ttl =>
    rcases Tx.commitThen_error h with ⟨-, he⟩ | ⟨⟨⟩, hg, hpost⟩
    · exact Or.inl he
    · obtain ⟨-, hcur, _, row, hview, -, hchecks, rfl⟩ := heartbeatWriterTx_writes hg
      obtain ⟨htoken, hheld, howner, -⟩ := hcur
      have hcontext := congrArg WriterView.context hview
      exact Or.inr ⟨hg, written_error rfl hchecks ((congrArg WriterView.state hview).trans hheld)
        ((congrArg WriterView.fencingToken hview).trans htoken)
        ((congrArg WriterContext.ownerId hcontext).trans howner) hpost⟩
  | release a =>
    refine Or.inl (freed_error a.fencingToken (fun hx => ?_) h)
    rcases releaseWriterTx_writes hx with hreplay | ⟨row, event, hwrites, hg, -, hview⟩
    · exact Or.inl hreplay
    · exact Or.inr ⟨row, event, hwrites, hg, hview⟩
  | forceRevoke a =>
    refine Or.inl (freed_error (a.expectedFencingToken + 1) (fun hx => ?_) h)
    rcases revokeWriterTx_writes hx with hreplay | ⟨row, event, hwrites, hg, -, hview⟩
    · exact Or.inl hreplay
    · exact Or.inr ⟨row, event, hwrites, hg, hview⟩
  | assertCurrent owner token => exact Or.inl (Tx.atomically_error h)

/-! ## Runs -/

/-- A call in which `cut` may be raised by one of the statements before its COMMIT:
`_rollback` undoes the statements before that one. -/
def WriterCall.attempt (env : Env) (cut : Option PyError) (call : WriterCall) (db : Db) :
    Except PyError GlobalWriterLease × Db :=
  match cut with
  | some e => (.error e, db)
  | none => call.exec env db

/-- The databases that writer calls reach, `julianday` being SQLite's. -/
inductive WriterRun (julianday : Timestamp → Int) : Db → Prop
  | start : WriterRun julianday Db.init
  | call {db : Db} {env : Env} (call : WriterCall) (cut : Option PyError)
      (run : WriterRun julianday db) (sqlite : env.julianday = julianday) :
      WriterRun julianday (call.attempt env cut db).2

/-- The row is what its log says, and valid. -/
structure WriterLogged (julianday : Timestamp → Int) (db : Db) : Prop where
  fold : replayWriter db.globalWriterEvent = db.globalWriterLease.view
  follows : Each Follows db.globalWriterEvent
  valid : ∀ env : Env, env.julianday = julianday → WriterRowValid env db.globalWriterLease

/-- Only `julianday` matters to the validator. -/
theorem writerRowValid_congr {env env' : Env} {row : GlobalWriterLease}
    (h : env'.julianday = env.julianday) : WriterRowValid env' row ↔ WriterRowValid env row := by
  unfold WriterRowValid leaseTimesOrdered
  rw [h]

theorem WriterLogged.init (julianday : Timestamp → Int) : WriterLogged julianday Db.init where
  fold := rfl
  follows := Each.nil
  valid _ _ := ⟨Int.le_refl _, rfl, rfl, rfl, rfl⟩

theorem WriterLogged.step {julianday : Timestamp → Int} (h : WriterLogged julianday db)
    (sqlite : env.julianday = julianday) (hchange : WriterChange env db db') :
    WriterLogged julianday db' := by
  have hvalid {row : GlobalWriterLease} (hchecks : writerRowChecks env row = true) (env' : Env)
      (henv' : env'.julianday = julianday) : WriterRowValid env' row :=
    (writerRowValid_congr (henv'.trans sqlite.symm)).mpr (writerRowChecks_valid hchecks)
  cases hchange with
  | keep he => exact he ▸ h
  | @logs row event hwrites =>
    have hfollows : Follows db.globalWriterEvent event := by
      unfold Follows
      rw [h.fold]
      exact ⟨hwrites.token, hwrites.prior⟩
    obtain ⟨rfl, -, -, hleads, hchecks⟩ := hwrites
    exact ⟨(replayWriter_append _ _).trans hleads.symm, h.follows.append hfollows, hvalid hchecks⟩
  | renews same hchecks he =>
    subst he
    exact ⟨h.fold.trans same.symm, h.follows, hvalid hchecks⟩

theorem WriterRun.logged {julianday : Timestamp → Int} (h : WriterRun julianday db) :
    WriterLogged julianday db := by
  induction h with
  | start => exact .init julianday
  | @call db env call cut _ sqlite ih =>
    cases cut with
    | some e => exact ih
    | none => exact ih.step sqlite (call.exec_writes env db)

/-- **The writer's row is the fold of its log.** In every state of every run: the
events folded from the FREE row give the row's state, token and owner context;
each event names as its prior token and owner what the events before it left; the
row passes `_validate_global_writer_row`; and a call that raises there, cut at a
statement or not, leaves row and log as they are, unless it committed a lease
that had expired when it read it back. -/
theorem writer_log_is_row {julianday : Timestamp → Int} {db : Db} (h : WriterRun julianday db) :
    replayWriter db.globalWriterEvent = db.globalWriterLease.view ∧
    Each Follows db.globalWriterEvent ∧
    (∀ env : Env, env.julianday = julianday →
      validateGlobalWriterRow env db.globalWriterLease db = .ok ((), db)) ∧
    (∀ (env : Env) (call : WriterCall) (cut : Option PyError) (e : PyError) (db' : Db),
      call.attempt env cut db = (.error e, db') → db' = db ∨ call.Lapsed env db db' e) := by
  obtain ⟨hfold, hfollows, hvalid⟩ := h.logged
  refine ⟨hfold, hfollows, fun _ henv => validateGlobalWriterRow_ok.mpr ⟨hvalid _ henv, rfl⟩,
    fun env call cut e db' hx => ?_⟩
  cases cut with
  | some _ =>
    cases hx
    exact Or.inl rfl
  | none => exact WriterCall.exec_error hx

/-! ## A lapsed acquisition -/

/-- The surroundings of a call that is twenty seconds slower than its lease. -/
abbrev slowEnv : Env where
  clock i := if i = 0 then .epoch else ⟨62135596820000000, by decide⟩
  uuid _ := "event"
  julianday t := t.micros / 1000
  julianText _ := true
  floatRepr t := t
  canonicalSourceRoot path := .ok path
  home user := .ok user
  cwd := "/"
  openDirectory _ := .ok ()
  readOne _ _ := .ok []
  guard := none
  fault _ := none

abbrev slowAcquire : AcquireWriter where
  operationKey := String.ofList (List.replicate 64 '0')
  context := ⟨some "owner", none, some "owner", none, some "owner", some "owner", some "owner",
    some "owner", some "owner", some "owner"⟩
  ttlSeconds := 15
  controlDecisionRef := none

abbrev slowLease : GlobalWriterLease where
  state := .HELD
  context := slowAcquire.context
  fencingToken := 1
  acquiredAt := some .epoch
  expiresAt := some ⟨62135596815000000, by decide⟩
  heartbeatAt := some .epoch
  updatedAt := .epoch

abbrev slowEvent : GlobalWriterEvent where
  eventId := "event"
  operationKey := slowAcquire.operationKey
  eventType := .ACQUIRE
  fromFencingToken := 0
  toFencingToken := 1
  prior := .empty
  new := slowAcquire.context
  reason := "GLOBAL_PRODUCTION_WRITER_ACQUIRED"
  controlDecisionRef := none
  requestJson := String.ofList (Json.obj [("context", slowAcquire.context.json),
    ("ttl_seconds", .int 15), ("control_decision_ref", .null)]).render
  createdAt := .epoch

/-- The state the acquisition commits. -/
abbrev slowAcquired : Db :=
  { Db.init with globalWriterLease := slowLease, globalWriterEvent := [slowEvent] }

@[simp]
theorem sqliteLength_owner : sqliteLength "owner" = 5 := by simp [sqliteLength]

@[simp]
theorem sqliteLength_event : sqliteLength "event" = 5 := by simp [sqliteLength]

@[simp]
theorem sqliteLength_acquired : sqliteLength "GLOBAL_PRODUCTION_WRITER_ACQUIRED" = 33 := by
  simp [sqliteLength]

theorem slowAcquire_commits :
    Tx.run (acquireWriterTx slowEnv slowAcquire) Db.init = .ok (.fresh 1, slowAcquired) := by
  simp -dsimp [acquireWriterTx, requireSha256, isSha256, isLowerHex, requireTtl, minLeaseTtlSeconds,
    maxLeaseTtlSeconds, nullOrNonEmpty, nonEmptyText, validateGlobalWriterContext,
    WriterContext.fields, WriterContext.requiredFields, WriterContext.optionalFields, canonicalJson,
    Json.noFloat, Json.noFloatFields, WriterContext.json, Json.ofOption, Timestamp.addSeconds,
    Timestamp.epoch, maxMicros, existingGlobalWriterEvent, getGlobalProductionWriterLease,
    validateGlobalWriterRow, updateWriterLease, insertGlobalWriterEvent, writerRowChecks,
    writerEventChecks, Db.init, WriterContext.empty, sqlNonEmpty, sqlNullOrNonEmpty,
    leaseTimesOrdered, run_inject]

/-- The acquisition raises, and its lease and its event are committed. -/
theorem slowAcquire_raises_and_commits :
    (WriterCall.acquire slowAcquire).exec slowEnv Db.init =
      (.error (storeError "GLOBAL_PRODUCTION_WRITER_LEASE_EXPIRED"), slowAcquired) ∧
    slowAcquired.globalWriterLease ≠ Db.init.globalWriterLease ∧
    slowAcquired.globalWriterEvent ≠ Db.init.globalWriterEvent := by
  refine ⟨?_, by decide, by decide⟩
  show acquireGlobalProductionWriter slowEnv slowAcquire Db.init = _
  unfold acquireGlobalProductionWriter
  rw [Tx.commitThen_run slowAcquire_commits]
  simp -dsimp [assertCurrentGlobalWriter, getGlobalProductionWriterLease, validateGlobalWriterRow,
    WriterContext.requiredFields, WriterContext.optionalFields, nonEmptyText, nullOrNonEmpty,
    leaseTimesOrdered, requireCurrentGlobalWriter, writerUnexpired, Timestamp.epoch, Grant.token,
    Except.map]

/-- `writer_log_is_row` at the state the acquisition leaves. -/
theorem writer_log_is_row_slow :
    replayWriter ((WriterCall.acquire slowAcquire).attempt slowEnv none Db.init).2.globalWriterEvent =
      ((WriterCall.acquire slowAcquire).attempt slowEnv none Db.init).2.globalWriterLease.view :=
  (writer_log_is_row (.call _ none .start rfl)).1

end Adcp.L4
