import Adcp.L4Safety.SliceEvents
import Adcp.L4Safety.WriterLog

/-!
# The receipts of typed Postgres operations

The receipts of one operation are none, one PREPARED, or one PREPARED and the FINAL
bound to it, in that order. One operation of the store appends them, and nothing
changes or removes them.

* `ReceiptPhases`: the shapes the receipts of an operation take.
* `ReceiptPhases.state`: their classification is the one their shape has.
* `receipt_log`: all receipts of all runs have such a shape, and each was appended
  under the lease its call presented.
-/
namespace Adcp.L4

open Adcp.L1 Adcp.L2 Adcp.L3 ExecutionState

/-! ## Shapes -/

/-- The receipts of one operation, oldest first. -/
inductive ReceiptPhases : List ReceiptEvent → Prop
  | absent : ReceiptPhases []
  | prepared {p : ReceiptEvent} (phase : p.receiptPhase = .PREPARED) : ReceiptPhases [p]
  | final {p f : ReceiptEvent} (phase : p.receiptPhase = .PREPARED)
      (final_phase : f.receiptPhase = .FINAL) (bound : f.BoundTo p.toReceiptFields) :
      ReceiptPhases [p, f]

/-- The receipts a classification speaks of. -/
def receiptsOf : ReceiptState → List ReceiptEvent
  | .ABSENT => []
  | .PREPARED_ONLY p => [p]
  | .FINAL p f => [p, f]

variable {env : Env} {snap db db' : Db} {call : Call} {past : List Db} {row : ReceiptEvent}
  {rows : List ReceiptEvent}

/-- A receipt that the table takes continues the receipts of its operation. -/
theorem ReceiptPhases.append (h : ReceiptPhases (db.receipts row.operationId))
    (hfound : row.Inserts db) : ReceiptPhases (db.receipts row.operationId ++ [row]) := by
  have hmem {r : ReceiptEvent} : r ∈ db.receipts row.operationId ↔
      r ∈ db.typedPostgresOperationReceiptEvent ∧ r.operationId = row.operationId := by
    unfold Db.receipts
    rw [List.mem_filter, decide_eq_true_eq]
  -- what is there already is not of the phase of the new one
  have hfirst : ∀ r ∈ db.receipts row.operationId, r.receiptPhase ≠ row.receiptPhase := by
    intro r hr hphase
    obtain ⟨hr, hid⟩ := hmem.mp hr
    exact hfound.first r hr ⟨hid, hphase⟩
  have hprepared : row.receiptPhase = .FINAL → ∃ r ∈ db.receipts row.operationId,
      row.BoundTo r.toReceiptFields := by
    intro hfinal
    obtain ⟨r, hr, hbound⟩ := hfound.prepared hfinal
    exact ⟨r, hmem.mpr ⟨hr, hbound.1⟩, hbound⟩
  generalize db.receipts row.operationId = before at h hfirst hprepared
  cases h with
  | absent =>
    refine .prepared ?_
    cases hphase : row.receiptPhase with
    | PREPARED => rfl
    | FINAL =>
      obtain ⟨r, hr, -⟩ := hprepared hphase
      cases hr
  | @prepared p phase =>
    have hfinal : row.receiptPhase = .FINAL := by
      cases hphase : row.receiptPhase with
      | PREPARED => exact (hfirst p (List.mem_singleton.mpr rfl) (phase.trans hphase.symm)).elim
      | FINAL => rfl
    obtain ⟨r, hr, hbound⟩ := hprepared hfinal
    rw [List.mem_singleton.mp hr] at hbound
    exact .final phase hfinal hbound
  | @final p f phase final_phase bound =>
    cases hphase : row.receiptPhase with
    | PREPARED => exact (hfirst p (List.mem_cons_self ..) (phase.trans hphase.symm)).elim
    | FINAL =>
      have hf : f ∈ [p, f] := List.mem_cons_of_mem _ (List.mem_cons_self ..)
      exact (hfirst f hf (final_phase.trans hphase.symm)).elim

/-- Receipts in one of the shapes are classified by it; a fingerprint that is not theirs
is a conflict. -/
theorem ReceiptPhases.state {operationId fingerprint : String} (hid : operationId ≠ "")
    (hsha : isSha256 fingerprint = true) (h : ReceiptPhases (db.receipts operationId)) :
    ∃ state, receiptsOf state = db.receipts operationId ∧
      typedPostgresOperationReceiptState operationId fingerprint db =
        if ∀ r ∈ db.receipts operationId, r.requestFingerprint = fingerprint then .ok (state, db)
        else .error (.store "TYPED_POSTGRES_OPERATION_REQUEST_CONFLICT" operationId) := by
  have hrows : Tx.run (typedPostgresOperationReceiptEvents operationId) db =
      .ok (db.receipts operationId, db) := by
    simp -dsimp [typedPostgresOperationReceiptEvents, hid]
  show ∃ state, _ ∧ Tx.run (typedPostgresOperationReceiptState operationId fingerprint) db = _
  generalize db.receipts operationId = rows at h hrows
  cases h with
  | absent =>
    refine ⟨.ABSENT, rfl, ?_⟩
    simp -dsimp [typedPostgresOperationReceiptState, requireSha256, hsha, hrows]
  | @prepared p phase =>
    refine ⟨.PREPARED_ONLY p, rfl, ?_⟩
    by_cases hp : p.requestFingerprint = fingerprint
    · simp -dsimp [typedPostgresOperationReceiptState, requireSha256, hsha, hrows, phase, hp]
    · simp -dsimp [typedPostgresOperationReceiptState, requireSha256, hsha, hrows, hp]
  | @final p f phase final_phase bound =>
    have hsame : f.requestFingerprint = p.requestFingerprint := bound.fingerprint.symm
    refine ⟨.FINAL p f, rfl, ?_⟩
    by_cases hp : p.requestFingerprint = fingerprint
    · simp -dsimp [typedPostgresOperationReceiptState, requireSha256, hsha, hrows, phase, final_phase, hp,
        hsame]
    · simp -dsimp [typedPostgresOperationReceiptState, requireSha256, hsha, hrows, hp]

/-! ## Runs -/

theorem receipts_append (h : db'.typedPostgresOperationReceiptEvent =
    db.typedPostgresOperationReceiptEvent ++ [row]) (id : String) :
    db'.receipts id = if row.operationId = id then db.receipts id ++ [row] else db.receipts id := by
  unfold Db.receipts
  rw [h, List.filter_append, List.filter_cons, List.filter_nil]
  by_cases hid : row.operationId = id
  · rw [if_pos hid, if_pos (decide_eq_true hid)]
  · rw [if_neg hid, if_neg (by simpa using hid), List.append_nil]

/-- What a call leaves of the receipts, committed or not. -/
theorem Call.receiptExec (hd : (db.sliceControlState.map (·.sliceId)).Nodup) (env : Env)
    (snap : Db) (call : Call) :
    (call.exec env snap db).typedPostgresOperationReceiptEvent =
        db.typedPostgresOperationReceiptEvent ∨
      ∃ (a : AppendReceipt) (row : ReceiptEvent) (owner : String), call = .appendReceipt a ∧
        row.toReceiptFields = a.fields ∧ a.Presents env snap owner ∧ GuardHolds env 1 db ∧
        row.Inserts db ∧ (call.exec env snap db).typedPostgresOperationReceiptEvent =
          db.typedPostgresOperationReceiptEvent ++ [row] := by
  rcases call.exec_cases env snap db with he | ⟨c, hx⟩
  · rw [he]
    exact Or.inl rfl
  · exact (Call.controlStep hd hx).receipts

theorem Run.receiptPhases {allowed : Env → Call → Db → Prop} (h : Run allowed past db)
    (id : String) : ReceiptPhases (db.receipts id) := by
  induction h with
  | start => exact .absent
  | @call past db snap env call run seen ok ih =>
    rcases Call.receiptExec run.sliceLogged.distinct env snap call with
      hsame | ⟨a, row, owner, -, -, -, -, hfound, happended⟩
    · unfold Db.receipts
      rw [hsame]
      exact ih
    · rw [receipts_append happended]
      split
      · rename_i hid
        subst hid
        exact ih.append hfound
      · exact ih

theorem Run.receipts_kept {allowed : Env → Call → Db → Prop} (h : Run allowed past db) :
    ∀ old ∈ db :: past,
      old.typedPostgresOperationReceiptEvent <+: db.typedPostgresOperationReceiptEvent := by
  induction h with
  | start =>
    intro old hold
    exact List.mem_singleton.mp hold ▸ List.prefix_refl _
  | @call past db snap env call run seen ok ih =>
    intro old hold
    rcases List.mem_cons.mp hold with hold | hold
    · exact hold ▸ List.prefix_refl _
    · refine (ih old hold).trans ?_
      rcases Call.receiptExec run.sliceLogged.distinct env snap call with
        hsame | ⟨_, _, _, -, -, -, -, -, happended⟩
      · exact hsame ▸ List.prefix_refl _
      · rw [happended]
        exact List.prefix_append _ _

/-- **The receipts are a two-phase append-only log.** In every state of every run the
receipts of an operation are none, one PREPARED, or one PREPARED and then the FINAL
bound to it, and their classification is the one their shape has. No receipt of an
earlier state is lost, and a call keeps them or appends its own: under a lease that was
current when the call checked it, and is so in the transaction of a store that
requires the global writer. -/
theorem receipt_log (h : Run (fun _ _ _ => True) past db) :
    (∀ id, ReceiptPhases (db.receipts id)) ∧
    (∀ id fingerprint, id ≠ "" → isSha256 fingerprint = true →
      ∃ state, receiptsOf state = db.receipts id ∧
        typedPostgresOperationReceiptState id fingerprint db =
          if ∀ r ∈ db.receipts id, r.requestFingerprint = fingerprint then .ok (state, db)
          else .error (.store "TYPED_POSTGRES_OPERATION_REQUEST_CONFLICT" id)) ∧
    (∀ old ∈ past,
      old.typedPostgresOperationReceiptEvent <+: db.typedPostgresOperationReceiptEvent) ∧
    ∀ (env : Env) (snap : Db) (call : Call),
      (call.exec env snap db).typedPostgresOperationReceiptEvent =
          db.typedPostgresOperationReceiptEvent ∨
      ∃ (a : AppendReceipt) (row : ReceiptEvent) (owner : String), call = .appendReceipt a ∧
        row.toReceiptFields = a.fields ∧
        (call.exec env snap db).typedPostgresOperationReceiptEvent =
          db.typedPostgresOperationReceiptEvent ++ [row] ∧
        a.boundAuthority env = some (owner, a.fields.w08FencingToken) ∧
        WriterCurrent env snap.globalWriterLease owner a.fields.w08FencingToken (env.clock 0) ∧
        (env.guard ≠ none →
          WriterCurrent env db.globalWriterLease owner a.fields.w08FencingToken (env.clock 1)) := by
  refine ⟨h.receiptPhases, fun id fingerprint hid hsha => (h.receiptPhases id).state hid hsha,
    fun old hold => h.receipts_kept old (List.mem_cons_of_mem _ hold), fun env snap call => ?_⟩
  rcases Call.receiptExec h.sliceLogged.distinct env snap call with
    hsame | ⟨a, row, owner, hcall, hfields, hpresents, hguard, -, happended⟩
  · exact Or.inl hsame
  · exact Or.inr ⟨a, row, owner, hcall, hfields, happended, hpresents.bound, hpresents.current,
      hpresents.held hguard⟩

/-! ## A receipt of a revoked deployment

A deployment acquires the writer and checks its lease for a receipt; the lease is
revoked, and the receipt is appended to a store that does not require the writer. -/

abbrev deploymentAcquire : AcquireWriter where
  operationKey := sampleKey '0'
  context := ⟨some "owner", none, some "owner", some "owner",
    some "W08_CONTROLLED_PRODUCTION_DEPLOYMENT", some "owner", some "owner", some "owner",
    some "owner", some "owner"⟩
  ttlSeconds := 60
  controlDecisionRef := some "decision"

abbrev deploymentLease : GlobalWriterLease where
  state := .HELD
  context := deploymentAcquire.context
  fencingToken := 1
  acquiredAt := some .epoch
  expiresAt := some sampleExpiry
  heartbeatAt := some .epoch
  updatedAt := .epoch

abbrev deploymentEvent : GlobalWriterEvent where
  eventId := "acquire"
  operationKey := deploymentAcquire.operationKey
  eventType := .ACQUIRE
  fromFencingToken := 0
  toFencingToken := 1
  prior := .empty
  new := deploymentAcquire.context
  reason := "GLOBAL_PRODUCTION_WRITER_ACQUIRED"
  controlDecisionRef := some "decision"
  requestJson := String.ofList (Json.obj [("context", deploymentAcquire.context.json),
    ("ttl_seconds", .int 60), ("control_decision_ref", .str "decision")]).render
  createdAt := .epoch

abbrev deploymentAcquired : Db :=
  { Db.init with globalWriterLease := deploymentLease, globalWriterEvent := [deploymentEvent] }

theorem deploymentAcquired_tx :
    Tx.run (acquireWriterTx (sampleEnv "acquire") deploymentAcquire) Db.init =
      .ok (.fresh 1, deploymentAcquired) := by
  have hclass : sqliteLength "W08_CONTROLLED_PRODUCTION_DEPLOYMENT" = 36 := by simp [sqliteLength]
  have hacquire : sqliteLength "acquire" = 7 := by simp [sqliteLength]
  have hdecision : sqliteLength "decision" = 8 := by simp [sqliteLength]
  simp -dsimp [hclass, hacquire, hdecision, acquireWriterTx, requireSha256, isLowerHex, requireTtl,
    minLeaseTtlSeconds, maxLeaseTtlSeconds, nullOrNonEmpty, nonEmptyText,
    validateGlobalWriterContext, WriterContext.fields, WriterContext.requiredFields,
    WriterContext.optionalFields, canonicalJson, Json.noFloat, Json.noFloatFields,
    WriterContext.json, Json.ofOption, Timestamp.addSeconds, Timestamp.epoch, maxMicros,
    existingGlobalWriterEvent, getGlobalProductionWriterLease, validateGlobalWriterRow,
    updateWriterLease, insertGlobalWriterEvent, writerRowChecks, writerEventChecks, Db.init,
    WriterContext.empty, sqlNonEmpty, sqlNullOrNonEmpty, leaseTimesOrdered, run_inject]

abbrev deploymentRevoke : RevokeWriter where
  operationKey := sampleKey '1'
  reason := "owner"
  controlDecisionRef := "decision"
  expectedOwnerId := "owner"
  expectedFencingToken := 1

abbrev revocationEvent : GlobalWriterEvent where
  eventId := "revoke"
  operationKey := deploymentRevoke.operationKey
  eventType := .FORCE_REVOKE
  fromFencingToken := 1
  toFencingToken := 2
  prior := deploymentAcquire.context
  new := .empty
  reason := "owner"
  controlDecisionRef := some "decision"
  requestJson := String.ofList (Json.obj [("reason", .str "owner"),
    ("control_decision_ref", .str "decision"), ("expected_owner_id", .str "owner"),
    ("expected_fencing_token", .int 1)]).render
  createdAt := .epoch

abbrev deploymentRevoked : Db :=
  { deploymentAcquired with
    globalWriterLease := freedLease 2 .epoch, globalWriterEvent := [deploymentEvent, revocationEvent] }

theorem deploymentRevoked_tx :
    Tx.run (revokeWriterTx (sampleEnv "revoke") deploymentRevoke) deploymentAcquired =
      .ok (.fresh 2, deploymentRevoked) := by
  have hrevoke : sqliteLength "revoke" = 6 := by simp [sqliteLength]
  have hdecision : sqliteLength "decision" = 8 := by simp [sqliteLength]
  simp -dsimp [hrevoke, hdecision, revokeWriterTx, freeWriter, requireSha256, isLowerHex,
    nullOrNonEmpty, nonEmptyText, WriterContext.fields, WriterContext.requiredFields,
    WriterContext.optionalFields, canonicalJson, Json.noFloat, Json.noFloatFields, Timestamp.epoch,
    existingGlobalWriterEvent, getGlobalProductionWriterLease, requireCurrentGlobalWriter,
    writerUnexpired, freedLease, validateGlobalWriterRow, updateWriterLease,
    insertGlobalWriterEvent, writerRowChecks, writerEventChecks, WriterContext.empty,
    sqlNullOrNonEmpty, leaseTimesOrdered, run_inject, Timestamp.lt_def]

/-- A PREPARED receipt of the deployment. -/
abbrev preparedReceipt : AppendReceipt where
  fields :=
    { receiptVersion := 1, changeId := "owner", controlDecisionRef := "decision"
      deploymentId := "owner", operationId := "owner"
      operationType := "EXECUTE_AUTHORIZED_SQL_FILE", receiptPhase := .PREPARED
      targetService := "owner", targetDatabase := none, principalIdentity := none
      credentialReference := none, artifactPath := none, artifactSha256 := none
      requestFingerprint := sampleKey 'a', beforeStateFingerprint := sampleKey 'b'
      afterStateFingerprint := none, effectStatus := .PENDING, w08FencingToken := 1
      createdAt := "1970-01-01T00:00:00+00:00" }
  authority := some ("owner", 1)

abbrev preparedRow : ReceiptEvent := { preparedReceipt.fields with receiptId := "receipt" }

theorem preparedReceipt_lease : Tx.run (preparedReceipt.requireLease (sampleEnv "receipt"))
    deploymentAcquired = .ok ("owner", deploymentAcquired) := by
  simp -dsimp [AppendReceipt.requireLease, AppendReceipt.boundAuthority, assertCurrentGlobalWriter,
    getGlobalProductionWriterLease, validateGlobalWriterRow, WriterContext.requiredFields,
    WriterContext.optionalFields, nonEmptyText, nullOrNonEmpty, leaseTimesOrdered,
    requireCurrentGlobalWriter, writerUnexpired, Timestamp.epoch, latest]

theorem preparedReceipt_validate (db : Db) : Tx.run preparedReceipt.validate db = .ok ((), db) := by
  simp -dsimp [AppendReceipt.validate, AppendReceipt.Shaped, requireSha256, isLowerHex]

theorem preparedReceipt_tx (hnone : db.typedPostgresOperationReceiptEvent = []) :
    Tx.run (appendReceiptTx (sampleEnv "receipt") deploymentAcquired preparedReceipt) db =
      .ok ((), { db with typedPostgresOperationReceiptEvent := [preparedRow] }) := by
  have hclock : sqliteLength "1970-01-01T00:00:00+00:00" = 25 := by simp [sqliteLength]
  have hdecision : sqliteLength "decision" = 8 := by simp [sqliteLength]
  have hreceipt : sqliteLength "receipt" = 7 := by simp [sqliteLength]
  have hutc : "1970-01-01T00:00:00+00:00".endsWith "+00:00" = true := by decide +kernel
  have htype : "EXECUTE_AUTHORIZED_SQL_FILE" ∈ receiptOperationTypes := by decide
  simp -dsimp [appendReceiptTx, preparedReceipt_validate, before,
    Tx.run_lift_run preparedReceipt_lease, run_begin, insertReceipt, hnone, receiptChecks, hclock,
    hdecision, hreceipt, hutc, htype]

theorem deploymentAcquired_run : Run (fun _ _ _ => True) [Db.init] deploymentAcquired :=
  Run.start.extend (sampleEnv "acquire") (.writer (.acquire deploymentAcquire)) .fresh trivial
    (Tx.run_ok.mpr (Tx.bind_ok.mpr ⟨_, _, Tx.run_ok.mp deploymentAcquired_tx, rfl⟩))

theorem deploymentRevoked_run :
    Run (fun _ _ _ => True) [deploymentAcquired, Db.init] deploymentRevoked :=
  deploymentAcquired_run.extend (sampleEnv "revoke") (.writer (.forceRevoke deploymentRevoke)) .fresh
    trivial (Tx.run_ok.mpr (Tx.bind_ok.mpr ⟨_, _, Tx.run_ok.mp deploymentRevoked_tx, rfl⟩))

/-- The deployment's receipt, appended while its lease is current. -/
abbrev deploymentPrepared : Db :=
  { deploymentAcquired with typedPostgresOperationReceiptEvent := [preparedRow] }

theorem deploymentPrepared_run :
    Run (fun _ _ _ => True) [deploymentAcquired, Db.init] deploymentPrepared :=
  deploymentAcquired_run.extend (sampleEnv "receipt") (.appendReceipt preparedReceipt) .fresh trivial
    (Tx.run_ok.mpr (Tx.bind_ok.mpr ⟨_, _, Tx.run_ok.mp (preparedReceipt_tx rfl), rfl⟩))

/-- The one receipt of the sample operation classifies it. -/
theorem receipt_log_prepared : ∃ state, receiptsOf state = [preparedRow] ∧
    typedPostgresOperationReceiptState "owner" (sampleKey 'a') deploymentPrepared =
      .ok (state, deploymentPrepared) := by
  have hrows : deploymentPrepared.receipts "owner" = [preparedRow] := rfl
  obtain ⟨state, hstate, hresult⟩ :=
    (receipt_log deploymentPrepared_run).2.1 "owner" (sampleKey 'a') (by decide) (by simp [isLowerHex])
  rw [hrows] at hstate hresult
  refine ⟨state, hstate, hresult.trans (if_pos fun r hr => ?_)⟩
  rw [List.mem_singleton.mp hr]

/-- A receipt is appended while no lease is held. -/
theorem receipt_after_revocation :
    ∃ (past : List Db) (db snap db' : Db) (env : Env) (a : AppendReceipt),
      Run (fun _ _ _ => True) past db ∧ snap ∈ db :: past ∧
      appendReceiptTx env snap a db = .ok ((), db') ∧
      db'.typedPostgresOperationReceiptEvent ≠ db.typedPostgresOperationReceiptEvent ∧
      ∀ owner token t, ¬ WriterCurrent env db.globalWriterLease owner token t := by
  refine ⟨_, deploymentRevoked, deploymentAcquired, _, sampleEnv "receipt", preparedReceipt,
    deploymentRevoked_run, List.mem_cons_of_mem _ (List.mem_cons_self ..),
    Tx.run_ok.mp (preparedReceipt_tx rfl), ?_, fun owner token t hcurrent => ?_⟩
  · exact List.cons_ne_nil _ _
  · obtain ⟨-, hheld, -⟩ := hcurrent
    cases hheld

end Adcp.L4
