import Adcp.L4Safety.SliceBinding

/-!
# What a call does to the control tables

The Slice rows and their events are written by four operations, each of which
appends one event and adds or rewrites the row that it records. The lease of the
global writer is written by the operations on it alone, the control authority by a
snapshot reconcile, a switch and a rollback, and the receipts by the one operation
that appends them.

* `SliceChange`, `AuthorityStep`: what becomes of the Slice tables and of the
  authority's.
* `Call.controlStep`: which of them a committed call touches.
-/
namespace Adcp.L4

open Adcp.L1 Adcp.L2 Adcp.L3 ExecutionState

/-- The Slice rows and their events. -/
def sliceTables (db : Db) : List SliceControlEvent × List SliceControlState :=
  (db.sliceControlEvent, db.sliceControlState)

/-- The lease of the global writer and its events. -/
def writerTables (db : Db) : GlobalWriterLease × List GlobalWriterEvent :=
  (db.globalWriterLease, db.globalWriterEvent)

/-- The control authority and its events. -/
def authorityTables (db : Db) : ControlAuthorityState × List AuthorityTransitionEvent :=
  (db.controlAuthorityState, db.authorityTransitionEvent)

/-- The call releases the execution that the Slice row `old` names. -/
def Call.Releases (call : Call) (old : SliceControlState) (set : SliceControlState → SliceControlState)
    (event : SliceControlEvent) : Prop :=
  ∃ a, call = .releaseDeferred a ∧ event.sliceId = a.sliceId ∧
    old.activeExecutionId = some a.executionId ∧ (set old).activeExecutionId = none

/-- What a committed call does to the Slice tables. -/
inductive SliceChange (call : Call) (db db' : Db) : Prop
  | keep (h : sliceTables db' = sliceTables db)
  | adds {row : SliceControlState} {event : SliceControlEvent} (found : SliceAdd db row event)
      (h : sliceTables db' = (db.sliceControlEvent ++ [event], db.sliceControlState ++ [row]))
  | moves {mid : Db} {set : SliceControlState → SliceControlState} {old : SliceControlState}
      {event : SliceControlEvent} (found : SliceMove mid set old event)
      (same : mid.sliceControlState = db.sliceControlState)
      (h : sliceTables db' = (db.sliceControlEvent ++ [event],
        Table.update (·.sliceId) db.sliceControlState event.sliceId set))
      (active : (old.activeExecutionId.isSome →
        (set old).activeExecutionId = old.activeExecutionId) ∨ call.Releases old set event)

/-- What a committed call does to the authority's tables: a snapshot reconcile
rewrites the row, a switch or a rollback does so with its event. -/
inductive AuthorityStep (env : Env) (call : Call) (db db' : Db) : Prop
  | snapshot {generation : Int} {slice rollback : String}
      (from_call : call = .reconcileTransitionalAuthority generation slice rollback)
      (mode : db.controlAuthorityState.mode = .TRANSITIONAL_AUTHORITY)
      (expected : db.controlAuthorityState.authorityGeneration = generation)
      (h : authorityTables db' =
        (db.controlAuthorityState.reconciled slice rollback (env.clock 0),
          db.authorityTransitionEvent))
  | transits {a : TransitionAuthority} (from_call : call = .transitionAuthority a)
      (found : a.Transits env db)
      (h : authorityTables db' = (a.applied (env.clock 1),
        db.authorityTransitionEvent ++ [a.event (env.uuid 0) (env.clock 1)]))

/-- Which of the control tables a committed call touches: none, or those of one
kind. -/
inductive ControlStep (env : Env) (snap : Db) (call : Call) (db db' : Db) : Prop
  | keep (h : (sliceTables db', writerTables db', authorityTables db',
        db'.typedPostgresOperationReceiptEvent) =
      (sliceTables db, writerTables db, authorityTables db, db.typedPostgresOperationReceiptEvent))
  | slice (h : (writerTables db', authorityTables db', db'.typedPostgresOperationReceiptEvent) =
      (writerTables db, authorityTables db, db.typedPostgresOperationReceiptEvent))
      (change : SliceChange call db db')
  | writer {w : WriterCall} (from_call : call = .writer w)
      (h : (sliceTables db', authorityTables db', db'.typedPostgresOperationReceiptEvent) =
        (sliceTables db, authorityTables db, db.typedPostgresOperationReceiptEvent))
  | authority (h : (sliceTables db', writerTables db', db'.typedPostgresOperationReceiptEvent) =
      (sliceTables db, writerTables db, db.typedPostgresOperationReceiptEvent))
      (change : AuthorityStep env call db db')
  | receipt {a : AppendReceipt} {row : ReceiptEvent} {owner : String}
      (from_call : call = .appendReceipt a) (fields : row.toReceiptFields = a.fields)
      (presents : a.Presents env snap owner) (guard : GuardHolds env 1 db) (found : row.Inserts db)
      (h : (sliceTables db', writerTables db', authorityTables db') =
        (sliceTables db, writerTables db, authorityTables db))
      (appended : db'.typedPostgresOperationReceiptEvent =
        db.typedPostgresOperationReceiptEvent ++ [row])

section

variable {env : Env} {snap db db' : Db} {call : Call}

theorem ControlStep.sliceChange (h : ControlStep env snap call db db') :
    SliceChange call db db' := by
  cases h with
  | slice _ change => exact change
  | keep h | writer _ h | authority h _ | receipt _ _ _ _ _ h _ => exact .keep (Prod.ext_iff.mp h).1

/-- No other operation touches the writer. -/
theorem ControlStep.writer_same (h : ControlStep env snap call db db')
    (hcall : ∀ w, call ≠ .writer w) : writerTables db' = writerTables db := by
  cases h with
  | keep h | authority h _ | receipt _ _ _ _ _ h _ => exact (Prod.ext_iff.mp (Prod.ext_iff.mp h).2).1
  | slice h _ => exact (Prod.ext_iff.mp h).1
  | writer from_call _ => exact (hcall _ from_call).elim

/-- The authority's tables are kept, or one of its three operations has moved them. -/
theorem ControlStep.authorityStep (h : ControlStep env snap call db db') :
    authorityTables db' = authorityTables db ∨ AuthorityStep env call db db' := by
  cases h with
  | keep h => exact Or.inl (Prod.ext_iff.mp (Prod.ext_iff.mp (Prod.ext_iff.mp h).2).2).1
  | slice h _ | writer _ h => exact Or.inl (Prod.ext_iff.mp (Prod.ext_iff.mp h).2).1
  | receipt _ _ _ _ _ h _ => exact Or.inl (Prod.ext_iff.mp (Prod.ext_iff.mp h).2).2
  | authority _ change => exact Or.inr change

/-- The receipts are kept, or the call has appended its own. -/
theorem ControlStep.receipts (h : ControlStep env snap call db db') :
    db'.typedPostgresOperationReceiptEvent = db.typedPostgresOperationReceiptEvent ∨
      ∃ (a : AppendReceipt) (row : ReceiptEvent) (owner : String), call = .appendReceipt a ∧
        row.toReceiptFields = a.fields ∧ a.Presents env snap owner ∧ GuardHolds env 1 db ∧
        row.Inserts db ∧ db'.typedPostgresOperationReceiptEvent =
          db.typedPostgresOperationReceiptEvent ++ [row] := by
  cases h with
  | keep h => exact Or.inl (Prod.ext_iff.mp (Prod.ext_iff.mp (Prod.ext_iff.mp h).2).2).2
  | slice h _ | writer _ h | authority h _ => exact Or.inl (Prod.ext_iff.mp (Prod.ext_iff.mp h).2).2
  | receipt from_call fields presents guard found _ appended =>
    exact Or.inr ⟨_, _, _, from_call, fields, presents, guard, found, appended⟩

end

variable {env : Env} {snap db db' : Db} {call : Call} {c : Commit}

theorem bumps_control {b : Bump} (h : Bumps b db db') : ControlStep env snap call db db' := by
  obtain ⟨event, -, rfl⟩ := h
  exact .keep rfl

theorem writerFrame_control {w : WriterCall} (h : WriterFrame db db') :
    ControlStep env snap (.writer w) db db' := by
  obtain ⟨lease, events, rfl⟩ := h
  exact .writer rfl rfl

theorem Call.controlStep (hd : (db.sliceControlState.map (·.sliceId)).Nodup)
    (h : call.tx env snap db = .ok (c, db')) : ControlStep env snap call db db' := by
  cases call with
  | createExecution spec key =>
    obtain ⟨r, s, hx, h⟩ := Tx.bind_ok.mp h
    cases Tx.pure_ok.mp h
    rcases createExecutionTx_ok hx with ⟨-, rfl⟩ | ⟨-, row, event, -, rfl⟩
    · exact .keep rfl
    · exact .keep rfl
  | bindDeferredExecution a =>
    rcases bindDeferredExecutionTx_ok h with ⟨-, rfl⟩ |
      ⟨-, row, event, context, set, old, sliceEvent, hbind, hnone⟩
    · exact .keep rfl
    · refine .slice ?_ (.moves hbind.move rfl ?_ (Or.inl fun hsome => ?_))
      · rw [hbind.eq]
        rfl
      · rw [hbind.eq, hbind.logs.slice]
        rfl
      · rw [hnone] at hsome
        cases hsome
  | acquireLease a =>
    rcases acquireLeaseTx_ok h with ⟨-, rfl⟩ | ⟨-, _, _, hb⟩
    · exact .keep rfl
    · exact bumps_control hb
  | heartbeat a =>
    obtain ⟨_, hx⟩ := done_ok h
    obtain ⟨row, expires, -, -, rfl⟩ := heartbeatTx_ok hx
    exact .keep rfl
  | releaseLease a =>
    rcases releaseLeaseTx_ok h with ⟨-, rfl⟩ | ⟨-, hb⟩
    · exact .keep rfl
    · exact bumps_control hb
  | transition a =>
    rcases transitionTx_ok h with ⟨-, rfl⟩ | ⟨-, hb⟩
    · exact .keep rfl
    · exact bumps_control hb
  | registerResultCommit a =>
    rcases registerResultCommitTx_ok h with ⟨-, rfl⟩ | ⟨-, hb⟩
    · exact .keep rfl
    · exact bumps_control hb
  | finalizeDeferredResultCommit a =>
    rcases finalizeDeferredResultCommitTx_ok h with ⟨-, rfl⟩ |
      ⟨-, _, state, _, old, _, hfinal⟩
    · exact .keep rfl
    · -- the row with the id of the bound one is the bound one
      have hmem : state ∈ db.sliceControlState := List.mem_of_find?_eq_some hfinal.bound
      have hold : db.slice? state.sliceId = some old := hfinal.sets.found
      have hstate : db.slice? state.sliceId = some state := (Table.mem_iff_lookup hd).mp hmem
      have hsame : old = state := Option.some.inj (hold.symm.trans hstate)
      refine .slice ?_ (.moves (hfinal.move hsame) rfl ?_ (Or.inl fun _ => hfinal.keeps))
      · rw [hfinal.eq]
        rfl
      · rw [hfinal.eq, hfinal.logs.slice]
        rfl
  | releaseDeferred a =>
    rcases releaseDeferredTx_ok h with ⟨-, rfl⟩ | 
      ⟨-, _, _, old, sliceEvent, hrelease⟩
    · exact .keep rfl
    · refine .slice ?_ (.moves hrelease.move rfl ?_
        (Or.inr ⟨a, rfl, hrelease.logs.slice, hrelease.bound, hrelease.frees⟩))
      · rw [hrelease.eq]
        rfl
      · rw [hrelease.eq, hrelease.logs.slice]
        rfl
  | closeCandidate a =>
    rcases closeCandidateTx_ok h with ⟨-, rfl⟩ | ⟨-, _, _, _, _, _, _, _, hcloses⟩
    · exact .keep rfl
    · rw [hcloses.writes]
      exact .keep rfl
  | authorizeHighRework a =>
    obtain ⟨_, hx⟩ := done_ok h
    obtain ⟨mid, h1, h2⟩ := authorizeHighReworkTx_ok hx
    obtain ⟨_, -, rfl⟩ := h1
    obtain ⟨_, -, rfl⟩ := h2
    exact .keep rfl
  | scheduleHumanAuthorizedRework a =>
    obtain ⟨_, hx⟩ := done_ok h
    obtain ⟨_, _, _, _, _, _, -, -, rfl⟩ := scheduleHumanAuthorizedReworkTx_ok hx
    exact .keep rfl
  | scheduleRework a =>
    rcases scheduleReworkTx_ok h with ⟨-, rfl⟩ | ⟨-, hb⟩
    · exact .keep rfl
    · exact bumps_control hb
  | acceptExecution a =>
    rcases acceptExecutionTx_ok h with ⟨-, rfl⟩ | ⟨-, _, _, _, _, _, _, haccepts⟩
    · exact .keep rfl
    · obtain ⟨approvals, -, rfl⟩ := haccepts.writes
      exact .keep rfl
  | reconcileSlice a =>
    obtain ⟨_, hx⟩ := done_ok h
    rcases reconcileSliceTx_ok hx with rfl | ⟨row, event, hadd, rfl⟩ |
      ⟨set, old, event, hmove, hactive, rfl⟩
    · exact .keep rfl
    · exact .slice rfl (.adds hadd rfl)
    · exact .slice rfl (.moves hmove rfl rfl (Or.inl hactive))
  | reconcileTransitionalAuthority g s r =>
    obtain ⟨_, hx⟩ := done_ok h
    obtain ⟨hmode, ⟨-, rfl⟩ | ⟨-, hexpected, rfl⟩⟩ := reconcileTransitionalAuthorityTx_ok hx
    · exact .keep rfl
    · exact .authority rfl (.snapshot rfl hmode hexpected rfl)
  | transitionAuthority a =>
    obtain ⟨_, hx⟩ := done_ok h
    rcases transitionAuthorityTx_ok hx with ⟨-, rfl, -⟩ | ⟨-, -, hfound, -, rfl⟩
    · exact .keep rfl
    · exact .authority rfl (.transits rfl hfound rfl)
  | registerContextSnapshot a =>
    obtain ⟨_, hx⟩ := done_ok h
    rcases registerContextSnapshotTx_ok hx with rfl | ⟨row, -, -, -, rfl⟩
    · exact .keep rfl
    · exact .keep rfl
  | registerVerificationResult record =>
    obtain ⟨_, hx⟩ := done_ok h
    rcases registerVerificationResultTx_ok hx with rfl | ⟨-, rfl⟩
    · exact .keep rfl
    · exact .keep rfl
  | registerAgentAttempt a =>
    obtain ⟨_, hx⟩ := done_ok h
    rcases registerAgentAttemptTx_ok hx with rfl | ⟨-, -, rfl⟩
    · exact .keep rfl
    · exact .keep rfl
  | requestApproval a =>
    obtain ⟨_, hx⟩ := done_ok h
    rcases requestApprovalTx_ok hx with rfl | ⟨_, -, rfl⟩
    · exact .keep rfl
    · exact .keep rfl
  | resolveApproval a =>
    obtain ⟨_, hx⟩ := done_ok h
    rcases resolveApprovalTx_ok hx with rfl | ⟨_, -, rfl⟩
    · exact .keep rfl
    · exact .keep rfl
  | createEvaluatorArtifactSeal a =>
    rcases createEvaluatorArtifactSealTx_ok h with ⟨-, rfl⟩ |
      ⟨-, _, _, -, -, -, -, rfl⟩
    · exact .keep rfl
    · exact .keep rfl
  | finishAgentAttempt a =>
    rcases finishAgentAttemptTx_ok h with ⟨-, rfl⟩ | ⟨-, _, _, -, -, rfl⟩
    · exact .keep rfl
    · exact .keep rfl
  | registerEvaluationResult a =>
    rcases registerEvaluationResultTx_ok h with ⟨-, rfl⟩ |
      ⟨-, _, _, _, -, -, -, -, -, -, rfl⟩
    · exact .keep rfl
    · exact .keep rfl
  | bindPrecommitCandidate a =>
    obtain ⟨_, hx⟩ := done_ok h
    obtain ⟨_, _, hbinds⟩ := bindPrecommitCandidateTx_ok hx
    rw [hbinds.writes]
    exact .keep rfl
  | registerCandidateVerification a =>
    obtain ⟨_, hx⟩ := done_ok h
    obtain ⟨_, _, _, hregisters⟩ := registerCandidateVerificationTx_ok hx
    rw [hregisters.writes]
    exact .keep rfl
  | beginCandidateEvaluator a =>
    obtain ⟨_, hx⟩ := done_ok h
    obtain ⟨_, _, _, hbegins⟩ := beginCandidateEvaluatorTx_ok hx
    rw [hbegins.writes]
    exact .keep rfl
  | registerCandidateEvaluation a =>
    obtain ⟨_, hx⟩ := done_ok h
    obtain ⟨_, _, hregisters⟩ := registerCandidateEvaluationTx_ok hx
    rw [hregisters.writes]
    exact .keep rfl
  | createCandidateSeal a =>
    obtain ⟨_, hx⟩ := done_ok h
    obtain ⟨_, hcreates⟩ := createCandidateSealTx_ok hx
    rw [hcreates.writes]
    exact .keep rfl
  | bindCandidateApproval a =>
    obtain ⟨_, hx⟩ := done_ok h
    obtain ⟨_, _, hbinds⟩ := bindCandidateApprovalTx_ok hx
    rw [hbinds.writes]
    exact .keep rfl
  | prepareCandidateCommit a =>
    obtain ⟨_, hx⟩ := done_ok h
    rcases prepareCandidateCommitTx_ok hx with ⟨rfl, -⟩ | ⟨_, _, _, _, hprepares⟩
    · exact .keep rfl
    · rw [hprepares.writes]
      exact .keep rfl
  | appendReceipt a =>
    obtain ⟨_, hx⟩ := done_ok h
    obtain ⟨row, owner, hfields, hpresents, hguard, hfound, rfl⟩ := appendReceiptTx_ok hx
    exact .receipt rfl hfields hpresents hguard hfound rfl rfl
  | projection p =>
    obtain ⟨_, hx⟩ := done_ok h
    obtain ⟨records, rfl⟩ := ProjectionCall.tx_ok hx
    exact .keep rfl
  | writer w =>
    cases w with
    | acquire a =>
      obtain ⟨_, hx⟩ := done_ok h
      rcases acquireWriterTx_ok hx with ⟨-, rfl⟩ | ⟨-, -, hf⟩
      · exact .keep rfl
      · exact writerFrame_control hf
    | heartbeat owner token ttl =>
      obtain ⟨_, hx⟩ := done_ok h
      exact writerFrame_control (heartbeatWriterTx_ok hx).2.2
    | release a =>
      obtain ⟨_, hx⟩ := done_ok h
      rcases releaseWriterTx_ok hx with ⟨-, rfl⟩ | ⟨-, -, -, hf⟩
      · exact .keep rfl
      · exact writerFrame_control hf
    | forceRevoke a =>
      obtain ⟨_, hx⟩ := done_ok h
      rcases revokeWriterTx_ok hx with ⟨-, rfl⟩ | ⟨-, -, -, hf⟩
      · exact .keep rfl
      · exact writerFrame_control hf
    | assertCurrent owner token =>
      obtain ⟨_, hx⟩ := done_ok h
      rw [(assertCurrentGlobalWriter_ok hx).2]
      exact .keep rfl

end Adcp.L4
