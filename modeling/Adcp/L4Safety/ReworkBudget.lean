import Adcp.L4Safety.ApprovalLifecycle

/-!
# The rework budget

An execution in `REWORK_READY` goes back to its Maker by `schedule_rework`, which
counts, or by `schedule_human_authorized_rework`, which consumes an approval. The
transition table has the same edge, so a plain `transition` could take it as
well; no caller does.

* `Call.reworks`: what every other call does to the reworks of an execution.
* `rework_budget`: in runs without such a transition the reworks are within the
  budget of the risk level and the consumed approvals.
-/
namespace Adcp.L4

open Adcp.L1 Adcp.L2 Adcp.L3 ExecutionState

/-- The event sends an execution back to its Maker. -/
def Reworks (e : TransitionEvent) : Bool := e.fromState = some REWORK_READY && e.toState = MAKER_RUNNING

/-- The reworks of an execution, oldest first. -/
def reworksOf (db : Db) (id : String) : List TransitionEvent := (db.events id).filter Reworks

/-- The rework is counted against the budget. -/
def Counted (e : TransitionEvent) : Bool := e.reasonCode = "MAKER_REWORK_SCHEDULED"

/-- The rework was authorized by a Human. -/
def Authorized (e : TransitionEvent) : Bool :=
  e.reasonCode = "HUMAN_AUTHORIZED_MAKER_REWORK_SCHEDULED"

/-- `maker_rework_count` of an execution. -/
def reworkCount (db : Db) (id : String) : Int :=
  ((db.execution? id).map (·.makerReworkCount)).getD 0

/-- A consumed approval of a HIGH rework of the execution. -/
def SpentRework (id : String) (r : ApprovalRequest) : Bool :=
  r.executionId = id && r.approvalType = "HIGH_REWORK" && r.consumedAt.isSome

def spentReworks (db : Db) (id : String) : Nat := db.approvalRequest.countP (SpentRework id)

/-- The call is a plain transition back to the Maker. -/
def Call.PlainRework (call : Call) (db : Db) : Prop :=
  ∃ a row, call = .transition a ∧ db.execution? a.executionId = some row ∧
    row.state = REWORK_READY ∧ a.toState = MAKER_RUNNING

variable {env : Env} {snap db mid db' : Db} {call : Call} {c : Commit}

/-! ## The core -/

/-- The reworks of every execution are as before. -/
def SameReworks (db db' : Db) : Prop :=
  ∀ id, reworkCount db' id = reworkCount db id ∧ reworksOf db' id = reworksOf db id

theorem SameReworks.of_tables (hrows : db'.sliceExecution = db.sliceExecution)
    (hlog : db'.transitionEvent = db.transitionEvent) : SameReworks db db' := by
  intro id
  unfold reworkCount reworksOf Db.execution? Db.events
  rw [hrows, hlog]
  exact ⟨rfl, rfl⟩

theorem SameReworks.refl (db : Db) : SameReworks db db := .of_tables rfl rfl

theorem SameReworks.trans (h : SameReworks db mid) (h' : SameReworks mid db') : SameReworks db db' := by
  intro id
  exact ⟨(h' id).1.trans (h id).1, (h' id).2.trans (h id).2⟩

/-- The reworks once an event is logged. -/
theorem reworks_append (events : List TransitionEvent) (event : TransitionEvent) (id : String) :
    ((events ++ [event]).filter (·.executionId = id)).filter Reworks =
      (events.filter (·.executionId = id)).filter Reworks ++
        if event.executionId = id ∧ Reworks event = true then [event] else [] := by
  rw [events_append, List.filter_append]
  by_cases hid : event.executionId = id <;> simp [hid, List.filter_singleton]

/-- The kinds of bump that are no rework. -/
def BumpKind.Plain (r : SliceExecution) : BumpKind → Prop
  | .autoReworked | .humanReworked => False
  | .transition a => ¬ (r.state = REWORK_READY ∧ a.toState = MAKER_RUNNING)
  | _ => True

theorem BumpKind.Plain.keeps {b : Bump} {r : SliceExecution} {event : TransitionEvent}
    (h : BumpKind.Plain r b.kind) (on : b.On r event) :
    Reworks event = false ∧ (b.set r).makerReworkCount = r.makerReworkCount := by
  have hguard := on.guard
  have hsource := on.logs.source
  have htarget := on.logs.target
  suffices hnot : ¬ (r.state = REWORK_READY ∧ (b.set r).state = MAKER_RUNNING) by
    constructor
    · simp only [Reworks, hsource, htarget, Option.some.injEq]
      simpa using hnot
    · obtain ⟨_, k, _, _⟩ := b
      cases k with
      | autoReworked | humanReworked => exact h.elim
      | _ => rfl
  intro ⟨hready, hmaking⟩
  obtain ⟨_, k, _, _⟩ := b
  cases k with
  | leaseAcquired | leaseReleased | resultRegistered | resultFinalized =>
    cases hready.symm.trans hmaking
  | transition a => exact h ⟨hready, hmaking⟩
  | autoReworked | humanReworked => exact h
  | closed | highResumed | highReadied | accepted | released => cases hmaking

theorem SameReworks.bump {b : Bump} {event : TransitionEvent} (h : b.Allowed db event)
    (hplain : ∀ r, db.execution? b.executionId = some r → BumpKind.Plain r b.kind) :
    SameReworks db (db.bump b event) := by
  obtain ⟨r, hrow, on⟩ := h
  obtain ⟨hnot, hcount⟩ := (hplain r hrow).keeps on
  intro id
  constructor
  · unfold reworkCount
    rw [Db.bump_execution?]
    by_cases hid : id = b.executionId
    · rw [if_pos hid, hid, hrow]
      exact hcount
    · rw [if_neg hid]
  · refine (reworks_append _ _ _).trans ?_
    simp [hnot, reworksOf, Db.events]

theorem SameReworks.bumps {b : Bump} (h : Bumps b db db')
    (hplain : ∀ r, db.execution? b.executionId = some r → BumpKind.Plain r b.kind) :
    SameReworks db db' := by
  obtain ⟨event, hallowed, rfl⟩ := h
  exact .bump hallowed hplain

/-- A new execution has no rework. -/
theorem SameReworks.creates {spec : ExecutionCreate} {key : String} {row : SliceExecution}
    {event : TransitionEvent} (h : Creates spec key db row event)
    (hrows : db'.sliceExecution = db.sliceExecution ++ [row])
    (hlog : db'.transitionEvent = db.transitionEvent ++ [event]) : SameReworks db db' := by
  obtain ⟨sourceRoot, now, hrow⟩ := h.shape
  have hnot : Reworks event = false := by simp [Reworks, h.source]
  intro id
  constructor
  · have hfree : Table.lookup (·.executionId) db.sliceExecution row.executionId = none := by
      rw [hrow]
      exact h.free
    unfold reworkCount Db.execution?
    rw [hrows, Table.lookup_append hfree]
    by_cases hid : id = row.executionId
    · rw [if_pos hid, hid, hfree, hrow]
      rfl
    · rw [if_neg hid]
  · unfold reworksOf Db.events
    rw [hlog, reworks_append]
    simp [hnot]

/-! ## The two schedules -/

/-- The call sends `id` back to its Maker by the event `event`, adding `n` to the
count. -/
structure SendsBack (id : String) (n : Int) (event : TransitionEvent) (db db' : Db) : Prop where
  reworks : Reworks event = true
  count : ∀ i, reworkCount db' i = reworkCount db i + if i = id then n else 0
  log : ∀ i, reworksOf db' i = reworksOf db i ++ if i = id then [event] else []

theorem SendsBack.bump {b : Bump} {event : TransitionEvent} {n : Int} (h : b.Allowed db event)
    (hback : ∀ r, b.On r event → r.state = REWORK_READY ∧ (b.set r).state = MAKER_RUNNING ∧
      (b.set r).makerReworkCount = r.makerReworkCount + n)
    (hrows : db'.sliceExecution = (db.bump b event).sliceExecution)
    (hlog : db'.transitionEvent = (db.bump b event).transitionEvent) :
    SendsBack b.executionId n event db db' := by
  obtain ⟨r, hrow, on⟩ := h
  obtain ⟨hready, hmaking, hcount⟩ := hback r on
  have hreworks : Reworks event = true := by
    simp [Reworks, on.logs.source, on.logs.target, hready, hmaking]
  constructor
  · exact hreworks
  · intro i
    have hbumped : db'.execution? i = (db.bump b event).execution? i := by
      unfold Db.execution?
      rw [hrows]
    unfold reworkCount
    rw [hbumped, Db.bump_execution?]
    by_cases hid : i = b.executionId
    · rw [if_pos hid, if_pos hid, hid, hrow]
      exact hcount
    · rw [if_neg hid, if_neg hid, Int.add_zero]
  · intro i
    unfold reworksOf Db.events
    rw [hlog]
    refine (reworks_append _ _ _).trans ?_
    simp [hreworks, on.logs.id, eq_comm]

/-- The reason of the event a scheduled rework adds. -/
theorem scheduleReworkTx_counted {a : ScheduleRework} {event : TransitionEvent}
    (h : scheduleReworkTx env a db = .ok (.fresh, db'))
    (hlog : db'.transitionEvent = db.transitionEvent ++ [event]) :
    Counted event = true ∧ Authorized event = false := by
  unfold scheduleReworkTx requireSha256 at h
  obtain ⟨-, h⟩ := Tx.require_bind_ok.mp h
  obtain ⟨json, -, h⟩ := Tx.lift_bind_ok.mp h
  have h := begin_bind_ok h
  unfold replayOr at h
  obtain ⟨found, -, h⟩ := existingEvent_bind_ok h
  cases found with
  | some e => cases Tx.pure_ok.mp h
  | none =>
    obtain ⟨⟨⟩, s, hbody, h⟩ := Tx.bind_ok.mp h
    cases Tx.pure_ok.mp h
    obtain ⟨row, -, hbody⟩ := getExecution_bind_ok.mp hbody
    obtain ⟨-, hbody⟩ := requireFence_bind_ok.mp hbody
    obtain ⟨-, hbody⟩ := Tx.require_bind_ok.mp hbody
    obtain ⟨-, hbody⟩ := Tx.require_bind_ok.mp hbody
    obtain ⟨-, hbody⟩ := Tx.require_bind_ok.mp hbody
    obtain ⟨-, -, -, -, hbody⟩ := updateExecution_bind_ok hbody
    have hbody := insertEvent_bind_ok (f := pure) (Tx.bind_ok.mpr ⟨_, _, hbody, rfl⟩)
    cases Tx.pure_ok.mp hbody
    cases List.append_cancel_left hlog
    exact ⟨rfl, rfl⟩

theorem scheduleReworkTx_sends {a : ScheduleRework} (h : scheduleReworkTx env a db = .ok (c, db')) :
    db' = db ∨ ∃ event, Counted event = true ∧ Authorized event = false ∧
      SendsBack a.executionId 1 event db db' := by
  rcases scheduleReworkTx_ok h with ⟨-, hdb⟩ | ⟨rfl, event, hallowed, hdb⟩
  · exact Or.inl hdb
  · have hlog : db'.transitionEvent = db.transitionEvent ++ [event] := by
      rw [hdb]
      rfl
    have hback : SendsBack a.executionId 1 event db db' :=
      .bump hallowed (fun r on => ⟨on.guard.1, rfl, rfl⟩) (by rw [hdb]) (by rw [hdb])
    obtain ⟨hcounted, hauthorized⟩ := scheduleReworkTx_counted h hlog
    exact Or.inr ⟨event, hcounted, hauthorized, hback⟩

/-- The reason of the event a human-authorized rework adds. -/
theorem scheduleHumanAuthorizedReworkTx_authorized {a : ScheduleHumanAuthorizedRework}
    {event : TransitionEvent} (h : scheduleHumanAuthorizedReworkTx env a db = .ok ((), db'))
    (hlog : db'.transitionEvent = db.transitionEvent ++ [event]) :
    Counted event = false ∧ Authorized event = true := by
  unfold scheduleHumanAuthorizedReworkTx requireSha256 at h
  obtain ⟨-, h⟩ := Tx.require_bind_ok.mp h
  have h := begin_bind_ok h
  obtain ⟨row, -, h⟩ := getExecution_bind_ok.mp h
  obtain ⟨-, h⟩ := requireFence_bind_ok.mp h
  obtain ⟨-, h⟩ := Tx.require_bind_ok.mp h
  obtain ⟨-, h⟩ := Tx.require_bind_ok.mp h
  obtain ⟨commit, -, h⟩ := Tx.find_bind_ok.mp h
  obtain ⟨u, s, hmaker, h⟩ := Tx.bind_ok.mp h
  cases requireSingleCompletedMaker_ok hmaker
  obtain ⟨_, -, -, -, -, -, -, h⟩ := requireApproval_bind_ok h
  obtain ⟨_, _, -, -, -, -, h⟩ := authorization_bind_ok h
  obtain ⟨_, _, -, -, -, h⟩ := consumeApproval_bind_ok h
  obtain ⟨-, -, -, -, h⟩ := updateExecution_bind_ok h
  obtain ⟨json, -, h⟩ := Tx.lift_bind_ok.mp h
  have h := insertEvent_bind_ok (f := pure) (Tx.bind_ok.mpr ⟨_, _, h, rfl⟩)
  cases Tx.pure_ok.mp h
  cases List.append_cancel_left hlog
  exact ⟨rfl, rfl⟩

/-! ## Consumed approvals -/

theorem spent_append (t : List ApprovalRequest) (row : ApprovalRequest) (id : String) :
    t.countP (SpentRework id) ≤ (t ++ [row]).countP (SpentRework id) := by
  rw [List.countP_append]
  omega

/-- An update that unspends no approval; if it spends the one it finds, there is one
more. -/
theorem spent_update {t : List ApprovalRequest} {key id : String} {f : ApprovalRequest → ApprovalRequest}
    (hf : ∀ r, SpentRework id r = true → SpentRework id (f r) = true) :
    t.countP (SpentRework id) ≤ (Table.update (·.approvalId) t key f).countP (SpentRework id) ∧
      ∀ r, Table.lookup (·.approvalId) t key = some r → SpentRework id r = false →
        SpentRework id (f r) = true →
        t.countP (SpentRework id) + 1 ≤
          (Table.update (·.approvalId) t key f).countP (SpentRework id) := by
  induction t with
  | nil =>
    refine ⟨Nat.le_refl _, fun r hr => ?_⟩
    cases hr
  | cons head tail ih =>
    obtain ⟨ihle, ihlt⟩ := ih
    by_cases hkey : head.approvalId = key
    · -- the row found is this one
      have hstep : Table.update (·.approvalId) (head :: tail) key f =
          f head :: Table.update (·.approvalId) tail key f := by simp [Table.update, hkey]
      have hhead := hf head
      simp only [hstep, List.countP_cons]
      constructor
      · split
        · rename_i hspent
          rw [if_pos (hhead hspent)]
          omega
        · omega
      · intro r hr hno hyes
        simp only [Table.lookup, List.find?_cons, hkey, decide_true, Option.some.injEq] at hr
        rw [hr, hno, hyes]
        simp only [Bool.false_eq_true, if_false, if_true]
        omega
    · have hstep : Table.update (·.approvalId) (head :: tail) key f =
          head :: Table.update (·.approvalId) tail key f := by simp [Table.update, hkey]
      simp only [hstep, List.countP_cons]
      refine ⟨by omega, fun r hr hno hyes => ?_⟩
      simp only [Table.lookup, List.find?_cons, hkey, decide_false] at hr
      have := ihlt r hr hno hyes
      omega

theorem ApprovalStep.spent {spends : String → ApprovalRequest → Prop}
    (h : ApprovalStep spends db db'.approvalRequest) (id : String) :
    spentReworks db id ≤ spentReworks db' id := by
  unfold spentReworks
  cases h with
  | keep h => rw [h]
  | request _ _ _ h =>
    rw [h]
    exact spent_append _ _ _
  | resolve _ _ _ _ h =>
    rw [h]
    apply (spent_update _).1
    intro r hr
    exact hr
  | consume _ _ _ _ h =>
    rw [h]
    apply (spent_update _).1
    intro r hr
    simp only [SpentRework, Bool.and_eq_true] at hr ⊢
    exact ⟨hr.1, rfl⟩

/-- A human-authorized rework spends one more. -/
theorem ScheduleHumanAuthorizedRework.spends {a : ScheduleHumanAuthorizedRework}
    (h : scheduleHumanAuthorizedReworkTx env a db = .ok ((), db')) :
    spentReworks db a.executionId + 1 ≤ spentReworks db' a.executionId := by
  obtain ⟨_, _, approval, _, _, _, hfound, -, hdb⟩ := scheduleHumanAuthorizedReworkTx_ok h
  unfold spentReworks
  rw [hdb]
  apply (spent_update _).2 approval hfound.found
  · simp [SpentRework, hfound.unused]
  · simp [SpentRework, hfound.ofExecution, hfound.kind]
  · intro r hr
    simp only [SpentRework, Bool.and_eq_true] at hr ⊢
    exact ⟨hr.1, rfl⟩

/-! ## Calls -/

/-- What a committed call does to the reworks of the executions. -/
inductive ReworkStep (call : Call) (db db' : Db) : Prop
  | same (h : SameReworks db db')
  | counted {id : String} {event : TransitionEvent} (reason : Counted event = true)
      (other : Authorized event = false) (sends : SendsBack id 1 event db db')
  | authorized {a : ScheduleHumanAuthorizedRework} {event : TransitionEvent}
      (from_call : call = .scheduleHumanAuthorizedRework a) (reason : Authorized event = true)
      (other : Counted event = false) (sends : SendsBack a.executionId 0 event db db')

theorem Call.reworks (hcall : ¬ call.PlainRework db) (h : call.tx env snap db = .ok (c, db')) :
    ReworkStep call db db' := by
  have plain {b : Bump} (hkind : match b.kind with
      | .autoReworked | .humanReworked | .transition _ => False
      | _ => True) : ∀ r, db.execution? b.executionId = some r → BumpKind.Plain r b.kind := by
    intro r _
    unfold BumpKind.Plain
    split <;> simp_all
  cases call with
  | createExecution spec key =>
    obtain ⟨r, s, hx, h⟩ := Tx.bind_ok.mp h
    cases Tx.pure_ok.mp h
    rcases createExecutionTx_ok hx with ⟨-, rfl⟩ | ⟨-, row, event, hnew, rfl⟩
    · exact .same (.refl _)
    · exact .same (.creates hnew rfl rfl)
  | bindDeferredExecution a =>
    rcases bindDeferredExecutionTx_ok h with ⟨-, rfl⟩ | ⟨-, _, _, _, _, _, _, hbind, -⟩
    · exact .same (.refl _)
    · refine .same (.creates hbind.creates ?_ ?_) <;> rw [hbind.eq]
  | acquireLease a =>
    rcases acquireLeaseTx_ok h with ⟨-, rfl⟩ | ⟨-, _, _, hb⟩
    · exact .same (.refl _)
    · exact .same (.bumps hb (plain trivial))
  | heartbeat a =>
    obtain ⟨_, hx⟩ := done_ok h
    obtain ⟨row, expires, -, -, rfl⟩ := heartbeatTx_ok hx
    refine .same fun id => ⟨?_, rfl⟩
    unfold reworkCount
    rw [Db.renew_execution?]
    split
    · rw [Option.map_map]
      rfl
    · rfl
  | releaseLease a =>
    rcases releaseLeaseTx_ok h with ⟨-, rfl⟩ | ⟨-, hb⟩
    · exact .same (.refl _)
    · exact .same (.bumps hb (plain trivial))
  | transition a =>
    rcases transitionTx_ok h with ⟨-, rfl⟩ | ⟨-, hb⟩
    · exact .same (.refl _)
    · refine .same (.bumps hb fun r hrow hback => ?_)
      exact hcall ⟨a, r, rfl, hrow, hback⟩
  | registerResultCommit a =>
    rcases registerResultCommitTx_ok h with ⟨-, rfl⟩ | ⟨-, hb⟩
    · exact .same (.refl _)
    · exact .same (.bumps hb (plain trivial))
  | finalizeDeferredResultCommit a =>
    rcases finalizeDeferredResultCommitTx_ok h with ⟨-, rfl⟩ | ⟨-, event, _, _, _, _, hfinal⟩
    · exact .same (.refl _)
    · rw [hfinal.eq]
      exact .same (SameReworks.bump hfinal.allowed (plain trivial))
  | releaseDeferred a =>
    rcases releaseDeferredTx_ok h with ⟨-, rfl⟩ | ⟨-, event, _, _, _, hrelease⟩
    · exact .same (.refl _)
    · rw [hrelease.eq]
      exact .same (SameReworks.bump hrelease.allowed (plain trivial))
  | closeCandidate a =>
    rcases closeCandidateTx_ok h with ⟨-, rfl⟩ | ⟨-, _, _, _, _, _, commit, event, hcloses⟩
    · exact .same (.refl _)
    · rw [hcloses.writes]
      exact .same (SameReworks.bump hcloses.allowed (plain trivial))
  | authorizeHighRework a =>
    obtain ⟨_, hx⟩ := done_ok h
    obtain ⟨mid, h1, h2⟩ := authorizeHighReworkTx_ok hx
    exact .same ((SameReworks.bumps h1 (plain trivial)).trans
      (.bumps h2 fun _ _ => trivial))
  | scheduleHumanAuthorizedRework a =>
    obtain ⟨_, hx⟩ := done_ok h
    obtain ⟨_, _, _, _, _, event, -, hallowed, hdb⟩ := scheduleHumanAuthorizedReworkTx_ok hx
    have hlog : db'.transitionEvent = db.transitionEvent ++ [event] := by
      rw [hdb]
      rfl
    obtain ⟨hcounted, hauthorized⟩ := scheduleHumanAuthorizedReworkTx_authorized hx hlog
    refine .authorized rfl hauthorized hcounted (SendsBack.bump (b := a.bump env) hallowed ?_ ?_ ?_)
    · intro r on
      exact ⟨on.guard, rfl, (Int.add_zero _).symm⟩
    · rw [hdb]
    · rw [hdb]
  | scheduleRework a =>
    rcases scheduleReworkTx_sends h with rfl | ⟨event, hcounted, hauthorized, hback⟩
    · exact .same (.refl _)
    · exact .counted hcounted hauthorized hback
  | acceptExecution a =>
    rcases acceptExecutionTx_ok h with ⟨-, rfl⟩ | ⟨-, _, _, _, _, _, event, haccepts⟩
    · exact .same (.refl _)
    · obtain ⟨approvals, -, hdb⟩ := haccepts.writes
      rw [hdb]
      exact .same (SameReworks.bump haccepts.allowed (plain trivial))
  | reconcileSlice a =>
    obtain ⟨_, hx⟩ := done_ok h
    rcases reconcileSliceTx_ok hx with rfl | ⟨_, _, -, rfl⟩ | ⟨_, _, _, -, -, rfl⟩
    · exact .same (.refl _)
    · exact .same (.of_tables rfl rfl)
    · exact .same (.of_tables rfl rfl)
  | _ =>
    obtain ⟨hrows, hlog, -⟩ := core_eq.mp (Call.records_core (by trivial) h)
    exact .same (.of_tables hrows hlog)

/-! ## Runs -/

/-- The reworks of `id` are counted or authorized, and the books agree. -/
structure InBudget (db : Db) (id : String) : Prop where
  counted : reworkCount db id = (reworksOf db id).countP Counted
  authorized : (reworksOf db id).countP Authorized ≤ spentReworks db id
  either : ∀ e ∈ reworksOf db id, Counted e = true ∨ Authorized e = true

variable {id : String}

theorem InBudget.kept (h : InBudget db id) (hcount : reworkCount db' id = reworkCount db id)
    (hlog : reworksOf db' id = reworksOf db id) (hspent : spentReworks db id ≤ spentReworks db' id) :
    InBudget db' id := by
  constructor
  · rw [hcount, hlog]
    exact h.counted
  · rw [hlog]
    exact h.authorized.trans hspent
  · rw [hlog]
    exact h.either

/-- A rework is added, with what it costs. -/
theorem InBudget.sends {event : TransitionEvent} {n : Int} (h : InBudget db id)
    (hsends : SendsBack id n event db db') (hn : n = if Counted event = true then 1 else 0)
    (hspent : spentReworks db id + (if Authorized event = true then 1 else 0) ≤ spentReworks db' id)
    (heither : Counted event = true ∨ Authorized event = true) : InBudget db' id := by
  have hcount := hsends.count id
  have hlog := hsends.log id
  rw [if_pos rfl] at hcount hlog
  constructor
  · rw [hcount, hlog, h.counted, List.countP_append, List.countP_singleton, hn]
    split <;> simp
  · have hle := h.authorized
    rw [hlog, List.countP_append, List.countP_singleton]
    omega
  · intro e he
    rw [hlog] at he
    rcases List.mem_append.mp he with he | he
    · exact h.either e he
    · rw [List.mem_singleton.mp he]
      exact heither

theorem Call.inBudget (hcall : ¬ call.PlainRework db) (h : call.tx env snap db = .ok (c, db'))
    (hdb : InBudget db id) : InBudget db' id := by
  have hspent := ApprovalStep.spent (Call.candidateStep h).approvalStep id
  have elsewhere {back : String} {n : Int} {event : TransitionEvent}
      (sends : SendsBack back n event db db') (hid : id ≠ back) : InBudget db' id := by
    have hcount := sends.count id
    have hlog := sends.log id
    rw [if_neg hid, Int.add_zero] at hcount
    rw [if_neg hid, List.append_nil] at hlog
    exact hdb.kept hcount hlog hspent
  cases Call.reworks hcall h with
  | same hsame => exact hdb.kept (hsame id).1 (hsame id).2 hspent
  | @counted back event reason other sends =>
    by_cases hid : id = back
    · subst hid
      apply hdb.sends sends
      · rw [if_pos reason]
      · simpa [other] using hspent
      · exact Or.inl reason
    · exact elsewhere sends hid
  | @authorized a event from_call reason other sends =>
    subst from_call
    obtain ⟨_, hx⟩ := done_ok h
    by_cases hid : id = a.executionId
    · subst hid
      apply hdb.sends sends
      · simp [other]
      · rw [if_pos reason]
        exact ScheduleHumanAuthorizedRework.spends hx
      · exact Or.inr reason
    · exact elsewhere sends hid

/-- The budget of a row, as the `CHECK`s have it. -/
def WithinRisk : Option SliceExecution → List TransitionEvent → Prop
  | none, _ => True
  | some row, _ => row.makerReworkCount ≤ row.maxAutoReworks ∧
      row.maxAutoReworks = row.riskLevel.maxAutoReworks

theorem WithinRisk.of_checks {r : SliceExecution} (h : ∀ p ∈ executionChecks r, p.2 = true)
    (log : List TransitionEvent) : WithinRisk (some r) log := by
  have hcount := h ("maker_rework_count",
    0 ≤ r.makerReworkCount && r.makerReworkCount ≤ r.maxAutoReworks) (by simp [executionChecks, columnChecks])
  have hmax := h ("max_auto_reworks",
    0 ≤ r.maxAutoReworks && r.maxAutoReworks = r.riskLevel.maxAutoReworks)
    (by simp [executionChecks, columnChecks])
  simp only [Bool.and_eq_true, decide_eq_true_eq] at hcount hmax
  exact ⟨hcount.2, hmax.2⟩

theorem Reachable.withinRisk (h : Reachable db) (id : String) :
    WithinRisk (db.execution? id) (db.events id) := by
  apply h.execution trivial
  intro env call start
  constructor
  · intro spec key db new event log hcreates _ _
    exact .of_checks hcreates.checks _
  · intro r log owner generation now expires _ hrow
    exact hrow
  · intro b db r event log _ _ _ on _
    exact .of_checks on.checks _

theorem Run.inBudget {past : List Db} (h : Run (fun _ call db => ¬ call.PlainRework db) past db)
    (id : String) : InBudget db id := by
  refine (h.invariant (P := fun db => InBudget db id) ?_ ?_).1
  · exact ⟨rfl, Nat.le_refl _, fun e he => (List.not_mem_nil he).elim⟩
  · intro env snap call db db' c hplain _ hdb hx
    exact Call.inBudget hplain hx hdb

end Adcp.L4
