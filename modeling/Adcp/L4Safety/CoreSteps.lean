import Adcp.L4Safety.System

/-!
# What a call does to the core tables

The core of the database is its executions, their events and the Slice rows.
Whatever a call does to it is a short sequence of `CoreStep`s; most calls make
one, the recording operations make none that changes anything. An invariant of
the core is proved once for each kind of step, and holds of every run.

* `Call.coreRun`: a committed call is a sequence of core steps.
* `Call.Makes`: which call a bump came from, for the four kinds of bump whose
  call matters.
* `CoreStep.execution`: what a core step does to one execution and its events.
* `CoreRun.invariant`, `Run.core`, `Reachable.execution`: from steps to calls to
  runs.
-/
namespace Adcp.L4

open Adcp.L1 Adcp.L2 Adcp.L3

/-- The core tables. -/
def core (db : Db) : List SliceExecution × List TransitionEvent × List SliceControlState :=
  (db.sliceExecution, db.transitionEvent, db.sliceControlState)

/-- One step of the core; `made` says of a bump, and of the state it is made in,
what is known about the call it came from. -/
inductive CoreStep (made : Bump → Db → Prop) (db db' : Db) : Prop
  | frame (h : core db' = core db)
  | create {spec : ExecutionCreate} {key : String} {row : SliceExecution} {event : TransitionEvent}
      (new : Creates spec key db row event)
      (h : core db' =
        (db.sliceExecution ++ [row], db.transitionEvent ++ [event], db.sliceControlState))
  | renew {id : String} {row : SliceExecution} {owner : String} {generation : Int}
      {now expires : Timestamp} (found : db.execution? id = some row)
      (live : FenceLive row owner generation now)
      (h : core db' = core (db.renew id now expires))
  | bump {b : Bump} {event : TransitionEvent} (from_call : made b db) (allowed : b.Allowed db event)
      (plain : ∀ commit, b.kind ≠ .resultFinalized commit) (h : core db' = core (db.bump b event))
  | finalize {b : Bump} {event : TransitionEvent} {commit : String} {state old : SliceControlState}
      {set : SliceControlState → SliceControlState} (from_call : made b db)
      (kind : b.kind = .resultFinalized commit) (allowed : b.Allowed db event)
      (bound : db.boundSlice? b.executionId = some state)
      (slice : SliceSet (db.bump b event) state.sliceId set old)
      (h : core db' = ((db.bump b event).sliceExecution, (db.bump b event).transitionEvent,
        Table.update (·.sliceId) db.sliceControlState state.sliceId set))
  | addSlice {row : SliceControlState} (bound : ExecutionBinding db row.toSliceControlFields)
      (free : db.slice? row.sliceId = none)
      (h : core db' = (db.sliceExecution, db.transitionEvent, db.sliceControlState ++ [row]))
  | setSlice {id : String} {old : SliceControlState} {set : SliceControlState → SliceControlState}
      (slice : SliceSet db id set old)
      (h : core db' = (db.sliceExecution, db.transitionEvent,
        Table.update (·.sliceId) db.sliceControlState id set))

inductive CoreRun (made : Bump → Db → Prop) : Db → Db → Prop
  | nil (db : Db) : CoreRun made db db
  | cons {db mid db' : Db} (step : CoreStep made db mid) (rest : CoreRun made mid db') :
      CoreRun made db db'

/-! ## What a core step does to one execution -/

@[simp]
theorem core_eq {db : Db} {executions : List SliceExecution} {events : List TransitionEvent}
    {slices : List SliceControlState} : core db = (executions, events, slices) ↔
      db.sliceExecution = executions ∧ db.transitionEvent = events ∧
        db.sliceControlState = slices := by
  simp [core]

theorem events_append (events : List TransitionEvent) (event : TransitionEvent) (id : String) :
    (events ++ [event]).filter (·.executionId = id) =
      events.filter (·.executionId = id) ++ if event.executionId = id then [event] else [] := by
  rw [List.filter_append]
  by_cases h : event.executionId = id <;> simp [h]

/-- What a core step does to the row of the execution `id` and its events. -/
inductive ExecutionStep (made : Bump → Db → Prop) (db db' : Db) (id : String) : Prop
  | keep (row : db'.execution? id = db.execution? id) (log : db'.events id = db.events id)
  | create {spec : ExecutionCreate} {key : String} {new : SliceExecution} {event : TransitionEvent}
      (creates : Creates spec key db new event) (ofId : spec.executionId = id)
      (row : db'.execution? id = some new) (log : db'.events id = db.events id ++ [event])
  | renew {r : SliceExecution} {owner : String} {generation : Int} {now expires : Timestamp}
      (found : db.execution? id = some r) (live : FenceLive r owner generation now)
      (row : db'.execution? id = some (renewed now expires r))
      (log : db'.events id = db.events id)
  | bump {b : Bump} {event : TransitionEvent} {r : SliceExecution} (from_call : made b db)
      (ofId : b.executionId = id) (found : db.execution? id = some r) (on : b.On r event)
      (row : db'.execution? id = some (b.set r)) (log : db'.events id = db.events id ++ [event])

/-- A bump writes its execution and event, and no other execution's. -/
theorem ExecutionStep.of_bump {made : Bump → Db → Prop} {db db' : Db} {b : Bump}
    {event : TransitionEvent} (from_call : made b db) (allowed : b.Allowed db event)
    (hrow : db'.sliceExecution = (db.bump b event).sliceExecution)
    (hlog : db'.transitionEvent = (db.bump b event).transitionEvent) (id : String) :
    ExecutionStep made db db' id := by
  obtain ⟨r, hfound, hon⟩ := allowed
  have hrow' : db'.execution? id = (db.bump b event).execution? id := by
    unfold Db.execution?
    rw [hrow]
  have hlog' : db'.events id = db.events id ++ if event.executionId = id then [event] else [] := by
    unfold Db.events
    rw [hlog]
    exact events_append _ _ _
  rw [Db.bump_execution?] at hrow'
  rw [hon.logs.id] at hlog'
  by_cases hid : b.executionId = id
  · subst hid
    rw [if_pos rfl, hfound, Option.map_some] at hrow'
    rw [if_pos rfl] at hlog'
    exact .bump from_call rfl hfound hon hrow' hlog'
  · rw [if_neg fun h => hid h.symm] at hrow'
    rw [if_neg hid, List.append_nil] at hlog'
    exact .keep hrow' hlog'

theorem CoreStep.execution {made : Bump → Db → Prop} {db db' : Db} (h : CoreStep made db db')
    (id : String) : ExecutionStep made db db' id := by
  have keep (hrow : db'.sliceExecution = db.sliceExecution)
      (hlog : db'.transitionEvent = db.transitionEvent) : ExecutionStep made db db' id :=
    .keep (by unfold Db.execution?; rw [hrow]) (by unfold Db.events; rw [hlog])
  cases h with
  | frame h =>
    obtain ⟨hrow, hlog, -⟩ := core_eq.mp h
    exact keep hrow hlog
  | addSlice _ _ h =>
    obtain ⟨hrow, hlog, -⟩ := core_eq.mp h
    exact keep hrow hlog
  | setSlice _ h =>
    obtain ⟨hrow, hlog, -⟩ := core_eq.mp h
    exact keep hrow hlog
  | bump from_call allowed _ h =>
    obtain ⟨hrow, hlog, -⟩ := core_eq.mp h
    exact .of_bump from_call allowed hrow hlog id
  | finalize from_call _ allowed _ _ h =>
    obtain ⟨hrow, hlog, -⟩ := core_eq.mp h
    exact .of_bump from_call allowed hrow hlog id
  | @create spec key new event creates h =>
    obtain ⟨hrow, hlog, -⟩ := core_eq.mp h
    have hnew : new.executionId = spec.executionId := by
      obtain ⟨_, _, rfl⟩ := creates.shape
      rfl
    have hrow' : db'.execution? id =
        if id = new.executionId then some new else db.execution? id := by
      unfold Db.execution?
      rw [hrow]
      exact Table.lookup_append (hnew ▸ creates.free)
    have hlog' : db'.events id =
        db.events id ++ if event.executionId = id then [event] else [] := by
      unfold Db.events
      rw [hlog]
      exact events_append _ _ _
    rw [hnew] at hrow'
    rw [creates.id] at hlog'
    by_cases hid : spec.executionId = id
    · rw [if_pos hid.symm] at hrow'
      rw [if_pos hid] at hlog'
      exact .create creates hid hrow' hlog'
    · rw [if_neg fun h => hid h.symm] at hrow'
      rw [if_neg hid, List.append_nil] at hlog'
      exact .keep hrow' hlog'
  | @renew id' row owner generation now expires found live h =>
    obtain ⟨hrow, hlog, -⟩ := core_eq.mp h
    have hlog' : db'.events id = db.events id := by
      unfold Db.events
      rw [hlog]
      rfl
    have hrow' : db'.execution? id = (db.renew id' now expires).execution? id := by
      unfold Db.execution?
      rw [hrow]
    rw [Db.renew_execution?] at hrow'
    by_cases hid : id = id'
    · subst hid
      rw [if_pos rfl, found, Option.map_some] at hrow'
      exact .renew found live hrow' hlog'
    · rw [if_neg hid] at hrow'
      exact .keep hrow' hlog'

/-! ## Runs of core steps -/

theorem CoreRun.one {made : Bump → Db → Prop} {db db' : Db} (h : CoreStep made db db') :
    CoreRun made db db' := .cons h (.nil _)

theorem CoreRun.frame {made : Bump → Db → Prop} {db db' : Db} (h : core db' = core db) :
    CoreRun made db db' := .one (.frame h)

theorem CoreRun.invariant {made : Bump → Db → Prop} {P : Db → Prop}
    (hstep : ∀ db db', CoreStep made db db' → P db → P db') {db db' : Db}
    (h : CoreRun made db db') (hP : P db) : P db' := by
  induction h with
  | nil => exact hP
  | cons step _ ih => exact ih (hstep _ _ step hP)

/-! ## The core steps of a call -/

/-- Which call made the bump `b` in the state `pre`, when `db` is the state the
call started from. -/
structure Call.Makes (call : Call) (env : Env) (db : Db) (b : Bump) (pre : Db) : Prop where
  acquired : ∀ owner generation expires, b.kind = .leaseAcquired owner generation expires →
    ∃ a, call = .acquireLease a ∧ b.executionId = a.executionId ∧ owner = a.leaseOwner ∧ pre = db
  transition : ∀ a, b.kind = .transition a → call = .transition a ∧
    b.executionId = a.executionId ∧ pre = db
  registered : ∀ commit, b.kind = .resultRegistered commit → ∃ a, call = .registerResultCommit a ∧
    b = ⟨a.executionId, .resultRegistered a.resultCommit, env.clock 0,
      some (a.leaseOwner, a.leaseGeneration)⟩ ∧ pre = db
  closed : ∀ commit, b.kind = .closed commit → ∃ a, call = .closeCandidate a ∧
    b.executionId = a.ids.executionId ∧ pre = db

variable {env : Env} {snap db db' : Db} {call : Call} {c : Commit}

/-- A bump of a kind whose call does not matter. -/
theorem Call.Makes.other {b : Bump} {pre : Db} (h : match b.kind with
      | .leaseAcquired .. | .transition _ | .resultRegistered _ | .closed _ => False
      | _ => True) : call.Makes env db b pre := by
  refine ⟨fun _ _ _ hk => ?_, fun _ hk => ?_, fun _ hk => ?_, fun _ hk => ?_⟩ <;> simp [hk] at h

theorem Bump.plain {b : Bump} (h : match b.kind with
      | .resultFinalized _ => False
      | _ => True) (commit : String) : b.kind ≠ .resultFinalized commit := fun hk => by
  simp [hk] at h

/-- A bump alone. -/
theorem CoreRun.bumps {made : Bump → Db → Prop} {b : Bump} (hmade : made b db)
    (plain : ∀ commit, b.kind ≠ .resultFinalized commit) (h : Bumps b db db') :
    CoreRun made db db' := by
  obtain ⟨event, hallowed, rfl⟩ := h
  exact .one (.bump hmade hallowed plain rfl)

theorem WriterFrame.core (h : WriterFrame db db') : core db' = core db := by
  obtain ⟨lease, events, rfl⟩ := h
  rfl

/-- The operations that write no core table. -/
def Call.Records : Call → Prop
  | reconcileTransitionalAuthority .. | transitionAuthority _ | registerContextSnapshot _
  | registerVerificationResult _ | registerAgentAttempt _ | requestApproval _ | resolveApproval _
  | createEvaluatorArtifactSeal _ | finishAgentAttempt _ | registerEvaluationResult _
  | bindPrecommitCandidate _ | registerCandidateVerification _ | beginCandidateEvaluator _
  | registerCandidateEvaluation _ | createCandidateSeal _ | bindCandidateApproval _
  | prepareCandidateCommit _ | appendReceipt _ | projection _ | writer _ => True
  | _ => False

theorem Call.records_core (hr : call.Records) (h : call.tx env snap db = .ok (c, db')) :
    core db' = core db := by
  cases call with
  | reconcileTransitionalAuthority g s r =>
    obtain ⟨_, hx⟩ := done_ok h
    rcases (reconcileTransitionalAuthorityTx_ok hx).2 with ⟨-, rfl⟩ | ⟨-, -, rfl⟩
    · rfl
    · rfl
  | transitionAuthority a =>
    obtain ⟨_, hx⟩ := done_ok h
    rcases transitionAuthorityTx_ok hx with ⟨-, rfl, -⟩ | ⟨-, -, -, -, rfl⟩
    · rfl
    · rfl
  | registerContextSnapshot a =>
    obtain ⟨_, hx⟩ := done_ok h
    rcases registerContextSnapshotTx_ok hx with rfl | ⟨row, -, -, -, rfl⟩
    · rfl
    · rfl
  | registerVerificationResult record =>
    obtain ⟨_, hx⟩ := done_ok h
    rcases registerVerificationResultTx_ok hx with rfl | ⟨-, rfl⟩
    · rfl
    · rfl
  | registerAgentAttempt a =>
    obtain ⟨_, hx⟩ := done_ok h
    rcases registerAgentAttemptTx_ok hx with rfl | ⟨-, -, rfl⟩
    · rfl
    · rfl
  | requestApproval a =>
    obtain ⟨_, hx⟩ := done_ok h
    rcases requestApprovalTx_ok hx with rfl | ⟨_, -, rfl⟩
    · rfl
    · rfl
  | resolveApproval a =>
    obtain ⟨_, hx⟩ := done_ok h
    rcases resolveApprovalTx_ok hx with rfl | ⟨_, -, rfl⟩
    · rfl
    · rfl
  | createEvaluatorArtifactSeal a =>
    rcases createEvaluatorArtifactSealTx_ok h with ⟨-, rfl⟩ | ⟨-, row, attempt, -, -, -, -, rfl⟩
    · rfl
    · rfl
  | finishAgentAttempt a =>
    rcases finishAgentAttemptTx_ok h with ⟨-, rfl⟩ | ⟨-, attempt, outcome, -, -, rfl⟩
    · rfl
    · rfl
  | registerEvaluationResult a =>
    rcases registerEvaluationResultTx_ok h with ⟨-, rfl⟩ |
      ⟨-, record, row, attempt, -, -, -, -, -, -, rfl⟩
    · rfl
    · rfl
  | bindPrecommitCandidate a =>
    obtain ⟨_, hx⟩ := done_ok h
    obtain ⟨execution, attempt, hbinds⟩ := bindPrecommitCandidateTx_ok hx
    rw [hbinds.writes]
    rfl
  | registerCandidateVerification a =>
    obtain ⟨_, hx⟩ := done_ok h
    obtain ⟨_, _, _, hregisters⟩ := registerCandidateVerificationTx_ok hx
    rw [hregisters.writes]
    rfl
  | beginCandidateEvaluator a =>
    obtain ⟨_, hx⟩ := done_ok h
    obtain ⟨_, _, _, hbegins⟩ := beginCandidateEvaluatorTx_ok hx
    rw [hbegins.writes]
    rfl
  | registerCandidateEvaluation a =>
    obtain ⟨_, hx⟩ := done_ok h
    obtain ⟨_, _, hregisters⟩ := registerCandidateEvaluationTx_ok hx
    rw [hregisters.writes]
    rfl
  | createCandidateSeal a =>
    obtain ⟨_, hx⟩ := done_ok h
    obtain ⟨_, hcreates⟩ := createCandidateSealTx_ok hx
    rw [hcreates.writes]
    rfl
  | bindCandidateApproval a =>
    obtain ⟨_, hx⟩ := done_ok h
    obtain ⟨_, _, hbinds⟩ := bindCandidateApprovalTx_ok hx
    rw [hbinds.writes]
    rfl
  | prepareCandidateCommit a =>
    obtain ⟨_, hx⟩ := done_ok h
    rcases prepareCandidateCommitTx_ok hx with ⟨rfl, -⟩ | ⟨_, _, _, _, hprepares⟩
    · rfl
    · rw [hprepares.writes]
      rfl
  | appendReceipt a =>
    obtain ⟨_, hx⟩ := done_ok h
    obtain ⟨_, _, -, -, -, -, rfl⟩ := appendReceiptTx_ok hx
    rfl
  | projection p =>
    obtain ⟨_, hx⟩ := done_ok h
    obtain ⟨_, rfl⟩ := ProjectionCall.tx_ok hx
    rfl
  | writer w =>
    cases w with
    | acquire a =>
      obtain ⟨_, hx⟩ := done_ok h
      rcases acquireWriterTx_ok hx with ⟨-, rfl⟩ | ⟨-, -, hf⟩
      · rfl
      · exact hf.core
    | heartbeat owner token ttl =>
      obtain ⟨_, hx⟩ := done_ok h
      exact (heartbeatWriterTx_ok hx).2.2.core
    | release a =>
      obtain ⟨_, hx⟩ := done_ok h
      rcases releaseWriterTx_ok hx with ⟨-, rfl⟩ | ⟨-, -, -, hf⟩
      · rfl
      · exact hf.core
    | forceRevoke a =>
      obtain ⟨_, hx⟩ := done_ok h
      rcases revokeWriterTx_ok hx with ⟨-, rfl⟩ | ⟨-, -, -, hf⟩
      · rfl
      · exact hf.core
    | assertCurrent owner token =>
      obtain ⟨_, hx⟩ := done_ok h
      rw [(assertCurrentGlobalWriter_ok hx).2]
  | _ => exact hr.elim

/-- A committed call is a sequence of core steps. -/
theorem Call.coreRun (h : call.tx env snap db = .ok (c, db')) :
    CoreRun (call.Makes env db) db db' := by
  cases call with
  | createExecution spec key =>
    obtain ⟨r, s, hx, h⟩ := Tx.bind_ok.mp h
    cases Tx.pure_ok.mp h
    rcases createExecutionTx_ok hx with ⟨-, rfl⟩ | ⟨-, row, event, hnew, rfl⟩
    · exact .nil _
    · exact .one (.create hnew rfl)
  | bindDeferredExecution a =>
    rcases bindDeferredExecutionTx_ok h with ⟨-, rfl⟩ |
      ⟨-, row, event, context, set, old, sliceEvent, hbind, -⟩
    · exact .nil _
    · have hset := hbind.move.toSliceSet
      rw [hbind.logs.slice] at hset
      rw [hbind.eq]
      have hcreate : CoreStep ((bindDeferredExecution a).Makes env db) db { db with
          sliceExecution := db.sliceExecution ++ [row]
          transitionEvent := db.transitionEvent ++ [event] } := .create hbind.creates rfl
      exact .cons hcreate (.one (.setSlice ⟨hset.found, hset.keepsId, hset.bound⟩ rfl))
  | acquireLease a =>
    rcases acquireLeaseTx_ok h with ⟨-, rfl⟩ | ⟨-, generation, expires, hb⟩
    · exact .nil _
    · refine .bumps ⟨?_, fun _ hk => (by cases hk), fun _ hk => (by cases hk),
        fun _ hk => (by cases hk)⟩ (Bump.plain trivial) hb
      rintro owner generation expires ⟨⟩
      exact ⟨a, rfl, rfl, rfl, rfl⟩
  | heartbeat a =>
    obtain ⟨_, hx⟩ := done_ok h
    obtain ⟨row, expires, hrow, hlive, rfl⟩ := heartbeatTx_ok hx
    exact .one (.renew hrow hlive rfl)
  | releaseLease a =>
    rcases releaseLeaseTx_ok h with ⟨-, rfl⟩ | ⟨-, hb⟩
    · exact .nil _
    · exact .bumps (.other trivial) (Bump.plain trivial) hb
  | transition a =>
    rcases transitionTx_ok h with ⟨-, rfl⟩ | ⟨-, hb⟩
    · exact .nil _
    · refine .bumps ⟨fun _ _ _ hk => (by cases hk), ?_, fun _ hk => (by cases hk),
        fun _ hk => (by cases hk)⟩ (Bump.plain trivial) hb
      rintro a' ⟨⟩
      exact ⟨rfl, rfl, rfl⟩
  | registerResultCommit a =>
    rcases registerResultCommitTx_ok h with ⟨-, rfl⟩ | ⟨-, hb⟩
    · exact .nil _
    · refine .bumps ⟨fun _ _ _ hk => (by cases hk), fun _ hk => (by cases hk), ?_,
        fun _ hk => (by cases hk)⟩ (Bump.plain trivial) hb
      rintro commit ⟨⟩
      exact ⟨a, rfl, rfl, rfl⟩
  | finalizeDeferredResultCommit a =>
    rcases finalizeDeferredResultCommitTx_ok h with ⟨-, rfl⟩ |
      ⟨-, event, state, set, old, _, hfinal⟩
    · exact .nil _
    · rw [hfinal.eq]
      exact .one (.finalize (.other trivial) rfl hfinal.allowed hfinal.bound hfinal.sets rfl)
  | releaseDeferred a =>
    rcases releaseDeferredTx_ok h with ⟨-, rfl⟩ |
      ⟨-, event, set, old, sliceEvent, hrelease⟩
    · exact .nil _
    · have hset := hrelease.move.toSliceSet
      rw [hrelease.logs.slice] at hset
      rw [hrelease.eq]
      exact .cons (.bump (.other trivial) hrelease.allowed (Bump.plain trivial) rfl)
        (.one (.setSlice hset rfl))
  | closeCandidate a =>
    rcases closeCandidateTx_ok h with ⟨-, rfl⟩ | ⟨-, _, _, _, _, _, commit, event, hcloses⟩
    · exact .nil _
    · rw [hcloses.writes]
      exact .one (.bump ⟨fun _ _ _ hk => (by cases hk), fun _ hk => (by cases hk),
        fun _ hk => (by cases hk), fun _ _ => ⟨a, rfl, rfl, rfl⟩⟩ hcloses.allowed (Bump.plain trivial) rfl)
  | authorizeHighRework a =>
    obtain ⟨_, hx⟩ := done_ok h
    obtain ⟨mid, ⟨e1, h1, rfl⟩, ⟨e2, h2, rfl⟩⟩ := authorizeHighReworkTx_ok hx
    exact .cons (.bump (.other trivial) h1 (Bump.plain trivial) rfl)
      (.one (.bump (.other trivial) h2 (Bump.plain trivial) rfl))
  | scheduleHumanAuthorizedRework a =>
    obtain ⟨_, hx⟩ := done_ok h
    obtain ⟨_, _, _, _, _, _, -, hallowed, rfl⟩ := scheduleHumanAuthorizedReworkTx_ok hx
    exact .one (.bump (.other trivial) hallowed (Bump.plain trivial) rfl)
  | scheduleRework a =>
    rcases scheduleReworkTx_ok h with ⟨-, rfl⟩ | ⟨-, hb⟩
    · exact .nil _
    · exact .bumps (.other trivial) (Bump.plain trivial) hb
  | acceptExecution a =>
    rcases acceptExecutionTx_ok h with ⟨-, rfl⟩ |
      ⟨-, ids, execution, commit, rows, manifest, event, haccepts⟩
    · exact .nil _
    · obtain ⟨approvals, -, rfl⟩ := haccepts.writes
      exact .one (.bump (.other trivial) haccepts.allowed (Bump.plain trivial) rfl)
  | reconcileSlice a =>
    obtain ⟨_, hx⟩ := done_ok h
    rcases reconcileSliceTx_ok hx with rfl | ⟨row, event, hadd, rfl⟩ |
      ⟨set, old, event, hmove, -, rfl⟩
    · exact .nil _
    · exact .one (.addSlice hadd.bound hadd.free rfl)
    · exact .one (.setSlice hmove.toSliceSet rfl)
  | _ => exact .frame (Call.records_core (by trivial) h)

/-! ## Invariants -/

/-- An invariant of the core that every core step of every call keeps holds in
every state of a run. -/
theorem Run.core {allowed : Env → Call → Db → Prop} {past : List Db} {P : Db → Prop}
    (hinit : P Db.init)
    (hstep : ∀ env call start db db', allowed env call start →
      CoreStep (call.Makes env start) db db' → P db → P db')
    (h : Run allowed past db) : P db ∧ ∀ old ∈ past, P old :=
  h.invariant hinit fun env _ call db _ _ hok _ hP hx =>
    (Call.coreRun hx).invariant (fun _ _ => hstep env call db _ _ hok) hP

/-- A property of one execution's row and log that every kind of step keeps. -/
structure ExecutionInvariant (made : Bump → Db → Prop) (id : String)
    (P : Option SliceExecution → List TransitionEvent → Prop) : Prop where
  create : ∀ {spec key db new event log}, Creates spec key db new event → spec.executionId = id →
    P none log → P (some new) (log ++ [event])
  renew : ∀ {r log owner generation now expires}, FenceLive r owner generation now →
    P (some r) log → P (some (renewed now expires r)) log
  bump : ∀ {b db r event log}, made b db → b.executionId = id → db.execution? id = some r →
    b.On r event → P (some r) log → P (some (b.set r)) (log ++ [event])

theorem ExecutionInvariant.step {made : Bump → Db → Prop} {id : String}
    {P : Option SliceExecution → List TransitionEvent → Prop} (hP : ExecutionInvariant made id P)
    (h : CoreStep made db db') (hdb : P (db.execution? id) (db.events id)) :
    P (db'.execution? id) (db'.events id) := by
  cases h.execution id with
  | keep row log =>
    rw [row, log]
    exact hdb
  | create creates ofId row log =>
    have hnone : db.execution? id = none := ofId ▸ creates.free
    rw [row, log]
    exact hP.create creates ofId (hnone ▸ hdb)
  | renew found live row log =>
    rw [row, log]
    exact hP.renew live (found ▸ hdb)
  | bump from_call ofId found on row log =>
    rw [row, log]
    exact hP.bump from_call ofId found on (found ▸ hdb)

/-- A property of every execution that holds of none at all and is kept by every
kind of step holds in every reachable state. -/
theorem Reachable.execution {P : Option SliceExecution → List TransitionEvent → Prop} {id : String}
    (hinit : P none [])
    (hP : ∀ env call start, ExecutionInvariant (Call.Makes call env start) id P)
    (h : Reachable db) : P (db.execution? id) (db.events id) := by
  obtain ⟨past, run⟩ := h
  exact (run.core (P := fun db => P (db.execution? id) (db.events id)) hinit
    fun env call start db db' _ hstep => (hP env call start).step hstep).1

end Adcp.L4
