import Adcp.L1Base.VersionedLog
import Adcp.L4Safety.CoreSteps

/-!
# The event log of an execution

Every operation that moves an execution writes the row and one event per move.
In every reachable state the two agree: the events of an execution are a
versioned log of its row.

* `LogAgrees`: the row and its events agree, and `Move` permitted every event.
* `LogAgrees.invariant`: every core step keeps that, when `Move` permits its bump.
* `log_agrees_with_row`: what it means for the rows of a reachable state.
-/
namespace Adcp.L4

open Adcp.L1 Adcp.L2 Adcp.L3 ExecutionState

/-- How an event is read. -/
def eventView : LogView TransitionEvent ExecutionState where
  source e := e.fromState
  target e := e.toState
  version e := e.toStateVersion

/-- The events of an execution are a log of its row. -/
def LogAgrees (Move : List TransitionEvent → ExecutionState → TransitionEvent → Prop) :
    Option SliceExecution → List TransitionEvent → Prop
  | none, log => log = []
  | some row, log => ∃ n : Nat, row.stateVersion = n ∧ LogOf eventView Move log row.state n

variable {Move : List TransitionEvent → ExecutionState → TransitionEvent → Prop} {db db' : Db}

theorem LogAgrees.create {spec : ExecutionCreate} {key : String} {new : SliceExecution}
    {event : TransitionEvent} {log : List TransitionEvent} (h : Creates spec key db new event)
    (hlog : LogAgrees Move none log) : LogAgrees Move (some new) (log ++ [event]) := by
  obtain ⟨sourceRoot, now, rfl⟩ := h.shape
  obtain rfl : log = [] := hlog
  have hopened : LogOf eventView Move [event] event.toState 0 := .opened h.source h.version
  rw [h.target] at hopened
  exact ⟨0, rfl, hopened⟩

theorem LogAgrees.bump {b : Bump} {r : SliceExecution} {event : TransitionEvent}
    {log : List TransitionEvent} (h : b.On r event) (hmove : Move log r.state event)
    (hlog : LogAgrees Move (some r) log) : LogAgrees Move (some (b.set r)) (log ++ [event]) := by
  obtain ⟨n, hn, hlog⟩ := hlog
  have hversion : event.toStateVersion = n + 1 := by rw [h.logs.version, hn]
  have hmoved := hlog.moved h.logs.source hversion hmove
  refine ⟨n + 1, ?_, ?_⟩
  · rw [b.set_version, hn]
    rfl
  · have htarget : eventView.target event = (b.set r).state := h.logs.target
    exact htarget ▸ hmoved

/-- Every core step keeps the agreement, when `Move` permits its bump. -/
theorem LogAgrees.invariant {made : Bump → Db → Prop} {id : String}
    (hmove : ∀ b r event log, Bump.On b r event → LogAgrees Move (some r) log → Move log r.state event) :
    ExecutionInvariant made id (LogAgrees Move) where
  create h _ hlog := hlog.create h
  renew _ hlog := hlog
  bump _ _ _ h hlog := hlog.bump h (hmove _ _ _ _ h hlog)

/-- No two rows have the same id. -/
theorem Reachable.distinct (h : Reachable db) : (db.sliceExecution.map (·.executionId)).Nodup := by
  obtain ⟨past, run⟩ := h
  refine (run.core (P := fun db => (db.sliceExecution.map (·.executionId)).Nodup) (by simp [Db.init])
    fun env call start db db' _ hstep hdb => ?_).1
  cases hstep with
  | frame h | addSlice _ _ h | setSlice _ h => rw [(core_eq.mp h).1]; exact hdb
  | @create spec key row event new h =>
    rw [(core_eq.mp h).1]
    obtain ⟨sourceRoot, now, rfl⟩ := new.shape
    exact Table.distinct_append new.free hdb
  | renew _ _ h =>
    rw [(core_eq.mp h).1]
    exact Table.distinct_update (fun _ hr => hr) hdb
  | @bump b event _ _ _ h =>
    rw [(core_eq.mp h).1]
    exact Table.distinct_update (fun r hr => (b.set_id r).trans hr) hdb
  | @finalize b event commit state old set _ _ _ _ _ h =>
    rw [(core_eq.mp h).1]
    exact Table.distinct_update (fun r hr => (b.set_id r).trans hr) hdb

theorem Reachable.mem_execution (h : Reachable db) {row : SliceExecution}
    (hrow : row ∈ db.sliceExecution) : db.execution? row.executionId = some row :=
  (Table.mem_iff_lookup h.distinct).mp hrow

theorem Reachable.logAgrees (h : Reachable db) (id : String) :
    LogAgrees (fun _ _ _ => True) (db.execution? id) (db.events id) :=
  h.execution rfl fun _ _ _ => LogAgrees.invariant fun _ _ _ _ _ _ => trivial

/-- A heartbeat and the recording operations add no event and bump no version. -/
theorem Call.quiet {env : Env} {snap : Db} {call : Call}
    (hcall : call.Records ∨ ∃ a, call = .heartbeat a) :
    (call.exec env snap db).transitionEvent = db.transitionEvent ∧
      ∀ id, ((call.exec env snap db).execution? id).map (·.stateVersion) =
        (db.execution? id).map (·.stateVersion) := by
  rcases call.exec_cases env snap db with hx | ⟨c, hx⟩
  · rw [hx]
    exact ⟨rfl, fun _ => rfl⟩
  rcases hcall with hrecords | ⟨a, rfl⟩
  · obtain ⟨hrows, hlog, -⟩ := core_eq.mp (Call.records_core hrecords hx)
    refine ⟨hlog, fun id => ?_⟩
    unfold Db.execution?
    rw [hrows]
  · obtain ⟨u, hx⟩ := done_ok hx
    obtain ⟨row, expires, hrow, -, hdb⟩ := heartbeatTx_ok hx
    rw [hdb]
    refine ⟨rfl, fun id => ?_⟩
    rw [Db.renew_execution?]
    split
    · rw [Option.map_map]
      rfl
    · rfl

/-- **The event log and the row agree.** In every reachable state the events of
an execution carry the versions `0..state_version`, each once and in order; each
starts where the one with the preceding version ended; the last one ends in the
row's state. A heartbeat and the recording operations add no event and bump no
version. -/
theorem log_agrees_with_row (h : Reachable db) :
    (∀ row ∈ db.sliceExecution,
      (∃ n : Nat, row.stateVersion = n ∧ (db.events row.executionId).map (·.toStateVersion) =
        (List.range (n + 1)).map Int.ofNat) ∧
      (∀ e ∈ db.events row.executionId, ∀ e' ∈ db.events row.executionId,
        e'.toStateVersion = e.toStateVersion + 1 → e'.fromState = some e.toState) ∧
      (∀ e ∈ db.events row.executionId, e.toStateVersion = row.stateVersion →
        e.toState = row.state)) ∧
    ∀ env snap call, (call.Records ∨ ∃ a, call = Call.heartbeat a) →
      (call.exec env snap db).transitionEvent = db.transitionEvent ∧
      ∀ id, ((call.exec env snap db).execution? id).map (·.stateVersion) =
        (db.execution? id).map (·.stateVersion) := by
  refine ⟨fun row hrow => ?_, fun env snap call hcall => Call.quiet hcall⟩
  have hagrees := h.logAgrees row.executionId
  rw [h.mem_execution hrow] at hagrees
  obtain ⟨n, hn, hlog⟩ := hagrees
  refine ⟨⟨n, hn, hlog.versions⟩, fun e he e' he' hv => hlog.chain_of_version he he' hv,
    fun e he hv => hlog.target_of_version he (hv.trans hn)⟩

theorem log_agrees_with_leased_row :
    (sampleLeased.events "execution").map (·.toStateVersion) = [0, 1] := by
  obtain ⟨n, hn, hversions⟩ := ((log_agrees_with_row sampleLeased_reachable).1 sampleLeasedRow
    (List.mem_singleton.mpr rfl)).1
  obtain rfl : n = 1 := by
    have hone : (1 : Int) = n := hn
    omega
  exact hversions

end Adcp.L4
