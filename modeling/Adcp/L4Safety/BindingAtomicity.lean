import Adcp.L4Safety.SliceEvents
import Adcp.L4Safety.TerminalStates

/-!
# Deferred bindings are atomic and exclusive

Binding, finalizing and releasing a deferred Slice write four or five tables, and
may be interrupted between any two of the writes.

* `AllOrNothing`: a transaction that commits has its whole effect, any other none.
* `OpenUnique`: a repository has at most one open execution of a Slice; the partial
  unique index is asked at every insertion, and no execution is opened again.
* `deferred_binding_atomic_exclusive`: both, in every state of every run.
-/
namespace Adcp.L4

open Adcp.L1 Adcp.L2 Adcp.L3 ExecutionState

variable {env : Env} {snap db db' : Db} {call : Call} {c : Commit} {past : List Db}

/-! ## Atomicity -/

/-- What commits afresh has `effect`; a replay and an error leave nothing. -/
def AllOrNothing (x : Tx PyError Db Commit) (db : Db) (effect : Db → Prop) : Prop :=
  match Tx.atomically x db with
  | (.ok .fresh, db') => effect db'
  | (_, db') => db' = db

theorem allOrNothing {x : Tx PyError Db Commit} {effect : Db → Prop}
    (hx : ∀ c db', x db = .ok (c, db') → (c = .replayed ∧ db' = db) ∨ (c = .fresh ∧ effect db')) :
    AllOrNothing x db effect := by
  unfold AllOrNothing Tx.atomically
  cases h : x db with
  | error e => rfl
  | ok r =>
    obtain ⟨c, db'⟩ := r
    rcases hx c db' h with ⟨rfl, rfl⟩ | ⟨rfl, heffect⟩
    · rfl
    · exact heffect

/-- The execution `row` with its event, the Maker context, and the bound Slice row
with its event. -/
def BindEffect (a : BindDeferredExecution) (db db' : Db) : Prop :=
  ∃ row event context set old sliceEvent,
    BindWrites a db db' row event context set old sliceEvent ∧ old.activeExecutionId = none

/-- The cancelled execution with its event, and the freed Slice row with its event. -/
def ReleaseEffect (a : ReleaseDeferred) (env : Env) (db db' : Db) : Prop :=
  ∃ event set old sliceEvent, ReleaseWrites a env db db' event set old sliceEvent

/-- The execution and the Slice row bound to it, both with the result and an event. -/
def FinalizeEffect (a : FinalizeDeferredResultCommit) (env : Env) (db db' : Db) : Prop :=
  ∃ event state set sliceEvent, FinalizeWrites a env db db' event state set state sliceEvent

/-- With distinct Slice ids a finalization rewrites the Slice it is bound to. -/
theorem finalizeEffect {a : FinalizeDeferredResultCommit}
    (hd : (db.sliceControlState.map (·.sliceId)).Nodup) {event : TransitionEvent}
    {state old : SliceControlState} {set : SliceControlState → SliceControlState}
    {sliceEvent : SliceControlEvent}
    (h : FinalizeWrites a env db db' event state set old sliceEvent) : FinalizeEffect a env db db' := by
  have hmem : state ∈ db.sliceControlState := List.mem_of_find?_eq_some h.bound
  have hold : db.slice? state.sliceId = some old := h.sets.found
  have hstate : db.slice? state.sliceId = some state := (Table.mem_iff_lookup hd).mp hmem
  obtain rfl : old = state := Option.some.inj (hold.symm.trans hstate)
  exact ⟨event, _, set, sliceEvent, h⟩

/-! ## Exclusivity -/

/-- Open executions of one Slice in one repository are one execution. -/
def OpenUnique (db : Db) : Prop :=
  ∀ id id' r r', db.execution? id = some r → db.execution? id' = some r' →
    r.state ∉ terminalStates → r'.state ∉ terminalStates →
    r.sourceRoot = r'.sourceRoot → r.sliceId = r'.sliceId → id = id'

/-- What `set` makes of a row is open only if the row is, and is of the same Slice. -/
structure StaysClosed (r r' : SliceExecution) : Prop where
  root : r'.sourceRoot = r.sourceRoot
  slice : r'.sliceId = r.sliceId
  closed : r'.state ∉ terminalStates → r.state ∉ terminalStates

theorem StaysClosed.refl (r : SliceExecution) : StaysClosed r r := ⟨rfl, rfl, fun h => h⟩

theorem Bump.On.staysClosed {b : Bump} {r : SliceExecution} {event : TransitionEvent}
    (h : Bump.On b r event) : StaysClosed r (b.set r) := by
  refine ⟨?_, ?_, fun hopen hclosed => ?_⟩
  · obtain ⟨_, k, _, _⟩ := b
    cases k <;> rfl
  · obtain ⟨_, k, _, _⟩ := b
    cases k <;> rfl
  · by_cases hkind : ∃ commit, b.kind = .resultRegistered commit
    · -- a registered result keeps the state
      obtain ⟨commit, hkind⟩ := hkind
      obtain ⟨_, k, _, _⟩ := b
      cases hkind
      exact hopen hclosed
    · rw [(Bump.On.absorbs h hclosed fun commit hk => hkind ⟨commit, hk⟩).1] at hopen
      exact hopen hclosed

/-- Rows that are rewritten without being opened stay exclusive. -/
theorem OpenUnique.rewrite (h : OpenUnique db)
    (hrows : ∀ id r', db'.execution? id = some r' →
      ∃ r, db.execution? id = some r ∧ StaysClosed r r') : OpenUnique db' := by
  intro id id' r r' hr hr' hopen hopen' hroot hslice
  obtain ⟨q, hq, hstays⟩ := hrows id r hr
  obtain ⟨q', hq', hstays'⟩ := hrows id' r' hr'
  refine h id id' q q' hq hq' (hstays.closed hopen) (hstays'.closed hopen') ?_ ?_
  · rw [← hstays.root, ← hstays'.root, hroot]
  · rw [← hstays.slice, ← hstays'.slice, hslice]

/-- A new execution finds no open one of its Slice. -/
theorem unopened {row r : SliceExecution} {id : String}
    (hunopened : openConflict db.sliceExecution row = false) (hr : db.execution? id = some r)
    (hid : id ≠ row.executionId) (hopen : row.state ∉ terminalStates) (hopen' : r.state ∉ terminalStates)
    (hroot : r.sourceRoot = row.sourceRoot) (hslice : r.sliceId = row.sliceId) : False := by
  have hkey : r.executionId = id := Table.lookup_key hr
  have hmem : r ∈ db.sliceExecution := Table.lookup_mem hr
  have hconflict : openConflict db.sliceExecution row = true := by
    unfold openConflict
    rw [decide_eq_true hopen, Bool.true_and, List.any_eq_true]
    refine ⟨r, hmem, ?_⟩
    simp only [Bool.and_eq_true, decide_eq_true_eq]
    exact ⟨⟨⟨hkey ▸ hid, hopen'⟩, hroot⟩, hslice⟩
  rw [hunopened] at hconflict
  cases hconflict

theorem OpenUnique.create {spec : ExecutionCreate} {key : String} {row : SliceExecution}
    {event : TransitionEvent} (h : OpenUnique db) (hnew : Creates spec key db row event)
    (hrows : db'.sliceExecution = db.sliceExecution ++ [row]) : OpenUnique db' := by
  obtain ⟨sourceRoot, now, rfl⟩ := hnew.shape
  have hfree := hnew.free
  have hlookup (id : String) : db'.execution? id = if id = spec.executionId then
      some (spec.row key sourceRoot now) else db.execution? id := by
    unfold Db.execution? at hfree ⊢
    rw [hrows]
    exact Table.lookup_append hfree
  have hready : (spec.row key sourceRoot now).state ∉ terminalStates := by
    show READY ∉ terminalStates
    decide
  intro id id' r r' hr hr' hopen hopen' hroot hslice
  rw [hlookup] at hr hr'
  split at hr
  · rename_i hid
    cases hr
    split at hr'
    · rename_i hid'
      exact hid.trans hid'.symm
    · rename_i hid'
      exact (unopened hnew.unopened hr' hid' hready hopen' hroot.symm hslice.symm).elim
  · rename_i hid
    split at hr'
    · cases hr'
      exact (unopened hnew.unopened hr hid hready hopen hroot hslice).elim
    · exact h id id' r r' hr hr' hopen hopen' hroot hslice

theorem CoreStep.openUnique {made : Bump → Db → Prop} (hstep : CoreStep made db db')
    (h : OpenUnique db) : OpenUnique db' := by
  -- the rows `t` answer the queries of both databases
  have same {other : Db} (hrows : db'.sliceExecution = other.sliceExecution) (id : String) :
      db'.execution? id = other.execution? id := by
    unfold Db.execution?
    rw [hrows]
  have bumped {b : Bump} {event : TransitionEvent} (allowed : b.Allowed db event)
      (hrows : db'.sliceExecution = (db.bump b event).sliceExecution) : OpenUnique db' := by
    obtain ⟨row, hrow, hon⟩ := allowed
    refine h.rewrite fun id r' hr' => ?_
    rw [same hrows, db.bump_execution?] at hr'
    split at hr'
    · rename_i hid
      rw [hid, hrow] at hr'
      cases hr'
      exact ⟨row, hid ▸ hrow, Bump.On.staysClosed hon⟩
    · exact ⟨r', hr', .refl r'⟩
  have kept (hrows : db'.sliceExecution = db.sliceExecution) : OpenUnique db' :=
    h.rewrite fun id r' hr' => ⟨r', (same hrows id).symm.trans hr', .refl r'⟩
  cases hstep with
  | frame hcore => exact kept (core_eq.mp hcore).1
  | create new hcore => exact h.create new (core_eq.mp hcore).1
  | @renew id row owner generation now expires found live hcore =>
    refine h.rewrite fun id' r' hr' => ?_
    rw [same (core_eq.mp hcore).1, db.renew_execution?] at hr'
    split at hr'
    · rename_i hid
      rw [hid, found] at hr'
      cases hr'
      exact ⟨row, hid ▸ found, rfl, rfl, fun hopen => hopen⟩
    · exact ⟨r', hr', .refl r'⟩
  | bump _ allowed _ hcore => exact bumped allowed (core_eq.mp hcore).1
  | finalize _ _ allowed _ _ hcore => exact bumped allowed (core_eq.mp hcore).1
  | addSlice _ _ hcore => exact kept (core_eq.mp hcore).1
  | setSlice _ hcore => exact kept (core_eq.mp hcore).1

theorem Run.openUnique {allowed : Env → Call → Db → Prop} (h : Run allowed past db) :
    OpenUnique db :=
  (h.core (fun _ _ _ _ hr => by cases hr) fun _ _ _ _ _ _ hstep hP => hstep.openUnique hP).1

/-- **Deferred bindings are atomic and exclusive.** In every state of every run, for
every call and every fault: a binding, a finalization and a release each commit their
whole effect or leave the database as it was, and at most one execution of a Slice in
a repository is open. -/
theorem deferred_binding_atomic_exclusive (h : Run (fun _ _ _ => True) past db) :
    (∀ env a, AllOrNothing (bindDeferredExecutionTx env a) db (BindEffect a db)) ∧
    (∀ env a, AllOrNothing (finalizeDeferredResultCommitTx env a) db (FinalizeEffect a env db)) ∧
    (∀ env a, AllOrNothing (releaseDeferredTx env a) db (ReleaseEffect a env db)) ∧
    (∀ r ∈ db.sliceExecution, ∀ r' ∈ db.sliceExecution, r.state ∉ terminalStates →
      r'.state ∉ terminalStates → r.sourceRoot = r'.sourceRoot → r.sliceId = r'.sliceId → r = r') := by
  have hd := h.sliceLogged.distinct
  refine ⟨fun env a => allOrNothing fun c db' hx => ?_, fun env a => allOrNothing fun c db' hx => ?_,
    fun env a => allOrNothing fun c db' hx => ?_, fun r hr r' hr' hopen hopen' hroot hslice => ?_⟩
  · rcases bindDeferredExecutionTx_ok hx with hreplay | ⟨hc, hwrites⟩
    · exact Or.inl hreplay
    · obtain ⟨row, event, context, set, old, sliceEvent, hwrites, hnone⟩ := hwrites
      exact Or.inr ⟨hc, row, event, context, set, old, sliceEvent, hwrites, hnone⟩
  · rcases finalizeDeferredResultCommitTx_ok hx with hreplay | ⟨hc, hwrites⟩
    · exact Or.inl hreplay
    · obtain ⟨event, state, set, old, sliceEvent, hwrites⟩ := hwrites
      exact Or.inr ⟨hc, finalizeEffect hd hwrites⟩
  · rcases releaseDeferredTx_ok hx with hreplay | ⟨hc, hwrites⟩
    · exact Or.inl hreplay
    · obtain ⟨event, set, old, sliceEvent, hwrites⟩ := hwrites
      exact Or.inr ⟨hc, event, set, old, sliceEvent, hwrites⟩
  · have hr := h.reachable.mem_execution hr
    have hr' := h.reachable.mem_execution hr'
    have hid := h.openUnique _ _ r r' hr hr' hopen hopen' hroot hslice
    rw [← hid] at hr'
    exact Option.some.inj (hr.symm.trans hr')

abbrev sampleRelease : ReleaseDeferred where
  executionId := "execution"
  sliceId := "slice"
  expectedExecutionStateVersion := 2
  expectedSliceStateVersion := 0
  operationKey := sampleKey '5'
  releaseReason := "BASE_STALE"
  authorityRef := "authority"
  actorId := "controller"

/-- A release that is interrupted behind its first write. -/
theorem deferred_binding_atomic_exclusive_bound :
    AllOrNothing (releaseDeferredTx { sampleEnv "event-4" with
      fault := fun point => if point = "execution_state" then some (storeError "FAULT") else none }
      sampleRelease) sampleBound
      (ReleaseEffect sampleRelease { sampleEnv "event-4" with
        fault := fun point => if point = "execution_state" then some (storeError "FAULT") else none }
        sampleBound) := by
  obtain ⟨past, run⟩ := sampleBound_reachable
  exact (deferred_binding_atomic_exclusive run).2.2.1 _ _

end Adcp.L4
