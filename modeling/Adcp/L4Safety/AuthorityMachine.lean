import Adcp.L4Safety.SliceEvents

/-!
# The control authority

Three operations move the authority row. A switch and a rollback each append the
event that says so, and a trigger applies it; a snapshot reconcile rewrites the
row and records no event.

* `AuthorityChange`, `AuthorityHistory`: the changes a run has committed, and what
  the row, the events and the generation have to do with them.
* `AuthorityHistory.step`: a call commits one change more, or none.
* `authority_machine`: every run has such a history, and a repeated request changes
  nothing.
-/
namespace Adcp.L4

open Adcp.L1 Adcp.L2 Adcp.L3 ExecutionState

/-! ## Changes -/

inductive AuthorityChange where
  | snapshot (slice rollback : String) (updatedAt : Timestamp)
  | event (e : AuthorityTransitionEvent)

namespace AuthorityChange

/-- The row after a change: the `UPDATE` of a reconcile, or the trigger
`authority_transition_event_apply`.
mirrors src/adcp/store/sqlite.py:1817-1830, src/adcp/store/migrations.py:602-619 -/
def apply (row : ControlAuthorityState) : AuthorityChange → ControlAuthorityState
  | snapshot slice rollback t => row.reconciled slice rollback t
  | event e =>
    { row with
      mode := e.toMode
      authorityGeneration := e.toGeneration
      cutoverId := if e.eventType = .AUTHORITY_SWITCH then some e.cutoverId else none
      switchedAt := if e.eventType = .AUTHORITY_SWITCH then some e.createdAt else none
      updatedAt := e.createdAt }

def event? : AuthorityChange → Option AuthorityTransitionEvent
  | snapshot .. => none
  | event e => some e

/-- The cutover id of a switch. -/
def switch? : AuthorityChange → Option String
  | snapshot .. => none
  | event e => if e.eventType = .AUTHORITY_SWITCH then some e.cutoverId else none

theorem switch?_event (e : AuthorityTransitionEvent) : (event e).switch? =
    if e.eventType = .AUTHORITY_SWITCH then some e.cutoverId else none := rfl

end AuthorityChange

/-- The row that the changes make of the first one. -/
def authorityAfter (history : List AuthorityChange) : ControlAuthorityState :=
  history.foldl AuthorityChange.apply Db.init.controlAuthorityState

/-- The last change was a switch to `cutover`. -/
def SwitchedTo (history : List AuthorityChange) (cutover : String) : Prop :=
  ∃ e, history.getLast? = some (.event e) ∧ e.eventType = .AUTHORITY_SWITCH ∧ e.cutoverId = cutover

/-- When a change may follow the changes `before`. -/
def AuthorityChange.Permitted (before : List AuthorityChange) : AuthorityChange → Prop
  | snapshot .. => (authorityAfter before).mode = .TRANSITIONAL_AUTHORITY
  | event e =>
    let row := authorityAfter before
    e.fromMode = row.mode ∧ e.fromGeneration = row.authorityGeneration ∧
      e.toGeneration = row.authorityGeneration + 1 ∧
      e.sliceSnapshotFingerprint = row.sliceSnapshotFingerprint ∧
      e.rollbackSnapshotFingerprint = row.rollbackSnapshotFingerprint ∧
      match e.eventType with
      | .AUTHORITY_SWITCH =>
        e.fromMode = .TRANSITIONAL_AUTHORITY ∧ e.toMode = .CONTROL_STORE_AUTHORITY ∧
          row.cutoverId = none ∧ row.switchedAt = none
      | .AUTHORITY_ROLLBACK =>
        e.fromMode = .CONTROL_STORE_AUTHORITY ∧ e.toMode = .TRANSITIONAL_AUTHORITY ∧
          row.cutoverId = some e.cutoverId ∧ SwitchedTo before e.cutoverId

/-- The change a call makes when it commits one. -/
def Call.authorityChange? (env : Env) : Call → Option AuthorityChange
  | .reconcileTransitionalAuthority _ slice rollback =>
    some (.snapshot slice rollback (env.clock 0))
  | .transitionAuthority a => some (.event (a.event (env.uuid 0) (env.clock 1)))
  | _ => none

/-! ## Histories -/

/-- `history` holds the changes committed so far: they make the row, their events are
the log, the generation counts them, and each was permitted when it was made. -/
structure AuthorityHistory (db : Db) (history : List AuthorityChange) : Prop where
  row : authorityAfter history = db.controlAuthorityState
  events : history.filterMap AuthorityChange.event? = db.authorityTransitionEvent
  generation : db.controlAuthorityState.authorityGeneration = history.length
  permitted : Each AuthorityChange.Permitted history
  cutovers : (history.filterMap AuthorityChange.switch?).Nodup
  keys : (db.authorityTransitionEvent.map (·.operationKey)).Nodup
  current : db.controlAuthorityState.mode = .CONTROL_STORE_AUTHORITY →
    ∃ cutover, db.controlAuthorityState.cutoverId = some cutover ∧ SwitchedTo history cutover

variable {env : Env} {snap db db' : Db} {call : Call} {c : Commit} {past : List Db}
  {history : List AuthorityChange}

theorem authorityAfter_append (history : List AuthorityChange) (change : AuthorityChange) :
    authorityAfter (history ++ [change]) = change.apply (authorityAfter history) := by
  unfold authorityAfter
  rw [List.foldl_append, List.foldl_cons, List.foldl_nil]

theorem filterMap_append_singleton {α β : Type} (f : α → Option β) (l : List α) (a : α) :
    (l ++ [a]).filterMap f = l.filterMap f ++ (f a).toList := by
  rw [List.filterMap_append]
  cases h : f a with
  | none => rw [List.filterMap_cons_none h, List.filterMap_nil, Option.toList_none]
  | some b => rw [List.filterMap_cons_some h, List.filterMap_nil, Option.toList_some]

theorem AuthorityHistory.init : AuthorityHistory Db.init [] where
  row := rfl
  events := rfl
  generation := rfl
  permitted := .nil
  cutovers := List.nodup_nil
  keys := List.nodup_nil
  current h := by cases h

theorem AuthorityHistory.of_same (h : AuthorityHistory db history)
    (hsame : authorityTables db' = authorityTables db) : AuthorityHistory db' history := by
  obtain ⟨hrow, hevents⟩ := Prod.ext_iff.mp hsame
  have hrow : db'.controlAuthorityState = db.controlAuthorityState := hrow
  have hevents : db'.authorityTransitionEvent = db.authorityTransitionEvent := hevents
  refine ⟨?_, ?_, ?_, h.permitted, h.cutovers, ?_, ?_⟩
  · rw [hrow]
    exact h.row
  · rw [hevents]
    exact h.events
  · rw [hrow]
    exact h.generation
  · rw [hevents]
    exact h.keys
  · rw [hrow]
    exact h.current

theorem AuthorityHistory.snapshot (h : AuthorityHistory db history) {slice rollback : String}
    {t : Timestamp} (hmode : db.controlAuthorityState.mode = .TRANSITIONAL_AUTHORITY)
    (hstep : authorityTables db' =
      (db.controlAuthorityState.reconciled slice rollback t, db.authorityTransitionEvent)) :
    AuthorityHistory db' (history ++ [.snapshot slice rollback t]) := by
  obtain ⟨hrow, hevents⟩ := Prod.ext_iff.mp hstep
  have hrow : db'.controlAuthorityState = db.controlAuthorityState.reconciled slice rollback t := hrow
  have hevents : db'.authorityTransitionEvent = db.authorityTransitionEvent := hevents
  refine ⟨?_, ?_, ?_, h.permitted.append ?_, ?_, ?_, fun hcontrol => ?_⟩
  · rw [authorityAfter_append, h.row, hrow]
    rfl
  · rw [filterMap_append_singleton, h.events, hevents]
    exact List.append_nil _
  · rw [hrow, List.length_append, List.length_singleton]
    show db.controlAuthorityState.authorityGeneration + 1 = _
    rw [h.generation]
    omega
  · show (authorityAfter history).mode = _
    rw [h.row]
    exact hmode
  · rw [filterMap_append_singleton]
    show (_ ++ []).Nodup
    rw [List.append_nil]
    exact h.cutovers
  · rw [hevents]
    exact h.keys
  · -- a reconcile leaves the mode as it found it
    rw [hrow] at hcontrol
    cases hmode.symm.trans hcontrol

/-- The cutover ids of the switches are those of the switch events. -/
theorem AuthorityHistory.mem_cutovers (h : AuthorityHistory db history) {cutover : String}
    (hmem : cutover ∈ history.filterMap AuthorityChange.switch?) :
    ∃ e ∈ db.authorityTransitionEvent, e.eventType = .AUTHORITY_SWITCH ∧ e.cutoverId = cutover := by
  obtain ⟨change, hchange, hswitch⟩ := List.mem_filterMap.mp hmem
  cases change with
  | snapshot => cases hswitch
  | event e =>
    rw [AuthorityChange.switch?_event] at hswitch
    split at hswitch
    · rename_i htype
      refine ⟨e, ?_, htype, Option.some.inj hswitch⟩
      rw [← h.events]
      exact List.mem_filterMap.mpr ⟨_, hchange, rfl⟩
    · cases hswitch

/-- A committed switch or rollback appends its event, which makes the row it answers. -/
theorem AuthorityHistory.transits (h : AuthorityHistory db history) {a : TransitionAuthority}
    {id : String} {t : Timestamp} (found : a.Transits env db)
    (hstep : authorityTables db' =
      (a.applied t, db.authorityTransitionEvent ++ [a.event id t])) :
    AuthorityHistory db' (history ++ [.event (a.event id t)]) := by
  obtain ⟨hrow, hevents⟩ := Prod.ext_iff.mp hstep
  have hrow : db'.controlAuthorityState = a.applied t := hrow
  have hevents : db'.authorityTransitionEvent = db.authorityTransitionEvent ++ [a.event id t] :=
    hevents
  have hlast : (history ++ [AuthorityChange.event (a.event id t)]).getLast? =
      some (.event (a.event id t)) := by
    rw [List.getLast?_append, List.getLast?_singleton, Option.some_or]
  refine ⟨?_, ?_, ?_, h.permitted.append ?_, ?_, ?_, fun hcontrol => ?_⟩
  · rw [authorityAfter_append, h.row, hrow]
    unfold AuthorityChange.apply TransitionAuthority.applied TransitionAuthority.event
    rw [← found.slice, ← found.rollback]
  · rw [filterMap_append_singleton, h.events, hevents]
    rfl
  · rw [hrow, List.length_append, List.length_singleton]
    show a.expectedGeneration + 1 = _
    rw [← found.generation, h.generation]
    omega
  · unfold AuthorityChange.Permitted
    rw [h.row]
    refine ⟨found.mode.symm, found.generation.symm, ?_, found.slice.symm, found.rollback.symm, ?_⟩
    · rw [found.generation]
      rfl
    · cases htype : a.eventType with
      | AUTHORITY_SWITCH =>
        have hmodes : a.fromMode = .TRANSITIONAL_AUTHORITY ∧ a.toMode = .CONTROL_STORE_AUTHORITY := by
          simp [TransitionAuthority.fromMode, TransitionAuthority.toMode, htype]
        simp only [TransitionAuthority.event, htype]
        exact ⟨hmodes.1, hmodes.2, found.fresh htype⟩
      | AUTHORITY_ROLLBACK =>
        have hmodes : a.fromMode = .CONTROL_STORE_AUTHORITY ∧ a.toMode = .TRANSITIONAL_AUTHORITY := by
          simp [TransitionAuthority.fromMode, TransitionAuthority.toMode, htype]
        have hid := (found.current htype).1
        obtain ⟨cutover, hcutover, hswitched⟩ := h.current (found.mode.trans hmodes.1)
        obtain rfl : cutover = a.cutoverId := Option.some.inj (hcutover.symm.trans hid)
        simp only [TransitionAuthority.event, htype]
        exact ⟨hmodes.1, hmodes.2, hid, hswitched⟩
  · rw [filterMap_append_singleton, AuthorityChange.switch?_event]
    split
    · rename_i htype
      refine List.nodup_append.mpr ⟨h.cutovers, List.pairwise_singleton _ _, fun x hx y hy => ?_⟩
      obtain rfl := List.mem_singleton.mp hy
      rintro rfl
      obtain ⟨e, he, hetype, hcutover⟩ := h.mem_cutovers hx
      exact (found.free e he).2 ⟨hcutover, hetype.trans htype.symm⟩
    · rw [Option.toList_none, List.append_nil]
      exact h.cutovers
  · rw [hevents, List.map_append, List.map_singleton]
    refine List.nodup_append.mpr ⟨h.keys, List.pairwise_singleton _ _, fun x hx y hy => ?_⟩
    obtain rfl := List.mem_singleton.mp hy
    rintro rfl
    obtain ⟨e, he, hkey⟩ := List.mem_map.mp hx
    exact found.unused e he hkey
  · rw [hrow] at hcontrol ⊢
    cases htype : a.eventType with
    | AUTHORITY_SWITCH =>
      refine ⟨a.cutoverId, ?_, _, hlast, htype, rfl⟩
      simp [TransitionAuthority.applied, htype]
    | AUTHORITY_ROLLBACK => simp [TransitionAuthority.applied, TransitionAuthority.toMode, htype] at hcontrol

/-- A committed call adds the change it makes. -/
theorem AuthorityHistory.step (h : AuthorityHistory db history)
    (hstep : AuthorityStep env call db db') :
    ∃ change, call.authorityChange? env = some change ∧
      AuthorityHistory db' (history ++ [change]) := by
  cases hstep with
  | snapshot from_call mode _ hstep =>
    subst from_call
    exact ⟨_, rfl, h.snapshot mode hstep⟩
  | transits from_call found hstep =>
    subst from_call
    exact ⟨_, rfl, h.transits found hstep⟩

/-! ## Runs -/

/-- What a later state still says of the authority. -/
structure AuthorityGrows (old new : Db) : Prop where
  events : old.authorityTransitionEvent <+: new.authorityTransitionEvent
  generation :
    old.controlAuthorityState.authorityGeneration ≤ new.controlAuthorityState.authorityGeneration

theorem AuthorityGrows.refl (db : Db) : AuthorityGrows db db :=
  ⟨List.prefix_refl _, Int.le_refl _⟩

theorem AuthorityGrows.trans {old mid new : Db} (h : AuthorityGrows old mid)
    (h' : AuthorityGrows mid new) : AuthorityGrows old new :=
  ⟨h.events.trans h'.events, Int.le_trans h.generation h'.generation⟩

theorem AuthorityGrows.of_same (h : authorityTables db' = authorityTables db) :
    AuthorityGrows db db' := by
  obtain ⟨hrow, hevents⟩ := Prod.ext_iff.mp h
  refine ⟨?_, ?_⟩
  · rw [show db'.authorityTransitionEvent = _ from hevents]
    exact List.prefix_refl _
  · rw [show db'.controlAuthorityState = _ from hrow]
    exact Int.le_refl _

theorem AuthorityStep.grows (h : AuthorityStep env call db db') : AuthorityGrows db db' ∧
    db.controlAuthorityState.authorityGeneration <
      db'.controlAuthorityState.authorityGeneration := by
  cases h with
  | snapshot _ _ _ h =>
    obtain ⟨hrow, hevents⟩ := Prod.ext_iff.mp h
    have hlt : db.controlAuthorityState.authorityGeneration <
        db'.controlAuthorityState.authorityGeneration := by
      rw [show db'.controlAuthorityState = _ from hrow]
      exact Int.lt_succ _
    refine ⟨⟨?_, Int.le_of_lt hlt⟩, hlt⟩
    have hevents' : db'.authorityTransitionEvent = db.authorityTransitionEvent := hevents
    exact hevents' ▸ List.prefix_refl _
  | @transits a _ found h =>
    obtain ⟨hrow, hevents⟩ := Prod.ext_iff.mp h
    have hlt : db.controlAuthorityState.authorityGeneration <
        db'.controlAuthorityState.authorityGeneration := by
      rw [show db'.controlAuthorityState = _ from hrow, found.generation]
      exact Int.lt_succ _
    refine ⟨⟨?_, Int.le_of_lt hlt⟩, hlt⟩
    rw [show db'.authorityTransitionEvent = _ from hevents]
    exact List.prefix_append _ _

/-- What a call leaves of the authority's tables, committed or not. -/
theorem Call.authorityExec (hd : (db.sliceControlState.map (·.sliceId)).Nodup) (env : Env)
    (snap : Db) (call : Call) :
    authorityTables (call.exec env snap db) = authorityTables db ∨
      AuthorityStep env call db (call.exec env snap db) := by
  rcases call.exec_cases env snap db with he | ⟨c, hx⟩
  · rw [he]
    exact Or.inl rfl
  · exact (Call.controlStep hd hx).authorityStep

theorem Run.authorityHistory {allowed : Env → Call → Db → Prop} (h : Run allowed past db) :
    ∃ history, AuthorityHistory db history := by
  induction h with
  | start => exact ⟨[], .init⟩
  | @call past db snap env call run seen ok ih =>
    obtain ⟨history, hhistory⟩ := ih
    rcases Call.authorityExec run.sliceLogged.distinct env snap call with hsame | hstep
    · exact ⟨history, hhistory.of_same hsame⟩
    · obtain ⟨change, -, hnew⟩ := hhistory.step hstep
      exact ⟨_, hnew⟩

theorem Run.authorityGrows {allowed : Env → Call → Db → Prop} (h : Run allowed past db) :
    ∀ old ∈ db :: past, AuthorityGrows old db := by
  induction h with
  | start =>
    intro old hold
    rw [List.mem_singleton.mp hold]
    exact .refl _
  | @call past db snap env call run seen ok ih =>
    intro old hold
    have hgrows : AuthorityGrows db (call.exec env snap db) := by
      rcases Call.authorityExec run.sliceLogged.distinct env snap call with hsame | hstep
      · exact .of_same hsame
      · exact hstep.grows.1
    rcases List.mem_cons.mp hold with rfl | hold
    · exact .refl _
    · exact (ih old hold).trans hgrows

/-! ## Repeated requests -/

/-- The checks of a request do not depend on the state. -/
theorem validate_anywhere {a : TransitionAuthority} (h : a.validate db = .ok ((), db))
    (other : Db) : a.validate other = .ok ((), other) := by
  unfold TransitionAuthority.validate requireSha256 at h ⊢
  obtain ⟨h1, h⟩ := Tx.require_bind_ok.mp h
  obtain ⟨h2, h⟩ := Tx.require_bind_ok.mp h
  obtain ⟨h3, h⟩ := Tx.require_bind_ok.mp h
  obtain ⟨h4, h⟩ := Tx.require_bind_ok.mp h
  obtain ⟨h5, h⟩ := Tx.require_bind_ok.mp h
  obtain ⟨h6, -⟩ := Tx.require_ok.mp h
  refine Tx.require_bind_ok.mpr ⟨h1, Tx.require_bind_ok.mpr ⟨h2, Tx.require_bind_ok.mpr ⟨h3, ?_⟩⟩⟩
  exact Tx.require_bind_ok.mpr ⟨h4, Tx.require_bind_ok.mpr ⟨h5, Tx.require_ok.mpr ⟨h6, rfl⟩⟩⟩

/-- The key of a logged event finds that event. -/
theorem AuthorityHistory.find_key (h : AuthorityHistory db history) {e : AuthorityTransitionEvent}
    (he : e ∈ db.authorityTransitionEvent) :
    db.authorityTransitionEvent.find? (·.operationKey = e.operationKey) = some e :=
  (Table.mem_iff_lookup h.keys).mp he

/-- A request that is in the log answers the row it made while that is the row, and
conflicts otherwise. -/
theorem AuthorityHistory.replay (h : AuthorityHistory db history) {a : TransitionAuthority}
    {id : String} {t : Timestamp} (hvalid : a.validate db = .ok ((), db))
    (hlogged : a.event id t ∈ db.authorityTransitionEvent) (env : Env) :
    transitionAuthorityTx env a db = (do
      begin env 0
      Tx.require (db.controlAuthorityState = a.applied t) (storeError "IDEMPOTENCY_CONFLICT")
      pure (a.applied t, true) : Tx PyError Db _) db := by
  unfold transitionAuthorityTx getControlAuthorityState
  rw [Tx.bind_of_ok hvalid]
  cases hbegin : begin env 0 db with
  | error e => rw [Tx.bind_of_error hbegin, Tx.bind_of_error hbegin]
  | ok r =>
    cases begin_ok hbegin
    rw [Tx.bind_of_ok hbegin, Tx.bind_of_ok hbegin]
    have hread : (Tx.read fun db => db.authorityTransitionEvent.find?
        (·.operationKey = a.operationKey) : Tx PyError Db _) db = .ok (some (a.event id t), db) :=
      Tx.read_ok.mpr (Prod.ext (h.find_key hlogged).symm rfl)
    have hrow : (Tx.read (·.controlAuthorityState) : Tx PyError Db _) db =
        .ok (db.controlAuthorityState, db) := Tx.read_ok.mpr rfl
    rw [Tx.bind_of_ok hread, Tx.bind_of_ok hrow]
    show (Tx.require _ _ >>= fun _ => (Tx.require _ _ >>= fun _ => pure _)) db = _
    refine (Tx.bind_of_ok (Tx.require_ok.mpr ⟨rfl, rfl⟩)).trans ?_
    by_cases hrow : db.controlAuthorityState = a.applied t
    · rw [hrow]
      rfl
    · have hleft := Tx.require_error (e := storeError "IDEMPOTENCY_CONFLICT") (s := db)
        |>.mpr ⟨hrow, rfl⟩
      exact (Tx.bind_of_error hleft).trans (Tx.bind_of_error hleft).symm

/-- A reconcile that has committed does not commit again. -/
theorem reconcile_again {generation : Int} {slice rollback : String} {env : Env}
    {found : Option ControlAuthorityState}
    (hpast : generation < db.controlAuthorityState.authorityGeneration)
    (h : reconcileTransitionalAuthorityTx env generation slice rollback db = .ok (found, db')) :
    found = some db.controlAuthorityState ∧ db' = db := by
  obtain ⟨-, hkept | ⟨-, hexpected, -⟩⟩ := reconcileTransitionalAuthorityTx_ok h
  · exact hkept
  · omega

/-- A call whose transaction leaves the database as it is, if it commits, leaves it so. -/
theorem Call.exec_same (env : Env) (snap : Db) (call : Call)
    (h : ∀ c db', call.tx env snap db = .ok (c, db') → db' = db) : call.exec env snap db = db := by
  rcases call.exec_cases env snap db with he | ⟨c, hx⟩
  · exact he
  · exact h c _ hx

/-- **The control authority is a generation machine.** Every state of every run has a
history of committed changes, snapshot reconciles and the logged events, whose fold is
the row and whose length is the generation; a switch is in it only where the row was
transitional and named no cutover, a rollback only after the switch of its cutover, and
no two switches share a cutover. A call adds the change it makes, or none. A request
that has committed changes nothing when it is repeated: a switch or a rollback answers
what it answered while that is the row, and conflicts otherwise; a reconcile answers
the row or fails. -/
theorem authority_machine (h : Run (fun _ _ _ => True) past db) :
    (∃ history, AuthorityHistory db history ∧ ∀ (env : Env) (snap : Db) (call : Call),
      authorityTables (call.exec env snap db) = authorityTables db ∨
      ∃ change, call.authorityChange? env = some change ∧
        AuthorityHistory (call.exec env snap db) (history ++ [change])) ∧
    ∀ (newer older : List Db) (before after : Db), db :: past = newer ++ after :: before :: older →
      (∀ (env₀ : Env) (a : TransitionAuthority) (row : ControlAuthorityState),
        transitionAuthorityTx env₀ a before = .ok ((row, false), after) →
        after.controlAuthorityState = row ∧ ∀ env snap,
          transitionAuthorityTx env a db = (do
            begin env 0
            Tx.require (db.controlAuthorityState = row) (storeError "IDEMPOTENCY_CONFLICT")
            pure (row, true) : Tx PyError Db _) db ∧
          (Call.transitionAuthority a).exec env snap db = db) ∧
      ∀ (env₀ : Env) (generation : Int) (slice rollback : String),
        reconcileTransitionalAuthorityTx env₀ generation slice rollback before = .ok (none, after) →
        ∀ env snap,
          (∀ found db', reconcileTransitionalAuthorityTx env generation slice rollback db =
            .ok (found, db') → found = some db.controlAuthorityState ∧ db' = db) ∧
          (Call.reconcileTransitionalAuthority generation slice rollback).exec env snap db = db := by
  obtain ⟨history, hhistory⟩ := h.authorityHistory
  refine ⟨⟨history, hhistory, fun env snap call => ?_⟩, fun newer older before after hsplit => ?_⟩
  · rcases Call.authorityExec h.sliceLogged.distinct env snap call with hsame | hstep
    · exact Or.inl hsame
    · exact Or.inr (hhistory.step hstep)
  · have hgrows : AuthorityGrows after db := h.authorityGrows after (by simp [hsplit])
    refine ⟨fun env₀ a row hx => ?_, fun env₀ generation slice rollback hx => ?_⟩
    · rcases transitionAuthorityTx_ok hx with ⟨hreplay, -⟩ | ⟨-, hvalid, -, hrow, hafter⟩
      · cases hreplay
      · have hlogged : a.event (env₀.uuid 0) (env₀.clock 1) ∈ db.authorityTransitionEvent := by
          refine hgrows.events.mem ?_
          rw [hafter]
          exact List.mem_append_right _ (List.mem_singleton.mpr rfl)
        have hreplay (env : Env) := hhistory.replay (validate_anywhere hvalid db) hlogged env
        refine ⟨?_, fun env snap => ⟨?_, Call.exec_same env snap _ fun c db' hx' => ?_⟩⟩
        · rw [hrow, hafter]
        · rw [hrow]
          exact hreplay env
        · obtain ⟨r, hx'⟩ := done_ok hx'
          rw [hreplay env] at hx'
          have hx' := begin_bind_ok hx'
          obtain ⟨-, hx'⟩ := Tx.require_bind_ok.mp hx'
          cases Tx.pure_ok.mp hx'
          rfl
    · obtain ⟨-, ⟨hfound, -⟩ | ⟨-, hexpected, hafter⟩⟩ := reconcileTransitionalAuthorityTx_ok hx
      · cases hfound
      · have hgeneration : after.controlAuthorityState.authorityGeneration = generation + 1 := by
          rw [hafter, ← hexpected]
          rfl
        have hpast : generation < db.controlAuthorityState.authorityGeneration := by
          have hle := hgrows.generation
          omega
        refine fun env snap => ⟨fun found db' => reconcile_again hpast,
          Call.exec_same env snap _ fun c db' hx' => ?_⟩
        obtain ⟨found, hx'⟩ := done_ok hx'
        exact (reconcile_again hpast hx').2

/-! ## A sample cutover

A reconcile, a switch of what it left, and the rollback of that switch. -/

abbrev reconciledAuthority : Db :=
  { Db.init with controlAuthorityState :=
    Db.init.controlAuthorityState.reconciled (sampleKey 'c') (sampleKey 'd') .epoch }

abbrev sampleCutover (eventType : AuthorityEventType) (generation : Int) (key : Char) :
    TransitionAuthority where
  eventType := eventType
  expectedGeneration := generation
  expectedSliceSnapshotFingerprint := sampleKey 'c'
  expectedRollbackSnapshotFingerprint := sampleKey 'd'
  cutoverId := "cutover"
  humanDecisionRef := "decision"
  operationKey := sampleKey key

abbrev sampleSwitch : TransitionAuthority := sampleCutover .AUTHORITY_SWITCH 1 '1'

abbrev sampleRollback : TransitionAuthority := sampleCutover .AUTHORITY_ROLLBACK 2 '2'

abbrev switchedAuthority : Db :=
  { reconciledAuthority with
    authorityTransitionEvent := [sampleSwitch.event "switch" .epoch]
    controlAuthorityState := sampleSwitch.applied .epoch }

abbrev rolledBackAuthority : Db :=
  { switchedAuthority with
    authorityTransitionEvent :=
      [sampleSwitch.event "switch" .epoch, sampleRollback.event "rollback" .epoch]
    controlAuthorityState := sampleRollback.applied .epoch }

theorem reconciledAuthority_tx :
    Tx.run (reconcileTransitionalAuthorityTx (sampleEnv "") 0 (sampleKey 'c') (sampleKey 'd')) Db.init =
      .ok (none, reconciledAuthority) := by
  have hinit : Db.init.controlAuthorityState.sliceSnapshotFingerprint ≠ sampleKey 'c' := by decide
  have hmode : Db.init.controlAuthorityState.mode = .TRANSITIONAL_AUTHORITY := rfl
  have hgeneration : Db.init.controlAuthorityState.authorityGeneration = 0 := rfl
  simp -dsimp [reconcileTransitionalAuthorityTx, requireSha256, getControlAuthorityState,
    isLowerHex, run_begin, hinit, hmode, hgeneration, ControlAuthorityState.reconciled]

theorem sampleCutover_validate (eventType : AuthorityEventType) (key : Char) (generation : Int)
    (hkey : isLowerHex key = true) (hgeneration : 0 ≤ generation) (db : Db) :
    Tx.run (sampleCutover eventType generation key).validate db = .ok ((), db) := by
  have hslice : isLowerHex 'c' = true := rfl
  have hrollback : isLowerHex 'd' = true := rfl
  have hcutover : hasText (sampleCutover eventType generation key).cutoverId = true :=
    (by decide : hasText "cutover" = true)
  have hdecision : hasText (sampleCutover eventType generation key).humanDecisionRef = true :=
    (by decide : hasText "decision" = true)
  simp -dsimp [TransitionAuthority.validate, requireSha256, hslice, hrollback, hcutover, hdecision,
    hkey, hgeneration]

theorem switchedAuthority_tx :
    Tx.run (transitionAuthorityTx (sampleEnv "switch") sampleSwitch) reconciledAuthority =
      .ok ((sampleSwitch.applied .epoch, false), switchedAuthority) := by
  have hvalid := sampleCutover_validate .AUTHORITY_SWITCH '1' 1 rfl (by omega) reconciledAuthority
  have hcutover : sqliteTrimLength "cutover" = 7 := by decide
  have hdecision : sqliteTrimLength "decision" = 8 := by decide
  simp -dsimp [transitionAuthorityTx, hvalid, getControlAuthorityState, run_begin, hcutover,
    hdecision, TransitionAuthority.fromMode, ControlAuthorityState.reconciled, Db.init]

theorem rolledBackAuthority_tx :
    Tx.run (transitionAuthorityTx (sampleEnv "rollback") sampleRollback) switchedAuthority =
      .ok ((sampleRollback.applied .epoch, false), rolledBackAuthority) := by
  have hvalid := sampleCutover_validate .AUTHORITY_ROLLBACK '2' 2 rfl (by omega) switchedAuthority
  have hcutover : sqliteTrimLength "cutover" = 7 := by decide
  have hdecision : sqliteTrimLength "decision" = 8 := by decide
  simp -dsimp [transitionAuthorityTx, hvalid, getControlAuthorityState, run_begin, hcutover,
    hdecision, TransitionAuthority.fromMode, TransitionAuthority.toMode, TransitionAuthority.event,
    TransitionAuthority.applied]

theorem reconciledAuthority_run : Run (fun _ _ _ => True) [Db.init] reconciledAuthority :=
  Run.start.extend (sampleEnv "") (.reconcileTransitionalAuthority 0 (sampleKey 'c') (sampleKey 'd'))
    .fresh trivial (Tx.run_ok.mpr (Tx.bind_ok.mpr ⟨_, _, Tx.run_ok.mp reconciledAuthority_tx, rfl⟩))

theorem switchedAuthority_run :
    Run (fun _ _ _ => True) [reconciledAuthority, Db.init] switchedAuthority :=
  reconciledAuthority_run.extend (sampleEnv "switch") (.transitionAuthority sampleSwitch) .fresh
    trivial (Tx.run_ok.mpr (Tx.bind_ok.mpr ⟨_, _, Tx.run_ok.mp switchedAuthority_tx, rfl⟩))

theorem rolledBackAuthority_run : Run (fun _ _ _ => True)
    [switchedAuthority, reconciledAuthority, Db.init] rolledBackAuthority :=
  switchedAuthority_run.extend (sampleEnv "rollback") (.transitionAuthority sampleRollback) .fresh
    trivial (Tx.run_ok.mpr (Tx.bind_ok.mpr ⟨_, _, Tx.run_ok.mp rolledBackAuthority_tx, rfl⟩))

/-- Repeated at once, the sample switch answers its row. -/
theorem authority_machine_switched :
    (∃ history, AuthorityHistory switchedAuthority history) ∧
      transitionAuthorityTx (sampleEnv "again") sampleSwitch switchedAuthority =
        .ok ((sampleSwitch.applied .epoch, true), switchedAuthority) := by
  obtain ⟨⟨history, hhistory, -⟩, hreplays⟩ := authority_machine switchedAuthority_run
  have hreplay := (hreplays [] [Db.init] reconciledAuthority switchedAuthority rfl).1
    (sampleEnv "switch") sampleSwitch _ (Tx.run_ok.mp switchedAuthority_tx)
  refine ⟨⟨history, hhistory⟩, ?_⟩
  rw [(hreplay.2 (sampleEnv "again") switchedAuthority).1]
  have hbegin : begin (sampleEnv "again") 0 switchedAuthority = .ok ((), switchedAuthority) :=
    run_begin rfl
  rw [Tx.bind_of_ok hbegin, Tx.bind_of_ok (Tx.require_ok.mpr ⟨rfl, rfl⟩)]
  rfl

/-- The log alone does not make the row, and a repeated request may conflict: the sample
run reconciles, switches and rolls back, and its switch is then repeated. -/
theorem authority_log_misses_reconcile :
    ∃ (past : List Db) (db : Db), Run (fun _ _ _ => True) past db ∧
      authorityAfter (db.authorityTransitionEvent.map .event) ≠ db.controlAuthorityState ∧
      ∃ (newer older : List Db) (before after : Db), db :: past = newer ++ after :: before :: older ∧
        ∃ (env : Env) (a : TransitionAuthority) (row : ControlAuthorityState),
          transitionAuthorityTx env a before = .ok ((row, false), after) ∧
          transitionAuthorityTx env a db = .error (storeError "IDEMPOTENCY_CONFLICT") := by
  refine ⟨_, _, rolledBackAuthority_run, fun h => ?_, [rolledBackAuthority], [Db.init],
    reconciledAuthority, switchedAuthority, rfl, sampleEnv "switch", sampleSwitch, _,
    Tx.run_ok.mp switchedAuthority_tx, ?_⟩
  · have hslice := congrArg ControlAuthorityState.sliceSnapshotFingerprint h
    exact absurd hslice (by decide)
  · obtain ⟨history, hhistory⟩ := rolledBackAuthority_run.authorityHistory
    have hvalid : sampleSwitch.validate rolledBackAuthority = .ok ((), rolledBackAuthority) :=
      Tx.run_ok.mp (sampleCutover_validate .AUTHORITY_SWITCH '1' 1 rfl (by omega) _)
    have hlogged : sampleSwitch.event "switch" .epoch ∈
        rolledBackAuthority.authorityTransitionEvent := List.mem_cons_self ..
    have hbegin : begin (sampleEnv "switch") 0 rolledBackAuthority = .ok ((), rolledBackAuthority) :=
      run_begin rfl
    have hrow : rolledBackAuthority.controlAuthorityState ≠ sampleSwitch.applied .epoch := fun h =>
      absurd (congrArg ControlAuthorityState.authorityGeneration h) (by decide)
    rw [hhistory.replay hvalid hlogged, Tx.bind_of_ok hbegin,
      Tx.bind_of_error (Tx.require_error.mpr ⟨hrow, rfl⟩)]

end Adcp.L4
