import Adcp.L4Safety.ControlSteps

/-!
# The event log of a Slice row

Every statement on a Slice row is preceded by one on its event log, and the event
carries the whole row: the target, its fingerprint with it, and the version.

* `SliceHistory`: what the log says of the row.
* `SliceHistory.opened`, `SliceHistory.moved`: the two ways a row and its log change.
* `slice_control_event_sourced`: every Slice row of every run is what its log says,
  and keeps the execution it names until that binding is released.
-/
namespace Adcp.L4

open Adcp.L1 Adcp.L2 Adcp.L3 ExecutionState

/-! ## Histories -/

/-- The control events of the Slice `id`, oldest first. -/
def sliceEvents (db : Db) (id : String) : List SliceControlEvent :=
  db.sliceControlEvent.filter (·.sliceId = id)

/-- `events` is the history of the Slice row `row`: the versions `0..n`, each event
leading from the version before its own, the last to what the row is now. -/
structure SliceHistory (events : List SliceControlEvent) (row : SliceControlState) : Prop where
  versions : ∃ n : Nat, row.stateVersion = n ∧
    events.map (·.toStateVersion) = (List.range (n + 1)).map Int.ofNat
  sources : ∀ e ∈ events, e.fromStateVersion = e.toStateVersion - 1
  recorded : ∃ e, events.getLast? = some e ∧ e.Records row.toSliceControlFields
  fingerprint : row.controlStateAuthorityFingerprint = .ok row.authorityFingerprint

variable {env : Env} {snap db db' : Db} {call : Call} {c : Commit} {past : List Db}
  {row old : SliceControlState} {event : SliceControlEvent} {events : List SliceControlEvent}

theorem SliceHistory.opened (h : SliceAdd db row event) : SliceHistory [event] row where
  versions := ⟨0, h.version, by simp [h.target]⟩
  sources e he := by
    rw [List.mem_singleton.mp he, h.source, h.target]
    rfl
  recorded := ⟨event, rfl, h.recorded⟩
  fingerprint := h.fingerprint

theorem SliceHistory.moved {set : SliceControlState → SliceControlState} (h : SliceHistory events old)
    (hmove : SliceMove db set old event) : SliceHistory (events ++ [event]) (set old) := by
  obtain ⟨n, hn, hversions⟩ := h.versions
  refine ⟨⟨n + 1, ?_, ?_⟩, fun e he => ?_, ⟨event, ?_, hmove.recorded⟩, hmove.fingerprint⟩
  · rw [hmove.version, hn]
    rfl
  · rw [List.map_append, hversions, List.range_succ (n := n + 1), List.map_append, List.map_singleton,
      List.map_singleton, hmove.target, hn]
    rfl
  · rcases List.mem_append.mp he with he | he
    · exact h.sources e he
    · rw [List.mem_singleton.mp he, hmove.source, hmove.target]
      omega
  · rw [List.getLast?_append, List.getLast?_singleton, Option.some_or]

theorem sliceEvents_append {old new : Db} (h : new.sliceControlEvent = old.sliceControlEvent ++ [event])
    (id : String) :
    sliceEvents new id =
      if event.sliceId = id then sliceEvents old id ++ [event] else sliceEvents old id := by
  unfold sliceEvents
  rw [h, List.filter_append, List.filter_cons, List.filter_nil]
  by_cases hid : event.sliceId = id
  · rw [if_pos hid, if_pos (decide_eq_true hid)]
  · rw [if_neg hid, if_neg (by simpa using hid), List.append_nil]

/-! ## Runs -/

/-- Slice ids are distinct, and every Slice row is what its log says. -/
structure SliceLogged (db : Db) : Prop where
  distinct : (db.sliceControlState.map (·.sliceId)).Nodup
  absent : ∀ id, db.slice? id = none → sliceEvents db id = []
  history : ∀ id row, db.slice? id = some row → SliceHistory (sliceEvents db id) row

theorem SliceLogged.init : SliceLogged Db.init where
  distinct := List.nodup_nil
  absent _ _ := rfl
  history _ _ h := by cases h

/-- A new row comes with its first event. -/
theorem SliceLogged.add (h : SliceLogged db) (hadd : SliceAdd db row event)
    (hslices : sliceTables db' =
      (db.sliceControlEvent ++ [event], db.sliceControlState ++ [row])) : SliceLogged db' := by
  obtain ⟨hevents, hrows⟩ := Prod.ext_iff.mp hslices
  have hevents : db'.sliceControlEvent = db.sliceControlEvent ++ [event] := hevents
  have hlog := sliceEvents_append hevents
  have hnew (id : String) : db'.slice? id = if id = row.sliceId then some row else db.slice? id := by
    unfold Db.slice?
    rw [show db'.sliceControlState = _ from hrows]
    exact Table.lookup_append hadd.free
  refine ⟨?_, fun id hid => ?_, fun id row' hid => ?_⟩
  · rw [show db'.sliceControlState = _ from hrows]
    exact Table.distinct_append hadd.free h.distinct
  · rw [hnew] at hid
    split at hid
    · cases hid
    · rename_i hne
      rw [hlog, if_neg fun he => hne (he.symm.trans hadd.id)]
      exact h.absent id hid
  · rw [hnew] at hid
    split at hid
    · rename_i he
      cases hid
      rw [hlog, he, if_pos hadd.id, h.absent _ hadd.free]
      exact .opened hadd
    · rename_i hne
      rw [hlog, if_neg fun he => hne (he.symm.trans hadd.id)]
      exact h.history id row' hid

/-- A row rewritten with its event. -/
theorem SliceLogged.move {mid : Db} {set : SliceControlState → SliceControlState}
    (h : SliceLogged db) (hmove : SliceMove mid set old event)
    (hsame : mid.sliceControlState = db.sliceControlState)
    (hslices : sliceTables db' = (db.sliceControlEvent ++ [event],
      Table.update (·.sliceId) db.sliceControlState event.sliceId set)) : SliceLogged db' := by
  obtain ⟨hevents, hrows⟩ := Prod.ext_iff.mp hslices
  have hevents : db'.sliceControlEvent = db.sliceControlEvent ++ [event] := hevents
  have hlog := sliceEvents_append hevents
  have hfound : db.slice? event.sliceId = some old := by
    have hfound := hmove.found
    unfold Db.slice? at hfound ⊢
    rwa [hsame] at hfound
  have hnew (id : String) : db'.slice? id =
      if id = event.sliceId then (db.slice? event.sliceId).map set else db.slice? id := by
    unfold Db.slice?
    rw [show db'.sliceControlState = _ from hrows]
    exact Table.lookup_update fun s _ => hmove.keepsId s
  refine ⟨?_, fun id hid => ?_, fun id row' hid => ?_⟩
  · rw [show db'.sliceControlState = _ from hrows]
    exact Table.distinct_update (fun s _ => hmove.keepsId s) h.distinct
  · rw [hnew, hfound] at hid
    split at hid
    · cases hid
    · rename_i hne
      rw [hlog, if_neg fun he => hne he.symm]
      exact h.absent id hid
  · rw [hnew, hfound] at hid
    split at hid
    · rename_i he
      cases hid
      rw [hlog, he, if_pos rfl]
      exact (h.history _ old hfound).moved hmove
    · rename_i hne
      rw [hlog, if_neg fun he => hne he.symm]
      exact h.history id row' hid

theorem SliceLogged.step (h : SliceLogged db) (hchange : SliceChange call db db') :
    SliceLogged db' := by
  cases hchange with
  | keep hsame =>
    obtain ⟨hevents, hrows⟩ := Prod.ext_iff.mp hsame
    have hslice (id : String) : db'.slice? id = db.slice? id := by
      unfold Db.slice?
      rw [show db'.sliceControlState = _ from hrows]
      rfl
    have hlog (id : String) : sliceEvents db' id = sliceEvents db id := by
      unfold sliceEvents
      rw [show db'.sliceControlEvent = _ from hevents]
      rfl
    refine ⟨?_, fun id hid => ?_, fun id row hid => ?_⟩
    · rw [show db'.sliceControlState = _ from hrows]
      exact h.distinct
    · rw [hlog]
      exact h.absent id (hslice id ▸ hid)
    · rw [hlog]
      exact h.history id row (hslice id ▸ hid)
  | adds found hslices => exact h.add found hslices
  | moves found same hslices _ => exact h.move found same hslices

theorem Run.sliceLogged {allowed : Env → Call → Db → Prop} (h : Run allowed past db) :
    SliceLogged db :=
  (h.invariant .init fun _ _ _ _ _ _ _ _ hP hx => hP.step (Call.controlStep hP.distinct hx).sliceChange).1

/-! ## The execution a Slice names -/

/-- A Slice that names an execution goes on naming it, or the call releases it. -/
theorem SliceChange.active (h : SliceChange call db db') {id e : String}
    (hrow : db.slice? id = some row) (he : row.activeExecutionId = some e) :
    ∃ row', db'.slice? id = some row' ∧ (row'.activeExecutionId = some e ∨
      row'.activeExecutionId = none ∧
        ∃ a, call = .releaseDeferred a ∧ a.sliceId = id ∧ a.executionId = e) := by
  cases h with
  | keep hsame =>
    refine ⟨row, ?_, Or.inl he⟩
    unfold Db.slice? at hrow ⊢
    rw [show db'.sliceControlState = _ from (Prod.ext_iff.mp hsame).2]
    exact hrow
  | @adds new event found hslices =>
    have hfree := found.free
    refine ⟨row, ?_, Or.inl he⟩
    unfold Db.slice? at hrow hfree ⊢
    rw [show db'.sliceControlState = _ from (Prod.ext_iff.mp hslices).2, Table.lookup_append hfree]
    split
    · rename_i hid
      rw [hid] at hrow
      cases hrow.symm.trans hfree
    · exact hrow
  | @moves mid set old event found same hslices active =>
    have hfound := found.found
    have hnew : db'.slice? id =
        if id = event.sliceId then (db.slice? event.sliceId).map set else db.slice? id := by
      unfold Db.slice?
      rw [show db'.sliceControlState = _ from (Prod.ext_iff.mp hslices).2]
      exact Table.lookup_update fun s _ => found.keepsId s
    by_cases hid : id = event.sliceId
    · have hold : db.slice? event.sliceId = some old := by
        unfold Db.slice? at hfound ⊢
        rwa [same] at hfound
      obtain rfl : old = row := Option.some.inj (hold.symm.trans (hid ▸ hrow))
      rw [if_pos hid, hold] at hnew
      refine ⟨set old, hnew, ?_⟩
      rcases active with hkeeps | ⟨a, hcall, hslice, hreleased, hnone⟩
      · exact Or.inl ((hkeeps (by rw [he]; rfl)).trans he)
      · refine Or.inr ⟨hnone, a, hcall, hslice.symm.trans hid.symm, ?_⟩
        exact Option.some.inj (hreleased.symm.trans he)
    · rw [if_neg hid] at hnew
      exact ⟨row, hnew.trans hrow, Or.inl he⟩

/-- **Slice control state is event sourced.** In every state of every run, a Slice
without a row has no events, and the events of one with a row carry the versions
`0..n` without gaps, the last of them records the row's fields at the row's version,
and the row's fingerprint is that of its fields. And no call takes from a Slice the
execution it names, but the release of that binding. -/
theorem slice_control_event_sourced (h : Run (fun _ _ _ => True) past db) :
    (∀ id, match db.slice? id with
      | none => sliceEvents db id = []
      | some row => SliceHistory (sliceEvents db id) row) ∧
    ∀ (env : Env) (call : Call) (snap : Db) (id e : String) (row : SliceControlState),
      db.slice? id = some row → row.activeExecutionId = some e →
      ∃ row', (call.exec env snap db).slice? id = some row' ∧ (row'.activeExecutionId = some e ∨
        row'.activeExecutionId = none ∧
          ∃ a, call = .releaseDeferred a ∧ a.sliceId = id ∧ a.executionId = e) := by
  have hlogged := h.sliceLogged
  refine ⟨fun id => ?_, fun env call snap id e row hrow he => ?_⟩
  · cases hrow : db.slice? id with
    | none => exact hlogged.absent id hrow
    | some row => exact hlogged.history id row hrow
  · rcases call.exec_cases env snap db with hsame | ⟨c, hx⟩
    · rw [hsame]
      exact ⟨row, hrow, Or.inl he⟩
    · exact (Call.controlStep hlogged.distinct hx).sliceChange.active hrow he

theorem sampleBound_reachable : Reachable sampleBound :=
  Reachable.call _ _ _ (Reachable.call _ _ _ sampleLeased_reachable sampleRegistered_step)
    sampleBound_step

/-- The bound sample Slice: one event, which records the row. -/
theorem slice_control_event_sourced_bound :
    SliceHistory (sliceEvents sampleBound "slice") sampleSlice := by
  obtain ⟨past, run⟩ := sampleBound_reachable
  exact (slice_control_event_sourced run).1 "slice"

end Adcp.L4
