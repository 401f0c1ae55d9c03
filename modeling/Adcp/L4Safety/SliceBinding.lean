import Adcp.L4Safety.TerminalStates

/-!
# Slice rows and the executions they name

A Slice row that names an execution repeats its root, branch, base and result
commit. A trigger compares the two whenever the Slice row is written; nothing
compares them when the execution is. `finalize_deferred_result_commit` writes
both sides, `register_result_commit` and the closure of a candidate write the
execution alone.

* `Call.SplitsBinding`: the calls that give a bound execution a result its Slice
  does not have.
* `SlicesBound`, `CoreStep.slicesBound`: Slice ids are distinct and every Slice
  agrees with its execution; every step that keeps the result of a bound
  execution, or finalizes it, keeps that.
* `slice_binding`: so does every run without such a call.
-/
namespace Adcp.L4

open Adcp.L1 Adcp.L2 Adcp.L3 ExecutionState

/-- Some Slice row names the execution. -/
def Binds (db : Db) (executionId : String) : Prop :=
  ∃ s ∈ db.sliceControlState, s.activeExecutionId = some executionId

/-- The call registers a new result of an execution that a Slice names, or closes
the candidate of one: its lease is live, and it is no replay. -/
inductive Call.SplitsBinding (env : Env) (db : Db) : Call → Prop
  | registers {a : RegisterResultCommit} {row : SliceExecution}
      (found : db.execution? a.executionId = some row)
      (live : FenceLive row a.leaseOwner a.leaseGeneration (env.clock 0))
      (version : row.stateVersion = a.expectedStateVersion)
      (unused : (db.events a.executionId).find? (·.operationKey = a.operationKey) = none)
      (other : row.resultCommit ≠ some a.resultCommit) (bound : Binds db a.executionId) :
      Call.SplitsBinding env db (.registerResultCommit a)
  | closes {a : CloseCandidate} {row : SliceExecution}
      (found : db.execution? a.ids.executionId = some row)
      (live : FenceLive row a.fence.leaseOwner a.fence.leaseGeneration (env.clock 1))
      (version : row.stateVersion = a.fence.expectedStateVersion)
      (waiting : row.state = WAITING_APPROVAL ∧ row.resultCommit = none)
      (prepared : (db.candidateIntent? a.ids.closureId).isSome)
      (unclosed : db.candidateClosure? a.ids.closureId = none)
      (bound : Binds db a.ids.executionId) : Call.SplitsBinding env db (.closeCandidate a)

variable {env : Env} {snap db db' : Db} {call : Call} {c : Commit}

/-! ## The columns a Slice repeats -/

/-- The two rows have the same columns among those a Slice repeats. -/
structure SameBinding (r r' : SliceExecution) : Prop where
  slice : r'.sliceId = r.sliceId
  root : r'.sourceRoot = r.sourceRoot
  branch : r'.branch = r.branch
  base : r'.baseCommit = r.baseCommit
  result : r'.resultCommit = r.resultCommit

theorem SameBinding.refl (r : SliceExecution) : SameBinding r r := ⟨rfl, rfl, rfl, rfl, rfl⟩

/-- A bump writes none of them but the result. -/
theorem Bump.sameBinding {b : Bump} {r : SliceExecution}
    (h : (b.set r).resultCommit = r.resultCommit) : SameBinding r (b.set r) := by
  refine ⟨?_, ?_, ?_, ?_, h⟩ <;>
  · obtain ⟨_, k, _, _⟩ := b
    cases k <;> rfl

/-- Only three kinds of bump write the result. -/
theorem Bump.keeps_result {b : Bump} {r : SliceExecution} (h : match b.kind with
      | .resultRegistered _ | .resultFinalized _ | .closed _ => False
      | _ => True) : (b.set r).resultCommit = r.resultCommit := by
  obtain ⟨_, k, _, _⟩ := b
  cases k <;> first | rfl | exact h.elim

theorem binding_of_rows {f : SliceControlFields} (h : ExecutionBinding db f)
    (hrows : ∀ e ∈ f.activeExecutionId, ∀ r, db.execution? e = some r →
      ∃ r', db'.execution? e = some r' ∧ SameBinding r r') : ExecutionBinding db' f := by
  intro e he
  obtain ⟨r, hr, hslice, hroot, hbranch, hbase, hresult⟩ := h e he
  obtain ⟨r', hr', same⟩ := hrows e he r hr
  refine ⟨r', hr', same.slice.trans hslice, ?_, ?_, ?_, same.result.trans hresult⟩
  · rw [hroot, same.root]
  · rw [hbranch, same.branch]
  · rw [hbase, same.base]

theorem binding_of_executions {f : SliceControlFields} (h : ExecutionBinding db f)
    (hrows : db'.sliceExecution = db.sliceExecution) : ExecutionBinding db' f := by
  refine binding_of_rows h fun e _ r hr => ⟨r, ?_, .refl r⟩
  unfold Db.execution? at hr ⊢
  rw [hrows, hr]

/-! ## Steps -/

theorem slice?_id {id : String} {s : SliceControlState} (h : db.slice? id = some s) :
    s.sliceId = id := by
  have hkey := List.find?_some h
  exact of_decide_eq_true hkey

/-- Slice ids are distinct, and every Slice agrees with the execution it names. -/
structure SlicesBound (db : Db) : Prop where
  distinct : (db.sliceControlState.map (·.sliceId)).Nodup
  bound : ∀ s ∈ db.sliceControlState, ExecutionBinding db s.toSliceControlFields

/-- Two Slices that name one execution are one. -/
theorem SlicesBound.unique (h : SlicesBound db) {s t : SliceControlState} {e : String}
    (hs : s ∈ db.sliceControlState) (ht : t ∈ db.sliceControlState)
    (hse : s.activeExecutionId = some e) (hte : t.activeExecutionId = some e) : s = t := by
  obtain ⟨r, hr, hslice, -⟩ := h.bound s hs e hse
  obtain ⟨r', hr', hslice', -⟩ := h.bound t ht e hte
  obtain rfl : r = r' := Option.some.inj (hr.symm.trans hr')
  have hs := (Table.mem_iff_lookup h.distinct).mp hs
  have ht := (Table.mem_iff_lookup h.distinct).mp ht
  have hid : t.sliceId = s.sliceId := hslice'.symm.trans hslice
  rw [hid] at ht
  exact Option.some.inj (hs.symm.trans ht)

theorem SlicesBound.of_slices (h : SlicesBound db)
    (hslices : db'.sliceControlState = db.sliceControlState)
    (hrows : ∀ e r, Binds db e → db.execution? e = some r →
      ∃ r', db'.execution? e = some r' ∧ SameBinding r r') : SlicesBound db' := by
  refine ⟨hslices ▸ h.distinct, fun s hs => ?_⟩
  rw [hslices] at hs
  exact binding_of_rows (h.bound s hs) fun e he r hr => hrows e r ⟨s, hs, he⟩ hr

/-- A bump that keeps the result of a bound execution keeps the agreement. -/
theorem SlicesBound.bump (h : SlicesBound db) {b : Bump} {event : TransitionEvent}
    (hresult : ∀ r, Binds db b.executionId → db.execution? b.executionId = some r →
      (b.set r).resultCommit = r.resultCommit)
    (hrows : db'.sliceExecution = (db.bump b event).sliceExecution)
    (hslices : db'.sliceControlState = db.sliceControlState) : SlicesBound db' := by
  refine h.of_slices hslices fun e r hbinds hr => ?_
  have hnew := db.bump_execution? b event e
  have hdb' : db'.execution? e = (db.bump b event).execution? e := by
    unfold Db.execution?
    rw [hrows]
  rw [hdb', hnew, hr]
  by_cases he : e = b.executionId
  · subst he
    rw [if_pos rfl]
    exact ⟨_, rfl, Bump.sameBinding (hresult r hbinds hr)⟩
  · rw [if_neg he]
    exact ⟨r, rfl, .refl r⟩

/-- Rewriting one Slice row into one that agrees keeps the agreement, when every
other Slice still agrees. -/
theorem SlicesBound.update {id : String} {old : SliceControlState}
    {set : SliceControlState → SliceControlState} (h : SlicesBound db) (found : db.slice? id = some old)
    (keepsId : ∀ s, (set s).sliceId = id) (new : ExecutionBinding db' (set old).toSliceControlFields)
    (others : ∀ s ∈ db.sliceControlState, s ≠ old → ExecutionBinding db' s.toSliceControlFields)
    (hslices : db'.sliceControlState = Table.update (·.sliceId) db.sliceControlState id set) :
    SlicesBound db' := by
  refine ⟨?_, fun s hs => ?_⟩
  · rw [hslices]
    exact Table.distinct_update (fun s _ => keepsId s) h.distinct
  rw [hslices] at hs
  obtain ⟨t, ht, rfl⟩ := List.mem_map.mp hs
  have htable := (Table.mem_iff_lookup h.distinct).mp ht
  split
  · -- the one row with this id is the one found
    rename_i hid
    have hid : t.sliceId = id := hid
    rw [hid] at htable
    obtain rfl : old = t := Option.some.inj (found.symm.trans htable)
    exact new
  · rename_i hid
    refine others t ht fun hold => hid ?_
    rw [hold]
    exact slice?_id found

theorem CoreStep.slicesBound {made : Bump → Db → Prop}
    (hmade : ∀ b, made b db → (∀ commit, b.kind ≠ .resultFinalized commit) →
      ∀ r, Binds db b.executionId → db.execution? b.executionId = some r →
        (b.set r).resultCommit = r.resultCommit)
    (hstep : CoreStep made db db') (h : SlicesBound db) : SlicesBound db' := by
  cases hstep with
  | frame hcore =>
    obtain ⟨hrows, -, hslices⟩ := core_eq.mp hcore
    exact ⟨hslices ▸ h.distinct, fun s hs => binding_of_executions (h.bound s (hslices ▸ hs)) hrows⟩
  | @create spec key row event new hcore =>
    obtain ⟨hrows, -, hslices⟩ := core_eq.mp hcore
    refine h.of_slices hslices fun e r _ hr => ⟨r, ?_, .refl r⟩
    obtain ⟨sourceRoot, now, rfl⟩ := new.shape
    have hfree := new.free
    unfold Db.execution? at hr hfree ⊢
    rw [hrows, Table.lookup_append hfree]
    split
    · rename_i he
      rw [he] at hr
      cases hr.symm.trans hfree
    · exact hr
  | @renew id row owner generation now expires found live hcore =>
    obtain ⟨hrows, -, hslices⟩ := core_eq.mp hcore
    refine h.of_slices hslices fun e r _ hr => ?_
    have hnew := db.renew_execution? id e now expires
    have hdb' : db'.execution? e = (db.renew id now expires).execution? e := by
      unfold Db.execution?
      rw [hrows]
    rw [hdb', hnew, hr]
    split
    · exact ⟨_, rfl, rfl, rfl, rfl, rfl, rfl⟩
    · exact ⟨r, rfl, .refl r⟩
  | bump from_call allowed plain hcore =>
    obtain ⟨hrows, -, hslices⟩ := core_eq.mp hcore
    exact h.bump (hmade _ from_call plain) hrows hslices
  | @finalize b event commit state old set from_call kind allowed bound slice hcore =>
    obtain ⟨hrows, -, hslices⟩ := core_eq.mp hcore
    have hnamed := List.find?_some bound
    have hstate : state.activeExecutionId = some b.executionId := of_decide_eq_true hnamed
    have hmem : state ∈ db.sliceControlState := List.mem_of_find?_eq_some bound
    -- the rewritten row is the one bound Slice of the execution
    obtain rfl : old = state :=
      Option.some.inj (slice.found.symm.trans ((Table.mem_iff_lookup h.distinct).mp hmem))
    refine h.update slice.found slice.keepsId (binding_of_executions slice.bound hrows) ?_ hslices
    intro s hs hne
    refine binding_of_rows (h.bound s hs) fun e he r hr => ⟨r, ?_, .refl r⟩
    have hother : e ≠ b.executionId := by
      rintro rfl
      exact hne (h.unique hs hmem he hstate)
    have hnew := db.bump_execution? b event e
    rw [if_neg hother, hr] at hnew
    unfold Db.execution? at hnew ⊢
    rw [hrows, hnew]
  | @addSlice row bound free hcore =>
    obtain ⟨hrows, -, hslices⟩ := core_eq.mp hcore
    refine ⟨?_, fun s hs => ?_⟩
    · rw [hslices]
      exact Table.distinct_append free h.distinct
    · rw [hslices] at hs
      rcases List.mem_append.mp hs with hs | hs
      · exact binding_of_executions (h.bound s hs) hrows
      · obtain rfl : s = row := List.mem_singleton.mp hs
        exact binding_of_executions bound hrows
  | @setSlice id old set slice hcore =>
    obtain ⟨hrows, -, hslices⟩ := core_eq.mp hcore
    exact h.update slice.found slice.keepsId (binding_of_executions slice.bound hrows)
      (fun s hs _ => binding_of_executions (h.bound s hs) hrows) hslices

/-! ## Calls and runs -/

/-- Every call but one that splits a binding keeps the agreement. -/
theorem Call.slicesBound (hcall : ¬ call.SplitsBinding env db)
    (hx : call.tx env snap db = .ok (c, db')) (h : SlicesBound db) : SlicesBound db' := by
  by_cases hregister : ∃ a, call = .registerResultCommit a
  · obtain ⟨a, rfl⟩ := hregister
    rcases registerResultCommitTx_ok hx with ⟨-, rfl⟩ | ⟨rfl, event, -, rfl⟩
    · exact h
    refine h.bump (fun r hbinds hr => ?_) rfl rfl
    obtain ⟨row, hrow, hlive, hversion, hunused⟩ := registerResultCommitTx_found hx
    obtain rfl : r = row := Option.some.inj (hr.symm.trans hrow)
    by_cases hsame : r.resultCommit = some a.resultCommit
    · exact hsame.symm
    · exact absurd (.registers hrow hlive hversion hunused hsame hbinds) hcall
  by_cases hclose : ∃ a, call = .closeCandidate a
  · obtain ⟨a, rfl⟩ := hclose
    rcases closeCandidateTx_ok hx with ⟨-, rfl⟩ | ⟨-, execution, _, _, _, _, commit, event, hcloses⟩
    · exact h
    have hrows : db'.sliceExecution = (db.bump (a.bump commit env) event).sliceExecution := by
      rw [hcloses.writes]
    refine h.bump (fun r hbinds hr => ?_) hrows (by rw [hcloses.writes]; rfl)
    obtain ⟨intent, plan, hintent, -⟩ := hcloses.intended
    obtain ⟨-, hrow, hlive⟩ := hcloses.live.live
    exact absurd (.closes hrow hlive hcloses.authorized.version (hcloses.authorized.waiting rfl)
      (Option.isSome_iff_exists.mpr ⟨intent, hintent⟩) hcloses.unclosed hbinds) hcall
  refine (Call.coreRun hx).invariant (fun pre post hstep hpre => hstep.slicesBound ?_ hpre) h
  intro b hmade hplain r _ _
  refine Bump.keeps_result ?_
  cases hk : b.kind with
  | resultRegistered commit =>
    obtain ⟨a, ha, -⟩ := hmade.registered commit hk
    exact (hregister ⟨a, ha⟩).elim
  | closed commit =>
    obtain ⟨a, ha, -⟩ := hmade.closed commit hk
    exact (hclose ⟨a, ha⟩).elim
  | resultFinalized commit => exact (hplain commit hk).elim
  | _ => trivial

/-- **Slices agree with their executions.** In every state of a run no step of
which splits a binding, a Slice row that names an execution has its result
commit, base commit, branch and source root. -/
theorem slice_binding {past : List Db} (h : Run (fun env call db => ¬ call.SplitsBinding env db) past db)
    {s : SliceControlState} (hs : s ∈ db.sliceControlState) {e : String}
    (he : s.activeExecutionId = some e) : ∃ row, db.execution? e = some row ∧
      s.implementationResultCommit = row.resultCommit ∧ s.baseCommit = some row.baseCommit ∧
      s.branch = some row.branch ∧ s.repositoryToplevel = some row.sourceRoot := by
  have hbound := (h.invariant (P := SlicesBound) ⟨by simp [Db.init], by simp [Db.init]⟩
    fun env snap call db db' c hok _ hdb hx => Call.slicesBound hok hx hdb).1
  obtain ⟨row, hrow, -, hroot, hbranch, hbase, hresult⟩ := hbound.bound s hs e he
  exact ⟨row, hrow, hresult.symm, hbase, hbranch, hroot⟩

/-! ## A bound execution that is given another result -/

abbrev sampleRegister (key commit : Char) (version : Int) : RegisterResultCommit where
  executionId := "execution"
  expectedStateVersion := version
  operationKey := sampleKey key
  resultCommit := sampleKey commit
  leaseOwner := "owner"
  leaseGeneration := 1
  actorRole := .MAKER
  actorId := "owner"

abbrev registeredRow (commit : Char) (version : Int) : SliceExecution :=
  { sampleLeasedRow with resultCommit := some (sampleKey commit), stateVersion := version }

abbrev registeredEvent (key commit : Char) (version : Int) (seq : Nat) (id : String) :
    TransitionEvent where
  executionId := "execution"
  operationKey := sampleKey key
  eventType := .RESULT_COMMIT_REGISTERED
  fromState := some READY
  toState := READY
  fromStateVersion := version
  toStateVersion := version + 1
  actorRole := .MAKER
  actorId := "owner"
  leaseGeneration := 1
  reasonCode := "RESULT_COMMIT_REGISTERED"
  reasonDetail := none
  metadataJson := String.ofList (sampleRegister key commit version).payload.render
  createdAt := .epoch
  eventSeq := seq
  eventId := id

abbrev sampleRegistered : Db :=
  { sampleLeased with
    sliceExecution := [registeredRow 'd' 2]
    transitionEvent := [sampleCreation, sampleLeasing, registeredEvent '2' 'd' 1 3 "event-2"] }

theorem sampleRegistered_step :
    Tx.run (Call.tx (sampleEnv "event-2") sampleLeased (.registerResultCommit (sampleRegister '2' 'd' 1)))
      sampleLeased = .ok (.fresh, sampleRegistered) := by
  simp -dsimp [Call.tx, registerResultCommitTx, RegisterResultCommit.payload, ActorRole.value,
    requireFence, requireCommit, FenceLive, requireSha256, Timestamp.lt_def, Timestamp.epoch,
    replayOr, existingEvent, getExecution, updateExecution, Option.filter_some, canonicalJson,
    Json.noFloat, Json.noFloatFields, Db.init, isLowerHex, requireChecks, insertEvent,
    executionChecks, columnChecks, companionChecks, commitLength, ExecutionCreate.row, resumeCheck,
    acceptedCheck, blockerCheck, openConflict, terminalStates, eventChecks, EventFields.row,
    ExecutionCreate.event, Db.execution?, Table.lookup, Table.update, Db.events,
    RiskLevel.maxAutoReworks, run_begin]

@[simp]
theorem sqliteLength_stage : sqliteLength "stage" = 5 := by simp [sqliteLength]

@[simp]
theorem sqliteLength_status : sqliteLength "status" = 6 := by simp [sqliteLength]

@[simp]
theorem sqliteLength_registered : sqliteLength "REGISTERED" = 10 := by simp [sqliteLength]

/-- A Slice bound to the sample execution and its result. -/
abbrev sampleSliceFields (fingerprint : String) : SliceControlFields where
  sliceId := "slice"
  stage := "stage"
  status := "status"
  migrationClass := .DEFER_BINDING
  executionEligibility := .ELIGIBLE_BOUND
  deferReason := none
  logicalSourceRoot := "/source"
  repositoryToplevel := some "/source"
  branch := some "main"
  baseCommit := some (sampleKey 'b')
  implementationResultCommit := some (sampleKey 'd')
  currentBranchHead := some (sampleKey 'd')
  activeExecutionId := some "execution"
  authorityFingerprint := fingerprint

def sampleFingerprint : String :=
  Sha256.hexdigest (Sha256.utf8 (Json.obj (sampleSliceFields "").semanticFields).render)

@[simp]
theorem isSha256_sampleFingerprint : isSha256 sampleFingerprint = true := isSha256_hexdigest _

@[simp]
theorem hexOf_sampleFingerprint : hexOf [64] sampleFingerprint = true :=
  hexOf_of_isSha256 isSha256_sampleFingerprint (List.mem_singleton.mpr rfl)

abbrev sampleReconcile : ReconcileSlice where
  target := sampleSliceFields sampleFingerprint
  expectedStateVersion := -1
  operationKey := sampleKey '4'
  reasonCode := "REGISTERED"
  metadata := .obj []
  requiredAuthorityMode := none
  expectedAuthorityGeneration := none
  insertOnly := false

abbrev sampleSlice : SliceControlState :=
  { sampleSliceFields sampleFingerprint with
    stateVersion := 0, createdAt := .epoch, updatedAt := .epoch }

abbrev sampleBound : Db :=
  { sampleRegistered with
    sliceControlState := [sampleSlice]
    sliceControlEvent := [
      { operationKey := sampleKey '4', sliceId := "slice", fromStateVersion := -1
        toStateVersion := 0, reasonCode := "REGISTERED"
        metadataJson := String.ofList sampleReconcile.payload.render, createdAt := .epoch }] }

@[simp]
theorem sample_controlFingerprint : (sampleSliceFields
    sampleFingerprint).controlStateAuthorityFingerprint = .ok sampleFingerprint := by
  simp -dsimp [SliceControlFields.controlStateAuthorityFingerprint, canonicalSha256,
    SliceControlFields.semanticFields, sampleFingerprint, Json.noFloat, Json.noFloatFields,
    Json.ofOption]

theorem sample_validateTarget (db : Db) :
    Tx.run (validateSliceControlTarget (sampleSliceFields sampleFingerprint)) db = .ok ((), db) := by
  simp -dsimp [validateSliceControlTarget, requireSha256, isLowerHex,
    SliceControlFields.validateDisposition, SliceControlFields.bindingFields]

theorem sampleBound_step :
    Tx.run (Call.tx (sampleEnv "event-3") sampleRegistered (.reconcileSlice sampleReconcile))
      sampleRegistered = .ok (.fresh, sampleBound) := by
  simp -dsimp [Call.tx, done, reconcileSliceTx, sample_validateTarget, requireSha256, isLowerHex,
    ReconcileSlice.payload, SliceControlFields.json, SliceControlFields.semanticFields,
    canonicalJson, Json.isObj, Json.noFloat, Json.noFloatFields, Json.ofOption, run_begin,
    getControlAuthorityState, Db.sliceEvent?, Db.init, ReconcileSlice.body, Db.slice?, Table.lookup,
    insertSliceEvent, insertSlice, requireSliceTriggers, ExecutionBinding, Db.execution?,
    sliceChecks, SliceControlFields.bindingFields, ExecutionCreate.row]

abbrev sampleSplit : Db :=
  { sampleBound with
    sliceExecution := [registeredRow 'e' 3]
    transitionEvent := [sampleCreation, sampleLeasing, registeredEvent '2' 'd' 1 3 "event-2",
      registeredEvent '5' 'e' 2 4 "event-4"] }

theorem sampleSplit_step :
    Tx.run (Call.tx (sampleEnv "event-4") sampleBound (.registerResultCommit (sampleRegister '5' 'e' 2)))
      sampleBound = .ok (.fresh, sampleSplit) := by
  simp -dsimp [Call.tx, registerResultCommitTx, RegisterResultCommit.payload, ActorRole.value,
    requireFence, FenceLive, requireSha256, requireCommit, Timestamp.lt_def, Timestamp.epoch,
    replayOr, existingEvent, getExecution, updateExecution, Option.filter_some, canonicalJson,
    Json.noFloat, Json.noFloatFields, Db.init, isLowerHex, requireChecks, insertEvent,
    executionChecks, columnChecks, companionChecks, commitLength, ExecutionCreate.row, resumeCheck,
    acceptedCheck, blockerCheck, openConflict, terminalStates, eventChecks, EventFields.row,
    ExecutionCreate.event, Db.execution?, Table.lookup, Table.update, Db.events,
    RiskLevel.maxAutoReworks, run_begin]

/-- A bound execution registers another result, and its Slice keeps the old one. -/
theorem slice_binding_split :
    ¬ ∀ (db : Db), Reachable db → ∀ s ∈ db.sliceControlState, ∀ e, s.activeExecutionId = some e →
      ∃ row, db.execution? e = some row ∧ s.implementationResultCommit = row.resultCommit ∧
        s.baseCommit = some row.baseCommit ∧ s.branch = some row.branch ∧
        s.repositoryToplevel = some row.sourceRoot := by
  intro h
  have hregistered : Reachable sampleRegistered :=
    Reachable.call _ _ _ sampleLeased_reachable sampleRegistered_step
  have hbound : Reachable sampleBound := Reachable.call _ _ _ hregistered sampleBound_step
  have hsplit : Reachable sampleSplit := Reachable.call _ _ _ hbound sampleSplit_step
  obtain ⟨row, hrow, hresult, -⟩ :=
    h sampleSplit hsplit sampleSlice (List.mem_singleton.mpr rfl) "execution" rfl
  cases hrow
  have hkey : sampleKey 'd' = sampleKey 'e' := Option.some.inj hresult
  rw [sampleKey_inj] at hkey
  revert hkey
  decide

theorem not_splits (env : Env) {call : Call} (h : ∀ e, ¬ Binds db e) :
    ¬ call.SplitsBinding env db := by
  rintro (⟨_, _, _, _, _, hbinds⟩ | ⟨_, _, _, _, _, _, hbinds⟩)
  · exact h _ hbinds
  · exact h _ hbinds

/-- The Slice, as it was bound. -/
theorem slice_binding_registered : ∃ row, sampleBound.execution? "execution" = some row ∧
    some (sampleKey 'd') = row.resultCommit ∧ some (sampleKey 'b') = some row.baseCommit ∧
      some "main" = some row.branch ∧ some "/source" = some row.sourceRoot := by
  have hnone : ∀ e, ¬ Binds Db.init e := fun e ⟨s, hs, _⟩ => List.not_mem_nil hs
  have hcreated : Run (fun env call db => ¬ call.SplitsBinding env db) _ sampleCreated :=
    Run.extend _ _ _ .start (not_splits _ hnone) sampleCreated_step
  have hleased := Run.extend _ _ _ hcreated (not_splits _ hnone) sampleLeased_step
  have hregistered := Run.extend _ _ _ hleased (not_splits _ hnone) sampleRegistered_step
  have hbound := Run.extend _ _ _ hregistered (not_splits _ hnone) sampleBound_step
  exact slice_binding hbound (List.mem_singleton.mpr (Eq.refl sampleSlice)) rfl

end Adcp.L4
