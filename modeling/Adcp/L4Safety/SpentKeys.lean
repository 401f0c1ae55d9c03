import Adcp.L3Store.OperationKeys
import Adcp.L4Safety.AuthorityMachine
import Adcp.L4Safety.CandidateRuns
import Adcp.L4Safety.WriterLog

/-!
# Spent operation keys

A client that does not know whether its call arrived makes it again under the same
key. The store answers the second call from the record of the first, or refuses it,
and writes nothing either way, however many calls came in between.

* `Call.keys`: the keys a call presents.
* `Call.once`: a call that changes the database spends its keys.
* `Call.keepsSpent`, `Run.keepsSpent`: no key is ever unspent.
* `Call.request?`: what a replayed answer must have found recorded.
* `spent_keys`: the three over whole runs.
-/
namespace Adcp.L4

open Adcp.L1 Adcp.L2 Adcp.L3

/-- The keys a call presents, each under the table that records it. -/
def Call.keys : Call → List OperationKey
  | createExecution _ key => [.creation key]
  | bindDeferredExecution a => [.creation a.operationKey, .slice a.operationKey]
  | acquireLease a => [.event a.executionId a.operationKey]
  | releaseLease a => [.event a.executionId a.operationKey]
  | transition a => [.event a.executionId a.operationKey]
  | registerResultCommit a => [.event a.executionId a.operationKey]
  | finalizeDeferredResultCommit a =>
    [.event a.executionId a.operationKey, .slice a.operationKey]
  | releaseDeferred a => [.event a.executionId a.operationKey, .slice a.operationKey]
  | closeCandidate a =>
    match canonicalSha256 (.obj [("closure_id", .str a.ids.closureId)]) with
    | .ok key => [.event a.ids.executionId key]
    | .error _ => []
  | authorizeHighRework a =>
    [.event a.executionId a.resumeOperationKey, .event a.executionId a.readyOperationKey]
  | scheduleHumanAuthorizedRework a => [.event a.executionId a.operationKey]
  | scheduleRework a => [.event a.executionId a.operationKey]
  | acceptExecution a => [.event a.executionId a.operationKey]
  | reconcileSlice a => [.slice a.operationKey]
  | transitionAuthority a => [.authority a.operationKey]
  | registerVerificationResult record => [.verification record.row.operationKey]
  | registerAgentAttempt a => [.attempt a.operationKey]
  | requestApproval a => [.approval a.idempotencyKey]
  | writer (.acquire a) => [.writer a.operationKey]
  | writer (.release a) => [.writer a.operationKey]
  | writer (.forceRevoke a) => [.writer a.operationKey]
  | _ => []

variable {env : Env} {snap db db' : Db} {call : Call} {c : Commit} {k : OperationKey}
  {past : List Db} {allowed : Env → Call → Db → Prop}

/-! ## One call -/

theorem done_once {α : Type} {P : Db → Prop} {x : Tx PyError Db α} (h : Tx.Once P x) :
    Tx.Once P (done x) := h.bind fun _ => .pure

/-- A call that changes the database finds its keys unspent, and spends them. -/
theorem Call.once (env : Env) (snap : Db) (hk : k ∈ call.keys) :
    Tx.Once k.Spent (call.tx env snap) := by
  cases call with
  | createExecution spec key =>
    obtain rfl := List.mem_singleton.mp hk
    exact (createExecutionTx_once env spec key).bind fun _ => .pure
  | bindDeferredExecution a =>
    refine bindDeferredExecutionTx_once env a ?_
    simpa [Call.keys] using hk
  | acquireLease a =>
    obtain rfl := List.mem_singleton.mp hk
    exact acquireLeaseTx_once env a
  | releaseLease a =>
    obtain rfl := List.mem_singleton.mp hk
    exact releaseLeaseTx_once env a
  | transition a =>
    obtain rfl := List.mem_singleton.mp hk
    exact transitionTx_once env a
  | registerResultCommit a =>
    obtain rfl := List.mem_singleton.mp hk
    exact registerResultCommitTx_once env a
  | finalizeDeferredResultCommit a =>
    refine finalizeDeferredResultCommitTx_once env a ?_
    simpa [Call.keys] using hk
  | releaseDeferred a =>
    refine releaseDeferredTx_once env a ?_
    simpa [Call.keys] using hk
  | closeCandidate a =>
    cases hkey : canonicalSha256 (.obj [("closure_id", .str a.ids.closureId)]) with
    | error e => simp [Call.keys, hkey] at hk
    | ok key =>
      simp only [Call.keys, hkey, List.mem_singleton] at hk
      subst hk
      exact closeCandidateTx_once env a hkey
  | authorizeHighRework a =>
    obtain ⟨hresume, hready⟩ := authorizeHighReworkTx_once env a
    simp only [Call.keys, List.mem_cons, List.not_mem_nil, or_false] at hk
    rcases hk with rfl | rfl
    · exact done_once hresume
    · exact done_once hready
  | scheduleHumanAuthorizedRework a =>
    obtain rfl := List.mem_singleton.mp hk
    exact done_once (scheduleHumanAuthorizedReworkTx_once env a)
  | scheduleRework a =>
    obtain rfl := List.mem_singleton.mp hk
    exact scheduleReworkTx_once env a
  | acceptExecution a =>
    obtain rfl := List.mem_singleton.mp hk
    exact acceptExecutionTx_once env a
  | reconcileSlice a =>
    obtain rfl := List.mem_singleton.mp hk
    exact done_once (reconcileSliceTx_once env a)
  | transitionAuthority a =>
    obtain rfl := List.mem_singleton.mp hk
    exact done_once (transitionAuthorityTx_once env a)
  | registerVerificationResult record =>
    obtain rfl := List.mem_singleton.mp hk
    exact done_once (registerVerificationResultTx_once env record)
  | registerAgentAttempt a =>
    obtain rfl := List.mem_singleton.mp hk
    exact done_once (registerAgentAttemptTx_once env a)
  | requestApproval a =>
    obtain rfl := List.mem_singleton.mp hk
    exact done_once (requestApprovalTx_once env a)
  | writer w =>
    cases w with
    | acquire a =>
      obtain rfl := List.mem_singleton.mp hk
      exact done_once (acquireWriterTx_once env a)
    | release a =>
      obtain rfl := List.mem_singleton.mp hk
      exact done_once (releaseWriterTx_once env a)
    | forceRevoke a =>
      obtain rfl := List.mem_singleton.mp hk
      exact done_once (revokeWriterTx_once env a)
    | heartbeat owner token ttl => exact (List.not_mem_nil hk).elim
    | assertCurrent owner token => exact (List.not_mem_nil hk).elim
  | _ => exact (List.not_mem_nil hk).elim

/-! ## Spent keys stay spent -/

theorem spent_of_grows {ρ : Type} {key : ρ → String} {t t' : List ρ} {s : String}
    (h : t.map key <+: t'.map key) (hs : ∃ r ∈ t, key r = s) : ∃ r ∈ t', key r = s :=
  List.mem_map.mp (h.subset (List.mem_map.mpr hs))

theorem updated_keys {ρ κ : Type} [DecidableEq κ] {id : ρ → κ} {i : κ} {key : ρ → String}
    (t : List ρ) {f : ρ → ρ} (hf : ∀ r, key (f r) = key r) :
    t.map key <+: (Table.update id t i f).map key := by
  have hsame : (Table.update id t i f).map key = t.map key := by
    unfold Table.update
    rw [List.map_map]
    refine List.map_congr_left fun r _ => ?_
    simp only [Function.comp_apply]
    split
    · exact hf r
    · rfl
  rw [hsame]

theorem appended_keys {ρ : Type} (key : ρ → String) (t : List ρ) (r : ρ) :
    t.map key <+: (t ++ [r]).map key := by
  rw [List.map_append]
  exact List.prefix_append _ _

/-- No bump changes the key an execution was created under. -/
theorem bump_creation (b : Bump) (r : SliceExecution) :
    (b.set r).createIdempotencyKey = r.createIdempotencyKey := by
  obtain ⟨_, kind, _, _⟩ := b
  cases kind <;> rfl

/-- A core step keeps every event, and the key every execution was created under. -/
theorem CoreStep.keepsSpent {made : Bump → Db → Prop} (h : CoreStep made db db') :
    db.transitionEvent <+: db'.transitionEvent ∧
      db.sliceExecution.map (·.createIdempotencyKey) <+:
        db'.sliceExecution.map (·.createIdempotencyKey) := by
  cases h with
  | frame h | addSlice _ _ h | setSlice _ h =>
    obtain ⟨hrows, hlog, -⟩ := core_eq.mp h
    rw [hrows, hlog]
    exact ⟨List.prefix_refl _, List.prefix_refl _⟩
  | create _ h =>
    obtain ⟨hrows, hlog, -⟩ := core_eq.mp h
    rw [hrows, hlog]
    exact ⟨List.prefix_append _ _, appended_keys _ _ _⟩
  | renew _ _ h =>
    obtain ⟨hrows, hlog, -⟩ := core_eq.mp h
    rw [hrows, hlog]
    exact ⟨List.prefix_refl _, updated_keys _ fun _ => rfl⟩
  | @bump b event _ _ _ h =>
    obtain ⟨hrows, hlog, -⟩ := core_eq.mp h
    rw [hrows, hlog]
    exact ⟨List.prefix_append _ _, updated_keys _ (bump_creation b)⟩
  | @finalize b event commit state old set _ _ _ _ _ h =>
    obtain ⟨hrows, hlog, -⟩ := core_eq.mp h
    rw [hrows, hlog]
    exact ⟨List.prefix_append _ _, updated_keys _ (bump_creation b)⟩

theorem Call.keepsCore (h : call.tx env snap db = .ok (c, db')) :
    db.transitionEvent <+: db'.transitionEvent ∧
      db.sliceExecution.map (·.createIdempotencyKey) <+:
        db'.sliceExecution.map (·.createIdempotencyKey) := by
  refine (Call.coreRun h).invariant (P := fun mid => db.transitionEvent <+: mid.transitionEvent ∧
    db.sliceExecution.map (·.createIdempotencyKey) <+:
      mid.sliceExecution.map (·.createIdempotencyKey)) ?_ ⟨List.prefix_refl _, List.prefix_refl _⟩
  intro mid mid' hstep hmid
  obtain ⟨hlog, hrows⟩ := hstep.keepsSpent
  exact ⟨hmid.1.trans hlog, hmid.2.trans hrows⟩

theorem SliceChange.keepsSpent (h : SliceChange call db db') :
    db.sliceControlEvent <+: db'.sliceControlEvent := by
  cases h with
  | keep h =>
    have hevents : db'.sliceControlEvent = db.sliceControlEvent := (Prod.ext_iff.mp h).1
    exact hevents ▸ List.prefix_refl _
  | adds _ h =>
    have hevents : db'.sliceControlEvent = db.sliceControlEvent ++ [_] := (Prod.ext_iff.mp h).1
    exact hevents ▸ List.prefix_append _ _
  | moves _ _ h _ =>
    have hevents : db'.sliceControlEvent = db.sliceControlEvent ++ [_] := (Prod.ext_iff.mp h).1
    exact hevents ▸ List.prefix_append _ _

/-- Attempts and verification results are appended, and an attempt is finished under
its own key. -/
theorem EvidenceStep.keepsSpent (h : EvidenceStep call env snap db db') :
    db.agentAttempt.map (·.operationKey) <+: db'.agentAttempt.map (·.operationKey) ∧
      db.verificationResult <+: db'.verificationResult := by
  cases h with
  | keep he | snapshot _ he | sealed _ _ _ _ _ he | evaluation _ _ _ _ _ _ _ he | manifest _ _ he =>
    obtain ⟨-, hattempts, hresults, -⟩ := evidence_eq.mp he
    rw [hattempts, hresults]
    exact ⟨List.prefix_refl _, List.prefix_refl _⟩
  | verification _ _ he =>
    obtain ⟨-, hattempts, hresults, -⟩ := evidence_eq.mp he
    rw [hattempts, hresults]
    exact ⟨List.prefix_refl _, List.prefix_append _ _⟩
  | attempt _ _ _ he =>
    obtain ⟨-, hattempts, hresults, -⟩ := evidence_eq.mp he
    rw [hattempts, hresults]
    exact ⟨appended_keys _ _ _, List.prefix_refl _⟩
  | finish _ _ _ he =>
    obtain ⟨-, hattempts, hresults, -⟩ := evidence_eq.mp he
    rw [hattempts, hresults]
    exact ⟨updated_keys _ fun _ => rfl, List.prefix_refl _⟩
  | candidate _ _ _ _ he =>
    obtain ⟨-, hattempts, hresults, -⟩ := evidence_eq.mp he
    rw [hattempts, hresults]
    exact ⟨updated_keys _ fun _ => rfl, List.prefix_refl _⟩

theorem approvalStep_keepsSpent {spends : String → ApprovalRequest → Prop}
    {approvals : List ApprovalRequest} (h : ApprovalStep spends db approvals) :
    db.approvalRequest.map (·.idempotencyKey) <+: approvals.map (·.idempotencyKey) := by
  cases h with
  | keep h => exact h ▸ List.prefix_refl _
  | request _ _ _ h =>
    rw [h]
    exact appended_keys _ _ _
  | resolve _ _ _ _ h =>
    rw [h]
    exact updated_keys _ fun _ => rfl
  | consume _ _ _ _ h =>
    rw [h]
    exact updated_keys _ fun _ => rfl

theorem WriterCall.keepsSpent {w : WriterCall} (h : Call.tx env snap (.writer w) db = .ok (c, db')) :
    db.globalWriterEvent <+: db'.globalWriterEvent := by
  have logged {row : GlobalWriterLease} {event : GlobalWriterEvent}
      (h : WriterWrites env db row event db') : db.globalWriterEvent <+: db'.globalWriterEvent := by
    rw [h.writes]
    exact List.prefix_append _ _
  cases w with
  | acquire a =>
    obtain ⟨_, hx⟩ := done_ok h
    rcases (acquireWriterTx_writes hx).2 with ⟨-, rfl⟩ | ⟨_, _, _, hwrites, -⟩
    · exact List.prefix_refl _
    · exact logged hwrites
  | heartbeat owner token ttl =>
    obtain ⟨_, hx⟩ := done_ok h
    obtain ⟨-, -, _, _, -, -, -, rfl⟩ := heartbeatWriterTx_writes hx
    exact List.prefix_refl _
  | release a =>
    obtain ⟨_, hx⟩ := done_ok h
    rcases releaseWriterTx_writes hx with ⟨-, rfl⟩ | ⟨_, _, hwrites, -⟩
    · exact List.prefix_refl _
    · exact logged hwrites
  | forceRevoke a =>
    obtain ⟨_, hx⟩ := done_ok h
    rcases revokeWriterTx_writes hx with ⟨-, rfl⟩ | ⟨_, _, hwrites, -⟩
    · exact List.prefix_refl _
    · exact logged hwrites
  | assertCurrent owner token =>
    obtain ⟨_, hx⟩ := done_ok h
    rw [(assertCurrentGlobalWriter_ok hx).2]

/-- A committed call leaves every spent key spent. -/
theorem Call.keepsSpent (hd : (db.sliceControlState.map (·.sliceId)).Nodup)
    (h : call.tx env snap db = .ok (c, db')) (hk : k.Spent db) : k.Spent db' := by
  have hcontrol := Call.controlStep hd h
  cases k with
  | event id key =>
    obtain ⟨e, he, hkey⟩ := hk
    exact ⟨e, (Call.keepsCore h).1.subset he, hkey⟩
  | creation key => exact spent_of_grows (Call.keepsCore h).2 hk
  | slice key =>
    obtain ⟨e, he, hkey⟩ := hk
    exact ⟨e, hcontrol.sliceChange.keepsSpent.subset he, hkey⟩
  | authority key =>
    obtain ⟨e, he, hkey⟩ := hk
    rcases hcontrol.authorityStep with hsame | hstep
    · exact ⟨e, (AuthorityGrows.of_same hsame).events.subset he, hkey⟩
    · exact ⟨e, hstep.grows.1.events.subset he, hkey⟩
  | writer key =>
    obtain ⟨e, he, hkey⟩ := hk
    by_cases hw : ∃ w, call = .writer w
    · obtain ⟨w, rfl⟩ := hw
      exact ⟨e, (WriterCall.keepsSpent h).subset he, hkey⟩
    · have hsame := hcontrol.writer_same fun w hcall => hw ⟨w, hcall⟩
      have hevents : db'.globalWriterEvent = db.globalWriterEvent := (Prod.ext_iff.mp hsame).2
      exact ⟨e, hevents ▸ he, hkey⟩
  | attempt key => exact spent_of_grows (Call.evidenceStep h).keepsSpent.1 hk
  | verification key =>
    obtain ⟨v, hv, hkey⟩ := hk
    exact ⟨v, (Call.evidenceStep h).keepsSpent.2.subset hv, hkey⟩
  | approval key => exact spent_of_grows (approvalStep_keepsSpent (Call.candidateStep h).approvalStep) hk

theorem Run.keepsSpent (h : Run allowed past db) :
    ∀ old ∈ db :: past, ∀ k : OperationKey, k.Spent old → k.Spent db := by
  induction h with
  | start =>
    intro old hold k hk
    rw [List.mem_singleton.mp hold] at hk
    exact hk
  | @call past db snap env call run seen ok ih =>
    intro old hold k hk
    rcases List.mem_cons.mp hold with rfl | hold
    · exact hk
    · rcases call.exec_cases env snap db with he | ⟨c, hx⟩
      · rw [he]
        exact ih old hold k hk
      · exact Call.keepsSpent run.sliceLogged.distinct hx (ih old hold k hk)

/-! ## Replayed answers -/

/-- What a keyed call on one execution asks for: the execution, the key, the kind of
its event and the payload that the event carries. -/
def Call.request? : Call → Option (String × String × EventType × Json)
  | acquireLease a => some (a.executionId, a.operationKey, .LEASE_ACQUIRED, a.payload)
  | releaseLease a => some (a.executionId, a.operationKey, .LEASE_RELEASED, a.payload)
  | transition a => some (a.executionId, a.operationKey, a.eventType, a.payload)
  | registerResultCommit a =>
    some (a.executionId, a.operationKey, .RESULT_COMMIT_REGISTERED, a.payload)
  | scheduleRework a => some (a.executionId, a.operationKey, .STATE_TRANSITION, a.payload)
  | acceptExecution a => some (a.executionId, a.operationKey, .ACCEPTED, a.payload)
  | _ => none

/-- The execution has an event under the key, of this kind and with this payload. -/
def Recorded (db : Db) (id key : String) (ty : EventType) (payload : Json) : Prop :=
  ∃ event ∈ db.events id, event.operationKey = key ∧ event.eventType = ty ∧
    canonicalJson payload = .ok event.metadataJson

theorem replayOr_replayed {id key json : String} {ty : EventType} {payload : Json}
    {body : Tx PyError Db Unit} (hjson : canonicalJson payload = .ok json)
    (h : replayOr id key ty json body db = .ok (.replayed, db')) : Recorded db id key ty payload := by
  unfold replayOr at h
  obtain ⟨found, s, hx, h⟩ := Tx.bind_ok.mp h
  cases found with
  | none =>
    obtain ⟨_, _, -, h⟩ := Tx.bind_ok.mp h
    cases Tx.pure_ok.mp h
  | some event =>
    unfold existingEvent at hx
    rcases Tx.read_option_bind_ok hx with ⟨event', hfound, hx⟩ | ⟨-, hx⟩
    · obtain ⟨⟨hty, hmetadata⟩, -⟩ := Tx.require_bind_ok.mp hx
      have hkey := List.find?_some hfound
      exact ⟨event', List.mem_of_find?_eq_some hfound, of_decide_eq_true hkey, hty,
        hmetadata ▸ hjson⟩
    · cases Tx.pure_ok.mp hx

/-- A replayed answer comes from a record of this very request. -/
theorem Call.replayed_recorded {id key : String} {ty : EventType} {payload : Json}
    (hrequest : call.request? = some (id, key, ty, payload))
    (h : call.tx env snap db = .ok (.replayed, db')) : Recorded db id key ty payload := by
  cases call with
  | acquireLease a =>
    cases hrequest
    have h : acquireLeaseTx env a db = .ok (.replayed, db') := h
    unfold acquireLeaseTx requireSha256 requireTtl at h
    obtain ⟨-, h⟩ := Tx.require_bind_ok.mp h
    obtain ⟨-, h⟩ := Tx.require_bind_ok.mp h
    obtain ⟨-, h⟩ := Tx.require_bind_ok.mp h
    obtain ⟨json, hjson, h⟩ := Tx.lift_bind_ok.mp h
    obtain ⟨expires, -, h⟩ := Tx.lift_bind_ok.mp h
    exact replayOr_replayed hjson (begin_bind_ok h)
  | releaseLease a =>
    cases hrequest
    have h : releaseLeaseTx env a db = .ok (.replayed, db') := h
    unfold releaseLeaseTx requireSha256 at h
    obtain ⟨-, h⟩ := Tx.require_bind_ok.mp h
    obtain ⟨json, hjson, h⟩ := Tx.lift_bind_ok.mp h
    exact replayOr_replayed hjson (begin_bind_ok h)
  | transition a =>
    cases hrequest
    have h : transitionTx env a db = .ok (.replayed, db') := h
    unfold transitionTx requireSha256 at h
    obtain ⟨-, h⟩ := Tx.require_bind_ok.mp h
    obtain ⟨-, h⟩ := Tx.require_bind_ok.mp h
    obtain ⟨-, h⟩ := Tx.require_bind_ok.mp h
    obtain ⟨json, hjson, h⟩ := Tx.lift_bind_ok.mp h
    have h := requireOptionalFence_bind_ok (begin_bind_ok h)
    obtain ⟨c, s, hreplay, h⟩ := Tx.bind_ok.mp h
    have h := requireOptionalFence_bind_ok h
    cases Tx.pure_ok.mp h
    exact replayOr_replayed hjson hreplay
  | registerResultCommit a =>
    cases hrequest
    have h : registerResultCommitTx env a db = .ok (.replayed, db') := h
    unfold registerResultCommitTx requireSha256 requireCommit at h
    obtain ⟨-, h⟩ := Tx.require_bind_ok.mp h
    obtain ⟨-, h⟩ := Tx.require_bind_ok.mp h
    obtain ⟨json, hjson, h⟩ := Tx.lift_bind_ok.mp h
    exact replayOr_replayed hjson (begin_bind_ok h)
  | scheduleRework a =>
    cases hrequest
    have h : scheduleReworkTx env a db = .ok (.replayed, db') := h
    unfold scheduleReworkTx requireSha256 at h
    obtain ⟨-, h⟩ := Tx.require_bind_ok.mp h
    obtain ⟨json, hjson, h⟩ := Tx.lift_bind_ok.mp h
    exact replayOr_replayed hjson (begin_bind_ok h)
  | acceptExecution a =>
    cases hrequest
    have h : acceptExecutionTx env a db = .ok (.replayed, db') := h
    unfold acceptExecutionTx at h
    obtain ⟨ids, -, h⟩ := (AcceptExecution.validate_readOnly a).bind_ok h
    obtain ⟨json, hjson, h⟩ := Tx.lift_bind_ok.mp h
    exact replayOr_replayed hjson (begin_bind_ok h)
  | _ => cases hrequest

/-! ## Runs -/

/-- **A spent key changes nothing.** In every run, each key spent in an earlier state
is spent in the last one; a call that presents a spent key, whatever else it carries
and whatever it read before, leaves the database as it is; a call that changes the
database finds each of its keys unspent and leaves each of them spent; and a call
answered as a replay finds under its key an event of its own kind and payload. -/
theorem spent_keys (h : Run (fun _ _ _ => True) past db) :
    (∀ old ∈ past, ∀ k : OperationKey, k.Spent old → k.Spent db) ∧
    (∀ env snap call, ∀ k ∈ Call.keys call, k.Spent db → call.exec env snap db = db) ∧
    (∀ env snap call, Call.exec env snap call db ≠ db → ∀ k ∈ call.keys,
      ¬ k.Spent db ∧ k.Spent (call.exec env snap db)) ∧
    (∀ env snap call db' id key ty payload, Call.tx env snap call db = .ok (.replayed, db') →
      call.request? = some (id, key, ty, payload) → db' = db ∧ Recorded db id key ty payload) := by
  refine ⟨fun old hold => h.keepsSpent old (List.mem_cons_of_mem _ hold), ?_, ?_, ?_⟩
  · intro env snap call k hk hspent
    exact (Call.once env snap hk).again hspent
  · intro env snap call hne k hk
    exact (Call.once env snap hk).spent hne
  · intro env snap call db' id key ty payload hx hrequest
    have hrecorded := Call.replayed_recorded hrequest hx
    refine ⟨?_, hrecorded⟩
    -- the recorded event has spent the key of the call
    obtain ⟨event, hevent, hkey, -⟩ := hrecorded
    obtain ⟨hmem, hid⟩ := List.mem_filter.mp hevent
    have hspent : (OperationKey.event id key).Spent db := ⟨event, hmem, of_decide_eq_true hid, hkey⟩
    have hmem : OperationKey.event id key ∈ call.keys := by
      cases call <;> cases hrequest <;> exact List.mem_singleton_self _
    rcases Call.once env snap hmem db .replayed db' hx with hsame | ⟨hfree, -⟩
    · exact hsame
    · exact (hfree hspent).elim

/-- The lease of the sample execution is asked for again under the same key. -/
theorem spent_keys_leased :
    (Call.acquireLease sampleAcquire).exec (sampleEnv "event-2") sampleLeased sampleLeased =
      sampleLeased := by
  obtain ⟨past, run⟩ := sampleLeased_reachable
  exact (spent_keys run).2.1 (sampleEnv "event-2") sampleLeased (.acquireLease sampleAcquire)
    (.event "execution" (sampleKey '1')) (List.mem_singleton_self _)
    ⟨sampleLeasing, by simp, rfl, rfl⟩

end Adcp.L4
