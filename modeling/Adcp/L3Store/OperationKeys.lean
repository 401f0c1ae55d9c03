import Adcp.L1Base.OnceOnly
import Adcp.L3Store.Lifecycle

/-!
# Operation keys

Every keyed operation records its key in a table that holds it once: the event
logs, the rows that a creation, a registration or a request makes. A key is spent
when its table holds it.

* `OperationKey`, `OperationKey.Spent`: the keys, and the table of each.
* `…_claims`: a statement that inserts a key refuses a spent one.
* `…Tx_once`: a keyed operation changes nothing, or its keys were unspent before
  it and are spent after it.
-/
namespace Adcp.L3

open Adcp.L1 Adcp.L2 ExecutionState

/-- A key under the table that holds it once. -/
inductive OperationKey where
  | event (executionId key : String)
  | creation (key : String)
  | slice (key : String)
  | authority (key : String)
  | writer (key : String)
  | attempt (key : String)
  | verification (key : String)
  | approval (key : String)
  deriving DecidableEq, Repr

/-- The key is in its table. -/
def OperationKey.Spent : OperationKey → Db → Prop
  | event id key, db => ∃ e ∈ db.transitionEvent, e.executionId = id ∧ e.operationKey = key
  | creation key, db => ∃ r ∈ db.sliceExecution, r.createIdempotencyKey = key
  | slice key, db => ∃ e ∈ db.sliceControlEvent, e.operationKey = key
  | authority key, db => ∃ e ∈ db.authorityTransitionEvent, e.operationKey = key
  | writer key, db => ∃ e ∈ db.globalWriterEvent, e.operationKey = key
  | attempt key, db => ∃ t ∈ db.agentAttempt, t.operationKey = key
  | verification key, db => ∃ v ∈ db.verificationResult, v.operationKey = key
  | approval key, db => ∃ r ∈ db.approvalRequest, r.idempotencyKey = key

instance (k : OperationKey) (db : Db) : Decidable (k.Spent db) := by
  cases k <;> unfold OperationKey.Spent <;> infer_instance

/-- No row of a table has the key that a lookup missed. -/
theorem unspent_of_find {ρ : Type} {key : ρ → String} {t : List ρ} {k : String}
    (h : t.find? (key · = k) = none) : ¬ ∃ r ∈ t, key r = k := by
  intro hspent
  obtain ⟨r, hr, hk⟩ := hspent
  exact List.find?_eq_none.mp h r hr (decide_eq_true hk)

/-- The row just appended has its own key. -/
theorem spent_append {ρ : Type} {key : ρ → String} {t : List ρ} (r : ρ) :
    ∃ r' ∈ t ++ [r], key r' = key r :=
  ⟨r, List.mem_append_right _ (List.mem_singleton_self r), rfl⟩

/-- A key stays in its table when a row is appended, -/
theorem spent_left {ρ : Type} {key : ρ → String} {t : List ρ} {k : String} (r : ρ)
    (h : ∃ r ∈ t, key r = k) : ∃ r' ∈ t ++ [r], key r' = k := by
  obtain ⟨r', hr', hk⟩ := h
  exact ⟨r', List.mem_append_left _ hr', hk⟩

/-- and when one is rewritten that keeps its own. -/
theorem spent_update {ρ κ : Type} [DecidableEq κ] {id : ρ → κ} {i : κ} {key : ρ → String}
    {t : List ρ} {k : String} {f : ρ → ρ} (hf : ∀ r, key (f r) = key r)
    (h : ∃ r ∈ t, key r = k) : ∃ r ∈ Table.update id t i f, key r = k := by
  obtain ⟨r, hr, hk⟩ := h
  refine ⟨_, List.mem_map.mpr ⟨r, hr, rfl⟩, ?_⟩
  split
  · rw [hf, hk]
  · exact hk

variable {α : Type} {env : Env}

/-! ## Statements -/

section Statements

theorem begin_readOnly {n : Nat} : Tx.ReadOnly (begin env n) := by
  intro s a s' h
  have h' : (begin env n >>= pure) s = .ok (a, s') := Tx.bind_ok.mpr ⟨a, s', h, rfl⟩
  cases Tx.pure_ok.mp (begin_bind_ok h')
  rfl

theorem inject_readOnly {point : String} : Tx.ReadOnly (inject env point : Tx PyError Db Unit) := by
  intro s a s' h
  cases (inject_ok.mp h).2
  rfl

theorem optionalFence_readOnly {n : Nat} {id : String} {fence : Option CandidateWriteFence}
    {check : Bool} : Tx.ReadOnly (requireOptionalFence env n id fence check) := by
  intro s a s' h
  cases requireOptionalFence_ok h
  rfl

theorem requireFence_readOnly {row : SliceExecution} {owner : String} {generation : Int}
    {now : Timestamp} : Tx.ReadOnly (requireFence row owner generation now) := .require

theorem validateTransition_readOnly {source target : ExecutionState}
    {stored requested : Option ExecutionState} :
    Tx.ReadOnly (validateTransition source target stored requested : Tx PyError Db Unit) := by
  intro s a s' h
  cases (validateTransition_ok.mp h).2
  rfl

theorem requireBlocker_readOnly (a : Transition) : Tx.ReadOnly a.requireBlocker := by
  unfold Transition.requireBlocker
  exact .ite .require .require

theorem singleMaker_readOnly {id commit : String} :
    Tx.ReadOnly (requireSingleCompletedMaker id commit) := by
  intro s a s' h
  cases requireSingleCompletedMaker_ok h
  rfl

/-- No statement below forgets a key that is spent. -/
theorem updateExecution_keeps {k : OperationKey} {id : String} {cond : SliceExecution → Bool}
    {set : SliceExecution → SliceExecution} {lost : PyError}
    (hset : ∀ r, (set r).createIdempotencyKey = r.createIdempotencyKey) :
    Tx.Keeps k.Spent (updateExecution id cond set lost) := by
  intro s a s' h hs
  obtain ⟨_, -, -, -, h⟩ := updateExecution_bind_ok (f := pure) (Tx.bind_ok.mpr ⟨_, _, h, rfl⟩)
  cases Tx.pure_ok.mp h
  cases k with
  | creation key => exact spent_update hset hs
  | _ => exact hs

theorem insertEvent_keeps {k : OperationKey} {eventId : String} {e : EventFields} :
    Tx.Keeps k.Spent (insertEvent eventId e) := by
  intro s a s' h hs
  have h := insertEvent_bind_ok (f := pure) (Tx.bind_ok.mpr ⟨_, _, h, rfl⟩)
  cases Tx.pure_ok.mp h
  cases k with
  | event id key =>
    obtain ⟨e', he', hkey⟩ := hs
    exact ⟨e', List.mem_append_left _ he', hkey⟩
  | _ => exact hs

theorem insertExecution_keeps {k : OperationKey} {row : SliceExecution} :
    Tx.Keeps k.Spent (insertExecution row) := by
  intro s a s' h hs
  obtain ⟨-, -, -, h⟩ := insertExecution_bind_ok (f := pure) (Tx.bind_ok.mpr ⟨_, _, h, rfl⟩)
  cases Tx.pure_ok.mp h
  cases k with
  | creation key => exact spent_left row hs
  | _ => exact hs

theorem insertContextSnapshot_keeps {k : OperationKey} {row : ContextSnapshot} :
    Tx.Keeps k.Spent (insertContextSnapshot row) := by
  intro s a s' h hs
  obtain ⟨-, -, h⟩ := insertContextSnapshot_bind_ok (f := pure) (Tx.bind_ok.mpr ⟨_, _, h, rfl⟩)
  cases Tx.pure_ok.mp h
  cases k <;> exact hs

theorem insertSliceEvent_keeps {k : OperationKey} {event : SliceControlEvent} :
    Tx.Keeps k.Spent (insertSliceEvent event) := by
  intro s a s' h hs
  have h := insertSliceEvent_bind_ok (f := pure) (Tx.bind_ok.mpr ⟨_, _, h, rfl⟩)
  cases Tx.pure_ok.mp h
  cases k with
  | slice key => exact spent_left event hs
  | _ => exact hs

theorem updateSlice_keeps {k : OperationKey} {id : String} {version : Int}
    {set : SliceControlFields → SliceControlFields} {now : Timestamp} :
    Tx.Keeps k.Spent (updateSlice id version set now) := by
  intro s a s' h hs
  obtain ⟨_, -, -, -, h⟩ := updateSlice_bind_ok (f := pure) (Tx.bind_ok.mpr ⟨_, _, h, rfl⟩)
  cases Tx.pure_ok.mp h
  cases k <;> exact hs

theorem insertSlice_keeps {k : OperationKey} {fields : SliceControlFields} {now : Timestamp} :
    Tx.Keeps k.Spent (insertSlice fields now) := by
  intro s a s' h hs
  obtain ⟨-, -, _, -, -, rfl⟩ := insertSlice_ok h
  cases k <;> exact hs

theorem consumeApproval_keeps {k : OperationKey} {id : String} {cond : ApprovalRequest → Bool}
    {now : Timestamp} : Tx.Keeps k.Spent (consumeApproval id cond now) := by
  intro s a s' h hs
  obtain ⟨_, -, -, -, -, h⟩ := consumeApproval_bind_ok (f := pure) (Tx.bind_ok.mpr ⟨_, _, h, rfl⟩)
  cases Tx.pure_ok.mp h
  cases k with
  | approval key => exact spent_update (fun _ => rfl) hs
  | _ => exact hs

/-- `INSERT INTO transition_event` refuses a key its execution has used. -/
theorem insertEvent_claims {eventId : String} {e : EventFields} :
    Tx.Claims (OperationKey.event e.executionId e.operationKey).Spent (insertEvent eventId e) := by
  intro s a s' h
  unfold insertEvent at h
  have h := Tx.read_bind_ok.mp h
  obtain ⟨-, h⟩ := Tx.requireAll_bind_ok.mp h
  obtain ⟨-, h⟩ := Tx.require_bind_ok.mp h
  obtain ⟨hfree, h⟩ := Tx.require_bind_ok.mp h
  obtain ⟨-, h⟩ := Tx.require_bind_ok.mp h
  obtain ⟨-, h⟩ := Tx.require_bind_ok.mp h
  cases Tx.write_ok.mp h
  constructor
  · intro hspent
    obtain ⟨e', he', hid, hkey⟩ := hspent
    have hmem : e' ∈ s.events e.executionId := List.mem_filter.mpr ⟨he', decide_eq_true hid⟩
    exact of_decide_eq_true (List.all_eq_true.mp hfree e' hmem) hkey
  · exact ⟨e.row s eventId, List.mem_append_right _ (List.mem_singleton_self _), rfl, rfl⟩

/-- `INSERT INTO slice_execution` refuses a key that has created another one. -/
theorem insertExecution_claims {row : SliceExecution} :
    Tx.Claims (OperationKey.creation row.createIdempotencyKey).Spent (insertExecution row) := by
  intro s a s' h
  unfold insertExecution requireChecks at h
  have h := Tx.read_bind_ok.mp h
  obtain ⟨-, h⟩ := Tx.requireAll_bind_ok.mp h
  obtain ⟨-, h⟩ := Tx.require_bind_ok.mp h
  obtain ⟨hfree, h⟩ := Tx.require_bind_ok.mp h
  obtain ⟨-, h⟩ := Tx.require_bind_ok.mp h
  cases Tx.write_ok.mp h
  constructor
  · intro hspent
    obtain ⟨r, hr, hkey⟩ := hspent
    exact of_decide_eq_true (List.all_eq_true.mp hfree r hr) hkey
  · exact spent_append row

/-- `INSERT INTO slice_control_event` refuses a used key. -/
theorem insertSliceEvent_claims {event : SliceControlEvent} :
    Tx.Claims (OperationKey.slice event.operationKey).Spent (insertSliceEvent event) := by
  intro s a s' h
  unfold insertSliceEvent at h
  have h := Tx.read_bind_ok.mp h
  obtain ⟨-, h⟩ := Tx.requireAll_bind_ok.mp h
  obtain ⟨-, h⟩ := Tx.require_bind_ok.mp h
  obtain ⟨hfree, h⟩ := Tx.require_bind_ok.mp h
  obtain ⟨-, h⟩ := Tx.require_bind_ok.mp h
  cases Tx.write_ok.mp h
  exact ⟨unspent_of_find hfree, spent_append event⟩

end Statements

/-- A keyed operation whose body records its key takes effect once. -/
theorem replayOr_once {id key json : String} {ty : EventType} {body : Tx PyError Db Unit}
    (hbody : Tx.Claims (OperationKey.event id key).Spent body) :
    Tx.Once (OperationKey.event id key).Spent (replayOr id key ty json body) := by
  refine .after existingEvent_readOnly fun found => ?_
  cases found with
  | some event => exact Tx.ReadOnly.pure.once
  | none => exact (hbody.bind fun _ => Tx.ReadOnly.pure.keeps).once

/-! ## Executions -/

section Executions

variable (env)

theorem acquireLeaseTx_once (a : AcquireLease) :
    Tx.Once (OperationKey.event a.executionId a.operationKey).Spent (acquireLeaseTx env a) := by
  unfold acquireLeaseTx requireSha256 requireTtl getExecution
  refine .after .require fun _ => .after .require fun _ => .after .require fun _ =>
    .after .lift fun _ => .after .lift fun _ => .after begin_readOnly fun _ => replayOr_once ?_
  refine .after .find fun _ => .after .require fun _ => .after .require fun _ =>
    .after .require fun _ => .past ?_ fun _ => insertEvent_claims
  exact updateExecution_keeps fun _ => rfl

theorem releaseLeaseTx_once (a : ReleaseLease) :
    Tx.Once (OperationKey.event a.executionId a.operationKey).Spent (releaseLeaseTx env a) := by
  unfold releaseLeaseTx requireSha256 getExecution
  refine .after .require fun _ => .after .lift fun _ => .after begin_readOnly fun _ =>
    replayOr_once ?_
  refine .after .find fun _ => .after requireFence_readOnly fun _ => .after .require fun _ =>
    .past ?_ fun _ => insertEvent_claims
  exact updateExecution_keeps fun _ => rfl

theorem transitionTx_once (a : Transition) :
    Tx.Once (OperationKey.event a.executionId a.operationKey).Spent (transitionTx env a) := by
  unfold transitionTx requireSha256
  refine .after .require fun _ => .after .require fun _ => .after .require fun _ =>
    .after .lift fun _ => .after begin_readOnly fun _ => .after optionalFence_readOnly fun _ =>
    .bind (replayOr_once ?_) fun _ => .bind optionalFence_readOnly fun _ => .pure
  unfold Transition.body getExecution
  refine .after .find fun _ => .after requireFence_readOnly fun _ => .after .require fun _ =>
    .after validateTransition_readOnly fun _ => .after (requireBlocker_readOnly a) fun _ =>
    .past ?_ fun _ => insertEvent_claims
  exact updateExecution_keeps fun _ => rfl

theorem registerResultCommitTx_once (a : RegisterResultCommit) :
    Tx.Once (OperationKey.event a.executionId a.operationKey).Spent
      (registerResultCommitTx env a) := by
  unfold registerResultCommitTx requireSha256 requireCommit getExecution
  refine .after .require fun _ => .after .require fun _ => .after .lift fun _ =>
    .after begin_readOnly fun _ => replayOr_once ?_
  refine .after .find fun _ => .after requireFence_readOnly fun _ => .after .require fun _ =>
    .past ?_ fun _ => insertEvent_claims
  exact updateExecution_keeps fun _ => rfl

theorem scheduleReworkTx_once (a : ScheduleRework) :
    Tx.Once (OperationKey.event a.executionId a.operationKey).Spent (scheduleReworkTx env a) := by
  unfold scheduleReworkTx requireSha256 getExecution
  refine .after .require fun _ => .after .lift fun _ => .after begin_readOnly fun _ =>
    replayOr_once ?_
  refine .after .find fun _ => .after requireFence_readOnly fun _ => .after .require fun _ =>
    .after .require fun _ => .after .require fun _ => .past ?_ fun _ => insertEvent_claims
  exact updateExecution_keeps fun _ => rfl

/-- It writes two events under two keys, and claims each of them. -/
theorem authorizeHighReworkTx_once (a : AuthorizeHighRework) :
    Tx.Once (OperationKey.event a.executionId a.resumeOperationKey).Spent
        (authorizeHighReworkTx env a) ∧
      Tx.Once (OperationKey.event a.executionId a.readyOperationKey).Spent
        (authorizeHighReworkTx env a) := by
  have hkeeps (k : OperationKey) (cond : SliceExecution → Bool) (now : Timestamp) :
      Tx.Keeps k.Spent (updateExecution a.executionId cond (fun r => { r with
        state := REWORK_READY, stateVersion := r.stateVersion + 1
        currentActorRole := .CONTROLLER, updatedAt := now }) (storeError "STALE_STATE_VERSION")) :=
    updateExecution_keeps fun _ => rfl
  unfold authorizeHighReworkTx requireSha256 requireCommit getExecution
  constructor
  all_goals
    refine .after .require fun _ => .after .require fun _ => .after .require fun _ =>
      .after .require fun _ => .after .require fun _ => .after .require fun _ =>
      .after begin_readOnly fun _ => .after .find fun row => .after requireFence_readOnly fun _ =>
      .after .require fun _ => .after .require fun _ => .after (requireBinding_readOnly a row) fun _ =>
      .after validateTransition_readOnly fun _ => Tx.Claims.once ?_
    refine .past (updateExecution_keeps fun _ => rfl) fun _ => .after .lift fun _ => ?_
  -- the first event claims the first key, and what follows keeps it
  · refine .bind insertEvent_claims fun _ => .bind validateTransition_readOnly.keeps fun _ => ?_
    exact .bind (hkeeps _ _ _) fun _ => .bind Tx.ReadOnly.lift.keeps fun _ => insertEvent_keeps
  -- the second key is claimed by the second event, past the first
  · refine .past insertEvent_keeps fun _ => .after validateTransition_readOnly fun _ => ?_
    exact .past (hkeeps _ _ _) fun _ => .after .lift fun _ => insertEvent_claims

theorem authorization_readOnly (a : ScheduleHumanAuthorizedRework) (row : SliceExecution)
    (commit : String) : Tx.ReadOnly (a.authorization row commit) := by
  intro s seq s' h
  obtain ⟨_, _, -, -, -, -, h⟩ := authorization_bind_ok (f := pure) (Tx.bind_ok.mpr ⟨_, _, h, rfl⟩)
  cases Tx.pure_ok.mp h
  rfl

theorem requireApproval_readOnly (a : ScheduleHumanAuthorizedRework) :
    Tx.ReadOnly a.requireApproval := by
  intro s u s' h
  obtain ⟨_, -, -, -, -, -, -, h⟩ := requireApproval_bind_ok (f := pure)
    (Tx.bind_ok.mpr ⟨_, _, h, rfl⟩)
  cases Tx.pure_ok.mp h
  rfl

theorem scheduleHumanAuthorizedReworkTx_once (a : ScheduleHumanAuthorizedRework) :
    Tx.Once (OperationKey.event a.executionId a.operationKey).Spent
      (scheduleHumanAuthorizedReworkTx env a) := by
  unfold scheduleHumanAuthorizedReworkTx requireSha256 getExecution
  refine .after .require fun _ => .after begin_readOnly fun _ => .after .find fun row =>
    .after requireFence_readOnly fun _ => .after .require fun _ => .after .require fun _ =>
    .after .find fun _ => .after singleMaker_readOnly fun _ =>
    .after (requireApproval_readOnly a) fun _ => .after (authorization_readOnly a _ _) fun _ =>
    Tx.Claims.once ?_
  exact .past consumeApproval_keeps fun _ => .past (updateExecution_keeps fun _ => rfl) fun _ =>
    .after .lift fun _ => insertEvent_claims

/-! ### Acceptance and closure -/

theorem requireExecution_readOnly (a : AcceptExecution) (execution : SliceExecution)
    (now : Timestamp) : Tx.ReadOnly (a.requireExecution execution now) := by
  unfold AcceptExecution.requireExecution
  exact .bind requireFence_readOnly fun _ => .bind .require fun _ => .bind .require fun _ =>
    .bind .find fun _ => .bind .require fun _ => .pure

theorem requireEvidence_readOnly (a : AcceptExecution) (ids : EvidenceIds)
    (execution : SliceExecution) (commit : String) :
    Tx.ReadOnly (a.requireEvidence ids execution commit) := by
  unfold AcceptExecution.requireEvidence getAgentAttempt getVerificationResult getEvaluationResult
  exact .bind .find fun _ => .bind .find fun _ => .bind .find fun _ => .bind .find fun _ =>
    .bind .require fun _ => .pure

theorem requireContexts_readOnly (a : AcceptExecution) (rows : EvidenceRows) :
    Tx.ReadOnly (a.requireContexts rows) := by
  have href (t : AgentAttempt) : Tx.ReadOnly (AcceptExecution.contextRef t) :=
    .bind .find fun _ => .pure
  unfold AcceptExecution.requireContexts
  exact .bind (href _) fun _ => .bind (href _) fun _ =>
    .bind (items_readOnly _ _) fun _ => .bind .require fun _ => .require

theorem requireTransitions_readOnly (a : AcceptExecution) : Tx.ReadOnly a.requireTransitions := by
  unfold AcceptExecution.requireTransitions
  exact .bind .read fun _ => .bind .lift fun _ => .bind .lift fun _ => .require

theorem consume_keeps {k : OperationKey} {a : AcceptExecution} {execution : SliceExecution}
    {commit evaluationId : String} {now : Timestamp} :
    Tx.Keeps k.Spent (a.consume execution commit evaluationId now) := by
  intro s u s' h hs
  obtain ⟨approvals, hcases, h⟩ := AcceptExecution.consume_bind_ok (f := pure)
    (Tx.bind_ok.mpr ⟨_, _, h, rfl⟩)
  cases Tx.pure_ok.mp h
  rcases hcases with ⟨-, rfl⟩ | ⟨id, approval, -, rfl⟩
  · exact hs
  · cases k with
    | approval key => exact spent_update (fun _ => rfl) hs
    | _ => exact hs

theorem insertManifest_keeps {k : OperationKey} {a : AcceptExecution} {ids : EvidenceIds}
    {execution : SliceExecution} {commit : String} :
    Tx.Keeps k.Spent (a.insertManifest ids execution commit) := by
  intro s u s' h hs
  obtain ⟨_, -, -, h⟩ := AcceptExecution.insertManifest_bind_ok (f := pure)
    (Tx.bind_ok.mpr ⟨_, _, h, rfl⟩)
  cases Tx.pure_ok.mp h
  cases k <;> exact hs

theorem acceptExecutionTx_once (a : AcceptExecution) :
    Tx.Once (OperationKey.event a.executionId a.operationKey).Spent (acceptExecutionTx env a) := by
  unfold acceptExecutionTx
  refine .after (AcceptExecution.validate_readOnly a) fun ids => .after .lift fun _ =>
    .after begin_readOnly fun _ => replayOr_once ?_
  unfold AcceptExecution.body getExecution
  exact .after .find fun _ => .after (requireExecution_readOnly a _ _) fun _ =>
    .after (requireEvidence_readOnly a _ _ _) fun _ => .after (requireContexts_readOnly a _) fun _ =>
    .after (requireTransitions_readOnly a) fun _ => .past consume_keeps fun _ =>
    .past insertManifest_keeps fun _ => .past (updateExecution_keeps fun _ => rfl) fun _ =>
    insertEvent_claims

/-- A closure is recorded under the hash of its id. -/
theorem closeCandidateTx_once (a : CloseCandidate) {key : String}
    (hkey : canonicalSha256 (.obj [("closure_id", .str a.ids.closureId)]) = .ok key) :
    Tx.Once (OperationKey.event a.ids.executionId key).Spent (closeCandidateTx env a) := by
  unfold closeCandidateTx planCommit getApproval
  refine .after begin_readOnly fun _ => .after requireCandidateFence_readOnly fun _ =>
    .after .find fun _ => .after .require fun _ => .after .lift fun _ => .after .lift fun _ =>
    .after .require fun _ => .after .read fun existing =>
    .after candidateClosureAuthority_readOnly fun _ => .after .find fun _ => .after .find fun _ =>
    .after .require fun _ => .after .lift fun _ => .after .require fun _ =>
    .after requireCandidateFence_readOnly fun _ => ?_
  cases existing with
  | some closure =>
    exact (Tx.ReadOnly.bind requireCandidateFence_readOnly fun _ => .pure).once
  | none =>
    refine Tx.Claims.once (.bind ?_ fun _ =>
      (Tx.ReadOnly.bind requireCandidateFence_readOnly fun _ => .pure).keeps)
    unfold CloseCandidate.record
    have hwrite (row : CandidateCommitClosure) :
        Tx.Keeps (OperationKey.event a.ids.executionId key).Spent
          (Tx.write fun db : Db => { db with
            candidateCommitClosure := db.candidateCommitClosure ++ [row] } : Tx PyError Db Unit) := by
      intro s u s' h hs
      cases Tx.write_ok.mp h
      exact hs
    refine .after .read fun _ => .after .require fun _ => .after .require fun _ =>
      .past (hwrite _) fun _ => .past consumeApproval_keeps fun _ =>
      .past (updateExecution_keeps fun _ => rfl) fun _ => .after .lift fun _ => ?_
    rw [hkey]
    exact insertEvent_claims

/-! ### Creation and Slices -/

theorem createExecutionTx_once (spec : ExecutionCreate) (key : String) :
    Tx.Once (OperationKey.creation key).Spent (createExecutionTx env spec key) := by
  unfold createExecutionTx requireSha256
  refine .after (validate_readOnly spec) fun _ => .after .require fun _ => .after .lift fun _ =>
    .after .lift fun _ => .after begin_readOnly fun _ => .after .read fun found => ?_
  cases found with
  | some row => exact (Tx.ReadOnly.bind existingEvent_readOnly fun _ => .pure).once
  | none =>
    refine Tx.Claims.once (.bind insertExecution_claims fun _ => .bind insertEvent_keeps fun _ => ?_)
    exact Tx.ReadOnly.pure.keeps

theorem writes_claims (a : BindDeferredExecution) (sourceRoot json sliceJson fingerprint : String)
    (now : Timestamp) {k : OperationKey}
    (hk : k = .creation a.operationKey ∨ k = .slice a.operationKey) :
    Tx.Claims k.Spent (a.writes env sourceRoot json sliceJson fingerprint now) := by
  unfold BindDeferredExecution.writes
  rcases hk with rfl | rfl
  · exact .bind insertExecution_claims fun _ => .bind inject_readOnly.keeps fun _ =>
      .bind insertEvent_keeps fun _ => .bind inject_readOnly.keeps fun _ =>
      .bind insertContextSnapshot_keeps fun _ => .bind inject_readOnly.keeps fun _ =>
      .bind insertSliceEvent_keeps fun _ => .bind inject_readOnly.keeps fun _ =>
      .bind updateSlice_keeps fun _ => inject_readOnly.keeps
  · exact .past insertExecution_keeps fun _ => .after inject_readOnly fun _ =>
      .past insertEvent_keeps fun _ => .after inject_readOnly fun _ =>
      .past insertContextSnapshot_keeps fun _ => .after inject_readOnly fun _ =>
      .bind insertSliceEvent_claims fun _ => .bind inject_readOnly.keeps fun _ =>
      .bind updateSlice_keeps fun _ => inject_readOnly.keeps

theorem bindDeferredExecutionTx_once (a : BindDeferredExecution) {k : OperationKey}
    (hk : k = .creation a.operationKey ∨ k = .slice a.operationKey) :
    Tx.Once k.Spent (bindDeferredExecutionTx env a) := by
  unfold bindDeferredExecutionTx requireSha256
  refine .after (validate_readOnly a.spec) fun _ => .after .require fun _ => .after .require fun _ =>
    .after .require fun _ => .after .require fun _ => .after .lift fun _ =>
    .after (capsule_readOnly a) fun _ => .after .lift fun _ => .after begin_readOnly fun _ =>
    .mapError ?_
  refine .after .find fun _ => .after .require fun _ => .after .requireAll fun _ =>
    .after .lift fun _ => .after (validateSliceControlTarget_readOnly _) fun _ =>
    .after .lift fun _ => .after .read fun found => ?_
  cases found with
  | some event => exact (Tx.ReadOnly.bind (bindReplay_readOnly a _ _ _ _ _) fun _ => .pure).once
  | none =>
    refine .after (requireFree_readOnly a _ _ _) fun _ => Tx.Claims.once ?_
    exact .bind (writes_claims env a _ _ _ _ _ hk) fun _ => Tx.ReadOnly.pure.keeps

theorem requireBound_readOnly (a : FinalizeDeferredResultCommit) (execution : SliceExecution)
    (now : Timestamp) : Tx.ReadOnly (a.requireBound execution now) := by
  unfold FinalizeDeferredResultCommit.requireBound
  exact .bind requireFence_readOnly fun _ => .bind .require fun _ => .bind .require fun _ =>
    .bind .find fun _ => .bind .require fun _ => .bind .require fun _ => .bind .require fun _ => .pure

/-- A finalization records its key twice, once for the execution and once for the
Slice, and each record refuses a spent key. -/
theorem finalizeDeferredResultCommitTx_once (a : FinalizeDeferredResultCommit) {k : OperationKey}
    (hk : k = .event a.executionId a.operationKey ∨ k = .slice a.operationKey) :
    Tx.Once k.Spent (finalizeDeferredResultCommitTx env a) := by
  unfold finalizeDeferredResultCommitTx requireSha256 requireCommit getExecution
  refine .after .require fun _ => .after .require fun _ => .after .require fun _ =>
    .after .require fun _ => .after .lift fun _ => .after begin_readOnly fun _ =>
    .after existingEvent_readOnly fun _ => .after .read fun _ => .ite ?_ ?_
  · exact (Tx.ReadOnly.bind (finalizeReplay_readOnly a _ _) fun _ => .pure).once
  refine .after .find fun _ => .after (requireBound_readOnly a _ _) fun _ => .after .lift fun _ =>
    .after (validateSliceControlTarget_readOnly _) fun _ => .after .lift fun _ =>
    Tx.Claims.once (.bind ?_ fun _ => Tx.ReadOnly.pure.keeps)
  unfold FinalizeDeferredResultCommit.writes
  refine .past (updateExecution_keeps fun _ => rfl) fun _ => .after inject_readOnly fun _ => ?_
  rcases hk with rfl | rfl
  · exact .bind insertEvent_claims fun _ => .bind inject_readOnly.keeps fun _ =>
      .bind insertSliceEvent_keeps fun _ => .bind inject_readOnly.keeps fun _ =>
      .bind updateSlice_keeps fun _ => inject_readOnly.keeps
  · exact .past insertEvent_keeps fun _ => .after inject_readOnly fun _ =>
      .bind insertSliceEvent_claims fun _ => .bind inject_readOnly.keeps fun _ =>
      .bind updateSlice_keeps fun _ => inject_readOnly.keeps

theorem requireReleasable_readOnly (a : ReleaseDeferred) (execution : SliceExecution)
    (state : SliceControlState) : Tx.ReadOnly (a.requireReleasable execution state) := by
  unfold ReleaseDeferred.requireReleasable
  exact .bind .require fun _ => .bind .require fun _ => .bind .require fun _ =>
    .bind .require fun _ => .bind .require fun _ => .bind .require fun _ => .bind .read fun _ =>
    .bind .require fun _ => .bind .require fun _ => validateTransition_readOnly

theorem releaseDeferredTx_once (a : ReleaseDeferred) {k : OperationKey}
    (hk : k = .event a.executionId a.operationKey ∨ k = .slice a.operationKey) :
    Tx.Once k.Spent (releaseDeferredTx env a) := by
  unfold releaseDeferredTx requireSha256 getExecution getSliceControlState
  refine .after .require fun _ => .after .require fun _ => .after .require fun _ =>
    .after .require fun _ => .after begin_readOnly fun _ => .after .read fun found => ?_
  cases found with
  | some event => exact (Tx.ReadOnly.bind (releaseReplay_readOnly a _) fun _ => .pure).once
  | none =>
    refine .after .read fun _ => .after .require fun _ => .after .find fun _ => .after .find fun _ =>
      .after (requireReleasable_readOnly a _ _) fun _ => .after (getDeferredBinding_readOnly _) fun _ =>
      .after (requireCoherent_readOnly a _ _ _) fun _ => .after .lift fun _ =>
      .after (validateSliceControlTarget_readOnly _) fun _ => .after .lift fun _ =>
      .after .lift fun _ => Tx.Claims.once (.bind ?_ fun _ => Tx.ReadOnly.pure.keeps)
    unfold ReleaseDeferred.writes
    refine .past (updateExecution_keeps fun _ => rfl) fun _ => .after inject_readOnly fun _ => ?_
    rcases hk with rfl | rfl
    · exact .bind insertEvent_claims fun _ => .bind inject_readOnly.keeps fun _ =>
        .bind insertSliceEvent_keeps fun _ => .bind inject_readOnly.keeps fun _ =>
        .bind updateSlice_keeps fun _ => inject_readOnly.keeps
    · exact .past insertEvent_keeps fun _ => .after inject_readOnly fun _ =>
        .bind insertSliceEvent_claims fun _ => .bind inject_readOnly.keeps fun _ =>
        .bind updateSlice_keeps fun _ => inject_readOnly.keeps

/-- A reconcile whose target is already the row writes nothing, its key included. -/
theorem reconcileSliceTx_once (a : ReconcileSlice) :
    Tx.Once (OperationKey.slice a.operationKey).Spent (reconcileSliceTx env a) := by
  unfold reconcileSliceTx requireSha256 getControlAuthorityState getSliceControlState
  refine .after (validateSliceControlTarget_readOnly _) fun _ => .after .require fun _ =>
    .after .require fun _ => .after .require fun _ => .after .require fun _ => .after .lift fun _ =>
    .after begin_readOnly fun _ => .after .read fun _ => .after .require fun _ =>
    .after .require fun _ => .after .read fun found => ?_
  cases found with
  | some event =>
    exact (Tx.ReadOnly.bind .require fun _ => .bind .find fun _ => .require).once
  | none =>
    unfold ReconcileSlice.body
    refine .after .read fun current => ?_
    cases current with
    | some row =>
      refine .ite Tx.ReadOnly.require.once (.after .require fun _ => .after .require fun _ =>
        .after .require fun _ => Tx.Claims.once ?_)
      exact .bind insertSliceEvent_claims fun _ => updateSlice_keeps
    | none =>
      refine .after .require fun _ => Tx.Claims.once ?_
      exact .bind insertSliceEvent_claims fun _ => insertSlice_keeps

theorem transitionAuthorityTx_once (a : TransitionAuthority) :
    Tx.Once (OperationKey.authority a.operationKey).Spent (transitionAuthorityTx env a) := by
  intro s r s' h
  obtain ⟨row, replayed⟩ := r
  rcases transitionAuthorityTx_ok h with ⟨-, rfl, -⟩ | ⟨-, -, htransits, -, rfl⟩
  · exact Or.inl rfl
  · refine Or.inr ⟨?_, spent_append (a.event (env.uuid 0) (env.clock 1))⟩
    intro hspent
    obtain ⟨e, he, hkey⟩ := hspent
    exact htransits.unused e he hkey

end Executions

/-! ## The global writer -/

section Writer

theorem insertGlobalWriterEvent_sets {event : GlobalWriterEvent} :
    Tx.Sets (OperationKey.writer event.operationKey).Spent (insertGlobalWriterEvent event) := by
  intro s u s' h
  have h := insertGlobalWriterEvent_bind_ok (f := pure) (Tx.bind_ok.mpr ⟨_, _, h, rfl⟩)
  cases Tx.pure_ok.mp h
  exact spent_append event

theorem insertGlobalWriterEvent_claims {event : GlobalWriterEvent} :
    Tx.Claims (OperationKey.writer event.operationKey).Spent (insertGlobalWriterEvent event) := by
  intro s u s' h
  refine ⟨?_, insertGlobalWriterEvent_sets s u s' h⟩
  unfold insertGlobalWriterEvent at h
  have h := Tx.read_bind_ok.mp h
  obtain ⟨-, h⟩ := Tx.require_bind_ok.mp h
  obtain ⟨hfree, -⟩ := Tx.require_bind_ok.mp h
  intro hspent
  obtain ⟨e, he, hkey⟩ := hspent
  exact (of_decide_eq_true (List.all_eq_true.mp hfree e he)).2 hkey

theorem updateWriterLease_keeps {k : OperationKey} {cond : GlobalWriterLease → Bool}
    {set : GlobalWriterLease → GlobalWriterLease} {lost : PyError} :
    Tx.Keeps k.Spent (updateWriterLease env cond set lost) := by
  intro s u s' h hs
  obtain ⟨h, -⟩ := updateWriterLease_bind_ok (f := pure) (Tx.bind_ok.mpr ⟨_, _, h, rfl⟩)
  cases Tx.pure_ok.mp h
  cases k <;> exact hs

theorem existingGlobalWriterEvent_readOnly {key json : String} {allowed : List WriterEventType} :
    Tx.ReadOnly (existingGlobalWriterEvent key allowed json) := by
  intro s found s' h
  obtain ⟨_, h, -⟩ := existingGlobalWriterEvent_bind_ok (f := pure) (Tx.bind_ok.mpr ⟨_, _, h, rfl⟩)
  cases Tx.pure_ok.mp h
  rfl

theorem getLease_readOnly : Tx.ReadOnly (getGlobalProductionWriterLease env) := by
  intro s row s' h
  cases (getLease_ok.mp h).2
  rfl

theorem requireCurrent_readOnly {row : GlobalWriterLease} {owner : String} {token : Int}
    {now : Timestamp} : Tx.ReadOnly (requireCurrentGlobalWriter env row owner token now) := by
  intro s u s' h
  cases (requireCurrentGlobalWriter_ok.mp h).2
  rfl

theorem validateContext_readOnly (context : WriterContext) :
    Tx.ReadOnly (validateGlobalWriterContext context) := by
  unfold validateGlobalWriterContext
  exact .bind .requireAll fun _ => .requireAll

variable (env)

theorem acquireWriterTx_once (a : AcquireWriter) :
    Tx.Once (OperationKey.writer a.operationKey).Spent (acquireWriterTx env a) := by
  unfold acquireWriterTx requireSha256 requireTtl
  refine .after .require fun _ => .after .require fun _ => .after .require fun _ =>
    .after (validateContext_readOnly _) fun _ => .after .lift fun _ => .after .lift fun _ =>
    .mapError (.after existingGlobalWriterEvent_readOnly fun found => ?_)
  cases found with
  | some event =>
    exact (Tx.ReadOnly.bind getLease_readOnly fun _ => .bind .require fun _ => .pure).once
  | none =>
    refine .after getLease_readOnly fun _ => .after .require fun _ => Tx.Claims.once ?_
    exact .past updateWriterLease_keeps fun _ => .after inject_readOnly fun _ =>
      .bind insertGlobalWriterEvent_claims fun _ => .bind inject_readOnly.keeps fun _ =>
      Tx.ReadOnly.pure.keeps

theorem freeWriter_once (ty : WriterEventType) (key owner : String) (token newToken : Int)
    (reason : String) (ref : Option String) (json : String) (lost : PyError) :
    Tx.Once (OperationKey.writer key).Spent
      (freeWriter env ty key owner token newToken reason ref json lost) := by
  unfold freeWriter
  refine .mapError (.after existingGlobalWriterEvent_readOnly fun found => ?_)
  cases found with
  | some event =>
    exact (Tx.ReadOnly.bind getLease_readOnly fun _ => .bind .require fun _ => .pure).once
  | none =>
    refine .after getLease_readOnly fun _ => .after requireCurrent_readOnly fun _ =>
      Tx.Claims.once ?_
    exact .past updateWriterLease_keeps fun _ => .after inject_readOnly fun _ =>
      .bind insertGlobalWriterEvent_claims fun _ => .bind inject_readOnly.keeps fun _ =>
      Tx.ReadOnly.pure.keeps

theorem releaseWriterTx_once (a : ReleaseWriter) :
    Tx.Once (OperationKey.writer a.operationKey).Spent (releaseWriterTx env a) := by
  unfold releaseWriterTx requireSha256
  exact .after .require fun _ => .after .require fun _ => .after .require fun _ =>
    .after .require fun _ => .after .lift fun _ => freeWriter_once env _ _ _ _ _ _ _ _ _

theorem revokeWriterTx_once (a : RevokeWriter) :
    Tx.Once (OperationKey.writer a.operationKey).Spent (revokeWriterTx env a) := by
  unfold revokeWriterTx requireSha256
  exact .after .require fun _ => .after .requireAll fun _ => .after .require fun _ =>
    .after .lift fun _ => freeWriter_once env _ _ _ _ _ _ _ _ _

end Writer

/-! ## Records -/

section Records

variable (env)

theorem insertAgentAttempt_claims {row : AgentAttempt} :
    Tx.Claims (OperationKey.attempt row.operationKey).Spent (insertAgentAttempt row) := by
  intro s u s' h
  unfold insertAgentAttempt at h
  have h := Tx.read_bind_ok.mp h
  obtain ⟨-, h⟩ := Tx.requireAll_bind_ok.mp h
  obtain ⟨-, h⟩ := Tx.require_bind_ok.mp h
  obtain ⟨hfree, h⟩ := Tx.require_bind_ok.mp h
  obtain ⟨-, h⟩ := Tx.require_bind_ok.mp h
  obtain ⟨-, h⟩ := Tx.require_bind_ok.mp h
  obtain ⟨-, h⟩ := Tx.require_bind_ok.mp h
  cases Tx.write_ok.mp h
  constructor
  · intro hspent
    obtain ⟨t, ht, hkey⟩ := hspent
    exact of_decide_eq_true (List.all_eq_true.mp hfree t ht) hkey
  · exact spent_append row

theorem registerAgentAttemptTx_once (a : RegisterAgentAttempt) :
    Tx.Once (OperationKey.attempt a.operationKey).Spent (registerAgentAttemptTx env a) := by
  unfold registerAgentAttemptTx requireSha256 requireCommit
  refine .after .require fun _ => .after .require fun _ => .after .require fun _ =>
    .after .require fun _ => .after .require fun _ => .after begin_readOnly fun _ =>
    .after optionalFence_readOnly fun _ => .after .read fun found => ?_
  cases found with
  | some t => exact (Tx.ReadOnly.bind .require fun _ => optionalFence_readOnly).once
  | none => exact Tx.Claims.once (.bind insertAgentAttempt_claims fun _ => optionalFence_readOnly.keeps)

theorem registerVerificationResultTx_once (record : VerificationResultRecord) :
    Tx.Once (OperationKey.verification record.row.operationKey).Spent
      (registerVerificationResultTx env record) := by
  unfold registerVerificationResultTx
  refine .after .lift fun _ => .after .lift fun _ => .after .lift fun _ => .after .require fun _ =>
    .after begin_readOnly fun _ => .lookup (fun _ => unspent_of_find) (fun found => ?_) ?_
  · exact .bind .require fun _ => .pure
  · refine .after fun _ => .after fun _ => .after fun _ => .after fun _ => .bind ?_ fun _ =>
      Tx.ReadOnly.pure.keeps
    intro s u s' h
    cases Tx.write_ok.mp h
    exact spent_append record.row

theorem requireApprovalExpected_readOnly {row : SliceExecution} {a : RequestApproval} :
    Tx.ReadOnly (requireApprovalExpected row a) := by
  intro s u s' h
  cases requireApprovalExpected_ok h
  rfl

theorem requestApprovalTx_once (a : RequestApproval) :
    Tx.Once (OperationKey.approval a.idempotencyKey).Spent (requestApprovalTx env a) := by
  unfold requestApprovalTx requireSha256 getExecution
  refine .after .require fun _ => .after begin_readOnly fun _ => .after optionalFence_readOnly fun _ =>
    .after .find fun _ => .after requireFence_readOnly fun _ => .after .require fun _ =>
    .after requireApprovalExpected_readOnly fun _ =>
    .lookup (fun _ => unspent_of_find) (fun found => ?_) ?_
  · exact .bind .require fun _ => optionalFence_readOnly
  · refine .after fun _ => .after fun _ => .after fun _ => .after fun _ => .bind ?_ fun _ =>
      optionalFence_readOnly.keeps
    intro s u s' h
    cases Tx.write_ok.mp h
    exact spent_append (a.row (env.clock 0))

end Records

end Adcp.L3
