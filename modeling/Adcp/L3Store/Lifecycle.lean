import Adcp.L3Store.CandidateSteps
import Adcp.L3Store.DeferredBinding

/-!
# What an operation does to an execution

Eleven operations move an execution. Each does it by one kind of statement
pair, an `UPDATE slice_execution` that raises the version by one and an event
that says so: a `Bump`. `authorize_high_rework` makes two of them, `finalize`
and the deferred release rewrite the Slice row as well, and creation appends
the row and its first event.

* `Bump.set`, `BumpKind.Guard`: the columns a bump writes, and what its
  operation has checked about the row it writes over.
* `Bump.Logs`: the event says which bump it was, of which row.
* `…Tx_ok`: what each operation found, and the database it left.
-/
namespace Adcp.L3

open Adcp.L1 Adcp.L2 ExecutionState

/-! ## Logged updates -/

inductive BumpKind where
  | leaseAcquired (owner : String) (generation : Int) (expires : Timestamp)
  | leaseReleased
  | transition (a : Transition)
  | resultRegistered (commit : String)
  | resultFinalized (commit : String)
  | closed (commit : String)
  | highResumed
  | highReadied
  | humanReworked
  | autoReworked
  | accepted
  | released

/-- One logged update: the execution, what is done to it, the clock reading it
carries, and the lease its caller presented. -/
structure Bump where
  executionId : String
  kind : BumpKind
  now : Timestamp
  lease : Option (String × Int)

/-- The columns a bump writes. -/
def BumpKind.set (now : Timestamp) (r : SliceExecution) : BumpKind → SliceExecution
  | .leaseAcquired owner generation expires =>
    { r with
      leaseOwner := some owner, leaseGeneration := generation, leaseExpiresAt := some expires
      stateVersion := r.stateVersion + 1, updatedAt := now }
  | .leaseReleased =>
    { r with
      leaseOwner := none, leaseExpiresAt := none, stateVersion := r.stateVersion + 1
      updatedAt := now }
  | .transition a => a.set now r
  | .resultRegistered commit | .resultFinalized commit =>
    { r with resultCommit := some commit, stateVersion := r.stateVersion + 1, updatedAt := now }
  | .closed commit => CloseCandidate.set commit now r
  | .highResumed =>
    { r with
      state := VERIFYING, resumeState := none, stateVersion := r.stateVersion + 1
      currentActorRole := .CONTROLLER, blockerCode := none, blockerDetail := none
      updatedAt := now }
  | .highReadied =>
    { r with
      state := REWORK_READY, stateVersion := r.stateVersion + 1
      currentActorRole := .CONTROLLER, updatedAt := now }
  | .humanReworked =>
    { r with
      state := MAKER_RUNNING, stateVersion := r.stateVersion + 1
      currentActorRole := .CONTROLLER, updatedAt := now }
  | .autoReworked =>
    { r with
      state := MAKER_RUNNING, stateVersion := r.stateVersion + 1
      makerReworkCount := r.makerReworkCount + 1, currentActorRole := .CONTROLLER
      updatedAt := now }
  | .accepted => AcceptExecution.accepted now r
  | .released =>
    { r with
      state := CANCELLED, stateVersion := r.stateVersion + 1, currentActorRole := .CONTROLLER
      updatedAt := now }

def Bump.set (b : Bump) (r : SliceExecution) : SliceExecution := b.kind.set b.now r

/-- The blocker columns that a transition into `target` may set. -/
def BlockerFits (target : ExecutionState) (code detail : Option String) : Prop :=
  if target = BLOCKED ∨ target = DESIGN_ESCALATION then nonEmptyText code = true
  else code = none ∧ detail = none

/-- What the operation of a bump has checked about the row. -/
def BumpKind.Guard (now : Timestamp) (r : SliceExecution) : BumpKind → Prop
  | .leaseAcquired _ generation _ =>
    r.state ∉ terminalStates ∧ leaseHeld r now = false ∧ generation = r.leaseGeneration + 1
  | .leaseReleased => True
  | .transition a => Edge r.state a.toState r.resumeState ∧ ResumeFits a.toState a.resumeState ∧
      BlockerFits a.toState a.blockerCode a.blockerDetail
  | .resultRegistered _ => True
  | .resultFinalized _ => r.state = MAKER_RUNNING
  | .closed _ => r.state = WAITING_APPROVAL ∧ r.resultCommit = none
  | .highResumed => HighReworkState r
  | .highReadied => r.state = VERIFYING
  | .humanReworked => r.state = REWORK_READY
  | .autoReworked => r.state = REWORK_READY ∧ r.makerReworkCount < r.maxAutoReworks
  | .accepted => r.state = EVALUATING
  | .released => r.state = READY ∧ r.resultCommit = none ∧ r.leaseOwner = none

/-- The event of a bump on the row `r`. -/
structure Bump.Logs (b : Bump) (r : SliceExecution) (event : EventFields) : Prop where
  id : event.executionId = b.executionId
  source : event.fromState = some r.state
  target : event.toState = (b.set r).state
  version : event.toStateVersion = r.stateVersion + 1
  metadata : ∀ a, b.kind = .transition a → canonicalJson a.payload = .ok event.metadataJson

/-- The bump `b` is made on the row `r` and logged by `event`. -/
structure Bump.On (b : Bump) (r : SliceExecution) (event : TransitionEvent) : Prop where
  live : ∀ l ∈ b.lease, FenceLive r l.1 l.2 b.now
  guard : b.kind.Guard b.now r
  checks : ∀ p ∈ executionChecks (b.set r), p.2 = true
  logs : b.Logs r event.toEventFields

/-- The bump `b`, logged by `event`, is one the operations make on `db`. -/
def Bump.Allowed (b : Bump) (db : Db) (event : TransitionEvent) : Prop :=
  ∃ r, db.execution? b.executionId = some r ∧ b.On r event

/-- `db` after a logged update. -/
def Db.bump (db : Db) (b : Bump) (event : TransitionEvent) : Db :=
  { db with
    sliceExecution := Table.update (·.executionId) db.sliceExecution b.executionId b.set
    transitionEvent := db.transitionEvent ++ [event] }

/-- From `db` to `db'` by the bump `b` alone. -/
def Bumps (b : Bump) (db db' : Db) : Prop := ∃ event, b.Allowed db event ∧ db' = db.bump b event

theorem Bump.set_id (b : Bump) (r : SliceExecution) : (b.set r).executionId = r.executionId := by
  obtain ⟨_, k, _, _⟩ := b
  cases k <;> rfl

theorem Bump.set_version (b : Bump) (r : SliceExecution) :
    (b.set r).stateVersion = r.stateVersion + 1 := by
  obtain ⟨_, k, _, _⟩ := b
  cases k <;> rfl

variable {α : Type} {env : Env} {db db' : Db} {c : Commit}

theorem Db.bump_execution? (b : Bump) (event : TransitionEvent) (id : String) :
    (db.bump b event).execution? id =
      if id = b.executionId then (db.execution? id).map b.set else db.execution? id := by
  unfold Db.execution? Db.bump
  rw [Table.lookup_update fun r hr => (b.set_id r).trans hr]
  split
  · rename_i hid
    rw [hid]
  · rfl

/-- The statement pair of a bump, in front of the rest. -/
theorem bump_bind_ok {b : Bump} {row : SliceExecution} {cond : SliceExecution → Bool} {lost : PyError}
    {eventId : String} {e : EventFields} {f : Unit → Tx PyError Db α} {r : α × Db}
    (hrow : db.execution? b.executionId = some row)
    (hlease : ∀ l ∈ b.lease, FenceLive row l.1 l.2 b.now) (hguard : b.kind.Guard b.now row)
    (hlogs : b.Logs row e)
    (h : (updateExecution b.executionId cond b.set lost >>= fun _ =>
      insertEvent eventId e >>= f) db = .ok r) :
    ∃ event, b.Allowed db event ∧ f () (db.bump b event) = .ok r := by
  obtain ⟨row', hrow', -, hchecks, h⟩ := updateExecution_bind_ok h
  obtain rfl : row = row' := Option.some.inj (hrow.symm.trans hrow')
  have h := insertEvent_bind_ok h
  exact ⟨_, ⟨row, hrow, hlease, hguard, hchecks, hlogs⟩, h⟩

/-- The same at the end of an operation. -/
theorem bump_ok {b : Bump} {row : SliceExecution} {cond : SliceExecution → Bool} {lost : PyError}
    {eventId : String} {e : EventFields} (hrow : db.execution? b.executionId = some row)
    (hlease : ∀ l ∈ b.lease, FenceLive row l.1 l.2 b.now) (hguard : b.kind.Guard b.now row)
    (hlogs : b.Logs row e)
    (h : (updateExecution b.executionId cond b.set lost >>= fun _ => insertEvent eventId e) db =
      .ok ((), db')) : Bumps b db db' := by
  obtain ⟨u, s, h1, h2⟩ := Tx.bind_ok.mp h
  have h3 : (insertEvent eventId e >>= pure) s = .ok ((), db') := Tx.bind_ok.mpr ⟨_, _, h2, rfl⟩
  obtain ⟨event, hallowed, h⟩ := bump_bind_ok hrow hlease hguard hlogs
    (Tx.bind_ok.mpr ⟨u, s, h1, h3⟩)
  cases Tx.pure_ok.mp h
  exact ⟨event, hallowed, rfl⟩

/-- Every bump but an acquisition keeps the generation, and keeps the owner or
clears it. -/
theorem Bump.keeps_lease {b : Bump} (r : SliceExecution)
    (h : ∀ owner generation expires, b.kind ≠ .leaseAcquired owner generation expires) :
    (b.set r).leaseGeneration = r.leaseGeneration ∧
      ((b.set r).leaseOwner = r.leaseOwner ∨ (b.set r).leaseOwner = none) := by
  obtain ⟨_, k, _, _⟩ := b
  cases k with
  | leaseAcquired owner generation expires => exact absurd rfl (h owner generation expires)
  | leaseReleased => exact ⟨rfl, Or.inr rfl⟩
  | _ => exact ⟨rfl, Or.inl rfl⟩

theorem Bump.Allowed.live {b : Bump} {event : TransitionEvent} {owner : String} {generation : Int}
    (h : b.Allowed db event) (hlease : b.lease = some (owner, generation)) :
    ∃ row, db.execution? b.executionId = some row ∧ FenceLive row owner generation b.now := by
  obtain ⟨row, hrow, hon⟩ := h
  exact ⟨row, hrow, hon.live _ hlease⟩

theorem Bumps.live {b : Bump} {owner : String} {generation : Int} (h : Bumps b db db')
    (hlease : b.lease = some (owner, generation)) :
    ∃ row, db.execution? b.executionId = some row ∧ FenceLive row owner generation b.now := by
  obtain ⟨event, hallowed, -⟩ := h
  exact Bump.Allowed.live hallowed hlease

/-- A single lease, presented. -/
theorem lease_live {row : SliceExecution} {owner : String} {generation : Int} {now : Timestamp}
    (h : FenceLive row owner generation now) :
    ∀ l ∈ some (owner, generation), FenceLive row l.1 l.2 now := by
  rintro l ⟨⟩
  exact h

/-! ## The lease -/

theorem acquireLeaseTx_ok {a : AcquireLease} (h : acquireLeaseTx env a db = .ok (c, db')) :
    (c = .replayed ∧ db' = db) ∨ (c = .fresh ∧ ∃ generation expires,
      Bumps ⟨a.executionId, .leaseAcquired a.leaseOwner generation expires, env.clock 0, none⟩
        db db') := by
  unfold acquireLeaseTx requireSha256 requireTtl at h
  obtain ⟨-, h⟩ := Tx.require_bind_ok.mp h
  obtain ⟨-, h⟩ := Tx.require_bind_ok.mp h
  obtain ⟨-, h⟩ := Tx.require_bind_ok.mp h
  obtain ⟨json, -, h⟩ := Tx.lift_bind_ok.mp h
  obtain ⟨expires, -, h⟩ := Tx.lift_bind_ok.mp h
  have h := begin_bind_ok h
  rcases replayOr_ok h with hr | ⟨hfresh, h⟩
  · exact Or.inl hr
  obtain ⟨row, hrow, h⟩ := getExecution_bind_ok.mp h
  obtain ⟨hopen, h⟩ := Tx.require_bind_ok.mp h
  obtain ⟨hv, h⟩ := Tx.require_bind_ok.mp h
  obtain ⟨hfree, h⟩ := Tx.require_bind_ok.mp h
  refine Or.inr ⟨hfresh, row.leaseGeneration + 1, expires, ?_⟩
  refine bump_ok hrow (by simp) ⟨hopen, hfree, rfl⟩ ⟨rfl, rfl, rfl, ?_, by simp⟩ h
  rw [hv]

/-- The columns a heartbeat writes. -/
def renewed (now expires : Timestamp) (r : SliceExecution) : SliceExecution :=
  { r with leaseExpiresAt := some expires, updatedAt := now }

theorem renewed_id (now expires : Timestamp) (r : SliceExecution) :
    (renewed now expires r).executionId = r.executionId := rfl

def Db.renew (db : Db) (id : String) (now expires : Timestamp) : Db :=
  { db with
    sliceExecution :=
      Table.update (·.executionId) db.sliceExecution id (renewed now expires) }

theorem Db.renew_execution? (id id' : String) (now expires : Timestamp) :
    (db.renew id now expires).execution? id' =
      if id' = id then (db.execution? id').map (renewed now expires) else db.execution? id' := by
  unfold Db.execution? Db.renew
  rw [Table.lookup_update fun r hr => (renewed_id now expires r).trans hr]
  split
  · rename_i hid
    rw [hid]
  · rfl

/-- A heartbeat moves the expiry of a live lease and nothing else. -/
theorem heartbeatTx_ok {a : Heartbeat} (h : heartbeatTx env a db = .ok ((), db')) :
    ∃ row expires, db.execution? a.executionId = some row ∧
      FenceLive row a.leaseOwner a.leaseGeneration (env.clock 0) ∧
      db' = db.renew a.executionId (env.clock 0) expires := by
  unfold heartbeatTx requireTtl at h
  obtain ⟨-, h⟩ := Tx.require_bind_ok.mp h
  obtain ⟨expires, -, h⟩ := Tx.lift_bind_ok.mp h
  have h := begin_bind_ok h
  obtain ⟨row, hrow, h⟩ := getExecution_bind_ok.mp h
  obtain ⟨hlive, h⟩ := requireFence_bind_ok.mp h
  obtain ⟨-, h⟩ := Tx.require_bind_ok.mp h
  obtain ⟨_, -, -, -, h⟩ := updateExecution_bind_ok (f := pure) (Tx.bind_ok.mpr ⟨_, _, h, rfl⟩)
  cases Tx.pure_ok.mp h
  exact ⟨row, expires, hrow, hlive, rfl⟩

theorem releaseLeaseTx_ok {a : ReleaseLease} (h : releaseLeaseTx env a db = .ok (c, db')) :
    (c = .replayed ∧ db' = db) ∨ (c = .fresh ∧
      Bumps ⟨a.executionId, .leaseReleased, env.clock 0, some (a.leaseOwner, a.leaseGeneration)⟩
        db db') := by
  unfold releaseLeaseTx requireSha256 at h
  obtain ⟨-, h⟩ := Tx.require_bind_ok.mp h
  obtain ⟨json, -, h⟩ := Tx.lift_bind_ok.mp h
  have h := begin_bind_ok h
  rcases replayOr_ok h with hr | ⟨hfresh, h⟩
  · exact Or.inl hr
  obtain ⟨row, hrow, h⟩ := getExecution_bind_ok.mp h
  obtain ⟨hlive, h⟩ := requireFence_bind_ok.mp h
  obtain ⟨hv, h⟩ := Tx.require_bind_ok.mp h
  refine Or.inr ⟨hfresh, bump_ok hrow (lease_live hlive) trivial ⟨rfl, rfl, rfl, ?_, by simp⟩ h⟩
  rw [hv]

/-! ## Transitions and results -/

theorem requireBlocker_bind_ok {a : Transition} {f : Unit → Tx PyError Db α} {r : α × Db}
    (h : (a.requireBlocker >>= f) db = .ok r) :
    BlockerFits a.toState a.blockerCode a.blockerDetail ∧ f () db = .ok r := by
  unfold Transition.requireBlocker at h
  unfold BlockerFits
  rcases Tx.ite_bind_ok.mp h with ⟨ht, h⟩ | ⟨ht, h⟩
  · rw [if_pos ht]
    exact Tx.require_bind_ok.mp h
  · rw [if_neg ht]
    exact Tx.require_bind_ok.mp h

theorem transitionTx_ok {a : Transition} (h : transitionTx env a db = .ok (c, db')) :
    (c = .replayed ∧ db' = db) ∨ (c = .fresh ∧
      Bumps ⟨a.executionId, .transition a, env.clock 0, some (a.leaseOwner, a.leaseGeneration)⟩
        db db') := by
  unfold transitionTx requireSha256 at h
  obtain ⟨-, h⟩ := Tx.require_bind_ok.mp h
  obtain ⟨-, h⟩ := Tx.require_bind_ok.mp h
  obtain ⟨-, h⟩ := Tx.require_bind_ok.mp h
  obtain ⟨json, hjson, h⟩ := Tx.lift_bind_ok.mp h
  have h := requireOptionalFence_bind_ok (begin_bind_ok h)
  obtain ⟨c', s, hreplay, h⟩ := Tx.bind_ok.mp h
  have h := requireOptionalFence_bind_ok h
  cases Tx.pure_ok.mp h
  rcases replayOr_ok hreplay with hr | ⟨hfresh, h⟩
  · exact Or.inl hr
  unfold Transition.body at h
  obtain ⟨row, hrow, h⟩ := getExecution_bind_ok.mp h
  obtain ⟨hlive, h⟩ := requireFence_bind_ok.mp h
  obtain ⟨hv, h⟩ := Tx.require_bind_ok.mp h
  obtain ⟨⟨hedge, hresume⟩, h⟩ := validateTransition_bind_ok.mp h
  obtain ⟨hblocker, h⟩ := requireBlocker_bind_ok h
  refine Or.inr ⟨hfresh, bump_ok hrow (lease_live hlive) ⟨hedge, hresume, hblocker⟩
    ⟨rfl, rfl, rfl, ?_, ?_⟩ h⟩
  · rw [hv]
  · rintro a' ⟨⟩
    exact hjson

theorem registerResultCommitTx_ok {a : RegisterResultCommit}
    (h : registerResultCommitTx env a db = .ok (c, db')) :
    (c = .replayed ∧ db' = db) ∨ (c = .fresh ∧
      Bumps ⟨a.executionId, .resultRegistered a.resultCommit, env.clock 0,
        some (a.leaseOwner, a.leaseGeneration)⟩ db db') := by
  unfold registerResultCommitTx requireSha256 requireCommit at h
  obtain ⟨-, h⟩ := Tx.require_bind_ok.mp h
  obtain ⟨-, h⟩ := Tx.require_bind_ok.mp h
  obtain ⟨json, -, h⟩ := Tx.lift_bind_ok.mp h
  have h := begin_bind_ok h
  rcases replayOr_ok h with hr | ⟨hfresh, h⟩
  · exact Or.inl hr
  obtain ⟨row, hrow, h⟩ := getExecution_bind_ok.mp h
  obtain ⟨hlive, h⟩ := requireFence_bind_ok.mp h
  obtain ⟨hv, h⟩ := Tx.require_bind_ok.mp h
  refine Or.inr ⟨hfresh, bump_ok hrow (lease_live hlive) trivial ⟨rfl, rfl, rfl, ?_, by simp⟩ h⟩
  rw [hv]

/-! ## Reworks -/

theorem scheduleReworkTx_ok {a : ScheduleRework} (h : scheduleReworkTx env a db = .ok (c, db')) :
    (c = .replayed ∧ db' = db) ∨ (c = .fresh ∧
      Bumps ⟨a.executionId, .autoReworked, env.clock 0, some (a.leaseOwner, a.leaseGeneration)⟩
        db db') := by
  unfold scheduleReworkTx requireSha256 at h
  obtain ⟨-, h⟩ := Tx.require_bind_ok.mp h
  obtain ⟨json, -, h⟩ := Tx.lift_bind_ok.mp h
  have h := begin_bind_ok h
  rcases replayOr_ok h with hr | ⟨hfresh, h⟩
  · exact Or.inl hr
  obtain ⟨row, hrow, h⟩ := getExecution_bind_ok.mp h
  obtain ⟨hlive, h⟩ := requireFence_bind_ok.mp h
  obtain ⟨hv, h⟩ := Tx.require_bind_ok.mp h
  obtain ⟨hstate, h⟩ := Tx.require_bind_ok.mp h
  obtain ⟨hbudget, h⟩ := Tx.require_bind_ok.mp h
  refine Or.inr ⟨hfresh, bump_ok hrow (lease_live hlive) ⟨hstate, hbudget⟩
    ⟨rfl, ?_, rfl, ?_, by simp⟩ h⟩
  · rw [hstate]
  · rw [hv]

theorem requireBinding_readOnly (a : AuthorizeHighRework) (row : SliceExecution) :
    Tx.ReadOnly (a.requireBinding row) := by
  unfold AuthorizeHighRework.requireBinding getVerificationResult getApproval
  exact .bind .require fun _ => .bind (fun _ _ _ h => congrArg Prod.snd
      (requireSingleCompletedMaker_ok h)) fun _ =>
    .bind .find fun _ => .bind .require fun _ => .bind .find fun _ => .bind .require fun _ =>
    .bind .require fun _ => .bind .require fun _ => .bind .require fun _ => .require

/-- Two bumps in one transaction: out of `BLOCKED`, and on to `REWORK_READY`. -/
theorem authorizeHighReworkTx_ok {a : AuthorizeHighRework}
    (h : authorizeHighReworkTx env a db = .ok ((), db')) :
    ∃ mid, Bumps ⟨a.executionId, .highResumed, env.clock 0, some (a.leaseOwner, a.leaseGeneration)⟩
        db mid ∧
      Bumps ⟨a.executionId, .highReadied, env.clock 0, some (a.leaseOwner, a.leaseGeneration)⟩
        mid db' := by
  unfold authorizeHighReworkTx requireSha256 requireCommit at h
  obtain ⟨-, h⟩ := Tx.require_bind_ok.mp h
  obtain ⟨-, h⟩ := Tx.require_bind_ok.mp h
  obtain ⟨-, h⟩ := Tx.require_bind_ok.mp h
  obtain ⟨-, h⟩ := Tx.require_bind_ok.mp h
  obtain ⟨-, h⟩ := Tx.require_bind_ok.mp h
  obtain ⟨-, h⟩ := Tx.require_bind_ok.mp h
  have h := begin_bind_ok h
  obtain ⟨row, hrow, h⟩ := getExecution_bind_ok.mp h
  obtain ⟨hlive, h⟩ := requireFence_bind_ok.mp h
  obtain ⟨hv, h⟩ := Tx.require_bind_ok.mp h
  obtain ⟨hstate, h⟩ := Tx.require_bind_ok.mp h
  obtain ⟨_, -, h⟩ := (requireBinding_readOnly a row).bind_ok h
  obtain ⟨-, h⟩ := validateTransition_bind_ok.mp h
  obtain ⟨row', hrow', -, hchecks, h⟩ := updateExecution_bind_ok h
  obtain rfl : row = row' := Option.some.inj (hrow.symm.trans hrow')
  obtain ⟨resumeJson, -, h⟩ := Tx.lift_bind_ok.mp h
  have h := insertEvent_bind_ok h
  obtain ⟨-, h⟩ := validateTransition_bind_ok.mp h
  obtain ⟨row1, hrow1, hv1, hchecks1, h⟩ := updateExecution_bind_ok h
  obtain ⟨readyJson, -, h⟩ := Tx.lift_bind_ok.mp h
  have h := insertEvent_bind_ok (f := pure) (Tx.bind_ok.mpr ⟨_, _, h, rfl⟩)
  cases Tx.pure_ok.mp h
  let lease := some (a.leaseOwner, a.leaseGeneration)
  let resume : Bump := ⟨a.executionId, .highResumed, env.clock 0, lease⟩
  let resumed := (a.event a.resumeOperationKey BLOCKED VERIFYING a.expectedStateVersion
    "HUMAN_HIGH_REWORK_RESUME" resumeJson (env.clock 0)).row db (env.uuid 0)
  -- the row of the second bump is what the first one wrote
  have hrow1 : (db.bump resume resumed).execution? a.executionId = some row1 := hrow1
  rw [Db.bump_execution?, if_pos rfl, hrow] at hrow1
  obtain rfl : resume.set row = row1 := Option.some.inj hrow1
  have hblocked : row.state = BLOCKED := hstate.2.2.2.1
  refine ⟨db.bump resume resumed,
    ⟨resumed, ⟨row, hrow, lease_live hlive, hstate, hchecks, rfl, ?_, rfl, ?_, by simp⟩,
      rfl⟩,
    ⟨_, ⟨resume.set row, ?_, lease_live hlive, rfl, hchecks1, rfl, rfl, rfl, ?_, by simp⟩, rfl⟩⟩
  · rw [hblocked]
    rfl
  · rw [hv]
    rfl
  · rw [Db.bump_execution?, if_pos rfl, hrow, Option.map_some]
  · rw [Bump.set_version, hv]
    rfl

/-- What a human-authorized rework found: the granted HIGH approval it names, and the
event that authorized it, the last of the execution. -/
structure ScheduleHumanAuthorizedRework.Consumes (a : ScheduleHumanAuthorizedRework) (db : Db)
    (execution : SliceExecution) (commit : String) (approval : ApprovalRequest)
    (authorization : TransitionEvent) (metadata : Json) : Prop where
  row : db.execution? a.executionId = some execution
  version : execution.stateVersion = a.expectedStateVersion
  result : execution.resultCommit = some commit
  found : db.approvalRequest? a.approvalId = some approval
  ofExecution : approval.executionId = a.executionId
  kind : approval.approvalType = "HIGH_REWORK"
  ref : approval.authorityRef = a.authorityRef
  granted : approval.status = .APPROVED
  unused : approval.consumedAt = none
  authorized : ((db.events a.executionId).reverse.find? fun e =>
    e.reasonCode = "HUMAN_AUTHORIZED_HIGH_REWORK") = some authorization
  last : authorization.toStateVersion = a.expectedStateVersion
  reads : jsonLoads authorization.metadataJson = .ok metadata
  names : Json.strIs (metadata.get? "approval_id") a.approvalId ∧
    Json.strIs (metadata.get? "authority_ref") a.authorityRef ∧
    Json.strIs (metadata.get? "result_commit") commit ∧
    Json.strIs (metadata.get? "contract_fingerprint") execution.contractFingerprint ∧
    Json.strIs (metadata.get? "authority_fingerprint") execution.authorityFingerprint

theorem requireApproval_bind_ok {a : ScheduleHumanAuthorizedRework} {f : Unit → Tx PyError Db α}
    {r : α × Db} (h : (a.requireApproval >>= f) db = .ok r) :
    ∃ approval, db.approvalRequest? a.approvalId = some approval ∧
      approval.executionId = a.executionId ∧ approval.approvalType = "HIGH_REWORK" ∧
      approval.authorityRef = a.authorityRef ∧ approval.status = .APPROVED ∧
      approval.consumedAt = none ∧ f () db = .ok r := by
  obtain ⟨u, s, hx, hf⟩ := Tx.bind_ok.mp h
  unfold ScheduleHumanAuthorizedRework.requireApproval getApproval at hx
  obtain ⟨approval, hfound, hx⟩ := Tx.find_bind_ok.mp hx
  obtain ⟨hexecution, hx⟩ := Tx.require_bind_ok.mp hx
  obtain ⟨hkind, hx⟩ := Tx.require_bind_ok.mp hx
  obtain ⟨href, hx⟩ := Tx.require_bind_ok.mp hx
  obtain ⟨hgranted, hx⟩ := Tx.require_bind_ok.mp hx
  obtain ⟨hunused, hx⟩ := Tx.require_ok.mp hx
  cases hx
  exact ⟨approval, hfound, hexecution, hkind, href, hgranted, hunused, hf⟩

theorem authorization_bind_ok {a : ScheduleHumanAuthorizedRework} {row : SliceExecution}
    {commit : String} {f : Nat → Tx PyError Db α} {r : α × Db}
    (h : (a.authorization row commit >>= f) db = .ok r) :
    ∃ event metadata, ((db.events a.executionId).reverse.find? fun e =>
        e.reasonCode = "HUMAN_AUTHORIZED_HIGH_REWORK") = some event ∧
      event.toStateVersion = a.expectedStateVersion ∧ jsonLoads event.metadataJson = .ok metadata ∧
      (Json.strIs (metadata.get? "approval_id") a.approvalId ∧
        Json.strIs (metadata.get? "authority_ref") a.authorityRef ∧
        Json.strIs (metadata.get? "result_commit") commit ∧
        Json.strIs (metadata.get? "contract_fingerprint") row.contractFingerprint ∧
        Json.strIs (metadata.get? "authority_fingerprint") row.authorityFingerprint) ∧
      f event.eventSeq db = .ok r := by
  obtain ⟨seq, s, hx, hf⟩ := Tx.bind_ok.mp h
  unfold ScheduleHumanAuthorizedRework.authorization at hx
  obtain ⟨event, hevent, hx⟩ := Tx.find_bind_ok.mp hx
  obtain ⟨hlast, hx⟩ := Tx.require_bind_ok.mp hx
  cases hloads : jsonLoads event.metadataJson with
  | error e =>
    rw [hloads] at hx
    obtain ⟨v, s', hfail, -⟩ := Tx.bind_ok.mp hx
    exact (Tx.fail_ok.mp hfail).elim
  | ok metadata =>
    rw [hloads] at hx
    obtain ⟨v, s', hpure, hx⟩ := Tx.bind_ok.mp hx
    cases Tx.pure_ok.mp hpure
    obtain ⟨-, hx⟩ := Tx.require_bind_ok.mp hx
    obtain ⟨hnames, hx⟩ := Tx.require_bind_ok.mp hx
    cases Tx.pure_ok.mp hx
    exact ⟨event, metadata, hevent, hlast, hloads, hnames, hf⟩

/-- The bump a human-authorized rework makes. -/
def ScheduleHumanAuthorizedRework.bump (a : ScheduleHumanAuthorizedRework) (env : Env) : Bump :=
  ⟨a.executionId, .humanReworked, env.clock 0, some (a.leaseOwner, a.leaseGeneration)⟩

theorem scheduleHumanAuthorizedReworkTx_ok {a : ScheduleHumanAuthorizedRework}
    (h : scheduleHumanAuthorizedReworkTx env a db = .ok ((), db')) :
    ∃ execution commit approval authorization metadata event,
      a.Consumes db execution commit approval authorization metadata ∧
      (a.bump env).Allowed db event ∧
      db' = { db.bump (a.bump env) event with
        approvalRequest := Table.update (·.approvalId) db.approvalRequest a.approvalId
          (fun r => { r with consumedAt := some (env.clock 0) }) } := by
  unfold scheduleHumanAuthorizedReworkTx requireSha256 at h
  obtain ⟨-, h⟩ := Tx.require_bind_ok.mp h
  have h := begin_bind_ok h
  obtain ⟨row, hrow, h⟩ := getExecution_bind_ok.mp h
  obtain ⟨hlive, h⟩ := requireFence_bind_ok.mp h
  obtain ⟨hv, h⟩ := Tx.require_bind_ok.mp h
  obtain ⟨⟨-, -, hstate, -⟩, h⟩ := Tx.require_bind_ok.mp h
  obtain ⟨commit, hcommit, h⟩ := Tx.find_bind_ok.mp h
  obtain ⟨u, s, hmaker, h⟩ := Tx.bind_ok.mp h
  cases requireSingleCompletedMaker_ok hmaker
  obtain ⟨approval, hfound, hexecution, hkind, href, hgranted, hunused, h⟩ :=
    requireApproval_bind_ok h
  obtain ⟨authorization, metadata, hevent, hlast, hloads, hnames, h⟩ := authorization_bind_ok h
  obtain ⟨_, _, -, -, -, h⟩ := consumeApproval_bind_ok h
  obtain ⟨row', hrow', -, hchecks, h⟩ := updateExecution_bind_ok h
  obtain rfl : row = row' := Option.some.inj (hrow.symm.trans hrow')
  obtain ⟨json, -, h⟩ := Tx.lift_bind_ok.mp h
  have h := insertEvent_bind_ok (f := pure) (Tx.bind_ok.mpr ⟨_, _, h, rfl⟩)
  cases Tx.pure_ok.mp h
  refine ⟨row, commit, approval, authorization, metadata, _,
    ⟨hrow, hv, hcommit, hfound, hexecution, hkind, href, hgranted, hunused, hevent, hlast, hloads,
      hnames⟩,
    ⟨row, hrow, lease_live hlive, hstate, hchecks, rfl, ?_, rfl, ?_, ?_⟩, rfl⟩
  · rw [hstate]
    rfl
  · rw [hv]
    rfl
  · simp [ScheduleHumanAuthorizedRework.bump]

/-! ## Acceptance -/

/-- The bump an acceptance makes. -/
def AcceptExecution.bump (a : AcceptExecution) (env : Env) : Bump :=
  ⟨a.executionId, .accepted, env.clock 0, some (a.leaseOwner, a.leaseGeneration)⟩

/-- All that a new acceptance found, and the database it left. -/
structure AcceptExecution.Accepts (a : AcceptExecution) (env : Env) (db db' : Db)
    (ids : EvidenceIds) (execution : SliceExecution) (commit : String) (rows : EvidenceRows)
    (manifest : EvidenceManifestRow) (event : TransitionEvent) : Prop where
  row : a.AcceptsExecution (env.clock 0) db execution commit
  evidence : a.AcceptsEvidence db ids execution commit rows
  contexts : ∃ maker evaluator, a.AcceptsContexts db rows maker evaluator
  transitions : a.AcceptsTransitions db
  files : a.Files ids execution commit manifest
  first : ∀ m ∈ db.evidenceManifest, m.executionId ≠ a.executionId
  allowed : (a.bump env).Allowed db event
  writes : ∃ approvals, ((a.approvalRequired db = false ∧ approvals = db.approvalRequest) ∨
      ∃ id approval, a.Consumes db execution commit ids.evaluationId id approval ∧
        approvals = Table.update (·.approvalId) db.approvalRequest id
          (fun r => { r with consumedAt := some (env.clock 0) })) ∧
    db' = { db.bump (a.bump env) event with
      approvalRequest := approvals, evidenceManifest := db.evidenceManifest ++ [manifest] }

theorem acceptExecutionTx_ok {a : AcceptExecution} (h : acceptExecutionTx env a db = .ok (c, db')) :
    (c = .replayed ∧ db' = db) ∨ (c = .fresh ∧ ∃ ids execution commit rows manifest event,
      a.Accepts env db db' ids execution commit rows manifest event) := by
  unfold acceptExecutionTx at h
  obtain ⟨ids, -, h⟩ := (AcceptExecution.validate_readOnly a).bind_ok h
  obtain ⟨json, -, h⟩ := Tx.lift_bind_ok.mp h
  have h := begin_bind_ok h
  rcases replayOr_ok h with hr | ⟨hfresh, h⟩
  · exact Or.inl hr
  unfold AcceptExecution.body at h
  obtain ⟨execution, hrow, h⟩ := getExecution_bind_ok.mp h
  obtain ⟨commit, hexec, h⟩ := AcceptExecution.requireExecution_bind_ok hrow h
  obtain ⟨rows, hevidence, h⟩ := AcceptExecution.requireEvidence_bind_ok h
  obtain ⟨hcontexts, h⟩ := AcceptExecution.requireContexts_bind_ok h
  obtain ⟨htransitions, h⟩ := AcceptExecution.requireTransitions_bind_ok h
  obtain ⟨approvals, happrovals, h⟩ := AcceptExecution.consume_bind_ok h
  obtain ⟨manifest, hfiles, hfirst, h⟩ := AcceptExecution.insertManifest_bind_ok h
  obtain ⟨row', hrow', -, hchecks, h⟩ := updateExecution_bind_ok h
  obtain rfl : execution = row' := Option.some.inj (hrow.symm.trans hrow')
  have h := insertEvent_bind_ok (f := pure) (Tx.bind_ok.mpr ⟨_, _, h, rfl⟩)
  cases Tx.pure_ok.mp h
  refine Or.inr ⟨hfresh, ids, execution, commit, rows, manifest, _, hexec, hevidence, hcontexts,
    htransitions, hfiles, hfirst, ⟨execution, hrow, lease_live hexec.live, hexec.state, hchecks, rfl,
      ?_, rfl, ?_, by simp [AcceptExecution.bump]⟩, approvals, happrovals, rfl⟩
  · rw [hexec.state]
    rfl
  · rw [hexec.version]
    rfl

/-! ## Closure of a candidate -/

def CloseCandidate.bump (a : CloseCandidate) (commit : String) (env : Env) : Bump :=
  ⟨a.ids.executionId, .closed commit, env.clock 4, none⟩

def CloseCandidate.closure (a : CloseCandidate) (binding : CandidateContentBinding)
    (commit : String) (now : Timestamp) : CandidateCommitClosure where
  closureId := a.ids.closureId
  executionId := a.ids.executionId
  candidateId := a.ids.candidateId
  approvalId := a.ids.approvalId
  evaluationId := a.ids.evaluationId
  resultCommit := commit
  expectedParent := binding.expectedParent
  candidateContentSha256 := binding.candidateContentSha256
  createdAt := now

/-- All that a closure found, and the database it left. -/
structure CloseCandidate.Closes (a : CloseCandidate) (env : Env) (db db' : Db)
    (execution : SliceExecution) (binding : CandidateContentBinding) (approval : ApprovalRequest)
    (linked : ApprovalCandidateBinding) (evaluation : CandidateEvaluationResult) (commit : String)
    (event : TransitionEvent) : Prop where
  intended : ∃ intent plan, db.candidateIntent? a.ids.closureId = some intent ∧
    intent.candidateId = a.ids.candidateId ∧ intent.Intact a.ids plan ∧
    (plan.get? "result_commit").bind Json.asStr? = some commit ∧ a.apply plan = .ok commit
  authorized : a.ids.Authorized env a.fence false db execution binding approval linked evaluation
  live : CandidateFenceHolds env 1 a.ids.executionId a.fence db execution
  unclosed : db.candidateClosure? a.ids.closureId = none
  first : ∀ c ∈ db.candidateCommitClosure, c.executionId ≠ a.ids.executionId ∧
    c.candidateId ≠ a.ids.candidateId ∧ c.closureId ≠ a.ids.closureId
  allowed : (a.bump commit env).Allowed db event
  writes : db' = { db.bump (a.bump commit env) event with
    approvalRequest := Table.update (·.approvalId) db.approvalRequest a.ids.approvalId
      (fun r => { r with consumedAt := some (env.clock 4) })
    candidateCommitClosure :=
      db.candidateCommitClosure ++ [a.closure binding commit (env.clock 4)] }

theorem closeCandidateRecord_bind_ok {a : CloseCandidate} {execution : SliceExecution}
    {binding : CandidateContentBinding} {commit : String} {f : Unit → Tx PyError Db α} {r : α × Db}
    (h : (a.record env execution binding commit >>= f) db = .ok r) :
    ∃ event, (∀ c ∈ db.candidateCommitClosure, c.executionId ≠ a.ids.executionId ∧
        c.candidateId ≠ a.ids.candidateId ∧ c.closureId ≠ a.ids.closureId) ∧
      (a.bump commit env).Allowed db event ∧
      f () { db.bump (a.bump commit env) event with
        approvalRequest := Table.update (·.approvalId) db.approvalRequest a.ids.approvalId
          (fun r => { r with consumedAt := some (env.clock 4) })
        candidateCommitClosure :=
          db.candidateCommitClosure ++ [a.closure binding commit (env.clock 4)] } = .ok r := by
  obtain ⟨u, s, hx, hf⟩ := Tx.bind_ok.mp h
  unfold CloseCandidate.record at hx
  have hx := Tx.read_bind_ok.mp hx
  obtain ⟨hfirst, hx⟩ := Tx.require_bind_ok.mp hx
  obtain ⟨-, hx⟩ := Tx.require_bind_ok.mp hx
  have hx := Tx.write_bind_ok.mp hx
  obtain ⟨approval, -, -, -, -, hx⟩ := consumeApproval_bind_ok hx
  obtain ⟨row, hrow, hcond, hchecks, hx⟩ := updateExecution_bind_ok hx
  obtain ⟨json, -, hx⟩ := Tx.lift_bind_ok.mp hx
  obtain ⟨key, -, hx⟩ := Tx.lift_bind_ok.mp hx
  have hx := insertEvent_bind_ok (f := pure) (Tx.bind_ok.mpr ⟨_, _, hx, rfl⟩)
  cases Tx.pure_ok.mp hx
  simp only [Bool.and_eq_true, decide_eq_true_eq, Option.isNone_iff_eq_none] at hcond
  obtain ⟨⟨hnone, hstate⟩, hv⟩ := hcond
  refine ⟨_, fun c hc => ?_, ⟨row, hrow, by simp [CloseCandidate.bump], ⟨hstate, hnone⟩, hchecks, rfl,
    ?_, rfl, ?_, by simp [CloseCandidate.bump]⟩, hf⟩
  · have hall := List.all_eq_true.mp hfirst c hc
    obtain ⟨hclosure, hexecution, hcandidate, -⟩ := of_decide_eq_true hall
    exact ⟨hexecution, hcandidate, hclosure⟩
  · rw [hstate]
    rfl
  · rw [hv]
    rfl

theorem closeCandidateTx_ok {a : CloseCandidate} (h : closeCandidateTx env a db = .ok (c, db')) :
    (c = .replayed ∧ db' = db) ∨ (c = .fresh ∧
      ∃ execution binding approval linked evaluation commit event,
        a.Closes env db db' execution binding approval linked evaluation commit event) := by
  unfold closeCandidateTx planCommit getApproval at h
  have h := begin_bind_ok h
  obtain ⟨row, hlive, -, h⟩ := requireCandidateFence_bind_holds h
  obtain ⟨intent, hintent, h⟩ := Tx.find_bind_ok.mp h
  obtain ⟨⟨hexecution, hcandidate, happroval, hevaluation⟩, h⟩ := Tx.require_bind_ok.mp h
  obtain ⟨plan, hplan, h⟩ := Tx.lift_bind_ok.mp h
  obtain ⟨sha, hsha, h⟩ := Tx.lift_bind_ok.mp h
  obtain ⟨hintact, h⟩ := Tx.require_bind_ok.mp h
  rw [hintact] at hsha
  have h := Tx.read_bind_ok.mp h
  obtain ⟨execution, binding, approval, linked, evaluation, hauthorized, h⟩ :=
    candidateClosureAuthority_bind_ok h
  obtain ⟨planned, hplanned, h⟩ := Tx.find_bind_ok.mp h
  obtain ⟨_, -, h⟩ := Tx.find_bind_ok.mp h
  obtain ⟨-, h⟩ := Tx.require_bind_ok.mp h
  obtain ⟨commit, hcommit, h⟩ := Tx.lift_bind_ok.mp h
  obtain ⟨hsame, h⟩ := Tx.require_bind_ok.mp h
  rw [← hsame] at hplanned
  obtain ⟨_, -, h⟩ := requireCandidateFence_readOnly.bind_ok h
  cases hclosed : db.candidateClosure? a.ids.closureId with
  | some closure =>
    simp only [hclosed] at h
    obtain ⟨_, -, h⟩ := requireCandidateFence_readOnly.bind_ok h
    cases Tx.pure_ok.mp h
    exact Or.inl ⟨rfl, rfl⟩
  | none =>
    simp only [hclosed] at h
    rw [hclosed] at hauthorized
    obtain ⟨event, hfirst, hallowed, h⟩ := closeCandidateRecord_bind_ok h
    obtain ⟨_, -, h⟩ := requireCandidateFence_readOnly.bind_ok h
    cases Tx.pure_ok.mp h
    -- both fence checks read the same row
    obtain rfl : row = execution :=
      Option.some.inj (hlive.live.2.1.symm.trans hauthorized.live.live.2.1)
    exact Or.inr ⟨rfl, row, binding, approval, linked, evaluation, commit, event,
      ⟨intent, plan, hintent, hcandidate, ⟨hexecution, happroval, hevaluation, hplan, hsha⟩, hplanned,
        hcommit⟩, hauthorized, hlive, hclosed, hfirst, hallowed, rfl⟩

/-! ## Executions with their Slice -/

theorem finalizeReplay_readOnly (a : FinalizeDeferredResultCommit) (e : Option TransitionEvent)
    (s : Option SliceControlEvent) : Tx.ReadOnly (a.replay e s) := by
  unfold FinalizeDeferredResultCommit.replay getExecution
  cases e with
  | none => exact .fail
  | some e =>
    cases s with
    | none => exact .fail
    | some event =>
      dsimp only
      cases jsonLoads event.metadataJson with
      | ok v =>
        exact .bind .pure fun _ => .bind .require fun _ => .bind .find fun _ => .bind .find fun _ =>
          .require
      | error e =>
        exact .bind .fail fun _ => .bind .require fun _ => .bind .find fun _ => .bind .find fun _ =>
          .require

theorem requireBound_bind_ok {a : FinalizeDeferredResultCommit} {execution : SliceExecution}
    {now : Timestamp} {f : SliceControlState → Tx PyError Db α} {r : α × Db}
    (h : (a.requireBound execution now >>= f) db = .ok r) :
    ∃ state, FenceLive execution a.leaseOwner a.leaseGeneration now ∧
      execution.stateVersion = a.expectedStateVersion ∧ execution.state = MAKER_RUNNING ∧
      db.boundSlice? a.executionId = some state ∧ f state db = .ok r := by
  obtain ⟨state, s, hx, hf⟩ := Tx.bind_ok.mp h
  unfold FinalizeDeferredResultCommit.requireBound at hx
  obtain ⟨hlive, hx⟩ := requireFence_bind_ok.mp hx
  obtain ⟨hv, hx⟩ := Tx.require_bind_ok.mp hx
  obtain ⟨hstate, hx⟩ := Tx.require_bind_ok.mp hx
  obtain ⟨state', hbound, hx⟩ := Tx.find_bind_ok.mp hx
  obtain ⟨-, hx⟩ := Tx.require_bind_ok.mp hx
  obtain ⟨-, hx⟩ := Tx.require_bind_ok.mp hx
  obtain ⟨-, hx⟩ := Tx.require_bind_ok.mp hx
  cases Tx.pure_ok.mp hx
  exact ⟨state, hlive, hv, hstate, hbound, hf⟩

/-- The logged update of a finalization. -/
abbrev FinalizeDeferredResultCommit.bump (a : FinalizeDeferredResultCommit) (env : Env) : Bump :=
  ⟨a.executionId, .resultFinalized a.resultCommit, env.clock 0,
    some (a.leaseOwner, a.leaseGeneration)⟩

/-- What a finalization writes: the execution with its event, and the Slice row that
is bound to it with the event that records it. The row it rewrites is the bound one,
unless another has its id. -/
structure FinalizeWrites (a : FinalizeDeferredResultCommit) (env : Env) (db db' : Db)
    (event : TransitionEvent) (state : SliceControlState) (set : SliceControlState → SliceControlState)
    (old : SliceControlState) (sliceEvent : SliceControlEvent) : Prop where
  allowed : Bump.Allowed (a.bump env) db event
  bound : db.boundSlice? a.executionId = some state
  logs : sliceEvent.Logs a.operationKey state.sliceId "RESULT_COMMIT_BOUND"
  sets : SliceSet (db.bump (a.bump env) event) state.sliceId set old
  move : old = state → SliceMove (db.bump (a.bump env) event) set old sliceEvent
  result : (set old).implementationResultCommit = some a.resultCommit
  keeps : (set old).activeExecutionId = old.activeExecutionId
  eq : db' = { db.bump (a.bump env) event with
    sliceControlEvent := db.sliceControlEvent ++ [sliceEvent]
    sliceControlState := Table.update (·.sliceId) db.sliceControlState state.sliceId set }

/-- A finalization bumps the execution and gives the Slice bound to it the same
result. -/
theorem finalizeDeferredResultCommitTx_ok {a : FinalizeDeferredResultCommit}
    (h : finalizeDeferredResultCommitTx env a db = .ok (c, db')) :
    (c = .replayed ∧ db' = db) ∨ (c = .fresh ∧ ∃ event state set old sliceEvent,
      FinalizeWrites a env db db' event state set old sliceEvent) := by
  unfold finalizeDeferredResultCommitTx requireSha256 requireCommit at h
  obtain ⟨-, h⟩ := Tx.require_bind_ok.mp h
  obtain ⟨-, h⟩ := Tx.require_bind_ok.mp h
  obtain ⟨-, h⟩ := Tx.require_bind_ok.mp h
  obtain ⟨-, h⟩ := Tx.require_bind_ok.mp h
  obtain ⟨json, -, h⟩ := Tx.lift_bind_ok.mp h
  have h := begin_bind_ok h
  obtain ⟨executionEvent, -, h⟩ := existingEvent_bind_ok h
  have h := Tx.read_bind_ok.mp h
  rcases Tx.ite_ok.mp h with ⟨-, h⟩ | ⟨-, h⟩
  · obtain ⟨_, -, h⟩ := (finalizeReplay_readOnly a _ _).bind_ok h
    cases Tx.pure_ok.mp h
    exact Or.inl ⟨rfl, rfl⟩
  obtain ⟨row, hrow, h⟩ := getExecution_bind_ok.mp h
  obtain ⟨state, hlive, hv, hstate, hbound, h⟩ := requireBound_bind_ok h
  obtain ⟨fingerprint, -, h⟩ := Tx.lift_bind_ok.mp h
  obtain ⟨hfingerprint, h⟩ := validateSliceControlTarget_bind_ok h
  obtain ⟨sliceJson, hjson, h⟩ := Tx.lift_bind_ok.mp h
  obtain ⟨u, s, hw, h⟩ := Tx.bind_ok.mp h
  cases Tx.pure_ok.mp h
  unfold FinalizeDeferredResultCommit.writes at hw
  obtain ⟨row', hrow', -, hchecks, hw⟩ := updateExecution_bind_ok hw
  obtain rfl : row = row' := Option.some.inj (hrow.symm.trans hrow')
  obtain ⟨-, hw⟩ := inject_bind_ok.mp hw
  have hw := insertEvent_bind_ok hw
  obtain ⟨-, hw⟩ := inject_bind_ok.mp hw
  have hw := insertSliceEvent_bind_ok hw
  obtain ⟨-, hw⟩ := inject_bind_ok.mp hw
  obtain ⟨old, hold, hversion, hb, hw⟩ := updateSlice_bind_ok hw
  obtain ⟨-, hw⟩ := inject_ok.mp hw
  cases hw
  have hset : SliceSet _ state.sliceId (rewriteSlice state.sliceId (fun f =>
      { a.target f with authorityFingerprint := fingerprint }) (env.clock 0)) old :=
    ⟨hold, fun _ => rfl, hb⟩
  refine Or.inr ⟨rfl, _, state, _, old, _, ?_, hbound, ⟨?_, ?_, ?_⟩, ?_, ?_, ?_, ?_, rfl⟩
  · refine ⟨row, hrow, lease_live hlive, hstate, hchecks, rfl, rfl, rfl, ?_, by simp⟩
    rw [hv]
    rfl
  · rfl
  · rfl
  · rfl
  · exact hset.of_same rfl rfl
  · rintro rfl
    have hmove := SliceMove.of_target ⟨a.operationKey, old.sliceId, a.expectedSliceStateVersion,
      a.expectedSliceStateVersion + 1, "RESULT_COMMIT_BOUND", sliceJson, env.clock 0⟩
      { a.target old.toSliceControlFields with authorityFingerprint := fingerprint }
      (fun f => { a.target f with authorityFingerprint := fingerprint }) (env.clock 0) hb hold
      hversion rfl rfl rfl hjson hfingerprint
    exact hmove.of_same rfl rfl
  · rfl
  · rfl

theorem member_readOnly (v : Json) (field : String) (e : PyError) :
    Tx.ReadOnly (member v field e) := .find

theorem releaseReplay_readOnly (a : ReleaseDeferred) (event : SliceControlEvent) :
    Tx.ReadOnly (a.replay event) := by
  unfold ReleaseDeferred.replay getExecution getSliceControlState
  cases jsonLoads event.metadataJson with
  | ok v =>
    exact .bind .pure fun _ => .bind (member_readOnly _ _ _) fun _ => .bind .find fun _ =>
      .bind .find fun _ => .bind .find fun _ => .bind .require fun _ => .bind .require fun _ =>
      .bind .require fun _ => .require
  | error e =>
    exact .bind .fail fun _ => .bind (member_readOnly _ _ _) fun _ => .bind .find fun _ =>
      .bind .find fun _ => .bind .find fun _ => .bind .require fun _ => .bind .require fun _ =>
      .bind .require fun _ => .require

theorem getDeferredBinding_readOnly (id : String) : Tx.ReadOnly (getDeferredBinding id) := by
  unfold getDeferredBinding
  refine .bind .find fun event => ?_
  cases jsonLoads event.metadataJson with
  | ok v =>
    exact .bind .pure fun _ => .bind (member_readOnly _ _ _) fun _ => .bind .require fun _ =>
      .bind .require fun _ => .pure
  | error e =>
    exact .bind .fail fun _ => .bind (member_readOnly _ _ _) fun _ => .bind .require fun _ =>
      .bind .require fun _ => .pure

theorem requireCoherent_readOnly (a : ReleaseDeferred) (binding : Json) (execution : SliceExecution)
    (state : SliceControlState) : Tx.ReadOnly (a.requireCoherent binding execution state) := by
  unfold ReleaseDeferred.requireCoherent
  refine .bind .find fun contextId => .bind .find fun context => ?_
  cases jsonLoads context.canonicalJson with
  | ok v =>
    exact .bind .pure fun _ => .bind (member_readOnly _ _ _) fun _ => .bind .require fun _ =>
      .bind .require fun _ => .require
  | error e =>
    exact .bind .fail fun _ => .bind (member_readOnly _ _ _) fun _ => .bind .require fun _ =>
      .bind .require fun _ => .require

theorem requireReleasable_bind_ok {a : ReleaseDeferred} {execution : SliceExecution}
    {state : SliceControlState} {f : Unit → Tx PyError Db α} {r : α × Db}
    (h : (a.requireReleasable execution state >>= f) db = .ok r) :
    execution.stateVersion = a.expectedExecutionStateVersion ∧ execution.state = READY ∧
      execution.resultCommit = none ∧ execution.leaseOwner = none ∧
      state.activeExecutionId = some a.executionId ∧ f () db = .ok r := by
  obtain ⟨u, s, hx, hf⟩ := Tx.bind_ok.mp h
  unfold ReleaseDeferred.requireReleasable at hx
  obtain ⟨-, hx⟩ := Tx.require_bind_ok.mp hx
  obtain ⟨hv, hx⟩ := Tx.require_bind_ok.mp hx
  obtain ⟨-, hx⟩ := Tx.require_bind_ok.mp hx
  obtain ⟨hactive, hx⟩ := Tx.require_bind_ok.mp hx
  obtain ⟨⟨hnone, -⟩, hx⟩ := Tx.require_bind_ok.mp hx
  obtain ⟨howner, hx⟩ := Tx.require_bind_ok.mp hx
  have hx := Tx.read_bind_ok.mp hx
  obtain ⟨-, hx⟩ := Tx.require_bind_ok.mp hx
  obtain ⟨⟨-, -, -, -, -, -, hready⟩, hx⟩ := Tx.require_bind_ok.mp hx
  cases (validateTransition_ok.mp hx).2
  exact ⟨hv, hready, hnone, howner, hactive, hf⟩

/-- The logged update of a release. -/
abbrev ReleaseDeferred.bump (a : ReleaseDeferred) (env : Env) : Bump :=
  ⟨a.executionId, .released, env.clock 1, none⟩

/-- What a release writes: the cancelled execution with its event, and the Slice row,
unbound, with the event that records it. -/
structure ReleaseWrites (a : ReleaseDeferred) (env : Env) (db db' : Db) (event : TransitionEvent)
    (set : SliceControlState → SliceControlState) (old : SliceControlState)
    (sliceEvent : SliceControlEvent) : Prop where
  allowed : Bump.Allowed (a.bump env) db event
  logs : sliceEvent.Logs a.operationKey a.sliceId "PREEXECUTION_RELEASE"
  move : SliceMove (db.bump (a.bump env) event) set old sliceEvent
  bound : old.activeExecutionId = some a.executionId
  frees : (set old).activeExecutionId = none
  eq : db' = { db.bump (a.bump env) event with
    sliceControlEvent := db.sliceControlEvent ++ [sliceEvent]
    sliceControlState := Table.update (·.sliceId) db.sliceControlState a.sliceId set }

/-- A release cancels the execution and unbinds its Slice. -/
theorem releaseDeferredTx_ok {a : ReleaseDeferred} (h : releaseDeferredTx env a db = .ok (c, db')) :
    (c = .replayed ∧ db' = db) ∨ (c = .fresh ∧ ∃ event set old sliceEvent,
      ReleaseWrites a env db db' event set old sliceEvent) := by
  unfold releaseDeferredTx requireSha256 getSliceControlState at h
  obtain ⟨-, h⟩ := Tx.require_bind_ok.mp h
  obtain ⟨-, h⟩ := Tx.require_bind_ok.mp h
  obtain ⟨-, h⟩ := Tx.require_bind_ok.mp h
  obtain ⟨-, h⟩ := Tx.require_bind_ok.mp h
  have h := begin_bind_ok h
  rcases Tx.read_option_bind_ok h with ⟨event, -, h⟩ | ⟨-, h⟩
  · obtain ⟨_, -, h⟩ := (releaseReplay_readOnly a event).bind_ok h
    cases Tx.pure_ok.mp h
    exact Or.inl ⟨rfl, rfl⟩
  have h := Tx.read_bind_ok.mp h
  obtain ⟨-, h⟩ := Tx.require_bind_ok.mp h
  obtain ⟨row, hrow, h⟩ := getExecution_bind_ok.mp h
  obtain ⟨state, hfound, h⟩ := Tx.find_bind_ok.mp h
  obtain ⟨hv, hready, hnone, howner, hactive, h⟩ := requireReleasable_bind_ok h
  obtain ⟨binding, -, h⟩ := (getDeferredBinding_readOnly _).bind_ok h
  obtain ⟨_, -, h⟩ := (requireCoherent_readOnly a _ _ _).bind_ok h
  obtain ⟨fingerprint, -, h⟩ := Tx.lift_bind_ok.mp h
  obtain ⟨hfingerprint, h⟩ := validateSliceControlTarget_bind_ok h
  obtain ⟨sliceJson, hjson, h⟩ := Tx.lift_bind_ok.mp h
  obtain ⟨executionJson, -, h⟩ := Tx.lift_bind_ok.mp h
  obtain ⟨u, s, hw, h⟩ := Tx.bind_ok.mp h
  cases Tx.pure_ok.mp h
  unfold ReleaseDeferred.writes at hw
  obtain ⟨row', hrow', -, hchecks, hw⟩ := updateExecution_bind_ok hw
  obtain rfl : row = row' := Option.some.inj (hrow.symm.trans hrow')
  obtain ⟨-, hw⟩ := inject_bind_ok.mp hw
  have hw := insertEvent_bind_ok hw
  obtain ⟨-, hw⟩ := inject_bind_ok.mp hw
  have hw := insertSliceEvent_bind_ok hw
  obtain ⟨-, hw⟩ := inject_bind_ok.mp hw
  obtain ⟨old, hold, hversion, hb, hw⟩ := updateSlice_bind_ok hw
  obtain ⟨-, hw⟩ := inject_ok.mp hw
  cases hw
  obtain rfl : state = old := Option.some.inj (hfound.symm.trans hold)
  have hid := Table.lookup_key hfound
  refine Or.inr ⟨rfl, _, _, state, _, ?_, ⟨?_, ?_, ?_⟩, ?_, hactive, ?_, rfl⟩
  · refine ⟨row, hrow, by simp, ⟨hready, hnone, howner⟩, hchecks, rfl, ?_, rfl, ?_, by simp⟩
    · rw [hready]
      rfl
    · rw [hv]
      rfl
  · rfl
  · rfl
  · rfl
  · have hmove := SliceMove.of_target ⟨a.operationKey, a.sliceId, a.expectedSliceStateVersion,
      a.expectedSliceStateVersion + 1, "PREEXECUTION_RELEASE", sliceJson, env.clock 1⟩
      { ReleaseDeferred.target state.toSliceControlFields with authorityFingerprint := fingerprint }
      (fun f => { ReleaseDeferred.target f with authorityFingerprint := fingerprint }) (env.clock 1)
      hb hold hversion rfl hid rfl hjson hfingerprint
    exact hmove.of_same rfl rfl
  · rfl

/-! ## Creation -/

/-- A new row and its first event. -/
structure Creates (spec : ExecutionCreate) (key : String) (db : Db) (row : SliceExecution)
    (event : TransitionEvent) : Prop where
  shape : ∃ sourceRoot now, row = spec.row key sourceRoot now
  free : db.execution? spec.executionId = none
  checks : ∀ p ∈ executionChecks row, p.2 = true
  unopened : openConflict db.sliceExecution row = false
  id : event.executionId = spec.executionId
  source : event.fromState = none
  target : event.toState = READY
  version : event.toStateVersion = 0

theorem validate_readOnly (spec : ExecutionCreate) : Tx.ReadOnly spec.validate := by
  unfold ExecutionCreate.validate requireSha256 requireCommit
  exact .bind .requireAll fun _ => .bind .require fun _ => .bind .require fun _ => .require

/-- A new row with its event, in front of the rest. -/
theorem create_bind_ok {spec : ExecutionCreate} {key sourceRoot eventId : String} {now : Timestamp}
    {e : EventFields} {f : Unit → Tx PyError Db α} {r : α × Db}
    (he : e.executionId = spec.executionId ∧ e.fromState = none ∧ e.toState = READY ∧
      e.toStateVersion = 0)
    (h : (insertExecution (spec.row key sourceRoot now) >>= fun _ => insertEvent eventId e >>= f) db =
      .ok r) :
    ∃ row event, Creates spec key db row event ∧
      f () { db with
        sliceExecution := db.sliceExecution ++ [row]
        transitionEvent := db.transitionEvent ++ [event] } = .ok r := by
  obtain ⟨hfree, hchecks, hopen, h⟩ := insertExecution_bind_ok h
  have h := insertEvent_bind_ok h
  exact ⟨_, _, ⟨⟨sourceRoot, now, rfl⟩, hfree, hchecks, hopen, he.1, he.2.1, he.2.2.1, he.2.2.2⟩, h⟩

theorem createExecutionTx_ok {spec : ExecutionCreate} {key id : String}
    (h : createExecutionTx env spec key db = .ok ((c, id), db')) :
    (c = .replayed ∧ db' = db) ∨ (c = .fresh ∧ ∃ row event, Creates spec key db row event ∧
      db' = { db with
        sliceExecution := db.sliceExecution ++ [row]
        transitionEvent := db.transitionEvent ++ [event] }) := by
  unfold createExecutionTx requireSha256 at h
  obtain ⟨_, -, h⟩ := (validate_readOnly spec).bind_ok h
  obtain ⟨-, h⟩ := Tx.require_bind_ok.mp h
  obtain ⟨sourceRoot, -, h⟩ := Tx.lift_bind_ok.mp h
  obtain ⟨json, -, h⟩ := Tx.lift_bind_ok.mp h
  have h := begin_bind_ok h
  rcases Tx.read_option_bind_ok h with ⟨row, -, h⟩ | ⟨-, h⟩
  · obtain ⟨found, -, h⟩ := existingEvent_bind_ok h
    cases Tx.pure_ok.mp h
    exact Or.inl ⟨rfl, rfl⟩
  · obtain ⟨row, event, hcreates, h⟩ := create_bind_ok ⟨rfl, rfl, rfl, rfl⟩ h
    cases Tx.pure_ok.mp h
    exact Or.inr ⟨rfl, row, event, hcreates, rfl⟩

theorem capsule_readOnly (a : BindDeferredExecution) :
    Tx.ReadOnly a.validatePreexecutionCapsule := by
  unfold BindDeferredExecution.validatePreexecutionCapsule
  exact .bind .require fun _ => .bind .requireAll fun _ => .bind .require fun _ => .requireAll

theorem existingEvent_readOnly {id key json : String} {ty : EventType} :
    Tx.ReadOnly (existingEvent id key ty json) := fun s e s' h => by
  obtain ⟨found, -, h⟩ := existingEvent_bind_ok (f := pure) (Tx.bind_ok.mpr ⟨_, _, h, rfl⟩)
  cases Tx.pure_ok.mp h
  rfl

theorem bindReplay_readOnly (a : BindDeferredExecution) (event : SliceControlEvent)
    (current : SliceControlState) (sourceRoot executionJson sliceJson : String) :
    Tx.ReadOnly (a.replay event current sourceRoot executionJson sliceJson) := by
  unfold BindDeferredExecution.replay getExecution getContextSnapshot
  exact .bind .require fun _ => .bind .find fun _ => .bind .require fun _ =>
    .bind existingEvent_readOnly fun _ => .bind .find fun _ => .bind .require fun _ => .require

theorem requireFree_readOnly (a : BindDeferredExecution) (current : SliceControlState)
    (sourceRoot : String) (now : Timestamp) : Tx.ReadOnly (a.requireFree current sourceRoot now) := by
  unfold BindDeferredExecution.requireFree
  exact .bind .require fun _ => .bind .require fun _ => .bind .require fun _ => .bind .read fun _ =>
    .bind .require fun _ => .bind .require fun _ => .require

theorem requireFree_bind_ok {a : BindDeferredExecution} {current : SliceControlState}
    {sourceRoot : String} {now : Timestamp} {f : Unit → Tx PyError Db α} {r : α × Db}
    (h : (a.requireFree current sourceRoot now >>= f) db = .ok r) :
    current.activeExecutionId = none ∧ f () db = .ok r := by
  obtain ⟨u, hx, hf⟩ := (requireFree_readOnly a current sourceRoot now).bind_ok h
  unfold BindDeferredExecution.requireFree at hx
  exact ⟨(Tx.require_bind_ok.mp hx).1.1, hf⟩

/-- What a binding writes: the execution and its first event, the Maker context, and
the bound Slice row with the event that records it. -/
structure BindWrites (a : BindDeferredExecution) (db db' : Db) (row : SliceExecution)
    (event : TransitionEvent) (context : ContextSnapshot) (set : SliceControlState → SliceControlState)
    (old : SliceControlState) (sliceEvent : SliceControlEvent) : Prop where
  creates : Creates a.spec a.operationKey db row event
  newContext : db.contextSnapshot? context.contextSnapshotId = none ∧
    context.contextSnapshotId = a.makerContextSnapshotId ∧
    context.executionId = a.spec.executionId
  logs : sliceEvent.Logs a.operationKey a.spec.sliceId "PREEXECUTION_BIND"
  move : SliceMove { db with sliceExecution := db.sliceExecution ++ [row] } set old sliceEvent
  binds : (set old).activeExecutionId = some a.spec.executionId
  eq : db' = { db with
    sliceExecution := db.sliceExecution ++ [row]
    transitionEvent := db.transitionEvent ++ [event]
    contextSnapshot := db.contextSnapshot ++ [context]
    sliceControlEvent := db.sliceControlEvent ++ [sliceEvent]
    sliceControlState := Table.update (·.sliceId) db.sliceControlState a.spec.sliceId set }

theorem bindWrites_ok {a : BindDeferredExecution} {sourceRoot json sliceJson fingerprint : String}
    {now : Timestamp} {old : SliceControlState} {metadata : Json}
    (hfound : db.slice? a.spec.sliceId = some old)
    (hfingerprint : { a.target sourceRoot old.toSliceControlFields with
      authorityFingerprint := fingerprint }.controlStateAuthorityFingerprint = .ok fingerprint)
    (hjson : canonicalJson (.obj [("reason_code", .str "PREEXECUTION_BIND"),
      ("target", { a.target sourceRoot old.toSliceControlFields with
        authorityFingerprint := fingerprint }.json), ("metadata", metadata)]) = .ok sliceJson)
    (h : a.writes env sourceRoot json sliceJson fingerprint now db = .ok ((), db')) :
    ∃ row event context set sliceEvent, BindWrites a db db' row event context set old sliceEvent := by
  unfold BindDeferredExecution.writes at h
  obtain ⟨hfree, hchecks, hopen, h⟩ := insertExecution_bind_ok h
  obtain ⟨-, h⟩ := inject_bind_ok.mp h
  have h := insertEvent_bind_ok h
  obtain ⟨-, h⟩ := inject_bind_ok.mp h
  obtain ⟨hnew, -, h⟩ := insertContextSnapshot_bind_ok h
  obtain ⟨-, h⟩ := inject_bind_ok.mp h
  have h := insertSliceEvent_bind_ok h
  obtain ⟨-, h⟩ := inject_bind_ok.mp h
  obtain ⟨old', hold, hversion, hb, h⟩ := updateSlice_bind_ok h
  obtain ⟨-, h⟩ := inject_ok.mp h
  have hrow : db.slice? a.spec.sliceId = some old' := hold
  have hsame : old = old' := Option.some.inj (hfound.symm.trans hrow)
  subst hsame
  cases h
  have hid := Table.lookup_key hfound
  have hmove := SliceMove.of_target ⟨a.operationKey, a.spec.sliceId, a.expectedStateVersion,
    a.expectedStateVersion + 1, "PREEXECUTION_BIND", sliceJson, now⟩
    { a.target sourceRoot old.toSliceControlFields with authorityFingerprint := fingerprint }
    (fun f => { a.target sourceRoot f with authorityFingerprint := fingerprint }) now
    hb hold hversion rfl hid rfl hjson hfingerprint
  refine ⟨_, _, _, _, _, ?_, ⟨hnew, ?_⟩, ⟨?_, ?_, ?_⟩, ?_, ?_, rfl⟩
  · exact ⟨⟨sourceRoot, now, rfl⟩, hfree, hchecks, hopen, rfl, rfl, rfl, rfl⟩
  · exact ⟨rfl, rfl⟩
  · rfl
  · rfl
  · rfl
  · exact hmove.of_same rfl rfl
  · rfl

/-- A binding creates the execution with its Maker context and binds a free Slice. -/
theorem bindDeferredExecutionTx_ok {a : BindDeferredExecution}
    (h : bindDeferredExecutionTx env a db = .ok (c, db')) :
    (c = .replayed ∧ db' = db) ∨ (c = .fresh ∧ ∃ row event context set old sliceEvent,
      BindWrites a db db' row event context set old sliceEvent ∧ old.activeExecutionId = none) := by
  unfold bindDeferredExecutionTx requireSha256 at h
  obtain ⟨_, -, h⟩ := (validate_readOnly a.spec).bind_ok h
  obtain ⟨-, h⟩ := Tx.require_bind_ok.mp h
  obtain ⟨-, h⟩ := Tx.require_bind_ok.mp h
  obtain ⟨-, h⟩ := Tx.require_bind_ok.mp h
  obtain ⟨-, h⟩ := Tx.require_bind_ok.mp h
  obtain ⟨sourceRoot, -, h⟩ := Tx.lift_bind_ok.mp h
  obtain ⟨_, -, h⟩ := (capsule_readOnly a).bind_ok h
  obtain ⟨json, -, h⟩ := Tx.lift_bind_ok.mp h
  have h := Tx.mapError_ok.mp (begin_bind_ok h)
  obtain ⟨current, hfound, h⟩ := Tx.find_bind_ok.mp h
  obtain ⟨-, h⟩ := Tx.require_bind_ok.mp h
  obtain ⟨-, h⟩ := Tx.requireAll_bind_ok.mp h
  obtain ⟨fingerprint, -, h⟩ := Tx.lift_bind_ok.mp h
  obtain ⟨hfingerprint, h⟩ := validateSliceControlTarget_bind_ok h
  obtain ⟨sliceJson, hjson, h⟩ := Tx.lift_bind_ok.mp h
  rcases Tx.read_option_bind_ok h with ⟨event, -, h⟩ | ⟨-, h⟩
  · obtain ⟨_, -, h⟩ := (bindReplay_readOnly a _ _ _ _ _).bind_ok h
    cases Tx.pure_ok.mp h
    exact Or.inl ⟨rfl, rfl⟩
  obtain ⟨hunbound, h⟩ := requireFree_bind_ok h
  obtain ⟨u, s, hw, h⟩ := Tx.bind_ok.mp h
  cases Tx.pure_ok.mp h
  obtain ⟨row, event, context, set, sliceEvent, hwrites⟩ := bindWrites_ok hfound hfingerprint hjson hw
  exact Or.inr ⟨rfl, row, event, context, set, current, sliceEvent, hwrites, hunbound⟩

end Adcp.L3
