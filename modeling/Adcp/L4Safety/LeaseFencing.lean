import Adcp.L1Base.Fencing
import Adcp.L4Safety.EventLog

/-!
# The lease of an execution

Each execution has a lease with a fencing token, its `lease_generation`. Every
operation that changes an execution presents an owner and a generation, and
checks them inside its transaction. Here any number of owners make any list of
calls, on any database, with any clocks.

* `leaseFence`: the row as a `Fence`; `Call.leaseStep`: every call is one of its
  steps, and only an acquisition moves the generation.
* `Call.commits_live`: a call that commits under an owner and a generation finds
  them in the row, unexpired.
* `lease_fencing`: the safety theorem over every list of calls.
-/
namespace Adcp.L4

open Adcp.L1 Adcp.L2 Adcp.L3 ExecutionState

/-- The lease of the execution `id` as a fence; a missing row has none. -/
def leaseFence (id : String) (db : Db) : Fence String :=
  match db.execution? id with
  | some row => ⟨row.leaseGeneration, row.leaseOwner⟩
  | none => ⟨0, none⟩

/-- The grant of the lease of `id` that the call newly makes on `db`, if it does. -/
def Call.leaseGrant (id : String) (env : Env) (call : Call) (db : Db) : Option (String × Int) :=
  match call with
  | .acquireLease a =>
    if a.executionId = id then
      match acquireLeaseTx env a db with
      | .ok (.fresh, db') => some (a.leaseOwner, (leaseFence id db').token)
      | _ => none
    else none
  | _ => none

/-- The execution, owner and generation a call acts under. -/
def Call.presents : Call → Option (String × String × Int)
  | .heartbeat a => some (a.executionId, a.leaseOwner, a.leaseGeneration)
  | .releaseLease a => some (a.executionId, a.leaseOwner, a.leaseGeneration)
  | .transition a => some (a.executionId, a.leaseOwner, a.leaseGeneration)
  | .registerResultCommit a => some (a.executionId, a.leaseOwner, a.leaseGeneration)
  | .finalizeDeferredResultCommit a => some (a.executionId, a.leaseOwner, a.leaseGeneration)
  | .scheduleRework a => some (a.executionId, a.leaseOwner, a.leaseGeneration)
  | .authorizeHighRework a => some (a.executionId, a.leaseOwner, a.leaseGeneration)
  | .scheduleHumanAuthorizedRework a => some (a.executionId, a.leaseOwner, a.leaseGeneration)
  | .acceptExecution a => some (a.executionId, a.leaseOwner, a.leaseGeneration)
  | _ => none

/-- A call with its surroundings and the state it read before its transaction. -/
abbrev Step : Type := Env × Db × Call

def Step.exec (step : Step) (db : Db) : Db := step.2.2.exec step.1 step.2.1 db

/-- The database after a list of calls. -/
def execAll : List Step → Db → Db
  | [], db => db
  | step :: rest, db => execAll rest (Step.exec step db)

/-- The grants of the lease of `id` newly made along a list of calls, in order. -/
def leaseGrants (id : String) : List Step → Db → List (String × Int)
  | [], _ => []
  | step :: rest, db =>
    (step.2.2.leaseGrant id step.1 db).toList ++ leaseGrants id rest (Step.exec step db)

theorem execAll_append (xs ys : List Step) (db : Db) :
    execAll (xs ++ ys) db = execAll ys (execAll xs db) := by
  induction xs generalizing db with
  | nil => rfl
  | cons x xs ih => exact ih _

variable {id : String} {env : Env} {snap db db' : Db} {call : Call} {c : Commit}

/-! ## What one call does -/

theorem leaseFence_of {row : SliceExecution} (h : db.execution? id = some row) :
    leaseFence id db = ⟨row.leaseGeneration, row.leaseOwner⟩ := by
  unfold leaseFence
  rw [h]

/-- The lease is as it was, or free under the same generation. -/
def LeaseKept (f f' : Fence String) : Prop :=
  f'.token = f.token ∧ (f'.holder = f.holder ∨ f'.holder = none)

theorem LeaseKept.step {f f' : Fence String} (h : LeaseKept f f') : FenceStep f none f' := by
  obtain ⟨token, holder⟩ := f
  obtain ⟨token', holder'⟩ := f'
  obtain ⟨rfl, rfl | rfl⟩ := h
  · exact .keep _
  · exact .release ⟨_, holder⟩

theorem LeaseKept.trans {f f' f'' : Fence String} (h : LeaseKept f f') (h' : LeaseKept f' f'') :
    LeaseKept f f'' := by
  obtain ⟨htoken, hholder⟩ := h
  obtain ⟨htoken', hholder' | hholder'⟩ := h'
  · rw [← hholder'] at hholder
    exact ⟨htoken'.trans htoken, hholder⟩
  · exact ⟨htoken'.trans htoken, Or.inr hholder'⟩

/-- A core step of a call other than an acquisition of `id` keeps the lease. -/
theorem CoreStep.leaseKept {start : Db} (hcall : ∀ a, call = .acquireLease a → a.executionId ≠ id)
    (h : CoreStep (call.Makes env start) db db') : LeaseKept (leaseFence id db) (leaseFence id db') := by
  cases h.execution id with
  | keep row =>
    unfold leaseFence
    rw [row]
    exact ⟨rfl, Or.inl rfl⟩
  | create creates ofId row =>
    obtain ⟨sourceRoot, now, rfl⟩ := creates.shape
    have hnone : db.execution? id = none := ofId ▸ creates.free
    rw [leaseFence_of row]
    unfold leaseFence
    rw [hnone]
    exact ⟨rfl, Or.inl rfl⟩
  | renew found _ row =>
    rw [leaseFence_of row, leaseFence_of found]
    exact ⟨rfl, Or.inl rfl⟩
  | @bump b _ r from_call ofId found _ row =>
    rw [leaseFence_of row, leaseFence_of found]
    refine b.keeps_lease r fun owner generation expires hkind => ?_
    obtain ⟨a, rfl, hid, -⟩ := from_call.acquired _ _ _ hkind
    exact hcall a rfl (hid.symm.trans ofId)

theorem CoreRun.leaseKept {start : Db} (hcall : ∀ a, call = .acquireLease a → a.executionId ≠ id)
    (h : CoreRun (call.Makes env start) db db') :
    LeaseKept (leaseFence id db) (leaseFence id db') := by
  induction h with
  | nil => exact ⟨rfl, Or.inl rfl⟩
  | cons step _ ih => exact (step.leaseKept hcall).trans ih

/-- A new acquisition grants the next generation to its caller. -/
theorem acquireLeaseTx_grants {a : AcquireLease} (h : acquireLeaseTx env a db = .ok (.fresh, db')) :
    leaseFence a.executionId db' =
      ⟨(leaseFence a.executionId db).token + 1, some a.leaseOwner⟩ := by
  rcases acquireLeaseTx_ok h with ⟨hc, -⟩ | ⟨-, generation, expires, event, ⟨r, hfound, hon⟩, rfl⟩
  · cases hc
  obtain ⟨-, -, rfl⟩ := hon.guard
  have hrow := @Db.bump_execution? db ⟨a.executionId,
    .leaseAcquired a.leaseOwner (r.leaseGeneration + 1) expires, env.clock 0, none⟩ event a.executionId
  rw [if_pos rfl, hfound] at hrow
  rw [leaseFence_of hfound, leaseFence_of hrow]
  rfl

/-- Every call, whatever branch it takes, is one step of the lease; one that
grants nothing keeps the generation. -/
theorem Call.leaseStep (id : String) (env : Env) (snap : Db) (call : Call) (db : Db) :
    FenceStep (leaseFence id db) (call.leaseGrant id env db)
        (leaseFence id (call.exec env snap db)) ∧
      (call.leaseGrant id env db = none →
        (leaseFence id (call.exec env snap db)).token = (leaseFence id db).token) := by
  have kept (hk : LeaseKept (leaseFence id db) (leaseFence id (call.exec env snap db)))
      (hg : call.leaseGrant id env db = none) :
      FenceStep (leaseFence id db) (call.leaseGrant id env db)
          (leaseFence id (call.exec env snap db)) ∧
        (call.leaseGrant id env db = none →
          (leaseFence id (call.exec env snap db)).token = (leaseFence id db).token) :=
    ⟨hg ▸ hk.step, fun _ => hk.1⟩
  by_cases hcall : ∀ a, call = .acquireLease a → a.executionId ≠ id
  · -- no acquisition of this lease: the call grants nothing and keeps it
    refine kept ?_ ?_
    · rcases call.exec_cases env snap db with hx | ⟨c, hx⟩
      · rw [hx]
        exact ⟨rfl, Or.inl rfl⟩
      · exact (Call.coreRun hx).leaseKept hcall
    · cases call with
      | acquireLease a => exact if_neg (hcall a rfl)
      | _ => rfl
  · obtain ⟨a, rfl, rfl⟩ : ∃ a, call = .acquireLease a ∧ a.executionId = id := by
      simpa using hcall
    cases hx : acquireLeaseTx env a db with
    | error e =>
      have hexec : (acquireLease a).exec env snap db = db := by
        simp only [Call.exec, Call.tx, Tx.atomically, hx]
      refine kept ?_ ?_
      · rw [hexec]
        exact ⟨rfl, Or.inl rfl⟩
      · simp only [leaseGrant, if_pos, hx]
    | ok p =>
      obtain ⟨c, db'⟩ := p
      have hexec : (acquireLease a).exec env snap db = db' := by
        simp only [Call.exec, Call.tx, Tx.atomically, hx]
      cases c with
      | replayed =>
        rcases acquireLeaseTx_ok hx with ⟨-, hdb⟩ | ⟨hc, -⟩
        · refine kept ?_ ?_
          · rw [hexec, hdb]
            exact ⟨rfl, Or.inl rfl⟩
          · simp only [leaseGrant, if_pos, hx]
        · cases hc
      | fresh =>
        have hg : (acquireLease a).leaseGrant a.executionId env db =
            some (a.leaseOwner, (leaseFence a.executionId db).token + 1) := by
          simp only [leaseGrant, if_pos, hx, acquireLeaseTx_grants hx]
        rw [hexec, hg, acquireLeaseTx_grants hx]
        exact ⟨.grant _ _, fun h => by cases h⟩

/-- A call that newly commits under an owner and a generation finds the row
leased to them, with an expiry after the call's reading of the clock. -/
theorem Call.commits_live {owner : String} {generation : Int}
    (hp : call.presents = some (id, owner, generation))
    (h : call.tx env snap db = .ok (.fresh, db')) :
    ∃ row, db.execution? id = some row ∧ FenceLive row owner generation (env.clock 0) := by
  cases call with
  | heartbeat a =>
    cases hp
    obtain ⟨_, hx⟩ := done_ok h
    obtain ⟨row, _, hrow, hlive, -⟩ := heartbeatTx_ok hx
    exact ⟨row, hrow, hlive⟩
  | releaseLease a =>
    cases hp
    rcases releaseLeaseTx_ok h with ⟨hc, -⟩ | ⟨-, hb⟩
    · cases hc
    · exact Bumps.live hb rfl
  | transition a =>
    cases hp
    rcases transitionTx_ok h with ⟨hc, -⟩ | ⟨-, hb⟩
    · cases hc
    · exact Bumps.live hb rfl
  | registerResultCommit a =>
    cases hp
    rcases registerResultCommitTx_ok h with ⟨hc, -⟩ | ⟨-, hb⟩
    · cases hc
    · exact Bumps.live hb rfl
  | finalizeDeferredResultCommit a =>
    cases hp
    rcases finalizeDeferredResultCommitTx_ok h with ⟨hc, -⟩ | ⟨-, _, _, _, _, _, hfinal⟩
    · cases hc
    · exact Bump.Allowed.live hfinal.allowed rfl
  | scheduleRework a =>
    cases hp
    rcases scheduleReworkTx_ok h with ⟨hc, -⟩ | ⟨-, hb⟩
    · cases hc
    · exact Bumps.live hb rfl
  | authorizeHighRework a =>
    cases hp
    obtain ⟨_, hx⟩ := done_ok h
    obtain ⟨mid, hb, -⟩ := authorizeHighReworkTx_ok hx
    exact Bumps.live hb rfl
  | scheduleHumanAuthorizedRework a =>
    cases hp
    obtain ⟨_, hx⟩ := done_ok h
    obtain ⟨_, _, _, _, _, _, -, hallowed, -⟩ := scheduleHumanAuthorizedReworkTx_ok hx
    exact Bump.Allowed.live hallowed rfl
  | acceptExecution a =>
    cases hp
    rcases acceptExecutionTx_ok h with ⟨hc, -⟩ | ⟨-, _, _, _, _, _, _, haccepts⟩
    · cases hc
    · exact Bump.Allowed.live haccepts.allowed rfl
  | _ => cases hp

/-! ## Runs -/

/-- A list of calls is a run of the lease, making the grants it lists. -/
theorem execAll_fence (id : String) (steps : List Step) (db : Db) :
    FenceRun (leaseFence id db) (leaseGrants id steps db) (leaseFence id (execAll steps db)) := by
  induction steps generalizing db with
  | nil => exact .nil _
  | cons step rest ih => exact .cons (step.2.2.leaseStep id step.1 step.2.1 db).1 (ih _)

/-- **Lease fencing.** Along every list of calls, from any database, for every
execution: a new grant raises the generation by one and every other call keeps
it; the granted generations are strictly increasing, so each is granted to one
owner, and only that owner holds it; a call that newly commits under an owner
and a generation does so while the row holds exactly these, unexpired at the
call's reading of the clock; and once a grant with a later generation was made,
no call newly commits under the earlier one. -/
theorem lease_fencing (id : String) (db : Db) (before : List Step) :
    (∀ step : Step,
      (∀ owner generation,
        step.2.2.leaseGrant id step.1 (execAll before db) = some (owner, generation) →
          generation = (leaseFence id (execAll before db)).token + 1 ∧
          (leaseFence id (Step.exec step (execAll before db))).token = generation ∧
          (leaseFence id (Step.exec step (execAll before db))).holder = some owner) ∧
      (step.2.2.leaseGrant id step.1 (execAll before db) = none →
        (leaseFence id (Step.exec step (execAll before db))).token =
          (leaseFence id (execAll before db)).token)) ∧
    ((leaseGrants id before db).map Prod.snd).Pairwise (· < ·) ∧
    (∀ owner owner' generation, (owner, generation) ∈ leaseGrants id before db →
      (owner', generation) ∈ leaseGrants id before db → owner = owner') ∧
    (∀ owner, (leaseFence id (execAll before db)).holder = some owner →
      (owner, (leaseFence id (execAll before db)).token) ∈ leaseGrants id before db ∨
      ((leaseFence id db).token = (leaseFence id (execAll before db)).token ∧
        (leaseFence id db).holder = some owner)) ∧
    (∀ (env : Env) (snap : Db) (call : Call) db' owner generation, call.presents = some (id, owner, generation) →
      call.tx env snap (execAll before db) = .ok (.fresh, db') →
      ∃ row, (execAll before db).execution? id = some row ∧
        FenceLive row owner generation (env.clock 0)) ∧
    (∀ later generation, (later, generation) ∈ leaseGrants id before db →
      ∀ (env : Env) (snap : Db) (call : Call) db' owner generation', generation' < generation →
        call.presents = some (id, owner, generation') →
        call.tx env snap (execAll before db) ≠ .ok (.fresh, db')) := by
  have hrun := execAll_fence id before db
  refine ⟨fun step => ⟨fun owner generation hg => ?_, (step.2.2.leaseStep id step.1 step.2.1 _).2⟩,
    hrun.increasing, fun owner owner' generation h h' => hrun.unique h h', fun owner h => hrun.held h,
    fun env snap call db' owner generation hp hx => Call.commits_live hp hx, ?_⟩
  · have hstep := (step.2.2.leaseStep id step.1 step.2.1 (execAll before db)).1
    rw [hg] at hstep
    exact hstep.granted
  · intro later generation hg env snap call db' owner generation' hlt hp hx
    obtain ⟨row, hrow, -, hgeneration, -⟩ := Call.commits_live hp hx
    have hle := hrun.granted_le hg
    rw [leaseFence_of hrow] at hle
    simp only at hle
    omega

end Adcp.L4
