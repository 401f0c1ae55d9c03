import Adcp.L1Base.Fencing
import Adcp.L3Store.GlobalWriter

/-!
# Mutual exclusion of the global production writer

Any number of clients call acquire, heartbeat, release, forced revocation and
assert on one database, in any order, each with its own surroundings (so with
any clock). The lease row is a `Fence`: its token counts grants and
revocations, its holder is the stored owner context while the row is HELD.
Each call is one `FenceStep`, whatever branch it takes (fresh, replayed,
takeover, failed, or failed after its commit); the fencing library then gives
the properties of whole runs.

* `WriterCall.step`: every call is one step of the fence.
* `writer_mutual_exclusion`: tokens only grow, each is granted once, and a
  grant that ended is never presented with success again.
-/
namespace Adcp.L4

open Adcp.L1 Adcp.L2 Adcp.L3

/-- The lease row as a fence. -/
def writerFence (db : Db) : Fence WriterContext where
  token := db.globalWriterLease.fencingToken
  holder := if db.globalWriterLease.state = .HELD then some db.globalWriterLease.context else none

/-- Only the lease row and its events differ. -/
def WriterFrame (db db' : Db) : Prop :=
  ∃ lease events, db' = { db with globalWriterLease := lease, globalWriterEvent := events }

theorem WriterFrame.refl (db : Db) : WriterFrame db db :=
  ⟨db.globalWriterLease, db.globalWriterEvent, rfl⟩

theorem writerFence_congr {db db' : Db} (h : db'.globalWriterLease = db.globalWriterLease) :
    writerFence db' = writerFence db := by
  unfold writerFence; rw [h]

/-! ## Calls -/

inductive WriterCall where
  | acquire (a : AcquireWriter)
  | heartbeat (ownerId : String) (fencingToken ttlSeconds : Int)
  | release (a : ReleaseWriter)
  | forceRevoke (a : RevokeWriter)
  | assertCurrent (ownerId : String) (fencingToken : Int)

namespace WriterCall

/-- One call: its answer, and the database it leaves. -/
def exec (env : Env) : WriterCall → Db → Except PyError GlobalWriterLease × Db
  | .acquire a => acquireGlobalProductionWriter env a
  | .heartbeat o t ttl => heartbeatGlobalProductionWriter env o t ttl
  | .release a => releaseGlobalProductionWriter env a
  | .forceRevoke a => forceRevokeGlobalProductionWriter env a
  | .assertCurrent o t => Tx.atomically (assertCurrentGlobalWriter env 0 o t)

/-- The grant a call newly makes on `db`: the owner context and its token. -/
def grant (env : Env) (call : WriterCall) (db : Db) : Option (WriterContext × Int) :=
  match call with
  | .acquire a =>
    match acquireWriterTx env a db with
    | .ok (.fresh token, _) => some (a.context, token)
    | _ => none
  | _ => none

/-- The call newly commits, on `db`, the end of the grant `(owner, token)`: by a
release, by a forced revocation, or by taking it over. -/
def Ends (env : Env) (call : WriterCall) (db : Db) (owner : String) (token : Int) : Prop :=
  match call with
  | .acquire a => db.globalWriterLease.state = .HELD ∧
      db.globalWriterLease.context.ownerId = some owner ∧
      db.globalWriterLease.fencingToken = token ∧
      ∃ t db', acquireWriterTx env a db = .ok (.fresh t, db')
  | .release a => a.ownerId = owner ∧ a.fencingToken = token ∧
      ∃ t db', releaseWriterTx env a db = .ok (.fresh t, db')
  | .forceRevoke a => a.expectedOwnerId = owner ∧ a.expectedFencingToken = token ∧
      ∃ t db', revokeWriterTx env a db = .ok (.fresh t, db')
  | _ => False

/-- The call presents `(owner, token)` and succeeds on `db` as a new operation. -/
def Succeeds (env : Env) (call : WriterCall) (db : Db) (owner : String) (token : Int) : Prop :=
  match call with
  | .heartbeat o t ttl => o = owner ∧ t = token ∧
      ∃ db', heartbeatWriterTx env o t ttl db = .ok ((), db')
  | .release a => a.ownerId = owner ∧ a.fencingToken = token ∧
      ∃ t db', releaseWriterTx env a db = .ok (.fresh t, db')
  | .assertCurrent o t => o = owner ∧ t = token ∧
      ∃ row db', assertCurrentGlobalWriter env 0 o t db = .ok (row, db')
  | _ => False

end WriterCall

/-- The database after a list of calls. -/
def writerRun : List (Env × WriterCall) → Db → Db
  | [], db => db
  | (env, call) :: rest, db => writerRun rest (call.exec env db).2

/-- The grants newly made along a list of calls, in order. -/
def writerGrants : List (Env × WriterCall) → Db → List (WriterContext × Int)
  | [], _ => []
  | (env, call) :: rest, db =>
    (call.grant env db).toList ++ writerGrants rest (call.exec env db).2

theorem writerRun_append (xs ys : List (Env × WriterCall)) (db : Db) :
    writerRun (xs ++ ys) db = writerRun ys (writerRun xs db) := by
  induction xs generalizing db with
  | nil => rfl
  | cons x xs ih => exact ih _

/-! ## What one transaction does -/

/-- The fence a written row stands for. -/
theorem writerWrites_fence {env : Env} {db db' : Db} {row : GlobalWriterLease}
    {event : GlobalWriterEvent} (h : WriterWrites env db row event db') :
    writerFence db' =
      ⟨row.view.fencingToken, if row.view.state = .HELD then some row.view.context else none⟩ := by
  rw [h.writes]
  rfl

theorem writerWrites_frame {env : Env} {db db' : Db} {row : GlobalWriterLease}
    {event : GlobalWriterEvent} (h : WriterWrites env db row event db') : WriterFrame db db' :=
  ⟨row, db.globalWriterEvent ++ [event], h.writes⟩

/-- An acquisition replays its key, or it writes the next token for its context
into a row that was FREE or expired. -/
theorem acquireWriterTx_ok {env : Env} {a : AcquireWriter} {db db' : Db} {g : Grant}
    (h : acquireWriterTx env a db = .ok (g, db')) :
    ((∃ t, g = .replayed t) ∧ db' = db) ∨
    (g = .fresh (db.globalWriterLease.fencingToken + 1) ∧
      writerFence db' = ⟨db.globalWriterLease.fencingToken + 1, some a.context⟩ ∧
      WriterFrame db db') := by
  rcases (acquireWriterTx_writes h).2 with hreplay | ⟨_, row, event, hwrites, hg, hview, -⟩
  · exact Or.inl hreplay
  · have hfence := writerWrites_fence hwrites
    rw [hview] at hfence
    exact Or.inr ⟨hg, hfence, writerWrites_frame hwrites⟩

/-- A heartbeat finds its owner and token current and keeps the fence. -/
theorem heartbeatWriterTx_ok {env : Env} {owner : String} {token ttl : Int} {db db' : Db}
    (h : heartbeatWriterTx env owner token ttl db = .ok ((), db')) :
    WriterCurrent env db.globalWriterLease owner token (env.clock 0) ∧
      writerFence db' = writerFence db ∧ WriterFrame db db' := by
  obtain ⟨-, hcur, expires, row, hview, -, -, rfl⟩ := heartbeatWriterTx_writes h
  have hstate : row.state = db.globalWriterLease.state := congrArg WriterView.state hview
  have htoken : row.fencingToken = db.globalWriterLease.fencingToken :=
    congrArg WriterView.fencingToken hview
  have hcontext : row.context = db.globalWriterLease.context := congrArg WriterView.context hview
  refine ⟨hcur, ?_, row, db.globalWriterEvent, rfl⟩
  unfold writerFence
  simp only [hstate, htoken, hcontext]

/-- Freeing the lease replays its key, or it finds its owner and token current
and leaves a free row with the new token. -/
theorem freeWriter_ok {env : Env} {ty : WriterEventType} {key owner : String}
    {token newToken : Int} {reason : String} {ref : Option String} {json : String} {lost : PyError}
    {db db' : Db} {g : Grant} (hty : ty = .RELEASE ∨ ty = .FORCE_REVOKE)
    (h : freeWriter env ty key owner token newToken reason ref json lost db = .ok (g, db')) :
    ((∃ t, g = .replayed t) ∧ db' = db) ∨
    (g = .fresh newToken ∧ WriterCurrent env db.globalWriterLease owner token (env.clock 0) ∧
      writerFence db' = ⟨newToken, none⟩ ∧ WriterFrame db db') := by
  rcases freeWriter_writes hty h with hreplay | ⟨row, event, hwrites, hg, hcur, hview⟩
  · exact Or.inl hreplay
  · have hfence := writerWrites_fence hwrites
    rw [hview] at hfence
    exact Or.inr ⟨hg, hcur, hfence, writerWrites_frame hwrites⟩

theorem releaseWriterTx_ok {env : Env} {a : ReleaseWriter} {db db' : Db} {g : Grant}
    (h : releaseWriterTx env a db = .ok (g, db')) :
    ((∃ t, g = .replayed t) ∧ db' = db) ∨
    (g = .fresh a.fencingToken ∧
      WriterCurrent env db.globalWriterLease a.ownerId a.fencingToken (env.clock 0) ∧
      writerFence db' = ⟨a.fencingToken, none⟩ ∧ WriterFrame db db') := by
  unfold releaseWriterTx at h
  obtain ⟨-, h⟩ := Tx.require_bind_ok.mp h
  obtain ⟨-, h⟩ := Tx.require_bind_ok.mp h
  obtain ⟨-, h⟩ := Tx.require_bind_ok.mp h
  obtain ⟨-, h⟩ := Tx.require_bind_ok.mp h
  obtain ⟨json, -, h⟩ := Tx.lift_bind_ok.mp h
  exact freeWriter_ok (Or.inl rfl) h

theorem revokeWriterTx_ok {env : Env} {a : RevokeWriter} {db db' : Db} {g : Grant}
    (h : revokeWriterTx env a db = .ok (g, db')) :
    ((∃ t, g = .replayed t) ∧ db' = db) ∨
    (g = .fresh (a.expectedFencingToken + 1) ∧
      WriterCurrent env db.globalWriterLease a.expectedOwnerId a.expectedFencingToken
        (env.clock 0) ∧
      writerFence db' = ⟨a.expectedFencingToken + 1, none⟩ ∧ WriterFrame db db') := by
  unfold revokeWriterTx at h
  obtain ⟨-, h⟩ := Tx.require_bind_ok.mp h
  obtain ⟨-, h⟩ := Tx.requireAll_bind_ok.mp h
  obtain ⟨-, h⟩ := Tx.require_bind_ok.mp h
  obtain ⟨json, -, h⟩ := Tx.lift_bind_ok.mp h
  exact freeWriter_ok (Or.inr rfl) h

/-- A current owner holds the fence. -/
theorem writerCurrent_holder {env : Env} {db : Db} {owner : String} {token : Int} {now : Timestamp}
    (h : WriterCurrent env db.globalWriterLease owner token now) :
    (writerFence db).token = token ∧
      (writerFence db).holder = some db.globalWriterLease.context := by
  obtain ⟨ht, hs, -, -⟩ := h
  exact ⟨ht, if_pos hs⟩

/-! ## What one call does -/

/-- A committed acquisition is one step of the fence, granting what it reports. -/
theorem acquire_step {env : Env} {a : AcquireWriter} {db db' : Db} {g : Grant}
    (h : acquireWriterTx env a db = .ok (g, db')) :
    FenceStep (writerFence db) ((WriterCall.acquire a).grant env db) (writerFence db') := by
  unfold WriterCall.grant
  simp only [h]
  rcases acquireWriterTx_ok h with ⟨⟨t, rfl⟩, rfl⟩ | ⟨rfl, hf, -⟩
  · exact .keep _
  · rw [hf]
    exact .grant (writerFence db) a.context

/-- A committed release or revocation is one step of the fence. -/
theorem free_step {env : Env} {owner : String} {token newToken : Int} {db db' : Db}
    (hcur : WriterCurrent env db.globalWriterLease owner token (env.clock 0))
    (hf : writerFence db' = ⟨newToken, none⟩) (hn : newToken = token ∨ newToken = token + 1) :
    FenceStep (writerFence db) none (writerFence db') := by
  have ht := (writerCurrent_holder hcur).1
  rw [hf]
  rcases hn with rfl | rfl
  · rw [← ht]; exact .release _
  · rw [← ht]; exact .revoke _

/-- Every call, whatever branch it takes, is one step of the fence. -/
theorem WriterCall.step (env : Env) (call : WriterCall) (db : Db) :
    FenceStep (writerFence db) (call.grant env db) (writerFence (call.exec env db).2) := by
  cases call with
  | acquire a =>
    cases hx : acquireWriterTx env a db with
    | error e =>
      have he : ((acquire a).exec env db).2 = db := by
        simp only [exec, acquireGlobalProductionWriter, Tx.commitThen, hx]
      have hg : (acquire a).grant env db = none := by simp only [grant, hx]
      rw [he, hg]
      exact .keep _
    | ok p =>
      have he : ((acquire a).exec env db).2 = p.2 := by
        simp only [exec, acquireGlobalProductionWriter, Tx.commitThen, hx]
      rw [he]
      exact acquire_step hx
  | heartbeat owner token ttl =>
    unfold exec heartbeatGlobalProductionWriter
    rcases Tx.commitThen_state (heartbeatWriterTx env owner token ttl) _ db with he | ⟨⟨⟩, hx⟩
    · rw [he]; exact .keep _
    · rw [(heartbeatWriterTx_ok hx).2.1]; exact .keep _
  | release a =>
    unfold exec releaseGlobalProductionWriter
    rcases Tx.commitThen_state (releaseWriterTx env a) _ db with he | ⟨g, hx⟩
    · rw [he]; exact .keep _
    · rcases releaseWriterTx_ok hx with ⟨-, he⟩ | ⟨-, hcur, hf, -⟩
      · rw [he]; exact .keep _
      · exact free_step hcur hf (Or.inl rfl)
  | forceRevoke a =>
    unfold exec forceRevokeGlobalProductionWriter
    rcases Tx.commitThen_state (revokeWriterTx env a) _ db with he | ⟨g, hx⟩
    · rw [he]; exact .keep _
    · rcases revokeWriterTx_ok hx with ⟨-, he⟩ | ⟨-, hcur, hf, -⟩
      · rw [he]; exact .keep _
      · exact free_step hcur hf (Or.inr rfl)
  | assertCurrent owner token =>
    unfold exec
    rcases Tx.atomically_state (assertCurrentGlobalWriter env 0 owner token) db with he | ⟨r, hx⟩
    · rw [he]; exact .keep _
    · rw [(assertCurrentGlobalWriter_ok hx).2]; exact .keep _

/-- A call that succeeds with `(owner, token)` finds the fence held with `token`. -/
theorem WriterCall.Succeeds.holder {env : Env} {call : WriterCall} {db : Db} {owner : String}
    {token : Int} (h : call.Succeeds env db owner token) :
    (writerFence db).token = token ∧
      (writerFence db).holder = some db.globalWriterLease.context := by
  cases call with
  | heartbeat =>
    obtain ⟨rfl, rfl, db', hx⟩ := h
    exact writerCurrent_holder (heartbeatWriterTx_ok hx).1
  | release a =>
    obtain ⟨rfl, rfl, t, db', hx⟩ := h
    rcases releaseWriterTx_ok hx with ⟨⟨_, hg⟩, -⟩ | ⟨-, hcur, -, -⟩
    · cases hg
    · exact writerCurrent_holder hcur
  | assertCurrent =>
    obtain ⟨rfl, rfl, row, db', hx⟩ := h
    exact writerCurrent_holder (assertCurrentGlobalWriter_ok hx).1
  | acquire => exact h.elim
  | forceRevoke => exact h.elim

/-- A call that ends a grant leaves its token past. -/
theorem WriterCall.Ends.past {env : Env} {call : WriterCall} {db : Db} {owner : String}
    {token : Int} (h : call.Ends env db owner token) :
    Past token (writerFence (call.exec env db).2) := by
  cases call with
  | acquire a =>
    obtain ⟨-, -, rfl, t, db', hx⟩ := h
    have he : ((WriterCall.acquire a).exec env db).2 = db' := by
      simp only [exec, acquireGlobalProductionWriter, Tx.commitThen, hx]
    rcases acquireWriterTx_ok hx with ⟨⟨_, hg⟩, -⟩ | ⟨-, hf, -⟩
    · cases hg
    · rw [he, hf]
      exact Or.inl (by simp only; omega)
  | release a =>
    obtain ⟨-, rfl, t, db', hx⟩ := h
    have he : ((WriterCall.release a).exec env db).2 = db' := by
      simp only [exec, releaseGlobalProductionWriter, Tx.commitThen, hx]
    rcases releaseWriterTx_ok hx with ⟨⟨_, hg⟩, -⟩ | ⟨-, -, hf, -⟩
    · cases hg
    · rw [he, hf]
      exact Or.inr ⟨rfl, rfl⟩
  | forceRevoke a =>
    obtain ⟨-, rfl, t, db', hx⟩ := h
    have he : ((WriterCall.forceRevoke a).exec env db).2 = db' := by
      simp only [exec, forceRevokeGlobalProductionWriter, Tx.commitThen, hx]
    rcases revokeWriterTx_ok hx with ⟨⟨_, hg⟩, -⟩ | ⟨-, -, hf, -⟩
    · cases hg
    · rw [he, hf]
      exact Or.inl (by simp only; omega)
  | heartbeat => exact h.elim
  | assertCurrent => exact h.elim

/-! ## Runs -/

/-- A list of calls is a run of the fence, making the grants it lists. -/
theorem writerRun_fence (calls : List (Env × WriterCall)) (db : Db) :
    FenceRun (writerFence db) (writerGrants calls db) (writerFence (writerRun calls db)) := by
  induction calls generalizing db with
  | nil => exact .nil _
  | cons x rest ih => exact .cons (x.2.step x.1 db) (ih _)

/-- **Mutual exclusion and fencing.** Along every list of calls, from any
database: the token never decreases; the granted tokens are strictly increasing,
so each is granted to one context; the row is held only by the context its token
was granted to; and after a call that ended the grant `(owner, token)`, no
assertion, heartbeat or release with `(owner, token)` succeeds as a new
operation. -/
theorem writer_mutual_exclusion (db : Db) (before : List (Env × WriterCall)) :
    (∀ after, (writerRun before db).globalWriterLease.fencingToken ≤
      (writerRun (before ++ after) db).globalWriterLease.fencingToken) ∧
    ((writerGrants before db).map Prod.snd).Pairwise (· < ·) ∧
    (∀ c c' t, (c, t) ∈ writerGrants before db → (c', t) ∈ writerGrants before db → c = c') ∧
    (∀ c, (writerFence (writerRun before db)).holder = some c →
      (c, (writerRun before db).globalWriterLease.fencingToken) ∈ writerGrants before db ∨
      ((writerFence db).token = (writerRun before db).globalWriterLease.fencingToken ∧
        (writerFence db).holder = some c)) ∧
    (∀ env call between env' call' owner token,
      WriterCall.Ends env call (writerRun before db) owner token →
      ¬ WriterCall.Succeeds env' call' (writerRun (before ++ (env, call) :: between) db)
        owner token) := by
  refine ⟨fun after => ?_, (writerRun_fence before db).increasing,
    fun c c' t h h' => (writerRun_fence before db).unique h h',
    fun c h => (writerRun_fence before db).held h, ?_⟩
  · rw [writerRun_append]
    exact (writerRun_fence after _).token_le
  · intro env call between env' call' owner token hend hsucc
    rw [writerRun_append] at hsucc
    have hpast := hend.past.run (writerRun_fence between _)
    obtain ⟨ht, hh⟩ := hsucc.holder
    cases hh.symm.trans (hpast.not_held ht)

end Adcp.L4
