import Adcp.L1Base.Table
import Adcp.L3Store.GlobalWriter

/-!
# Executions and their events: queries, constraints, statements

What every operation on an execution is made of: reading the row, the lease
check, looking a used key up, `UPDATE slice_execution`, and `_insert_event`,
each with the constraints SQLite enforces on it.

`executionChecks` lists the `CHECK`s of a row one by one, so that a failing
statement names the constraint. `companionChecks` are the three that tie
`resume_state`, `accepted_at` and the blocker columns to the state.

Results:
* `updateExecution_bind_ok`, `insertEvent_bind_ok`: what a statement that
  succeeded found and wrote.
* `replayOr_ok`: a keyed operation replays, changing nothing, or runs its body.
-/
namespace Adcp.L3

open Adcp.L1 Adcp.L2 ExecutionState

/-! ## Queries -/

def Db.execution? (db : Db) (executionId : String) : Option SliceExecution :=
  Table.lookup (·.executionId) db.sliceExecution executionId

/-- mirrors src/adcp/store/sqlite.py:803-809 -/
def getExecution (executionId : String) : Tx PyError Db SliceExecution :=
  Tx.find (·.execution? executionId) (.store "EXECUTION_NOT_FOUND" executionId)

/-- mirrors src/adcp/store/sqlite.py:811-817 -/
def Db.events (db : Db) (executionId : String) : List TransitionEvent :=
  db.transitionEvent.filter (·.executionId = executionId)

/-- mirrors src/adcp/store/sqlite.py:838-844 -/
def getControlAuthorityState : Tx PyError Db ControlAuthorityState :=
  Tx.read Db.controlAuthorityState

/-- The row is leased to `leaseOwner` under `leaseGeneration`, unexpired at `now`. -/
def FenceLive (row : SliceExecution) (leaseOwner : String) (leaseGeneration : Int)
    (now : Timestamp) : Prop :=
  row.leaseOwner = some leaseOwner ∧ row.leaseGeneration = leaseGeneration ∧
    (row.leaseExpiresAt.any (now < ·)) = true

instance (row : SliceExecution) (leaseOwner : String) (leaseGeneration : Int) (now : Timestamp) :
    Decidable (FenceLive row leaseOwner leaseGeneration now) := by
  unfold FenceLive; infer_instance

/-- mirrors src/adcp/store/sqlite.py:3069-3082 -/
def requireFence (row : SliceExecution) (leaseOwner : String) (leaseGeneration : Int)
    (now : Timestamp) : Tx PyError Db Unit :=
  Tx.require (FenceLive row leaseOwner leaseGeneration now) (storeError "STALE_FENCING_TOKEN")

/-- mirrors src/adcp/domain.py:73-83 -/
structure CandidateWriteFence where
  executionId : String
  expectedStateVersion : Int
  leaseOwner : String
  leaseGeneration : Int
  authorityGeneration : Int
  contractFingerprint : String
  authorityFingerprint : String

/-- `reading` is the clock reading it takes.
mirrors src/adcp/store/sqlite.py:271-286 -/
def requireCandidateFence (env : Env) (reading : Nat) (executionId : String)
    (fence : CandidateWriteFence) (checkVersion : Bool) : Tx PyError Db SliceExecution := do
  Tx.require (fence.executionId = executionId) (storeError "CANDIDATE_FENCING_TOKEN_REQUIRED")
  let row ← getExecution executionId
  requireFence row fence.leaseOwner fence.leaseGeneration (env.clock reading)
  Tx.require (checkVersion = true → row.stateVersion = fence.expectedStateVersion)
    (storeError "STALE_STATE_VERSION")
  let authority ← getControlAuthorityState
  Tx.require (authority.authorityGeneration = fence.authorityGeneration)
    (storeError "STALE_AUTHORITY_GENERATION")
  Tx.require (row.contractFingerprint = fence.contractFingerprint ∧
      row.authorityFingerprint = fence.authorityFingerprint)
    (storeError "CANDIDATE_AUTHORITY_BINDING_MISMATCH")
  pure row

/-- The fence check of an operation that may be given a fence. -/
def requireOptionalFence (env : Env) (reading : Nat) (executionId : String)
    (fence : Option CandidateWriteFence) (checkVersion : Bool) : Tx PyError Db Unit :=
  match fence with
  | none => pure ()
  | some fence => do
    let _ ← requireCandidateFence env reading executionId fence checkVersion
    pure ()

/-! ## Constraints of a row -/

/-- `resume_state` fits the state. A `CHECK` fails only when it is false, and
`NULL` makes the first two alternatives unknown, so SQLite lets a missing
`resume_state` through.
mirrors src/adcp/store/migrations.py:70 -/
def resumeCheck (r : SliceExecution) : Bool :=
  match r.state with
  | WAITING_APPROVAL => r.resumeState.all (· = EVALUATING)
  | BLOCKED => r.resumeState.all (· ∈ blockedResumeStates)
  | _ => r.resumeState.isNone

/-- mirrors src/adcp/store/migrations.py:72 -/
def acceptedCheck (r : SliceExecution) : Bool := r.acceptedAt.isSome = (r.state = ACCEPTED)

/-- mirrors src/adcp/store/migrations.py:73 -/
def blockerCheck (r : SliceExecution) : Bool :=
  if r.state = BLOCKED ∨ r.state = DESIGN_ESCALATION then r.blockerCode.isSome
  else r.blockerCode.isNone && r.blockerDetail.isNone

def companionChecks (r : SliceExecution) : List (String × Bool) :=
  [("resume_state", resumeCheck r), ("accepted_at", acceptedCheck r), ("blocker_code", blockerCheck r)]

def commitLength (s : String) : Bool := sqliteLength s = 40 || sqliteLength s = 64

/-- The other `CHECK`s of a row.
mirrors src/adcp/store/migrations.py:43-71 -/
def columnChecks (r : SliceExecution) : List (String × Bool) :=
  [("execution_id", 0 < sqliteLength r.executionId),
   ("create_idempotency_key", sqliteLength r.createIdempotencyKey = 64),
   ("slice_id", 0 < sqliteLength r.sliceId),
   ("state_version", 0 ≤ r.stateVersion),
   ("contract_fingerprint", sqliteLength r.contractFingerprint = 64),
   ("authority_fingerprint", sqliteLength r.authorityFingerprint = 64),
   ("source_root", 0 < sqliteLength r.sourceRoot),
   ("branch", 0 < sqliteLength r.branch),
   ("base_commit", commitLength r.baseCommit),
   ("result_commit", r.resultCommit.all commitLength),
   ("maker_rework_count", 0 ≤ r.makerReworkCount && r.makerReworkCount ≤ r.maxAutoReworks),
   ("max_auto_reworks", 0 ≤ r.maxAutoReworks && r.maxAutoReworks = r.riskLevel.maxAutoReworks),
   ("lease_generation", 0 ≤ r.leaseGeneration),
   ("lease_owner", r.leaseOwner.isSome = r.leaseExpiresAt.isSome),
   ("blocker_detail", r.blockerDetail.all fun d => sqliteLength d ≤ 2000)]

def executionChecks (r : SliceExecution) : List (String × Bool) := columnChecks r ++ companionChecks r

def requireChecks (r : SliceExecution) : Tx PyError Db Unit :=
  Tx.requireAll (.check "slice_execution") (executionChecks r)

/-- `uq_slice_execution_open`.
mirrors src/adcp/store/migrations.py:75 -/
def openConflict (t : List SliceExecution) (r : SliceExecution) : Bool :=
  decide (r.state ∉ terminalStates) && t.any fun s =>
    decide (s.executionId ≠ r.executionId) && decide (s.state ∉ terminalStates) &&
      s.sourceRoot = r.sourceRoot && s.sliceId = r.sliceId

/-! ## Statements -/

/-- `UPDATE slice_execution SET … WHERE execution_id = ? AND cond`; `lost` is what
the operation raises when no row matched. -/
def updateExecution (executionId : String) (cond : SliceExecution → Bool)
    (set : SliceExecution → SliceExecution) (lost : PyError) : Tx PyError Db Unit := do
  let row ← Tx.find (fun db => (db.execution? executionId).filter cond) lost
  requireChecks (set row)
  let db ← Tx.read id
  Tx.require (openConflict db.sliceExecution (set row) = false)
    (.integrity "UNIQUE constraint failed: slice_execution.source_root, slice_execution.slice_id")
  Tx.write fun db => { db with
    sliceExecution := Table.update (·.executionId) db.sliceExecution executionId set }

/-- `INSERT INTO slice_execution`; both callers translate a conflict with an open
execution into `OPEN_EXECUTION_EXISTS`. -/
def insertExecution (row : SliceExecution) : Tx PyError Db Unit := do
  let db ← Tx.read id
  requireChecks row
  Tx.require (db.execution? row.executionId = none)
    (.integrity "UNIQUE constraint failed: slice_execution.execution_id")
  Tx.require (db.sliceExecution.all (·.createIdempotencyKey ≠ row.createIdempotencyKey))
    (.integrity "UNIQUE constraint failed: slice_execution.create_idempotency_key")
  Tx.require (openConflict db.sliceExecution row = false) (storeError "OPEN_EXECUTION_EXISTS")
  Tx.write fun db => { db with sliceExecution := db.sliceExecution ++ [row] }

/-- mirrors src/adcp/store/migrations.py:129-144 -/
def eventChecks (e : EventFields) : List (String × Bool) :=
  [("operation_key", sqliteLength e.operationKey = 64), ("lease_generation", 0 ≤ e.leaseGeneration),
   ("event_type", if e.eventType = .EXECUTION_CREATED then
      e.fromState = none && e.fromStateVersion = -1 && e.toState = READY && e.toStateVersion = 0
    else e.fromState.isSome && e.toStateVersion = e.fromStateVersion + 1)]

/-- The row an event becomes: no row is ever deleted, so the next
`AUTOINCREMENT` number is one more than there are rows. -/
def EventFields.row (e : EventFields) (db : Db) (eventId : String) : TransitionEvent :=
  { e with eventSeq := db.transitionEvent.length + 1, eventId := eventId }

/-- mirrors src/adcp/store/sqlite.py:2042-2083 -/
def insertEvent (eventId : String) (e : EventFields) : Tx PyError Db Unit := do
  let db ← Tx.read id
  Tx.requireAll (.check "transition_event") (eventChecks e)
  Tx.require (db.transitionEvent.all (·.eventId ≠ eventId))
    (.integrity "UNIQUE constraint failed: transition_event.event_id")
  Tx.require ((db.events e.executionId).all (·.operationKey ≠ e.operationKey))
    (.integrity "UNIQUE constraint failed: transition_event.execution_id, transition_event.operation_key")
  Tx.require ((db.events e.executionId).all (·.toStateVersion ≠ e.toStateVersion))
    (.integrity
      "UNIQUE constraint failed: transition_event.execution_id, transition_event.to_state_version")
  Tx.require ((db.execution? e.executionId).isSome) (.integrity "FOREIGN KEY constraint failed")
  Tx.write fun db => { db with transitionEvent := db.transitionEvent ++ [e.row db eventId] }

/-! ## Used keys -/

/-- mirrors src/adcp/store/sqlite.py:2029-2040 -/
def existingEvent (executionId key : String) (eventType : EventType) (payloadJson : String) :
    Tx PyError Db (Option TransitionEvent) := do
  let event ← Tx.read fun db => (db.events executionId).find? (·.operationKey = key)
  match event with
  | none => pure none
  | some event =>
    Tx.require (event.eventType = eventType ∧ event.metadataJson = payloadJson)
      (storeError "IDEMPOTENCY_CONFLICT")
    pure (some event)

/-- How an operation committed: it found its key used, or it wrote. -/
inductive Commit where
  | replayed
  | fresh
  deriving DecidableEq, Repr

/-- The frame of a keyed operation: commit at once when its key is used, run
`body` otherwise. -/
def replayOr (executionId key : String) (eventType : EventType) (payloadJson : String)
    (body : Tx PyError Db Unit) : Tx PyError Db Commit := do
  let existing ← existingEvent executionId key eventType payloadJson
  match existing with
  | some _ => pure .replayed
  | none => do
    body
    pure .fresh

/-- A read before the transaction: its answer, from the state it read. -/
def before {α : Type} (snap : Db) (x : Tx PyError Db α) : Tx PyError Db α :=
  Tx.lift ((x snap).map Prod.fst)

/-! ## What they do -/

variable {α : Type} {db db' : Db}

theorem execution?_id {id : String} {row : SliceExecution} (h : db.execution? id = some row) :
    row.executionId = id := Table.lookup_key h

theorem getExecution_bind_ok {id : String} {f : SliceExecution → Tx PyError Db α} {r : α × Db} :
    (getExecution id >>= f) db = .ok r ↔ ∃ row, db.execution? id = some row ∧ f row db = .ok r :=
  Tx.find_bind_ok

theorem requireFence_bind_ok {row : SliceExecution} {owner : String} {generation : Int}
    {now : Timestamp} {f : Unit → Tx PyError Db α} {r : α × Db} :
    (requireFence row owner generation now >>= f) db = .ok r ↔
      FenceLive row owner generation now ∧ f () db = .ok r := Tx.require_bind_ok

/-- What the candidate fence finds. -/
def CandidateFenceLive (env : Env) (reading : Nat) (executionId : String)
    (fence : CandidateWriteFence) (db : Db) (row : SliceExecution) : Prop :=
  fence.executionId = executionId ∧ db.execution? executionId = some row ∧
    FenceLive row fence.leaseOwner fence.leaseGeneration (env.clock reading)

/-- What a candidate fence that holds found: a live lease, and the authority and
the contract the execution is bound to. -/
structure CandidateFenceHolds (env : Env) (reading : Nat) (executionId : String)
    (fence : CandidateWriteFence) (db : Db) (row : SliceExecution) : Prop where
  live : CandidateFenceLive env reading executionId fence db row
  generation : db.controlAuthorityState.authorityGeneration = fence.authorityGeneration
  contract : row.contractFingerprint = fence.contractFingerprint
  authority : row.authorityFingerprint = fence.authorityFingerprint

theorem requireCandidateFence_bind_holds {env : Env} {n : Nat} {id : String}
    {fence : CandidateWriteFence} {check : Bool} {f : SliceExecution → Tx PyError Db α} {r : α × Db}
    (h : (requireCandidateFence env n id fence check >>= f) db = .ok r) :
    ∃ row, CandidateFenceHolds env n id fence db row ∧
      (check = true → row.stateVersion = fence.expectedStateVersion) ∧ f row db = .ok r := by
  obtain ⟨row, s, hx, hf⟩ := Tx.bind_ok.mp h
  unfold requireCandidateFence at hx
  obtain ⟨hid, hx⟩ := Tx.require_bind_ok.mp hx
  obtain ⟨row', hrow, hx⟩ := getExecution_bind_ok.mp hx
  obtain ⟨hlive, hx⟩ := requireFence_bind_ok.mp hx
  obtain ⟨hv, hx⟩ := Tx.require_bind_ok.mp hx
  have hx := Tx.read_bind_ok.mp hx
  obtain ⟨hgeneration, hx⟩ := Tx.require_bind_ok.mp hx
  obtain ⟨hbound, hx⟩ := Tx.require_bind_ok.mp hx
  cases Tx.pure_ok.mp hx
  exact ⟨row, ⟨⟨hid, hrow, hlive⟩, hgeneration, hbound.1, hbound.2⟩, hv, hf⟩

theorem requireCandidateFence_bind_ok {env : Env} {n : Nat} {id : String}
    {fence : CandidateWriteFence} {check : Bool} {f : SliceExecution → Tx PyError Db α} {r : α × Db}
    (h : (requireCandidateFence env n id fence check >>= f) db = .ok r) :
    ∃ row, CandidateFenceLive env n id fence db row ∧
      (check = true → row.stateVersion = fence.expectedStateVersion) ∧ f row db = .ok r := by
  obtain ⟨row, hholds, hv, hf⟩ := requireCandidateFence_bind_holds h
  exact ⟨row, hholds.live, hv, hf⟩

theorem requireOptionalFence_bind_ok {env : Env} {n : Nat} {id : String}
    {fence : Option CandidateWriteFence} {check : Bool} {f : Unit → Tx PyError Db α} {r : α × Db}
    (h : (requireOptionalFence env n id fence check >>= f) db = .ok r) : f () db = .ok r := by
  obtain ⟨u, s, hx, hf⟩ := Tx.bind_ok.mp h
  cases fence with
  | none =>
    cases Tx.pure_ok.mp hx
    exact hf
  | some fence =>
    obtain ⟨row, -, -, hx⟩ := requireCandidateFence_bind_ok hx
    cases Tx.pure_ok.mp hx
    exact hf

theorem requireOptionalFence_ok {env : Env} {n : Nat} {id : String} {fence : Option CandidateWriteFence}
    {check : Bool} {r : Unit × Db} (h : requireOptionalFence env n id fence check db = .ok r) :
    r = ((), db) := by
  have h' : (requireOptionalFence env n id fence check >>= pure) db = .ok r :=
    Tx.bind_ok.mpr ⟨r.1, r.2, h, rfl⟩
  exact Tx.pure_ok.mp (requireOptionalFence_bind_ok h')

theorem updateExecution_bind_ok {id : String} {cond : SliceExecution → Bool}
    {set : SliceExecution → SliceExecution} {lost : PyError} {f : Unit → Tx PyError Db α}
    {r : α × Db} (h : (updateExecution id cond set lost >>= f) db = .ok r) :
    ∃ row, db.execution? id = some row ∧ cond row = true ∧
      (∀ p ∈ executionChecks (set row), p.2 = true) ∧
      f () { db with
        sliceExecution := Table.update (·.executionId) db.sliceExecution id set } = .ok r := by
  obtain ⟨u, s, hx, hf⟩ := Tx.bind_ok.mp h
  unfold updateExecution requireChecks at hx
  obtain ⟨row, hrow, hx⟩ := Tx.find_bind_ok.mp hx
  obtain ⟨hchecks, hx⟩ := Tx.requireAll_bind_ok.mp hx
  have hx := Tx.read_bind_ok.mp hx
  obtain ⟨-, hx⟩ := Tx.require_bind_ok.mp hx
  cases Tx.write_ok.mp hx
  obtain ⟨hrow, hc⟩ := Option.filter_eq_some_iff.mp hrow
  exact ⟨row, hrow, hc, hchecks, hf⟩

theorem insertExecution_bind_ok {row : SliceExecution} {f : Unit → Tx PyError Db α} {r : α × Db}
    (h : (insertExecution row >>= f) db = .ok r) :
    db.execution? row.executionId = none ∧ (∀ p ∈ executionChecks row, p.2 = true) ∧
      openConflict db.sliceExecution row = false ∧
      f () { db with sliceExecution := db.sliceExecution ++ [row] } = .ok r := by
  obtain ⟨u, s, hx, hf⟩ := Tx.bind_ok.mp h
  unfold insertExecution requireChecks at hx
  have hx := Tx.read_bind_ok.mp hx
  obtain ⟨hchecks, hx⟩ := Tx.requireAll_bind_ok.mp hx
  obtain ⟨hfree, hx⟩ := Tx.require_bind_ok.mp hx
  obtain ⟨-, hx⟩ := Tx.require_bind_ok.mp hx
  obtain ⟨hopen, hx⟩ := Tx.require_bind_ok.mp hx
  cases Tx.write_ok.mp hx
  exact ⟨hfree, hchecks, hopen, hf⟩

theorem insertEvent_bind_ok {eventId : String} {e : EventFields} {f : Unit → Tx PyError Db α}
    {r : α × Db} (h : (insertEvent eventId e >>= f) db = .ok r) :
    f () { db with transitionEvent := db.transitionEvent ++ [e.row db eventId] } = .ok r := by
  obtain ⟨u, s, hx, hf⟩ := Tx.bind_ok.mp h
  unfold insertEvent at hx
  have hx := Tx.read_bind_ok.mp hx
  obtain ⟨-, hx⟩ := Tx.requireAll_bind_ok.mp hx
  obtain ⟨-, hx⟩ := Tx.require_bind_ok.mp hx
  obtain ⟨-, hx⟩ := Tx.require_bind_ok.mp hx
  obtain ⟨-, hx⟩ := Tx.require_bind_ok.mp hx
  obtain ⟨-, hx⟩ := Tx.require_bind_ok.mp hx
  cases Tx.write_ok.mp hx
  exact hf

theorem existingEvent_bind_ok {id key json : String} {ty : EventType}
    {f : Option TransitionEvent → Tx PyError Db α} {r : α × Db}
    (h : (existingEvent id key ty json >>= f) db = .ok r) :
    ∃ found, (db.events id).find? (·.operationKey = key) = found ∧ f found db = .ok r := by
  obtain ⟨found, s, hx, hf⟩ := Tx.bind_ok.mp h
  unfold existingEvent at hx
  have hx := Tx.read_bind_ok.mp hx
  cases hfind : (db.events id).find? (·.operationKey = key) with
  | none =>
    rw [hfind] at hx
    cases Tx.pure_ok.mp hx
    exact ⟨none, rfl, hf⟩
  | some event =>
    rw [hfind] at hx
    obtain ⟨-, hx⟩ := Tx.require_bind_ok.mp hx
    cases Tx.pure_ok.mp hx
    exact ⟨some event, rfl, hf⟩

/-- A keyed operation replays, changing nothing, or runs its body. -/
theorem replayOr_ok {id key json : String} {ty : EventType} {body : Tx PyError Db Unit} {c : Commit}
    (h : replayOr id key ty json body db = .ok (c, db')) :
    (c = .replayed ∧ db' = db) ∨ (c = .fresh ∧ body db = .ok ((), db')) := by
  unfold replayOr at h
  obtain ⟨found, -, h⟩ := existingEvent_bind_ok h
  cases found with
  | some event =>
    cases Tx.pure_ok.mp h
    exact Or.inl ⟨rfl, rfl⟩
  | none =>
    obtain ⟨⟨⟩, s, hb, h⟩ := Tx.bind_ok.mp h
    cases Tx.pure_ok.mp h
    exact Or.inr ⟨rfl, hb⟩

theorem before_bind_ok {β : Type} {snap : Db} {x : Tx PyError Db α} {f : α → Tx PyError Db β}
    {r : β × Db}
    (h : (before snap x >>= f) db = .ok r) :
    ∃ a snap', x snap = .ok (a, snap') ∧ f a db = .ok r := by
  obtain ⟨a, hx, hf⟩ := Tx.lift_bind_ok.mp h
  cases hs : x snap with
  | error e =>
    rw [hs] at hx
    cases hx
  | ok p =>
    rw [hs] at hx
    cases hx
    exact ⟨p.1, p.2, rfl, hf⟩

end Adcp.L3
