import Adcp.L4Safety.EventLog

/-!
# The edges an execution moves along

`transition` asks the transition table; the other operations write their target
themselves, and the closing of a candidate goes from `WAITING_APPROVAL` to
`VERIFYING`, which is no edge of the table. The columns that go with a state are
written beside it.

* `Lawful`: the ways an event may move an execution, read from the events
  before it.
* `Companions`: resume state, blocker and acceptance time say which state a row
  is in.
* `state_edges`: in every reachable state every event is lawful and every row
  has the companions of its state.
-/
namespace Adcp.L4

open Adcp.L1 Adcp.L2 Adcp.L3 ExecutionState

/-- The event closes a candidate. -/
def Closes (e : TransitionEvent) : Prop :=
  e.fromState = some WAITING_APPROVAL ∧ e.toState = VERIFYING

/-- The event is a transition into `BLOCKED` whose payload stores `resume`. -/
def BlocksWith (resume : ExecutionState) (e : TransitionEvent) : Prop :=
  e.fromState ≠ some BLOCKED ∧ e.toState = BLOCKED ∧
    ∃ a : Transition, a.resumeState = some resume ∧ canonicalJson a.payload = .ok e.metadataJson

/-- `resume` was stored when the execution was blocked, and it has not left
`BLOCKED` since. -/
def StoredAtBlock (resume : ExecutionState) (log : List TransitionEvent) : Prop :=
  Since (fun e => e.toState ≠ BLOCKED) (BlocksWith resume) log

/-- How the event `e` may move an execution in `source` after the events `log`. -/
inductive Lawful (log : List TransitionEvent) (source : ExecutionState) (e : TransitionEvent) : Prop
  | stays (h : e.toState = source)
  | edge (h : e.toState ∈ transitions source)
  | cancelled (h : source = BLOCKED) (target : e.toState = CANCELLED)
  | resumed (h : source = BLOCKED) (target : e.toState ∈ blockedResumeStates)
      (stored : StoredAtBlock e.toState log)
  | closed (h : source = WAITING_APPROVAL) (target : e.toState = VERIFYING)
      (first : ∀ f ∈ log, ¬ Closes f)

/-- The columns that go with the state of a row. -/
structure Companions (r : SliceExecution) : Prop where
  resume : ResumeFits r.state r.resumeState
  blocker : nonEmptyText r.blockerCode = true ↔ r.state = BLOCKED ∨ r.state = DESIGN_ESCALATION
  unblocked : ¬ (r.state = BLOCKED ∨ r.state = DESIGN_ESCALATION) →
    r.blockerCode = none ∧ r.blockerDetail = none
  accepted : r.acceptedAt.isSome = true ↔ r.state = ACCEPTED

/-- The row and its events: a lawful log, the companions of the state, the stored
resume state and whether a candidate was closed. -/
structure Charted (r : SliceExecution) (log : List TransitionEvent) : Prop where
  lawful : Each (fun before e => ∀ s, e.fromState = some s → Lawful before s e) log
  companions : Companions r
  blocked : r.state = BLOCKED → ∀ s, r.resumeState = some s → StoredAtBlock s log
  unclosed : r.resultCommit = none → ∀ e ∈ log, ¬ Closes e

/-! ## One step -/

/-- What the `CHECK`s say of a row outside the states that store a companion. -/
theorem Companions.of_checks {r : SliceExecution} (h : ∀ p ∈ executionChecks r, p.2 = true)
    (hstate : r.state ∉ [WAITING_APPROVAL, BLOCKED, DESIGN_ESCALATION]) : Companions r := by
  have hresume : resumeCheck r = true := h ("resume_state", resumeCheck r) (by simp [executionChecks, companionChecks])
  have haccepted : acceptedCheck r = true := h ("accepted_at", acceptedCheck r) (by simp [executionChecks, companionChecks])
  have hblocker : blockerCheck r = true := h ("blocker_code", blockerCheck r) (by simp [executionChecks, companionChecks])
  simp only [List.mem_cons, List.not_mem_nil, or_false, not_or] at hstate
  obtain ⟨hwaiting, hblocked, hdesign⟩ := hstate
  have hplain : ¬ (r.state = BLOCKED ∨ r.state = DESIGN_ESCALATION) := by simp [hblocked, hdesign]
  simp only [blockerCheck, if_neg hplain, Bool.and_eq_true, Option.isNone_iff_eq_none] at hblocker
  constructor
  · unfold resumeCheck at hresume
    unfold ResumeFits
    cases hs : r.state <;> simp_all
  · simp [hplain, hblocker.1, nonEmptyText]
  · intro _
    exact hblocker
  · simp only [acceptedCheck, decide_eq_true_eq] at haccepted
    rw [haccepted]

theorem Companions.transition {r : SliceExecution} {a : Transition} {now : Timestamp}
    (hresume : ResumeFits a.toState a.resumeState)
    (hblocker : BlockerFits a.toState a.blockerCode a.blockerDetail) : Companions (a.set now r) := by
  unfold BlockerFits at hblocker
  constructor
  · exact hresume
  · show nonEmptyText a.blockerCode = true ↔ a.toState = BLOCKED ∨ a.toState = DESIGN_ESCALATION
    split at hblocker
    · rename_i hstops
      exact iff_of_true hblocker hstops
    · rename_i hgoes
      apply iff_of_false _ hgoes
      simp [hblocker.1, nonEmptyText]
  · intro hgoes
    have hgoes : ¬ (a.toState = BLOCKED ∨ a.toState = DESIGN_ESCALATION) := hgoes
    rw [if_neg hgoes] at hblocker
    exact hblocker
  · show (if a.toState = ACCEPTED then some now else none : Option Timestamp).isSome = true ↔
      a.toState = ACCEPTED
    split <;> simp [*]

theorem Companions.bump {b : Bump} {r : SliceExecution} {event : TransitionEvent} (h : Companions r)
    (on : b.On r event) : Companions (b.set r) := by
  have hguard := on.guard
  have hchecks := on.checks
  obtain ⟨_, k, _, _⟩ := b
  cases k with
  | leaseAcquired | leaseReleased | resultRegistered | resultFinalized =>
    exact ⟨h.resume, h.blocker, h.unblocked, h.accepted⟩
  | transition a => exact .transition hguard.2.1 hguard.2.2
  | closed | highResumed | highReadied | humanReworked | autoReworked | accepted | released =>
    apply Companions.of_checks hchecks
    simp [Bump.set, BumpKind.set, CloseCandidate.set, AcceptExecution.accepted]

/-- Every bump moves its execution lawfully. -/
theorem Charted.moves {b : Bump} {r : SliceExecution} {event : TransitionEvent}
    {log : List TransitionEvent} (h : Charted r log) (on : b.On r event) :
    Lawful log r.state event := by
  have hguard := on.guard
  have htarget := on.logs.target
  obtain ⟨_, k, _, _⟩ := b
  cases k with
  | leaseAcquired | leaseReleased | resultRegistered | resultFinalized => exact .stays htarget
  | transition a =>
    have htarget : event.toState = a.toState := htarget
    obtain ⟨hedge, -, -⟩ := hguard
    unfold Edge at hedge
    split at hedge
    · rename_i hblocked
      rcases hedge with hresume | hcancel
      · -- the resume state fits, so it is one of the four
        obtain ⟨s, hs, hsome⟩ : ResumeFits BLOCKED r.resumeState := hblocked ▸ h.companions.resume
        obtain rfl : s = a.toState := Option.some.inj (hsome.symm.trans hresume)
        rw [← htarget] at hs hresume
        exact .resumed hblocked hs (h.blocked hblocked _ hresume)
      · exact .cancelled hblocked (htarget.trans hcancel)
    · exact .edge (htarget ▸ hedge)
  | closed commit => exact .closed hguard.1 htarget (h.unclosed hguard.2)
  | highResumed =>
    obtain ⟨-, -, -, hblocked, hresume, -⟩ := hguard
    have htarget : event.toState = VERIFYING := htarget
    apply Lawful.resumed hblocked
    · rw [htarget]
      decide
    · rw [htarget]
      exact h.blocked hblocked _ hresume
  | highReadied | humanReworked | accepted =>
    apply Lawful.edge
    rw [show r.state = _ from hguard, htarget]
    simp [transitions, Bump.set, BumpKind.set, AcceptExecution.accepted]
  | autoReworked | released =>
    apply Lawful.edge
    rw [hguard.1, htarget]
    simp [transitions, Bump.set, BumpKind.set]

/-- An execution whose result is still open was not closed by the bump. -/
theorem Charted.opened {b : Bump} {r : SliceExecution} {event : TransitionEvent} (on : b.On r event)
    (hresult : (b.set r).resultCommit = none) : r.resultCommit = none ∧ ¬ Closes event := by
  have hguard := on.guard
  have hsource := on.logs.source
  have htarget := on.logs.target
  have differs {s : ExecutionState} (hstate : r.state = s) (hs : s ≠ WAITING_APPROVAL) :
      ¬ Closes event := by
    intro hclose
    have hwaiting := hsource.symm.trans hclose.1
    rw [hstate] at hwaiting
    exact hs (Option.some.inj hwaiting)
  have stays (hstate : event.toState = r.state) : ¬ Closes event := by
    intro hclose
    have hwaiting : r.state = WAITING_APPROVAL := Option.some.inj (hsource.symm.trans hclose.1)
    have hverifying : r.state = VERIFYING := hstate.symm.trans hclose.2
    cases hwaiting.symm.trans hverifying
  obtain ⟨_, k, _, _⟩ := b
  cases k with
  | leaseAcquired | leaseReleased => exact ⟨hresult, stays htarget⟩
  | resultRegistered | resultFinalized | closed => cases hresult
  | transition a =>
    refine ⟨hresult, fun hclose => ?_⟩
    -- no edge leads from WAITING_APPROVAL to VERIFYING
    have hedge := hguard.1
    have hwaiting : r.state = WAITING_APPROVAL := Option.some.inj (hsource.symm.trans hclose.1)
    have hverifying : a.toState = VERIFYING := htarget.symm.trans hclose.2
    rw [hwaiting, hverifying] at hedge
    simp [Edge, transitions] at hedge
  | highResumed => exact ⟨hresult, differs hguard.2.2.2.1 (by decide)⟩
  | highReadied | humanReworked | accepted => exact ⟨hresult, differs hguard (by decide)⟩
  | autoReworked | released => exact ⟨hresult, differs hguard.1 (by decide)⟩

/-- What is stored when the bump leaves the execution blocked. -/
theorem Charted.stored {b : Bump} {r : SliceExecution} {event : TransitionEvent}
    {log : List TransitionEvent} (h : Charted r log) (on : b.On r event)
    (hblocked : (b.set r).state = BLOCKED) {s : ExecutionState}
    (hs : (b.set r).resumeState = some s) : StoredAtBlock s (log ++ [event]) := by
  have hguard := on.guard
  have hsource := on.logs.source
  have htarget := on.logs.target
  have hmetadata := on.logs.metadata
  rw [hblocked] at htarget
  obtain ⟨_, k, _, _⟩ := b
  cases k with
  | leaseAcquired | leaseReleased | resultRegistered | resultFinalized =>
    exact Since.append (h.blocked hblocked s hs) fun hleaves => hleaves htarget
  | transition a =>
    apply Since.here
    refine ⟨fun hf => ?_, htarget, a, hs, hmetadata a rfl⟩
    -- no transition leads from BLOCKED to BLOCKED
    have hedge := hguard.1
    have hfits := h.companions.resume
    have hstate : r.state = BLOCKED := Option.some.inj (hsource.symm.trans hf)
    rw [hstate] at hedge hfits
    obtain ⟨s', hs', hsome⟩ := hfits
    have hto : a.toState = BLOCKED := hblocked
    rw [hto, hsome] at hedge
    rcases hedge with hself | hself
    · obtain rfl : s' = BLOCKED := Option.some.inj hself
      simp [blockedResumeStates] at hs'
    · cases hself
  | _ => cases hblocked

theorem Charted.bump {b : Bump} {r : SliceExecution} {event : TransitionEvent}
    {log : List TransitionEvent} (h : Charted r log) (on : b.On r event) :
    Charted (b.set r) (log ++ [event]) := by
  constructor
  · refine Each.append h.lawful fun s hs => ?_
    obtain rfl : r.state = s := Option.some.inj (on.logs.source.symm.trans hs)
    exact h.moves on
  · exact h.companions.bump on
  · intro hblocked s hs
    exact h.stored on hblocked hs
  · intro hresult e he
    obtain ⟨hopen, hnot⟩ := Charted.opened on hresult
    rcases List.mem_append.mp he with he | he
    · exact h.unclosed hopen e he
    · rw [List.mem_singleton.mp he]
      exact hnot

/-- A new execution is READY, with no companion. -/
theorem Charted.create {spec : ExecutionCreate} {key : String} {new : SliceExecution}
    {event : TransitionEvent} {db : Db} (h : Creates spec key db new event) :
    Charted new [event] := by
  obtain ⟨sourceRoot, now, hrow⟩ := h.shape
  have hready : new.state = READY := by
    rw [hrow]
    rfl
  constructor
  · rw [← List.nil_append [event]]
    refine Each.append Each.nil fun s hs => ?_
    cases h.source.symm.trans hs
  · apply Companions.of_checks h.checks
    rw [hready]
    decide
  · intro hblocked
    cases hready.symm.trans hblocked
  · intro _ e he hclose
    rw [List.mem_singleton.mp he] at hclose
    cases h.source.symm.trans hclose.1

/-! ## Runs -/

/-- The row of an execution, if there is one, and its events are charted. -/
def ChartedAt : Option SliceExecution → List TransitionEvent → Prop
  | none, log => log = []
  | some row, log => Charted row log

theorem Reachable.charted {db : Db} (h : Reachable db) (id : String) :
    ChartedAt (db.execution? id) (db.events id) := by
  apply h.execution rfl
  intro env call start
  constructor
  · intro spec key db new event log hcreates _ hlog
    obtain rfl : log = [] := hlog
    exact Charted.create hcreates
  · intro r log owner generation now expires _ hdb
    have hrow := hdb.companions
    exact ⟨hdb.lawful, ⟨hrow.resume, hrow.blocker, hrow.unblocked, hrow.accepted⟩, hdb.blocked,
      hdb.unclosed⟩
  · intro b db r event log _ _ _ on hdb
    exact hdb.bump on

/-- **Executions move along the state machine.** In every reachable state, whatever
calls led there: every event of an execution stays in its state, is an edge of the
transition table, leaves `BLOCKED` for the state stored when it was blocked or for
`CANCELLED`, or closes the execution's candidate, which no earlier event did; and
in every row resume state, blocker and acceptance time are those of its state. -/
theorem state_edges {db : Db} (h : Reachable db) :
    (∀ id, Each (fun before e => ∀ s, e.fromState = some s → Lawful before s e) (db.events id)) ∧
      ∀ row ∈ db.sliceExecution, Companions row := by
  constructor
  · intro id
    have hcharted := h.charted id
    cases hrow : db.execution? id with
    | none =>
      rw [hrow] at hcharted
      rw [show db.events id = [] from hcharted]
      exact Each.nil
    | some row =>
      rw [hrow] at hcharted
      exact hcharted.lawful
  · intro row hmem
    have hcharted := h.charted row.executionId
    rw [h.mem_execution hmem] at hcharted
    exact hcharted.companions

/-- The sample execution, leased in READY. -/
theorem state_edges_leased : Lawful [sampleCreation] READY sampleLeasing ∧ Companions sampleLeasedRow := by
  obtain ⟨hlawful, hrows⟩ := state_edges sampleLeased_reachable
  constructor
  · exact hlawful "execution" [sampleCreation] sampleLeasing [] rfl READY rfl
  · exact hrows sampleLeasedRow (List.mem_singleton.mpr rfl)

end Adcp.L4
