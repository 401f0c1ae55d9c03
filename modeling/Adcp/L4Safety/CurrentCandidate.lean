import Adcp.L1Base.JsonRoundTrip
import Adcp.L4Safety.CandidateRuns

/-!
# The current candidate of an execution

Reworks bind one candidate after another. `find_current_candidate_binding` takes
the one whose binding carries the latest clock reading, with the row number as
tie break, and the closure takes the one it is given. Neither looks at which
candidate was bound last.

* `provenanceOf`, `lastBound`: the bindings of an execution in their order.
* `Call.LosesCurrent`: a binding whose clock is behind that of the current
  candidate, and a closure of a candidate that was not bound last.
* `CurrentCandidates`: without such calls the newest binding is the last one, and
  every closure is of the candidate bound last (a closed execution has a result,
  so nothing is bound after it).
* `current_candidate`: what this means for the states of a run.
-/
namespace Adcp.L4

open Adcp.L1 Adcp.L2 Adcp.L3 ExecutionState

/-- The bindings made for an execution, in order. -/
def provenanceOf (db : Db) (executionId : String) : List CandidateProvenance :=
  db.candidateProvenance.filter (·.executionId = executionId)

/-- The candidate bound last for the execution. -/
def lastBound (db : Db) (executionId : String) : Option String :=
  (provenanceOf db executionId).getLast?.map (·.candidateId)

/-- The candidate of the newest binding of the execution. -/
def newestBound (db : Db) (executionId : String) : Option String :=
  (Table.newest (·.createdAt.micros) (provenanceOf db executionId)).map (·.candidateId)

/-- The call binds a candidate at a clock reading behind that of the current one,
which is another, or closes a candidate that was not bound last. -/
inductive Call.LosesCurrent (env : Env) (db : Db) : Call → Prop
  | bindsBehind {a : BindPrecommitCandidate} {row : SliceExecution} {attempt : AgentAttempt}
      {newest : CandidateProvenance}
      (live : CandidateFenceHolds env 2 a.binding.executionId a.fence db row)
      (version : row.stateVersion = a.fence.expectedStateVersion)
      (making : row.state = MAKER_RUNNING ∧ row.resultCommit = none)
      (maker : db.agentAttempt? a.makerAttemptId = some attempt ∧
        attempt.executionId = a.binding.executionId ∧ attempt.role = .MAKER ∧
        attempt.status = .RUNNING)
      (current : Table.newest (·.createdAt.micros) (provenanceOf db a.binding.executionId) =
        some newest)
      (behind : env.clock 0 < newest.createdAt) (other : newest.candidateId ≠ a.candidateId db) :
      Call.LosesCurrent env db (.bindPrecommitCandidate a)
  | closesSuperseded {a : CloseCandidate} {row : SliceExecution}
      (live : CandidateFenceHolds env 1 a.ids.executionId a.fence db row)
      (version : row.stateVersion = a.fence.expectedStateVersion)
      (waiting : row.state = WAITING_APPROVAL ∧ row.resultCommit = none)
      (prepared : (db.candidateIntent? a.ids.closureId).isSome)
      (superseded : lastBound db a.ids.executionId ≠ some a.ids.candidateId) :
      Call.LosesCurrent env db (.closeCandidate a)

/-- The candidates of the store and what is known of their order. -/
structure CurrentCandidates (db : Db) : Prop where
  owned : ∀ p ∈ db.candidateProvenance, ∃ b, db.candidate? p.candidateId = some b ∧
    b.executionId = p.executionId
  current : ∀ e, newestBound db e = lastBound db e
  closed : ∀ c ∈ db.candidateCommitClosure,
    (∃ row, db.execution? c.executionId = some row ∧ row.resultCommit.isSome) ∧
      lastBound db c.executionId = some c.candidateId

variable {env : Env} {snap db db' : Db} {call : Call} {c : Commit}

/-! ## One step -/

/-- Appended rows hide no candidate. -/
theorem candidate?_grows (h : Grows db db') {id : String} {b : CandidateContentBinding}
    (hb : db.candidate? id = some b) : db'.candidate? id = some b :=
  Table.lookup_prefix h.bindings hb

/-- A call that neither binds nor closes keeps what is known. -/
theorem CurrentCandidates.keep (h : CurrentCandidates db) (hgrows : Grows db db')
    (hprovenance : db'.candidateProvenance = db.candidateProvenance)
    (hclosures : db'.candidateCommitClosure = db.candidateCommitClosure) : CurrentCandidates db' := by
  have hof (e : String) : provenanceOf db' e = provenanceOf db e := by
    unfold provenanceOf
    rw [hprovenance]
  refine ⟨fun p hp => ?_, fun e => ?_, fun closure hc => ?_⟩
  · rw [hprovenance] at hp
    obtain ⟨b, hb, hof⟩ := h.owned p hp
    exact ⟨b, candidate?_grows hgrows hb, hof⟩
  · unfold newestBound lastBound
    rw [hof]
    exact h.current e
  · rw [hclosures] at hc
    obtain ⟨⟨row, hrow, hresult⟩, hlast⟩ := h.closed closure hc
    obtain ⟨row', hrow', -, -, hkept⟩ := hgrows.executions _ row hrow
    refine ⟨⟨row', hrow', hkept hresult⟩, ?_⟩
    unfold lastBound at hlast ⊢
    rw [hof, hlast]

theorem hasCandidate_found {id e content : String} (h : db.hasCandidate id e content = true) :
    ∃ b, db.candidate? id = some b ∧ b.executionId = e ∧ b.candidateContentSha256 = content := by
  unfold Db.hasCandidate at h
  cases hb : db.candidate? id with
  | none =>
    rw [hb] at h
    cases h
  | some b =>
    rw [hb] at h
    simp only [Option.any_some, Bool.and_eq_true, decide_eq_true_eq] at h
    exact ⟨b, rfl, h⟩

/-- The bindings of an execution after one more. -/
theorem provenanceOf_append {rows : List CandidateProvenance} {p : CandidateProvenance}
    (hrows : db'.candidateProvenance = rows ++ [p]) (e : String) :
    provenanceOf db' e =
      rows.filter (·.executionId = e) ++ if p.executionId = e then [p] else [] := by
  unfold provenanceOf
  rw [hrows, List.filter_append]
  by_cases he : p.executionId = e <;> simp [he]

/-- A binding whose clock is not behind makes its candidate the newest. -/
theorem CurrentCandidates.binds {a : BindPrecommitCandidate} {execution : SliceExecution}
    {attempt : AgentAttempt} (h : CurrentCandidates db) (found : a.Binds env db db' execution attempt)
    (hgrows : Grows db db')
    (hcall : ¬ Call.LosesCurrent env db (.bindPrecommitCandidate a)) : CurrentCandidates db' := by
  have hrows : db'.candidateProvenance =
      db.candidateProvenance ++ [a.provenance (a.candidateId db) (env.clock 0)] := by
    rw [found.writes]
  have hof := provenanceOf_append hrows
  refine ⟨fun p hp => ?_, fun e => ?_, fun closure hc => ?_⟩
  · rw [hrows] at hp
    rcases List.mem_append.mp hp with hp | hp
    · obtain ⟨b, hb, hof⟩ := h.owned p hp
      exact ⟨b, candidate?_grows hgrows hb, hof⟩
    · obtain rfl := List.mem_singleton.mp hp
      obtain ⟨b, hb, hbof, -⟩ := hasCandidate_found found.owned
      refine ⟨b, ?_, hbof⟩
      rw [found.writes]
      exact hb
  · unfold newestBound lastBound
    rw [hof]
    by_cases he : a.binding.executionId = e
    · have hp : (a.provenance (a.candidateId db) (env.clock 0)).executionId = e := he
      rw [if_pos hp, Table.newest_append, List.getLast?_append]
      cases hnewest : Table.newest (·.createdAt.micros) (provenanceOf db e) with
      | none =>
        have hnewest : Table.newest (·.createdAt.micros)
            (db.candidateProvenance.filter (·.executionId = e)) = none := hnewest
        rw [hnewest]
        rfl
      | some newest =>
        have hnewest' : Table.newest (·.createdAt.micros)
            (db.candidateProvenance.filter (·.executionId = e)) = some newest := hnewest
        rw [hnewest']
        simp only
        split
        · -- behind the newest: it must name the same candidate
          rename_i hbehind
          by_cases hsame : newest.candidateId = a.candidateId db
          · exact congrArg some hsame
          · subst he
            exact absurd (.bindsBehind found.fence found.version ⟨found.state, found.uncommitted⟩
              ⟨found.found, found.ofExecution, found.role, found.running⟩ hnewest hbehind hsame) hcall
        · rfl
    · have hp : ¬ (a.provenance (a.candidateId db) (env.clock 0)).executionId = e := he
      rw [if_neg hp, List.append_nil]
      exact h.current e
  · have hclosures : db'.candidateCommitClosure = db.candidateCommitClosure := by rw [found.writes]
    rw [hclosures] at hc
    obtain ⟨⟨row, hrow, hresult⟩, hlast⟩ := h.closed closure hc
    obtain ⟨row', hrow', -, -, hkept⟩ := hgrows.executions _ row hrow
    refine ⟨⟨row', hrow', hkept hresult⟩, ?_⟩
    -- the execution bound to has no result, a closed one has
    have hother : ¬ (a.provenance (a.candidateId db) (env.clock 0)).executionId =
        closure.executionId := by
      intro he
      have he : a.binding.executionId = closure.executionId := he
      have hbound := found.fence.live.2.1
      rw [he, hrow] at hbound
      cases hbound
      rw [found.uncommitted] at hresult
      cases hresult
    unfold lastBound
    rw [hof, if_neg hother, List.append_nil]
    exact hlast

/-- A closure of the candidate bound last. -/
theorem CurrentCandidates.closes {a : CloseCandidate} {execution : SliceExecution}
    {binding : CandidateContentBinding} {approval : ApprovalRequest}
    {linked : ApprovalCandidateBinding} {evaluation : CandidateEvaluationResult} {commit : String}
    {event : TransitionEvent} (h : CurrentCandidates db)
    (found : a.Closes env db db' execution binding approval linked evaluation commit event)
    (hgrows : Grows db db') (hcall : ¬ Call.LosesCurrent env db (.closeCandidate a)) :
    CurrentCandidates db' := by
  have hprovenance : db'.candidateProvenance = db.candidateProvenance := by
    rw [found.writes]
    rfl
  have hkept : CurrentCandidates { db' with candidateCommitClosure := db.candidateCommitClosure } :=
    h.keep ⟨hgrows.bindings, hgrows.provenance, hgrows.verifications, hgrows.attempts,
      hgrows.evaluations, hgrows.seals, hgrows.links, hgrows.intents, List.prefix_refl _,
      hgrows.executions, hgrows.approvals⟩ hprovenance rfl
  refine ⟨hkept.owned, hkept.current, fun closure hc => ?_⟩
  have hclosures : db'.candidateCommitClosure =
      db.candidateCommitClosure ++ [a.closure binding commit (env.clock 4)] := by
    rw [found.writes]
  rw [hclosures] at hc
  rcases List.mem_append.mp hc with hc | hc
  · exact hkept.closed closure hc
  obtain rfl := List.mem_singleton.mp hc
  constructor
  · have hnew := db.bump_execution? (a.bump commit env) event a.ids.executionId
    have hid : (a.bump commit env).executionId = a.ids.executionId := rfl
    rw [hid, if_pos rfl, found.live.live.2.1] at hnew
    refine ⟨(a.bump commit env).set execution, ?_, rfl⟩
    rw [found.writes]
    exact hnew
  · have hlast : lastBound db' a.ids.executionId = lastBound db a.ids.executionId := by
      unfold lastBound provenanceOf
      rw [hprovenance]
    by_cases hcurrent : lastBound db a.ids.executionId = some a.ids.candidateId
    · exact hlast.trans hcurrent
    · obtain ⟨intent, plan, hintent, -⟩ := found.intended
      exact absurd (.closesSuperseded found.live found.authorized.version
        (found.authorized.waiting rfl) (Option.isSome_iff_exists.mpr ⟨intent, hintent⟩)
        hcurrent) hcall

theorem Call.currentCandidates (hcall : ¬ call.LosesCurrent env db)
    (hx : call.tx env snap db = .ok (c, db')) (h : CurrentCandidates db) : CurrentCandidates db' := by
  have hgrows := Call.grows hx
  cases Call.candidateStep hx with
  | keep htables =>
    obtain ⟨-, hprovenance, -, -, -, -, -, -, hclosures⟩ := candidateTables_eq htables
    exact h.keep hgrows hprovenance hclosures
  | binds from_call found =>
    subst from_call
    exact h.binds found hgrows hcall
  | closes from_call found =>
    subst from_call
    exact h.closes found hgrows hcall
  | verifies _ found | begins _ found | evaluates _ found | seals _ found | links _ found
  | prepares _ found =>
    exact h.keep hgrows (by rw [found.writes]) (by rw [found.writes])

/-! ## Runs -/

/-- **The current candidate is the one bound last, and no other is closed.** In
every state of a run without a binding behind the current candidate's clock and
without a closure of a superseded candidate: `find_current_candidate_binding`
answers the candidate bound last for the execution, and every closure is of the
candidate bound last. -/
theorem current_candidate {past : List Db}
    (h : Run (fun env call db => ¬ call.LosesCurrent env db) past db) :
    (∀ e, (findCurrentCandidateBinding db e).map (·.candidateId) = lastBound db e) ∧
      ∀ c ∈ db.candidateCommitClosure, lastBound db c.executionId = some c.candidateId := by
  have hcandidates := (h.invariant (P := CurrentCandidates)
    ⟨fun p hp => (List.not_mem_nil hp).elim, fun e => rfl, fun c hc => (List.not_mem_nil hc).elim⟩
    fun env snap call db db' c hok _ hdb hx => Call.currentCandidates hok hx hdb).1
  refine ⟨fun e => ?_, fun c hc => (hcandidates.closed c hc).2⟩
  -- the join keeps the bindings of the execution
  have hjoin : (db.candidateProvenance.filter fun p =>
      (db.candidate? p.candidateId).any (·.executionId = e)) = provenanceOf db e := by
    refine List.filter_congr fun p hp => ?_
    obtain ⟨b, hb, hof⟩ := hcandidates.owned p hp
    rw [hb, Option.any_some, hof]
  rw [← hcandidates.current e]
  unfold findCurrentCandidateBinding newestBound
  rw [hjoin]
  cases hnewest : Table.newest (·.createdAt.micros) (provenanceOf db e) with
  | none => rfl
  | some p =>
    have hp : p ∈ db.candidateProvenance := (List.mem_filter.mp (Table.newest_mem hnewest)).1
    obtain ⟨b, hb, -⟩ := hcandidates.owned p hp
    have hid : b.candidateId = p.candidateId := Table.lookup_key hb
    rw [Option.bind_some, hb, Option.map_some, Option.map_some, hid]

/-! ## A second candidate bound behind the first -/

abbrev sampleSecond : AgentAttempt := (sampleMaker 2 'e' '4').row

abbrev sampleTwoMakers : Db := { sampleInContext with agentAttempt := [sampleFirst, sampleSecond] }

theorem sampleTwoMakers_step :
    Tx.run (Call.tx (sampleEnv "") sampleOneMaker (.registerAgentAttempt (sampleMaker 2 'e' '4')))
      sampleOneMaker = .ok (.fresh, sampleTwoMakers) := by
  simp -dsimp [Call.tx, done, registerAgentAttemptTx, requireSha256, requireCommit, isLowerHex,
    sampleKey_ne_empty, requireOptionalFence, insertAgentAttempt, attemptChecks, orUnspecified,
    RegisterAgentAttempt.row, Db.agentAttempt?, Db.contextSnapshot?, Table.lookup, Db.execution?,
    Db.init, commitLength, ExecutionCreate.row, run_begin]

/-- The manifest of the sample candidate of this number. -/
def sampleManifest (n : Int) : Json := .obj [("candidate", .int n)]

def sampleManifestSha256 (n : Int) : String :=
  Sha256.hexdigest (Sha256.utf8 (sampleManifest n).render)

abbrev sampleFence (version : Int) : CandidateWriteFence where
  executionId := "execution"
  expectedStateVersion := version
  leaseOwner := "owner"
  leaseGeneration := 1
  authorityGeneration := 0
  contractFingerprint := sampleKey 'c'
  authorityFingerprint := sampleKey 'a'

abbrev sampleBinding (n : Int) (id : String) : PrecommitBinding where
  candidateId := id
  executionId := "execution"
  serializationFormat := "ADCP_INTEGRATED_CANDIDATE_V1"
  serializationVersion := 1
  repositoryIdentity := "/source"
  expectedParent := sampleKey 'b'
  manifestJson := String.ofList (sampleManifest n).render
  manifestSha256 := sampleManifestSha256 n
  candidateContentSha256 := sampleKey 'f'

/-- The binding of the sample candidate of this number by a Maker attempt. -/
abbrev sampleBind (n : Int) (id : String) (maker : Char) : BindPrecommitCandidate where
  binding := sampleBinding n id
  makerAttemptId := sampleKey maker
  canonicalSourceRoot := "/source"
  worktreeIdentity := "/worktree"
  branch := "main"
  contractFingerprint := sampleKey 'c'
  authorityFingerprint := sampleKey 'a'
  authorityGeneration := 0
  fence := sampleFence 2

/-- Ten seconds after `Timestamp.epoch`. -/
abbrev sampleLater : Timestamp := ⟨62135596810000000, by decide⟩

abbrev sampleCandidateRow (n : Int) (id : String) (now : Timestamp) : CandidateContentBinding where
  candidateId := id
  executionId := "execution"
  serializationFormat := "ADCP_INTEGRATED_CANDIDATE_V1"
  serializationVersion := 1
  repositoryIdentity := "/source"
  expectedParent := sampleKey 'b'
  manifestJson := String.ofList (sampleManifest n).render
  manifestSha256 := sampleManifestSha256 n
  candidateContentSha256 := sampleKey 'f'
  createdAt := now

abbrev finished (t : AgentAttempt) (now : Timestamp) : AgentAttempt :=
  { t with status := .SUCCEEDED, exitCode := some 0, endedAt := some now.text }

abbrev sampleBoundFirst : Db :=
  { sampleTwoMakers with
    agentAttempt := [finished sampleFirst sampleLater, sampleSecond]
    candidateContentBinding := [sampleCandidateRow 1 "first" sampleLater]
    candidateProvenance := [(sampleBind 1 "first" 'd').provenance "first" sampleLater] }

@[simp]
theorem sampleManifest_loads (n : Int) :
    jsonLoads (String.ofList (sampleManifest n).render) = .ok (sampleManifest n) := by
  unfold jsonLoads
  have hloads : Json.loads (sampleManifest n).render = some (sampleManifest n) :=
    Json.loads_render rfl ⟨by simp, trivial, trivial⟩
  rw [String.toList_ofList, hloads]

@[simp]
theorem sampleManifest_sha256 (n : Int) :
    canonicalSha256 (sampleManifest n) = .ok (sampleManifestSha256 n) := rfl

@[simp]
theorem isSha256_sampleManifest (n : Int) : isSha256 (sampleManifestSha256 n) = true :=
  isSha256_hexdigest _

@[simp]
theorem sampleManifest_length : 2 < sqliteLength (String.ofList (sampleManifest 1).render) ∧
    2 < sqliteLength (String.ofList (sampleManifest 2).render) := by decide +kernel

abbrev sampleClock (now : Timestamp) : Env := { sampleEnv "" with clock := fun _ => now }

@[simp]
theorem sqliteLength_first : sqliteLength "first" = 5 := by simp [sqliteLength]

@[simp]
theorem sqliteLength_second : sqliteLength "second" = 6 := by simp [sqliteLength]

theorem sampleBoundFirst_step :
    Tx.run (Call.tx (sampleClock sampleLater) sampleTwoMakers
      (.bindPrecommitCandidate (sampleBind 1 "first" 'd'))) sampleTwoMakers =
        .ok (.fresh, sampleBoundFirst) := by
  simp -dsimp [Call.tx, done, bindPrecommitCandidateTx, requireSha256, isLowerHex,
    requireCandidateFence, getAgentAttempt, Db.agentAttempt?, getExecution, requireFence, FenceLive,
    Timestamp.lt_def, Timestamp.epoch, BindPrecommitCandidate.candidate, sampleManifest_length.1,
    getControlAuthorityState, Db.hasCandidate, Db.candidate?, BindPrecommitCandidate.provenance,
    RegisterAgentAttempt.row, Table.lookup, Table.update, Db.execution?, Db.init, commitLength,
    ExecutionCreate.row, run_begin]

abbrev sampleBoundSecond : Db :=
  { sampleBoundFirst with
    agentAttempt := [finished sampleFirst sampleLater, finished sampleSecond .epoch]
    candidateContentBinding :=
      [sampleCandidateRow 1 "first" sampleLater, sampleCandidateRow 2 "second" .epoch]
    candidateProvenance := [(sampleBind 1 "first" 'd').provenance "first" sampleLater,
      (sampleBind 2 "second" 'e').provenance "second" .epoch] }

theorem sampleManifest_distinct : sampleManifestSha256 1 ≠ sampleManifestSha256 2 := by
  decide +kernel

theorem sampleBoundSecond_step :
    Tx.run (Call.tx (sampleEnv "") sampleBoundFirst
      (.bindPrecommitCandidate (sampleBind 2 "second" 'e'))) sampleBoundFirst =
        .ok (.fresh, sampleBoundSecond) := by
  simp -dsimp [Call.tx, done, bindPrecommitCandidateTx, requireSha256, isLowerHex,
    requireCandidateFence, getAgentAttempt, Db.agentAttempt?, getExecution, requireFence, FenceLive,
    Timestamp.lt_def, Timestamp.epoch, BindPrecommitCandidate.candidate, sampleManifest_length.2,
    getControlAuthorityState, Db.hasCandidate, Db.candidate?, BindPrecommitCandidate.provenance,
    RegisterAgentAttempt.row, sampleManifest_distinct, Table.lookup, Table.update, Db.execution?,
    Db.init, commitLength, ExecutionCreate.row, run_begin]

theorem sampleTwoMakers_reachable : Reachable sampleTwoMakers :=
  Reachable.call _ _ _ (Reachable.call _ _ _ (Reachable.call _ _ _ (Reachable.call _ _ _
    sampleLeased_reachable sampleMaking_step) sampleInContext_step) sampleOneMaker_step)
    sampleTwoMakers_step

/-- A second candidate is bound while the caller's clock reads earlier, and the
first one stays the current one. -/
theorem current_candidate_behind :
    ¬ ∀ (db : Db), Reachable db →
      (∀ e, (findCurrentCandidateBinding db e).map (·.candidateId) = lastBound db e) ∧
        ∀ c ∈ db.candidateCommitClosure, lastBound db c.executionId = some c.candidateId := by
  intro h
  have hfirst : Reachable sampleBoundFirst :=
    Reachable.call _ _ _ sampleTwoMakers_reachable sampleBoundFirst_step
  have hsecond : Reachable sampleBoundSecond := Reachable.call _ _ _ hfirst sampleBoundSecond_step
  have hcurrent := (h sampleBoundSecond hsecond).1 "execution"
  revert hcurrent
  decide

theorem not_losesCurrent (env : Env) {call : Call} (h : db.candidateProvenance = [])
    (hclose : match call with
      | .closeCandidate _ => False
      | _ => True) : ¬ call.LosesCurrent env db := by
  intro hcall
  cases hcall with
  | bindsBehind live version making maker current =>
    unfold provenanceOf at current
    rw [h] at current
    cases current
  | closesSuperseded => exact hclose

/-- The first candidate, as it was bound. -/
theorem current_candidate_first :
    (∀ e, (findCurrentCandidateBinding sampleBoundFirst e).map (·.candidateId) =
      lastBound sampleBoundFirst e) ∧
    ∀ c ∈ sampleBoundFirst.candidateCommitClosure,
      lastBound sampleBoundFirst c.executionId = some c.candidateId := by
  have hcreated : Run (fun env call db => ¬ call.LosesCurrent env db) _ sampleCreated :=
    Run.extend _ _ _ .start (not_losesCurrent _ rfl trivial) sampleCreated_step
  have hleased := Run.extend _ _ _ hcreated (not_losesCurrent _ rfl trivial) sampleLeased_step
  have hmaking := Run.extend _ _ _ hleased (not_losesCurrent _ rfl trivial) sampleMaking_step
  have hcontext := Run.extend _ _ _ hmaking (not_losesCurrent _ rfl trivial) sampleInContext_step
  have hone := Run.extend _ _ _ hcontext (not_losesCurrent _ rfl trivial) sampleOneMaker_step
  have htwo := Run.extend _ _ _ hone (not_losesCurrent _ rfl trivial) sampleTwoMakers_step
  have hbound := Run.extend _ _ _ htwo (not_losesCurrent _ rfl trivial) sampleBoundFirst_step
  exact current_candidate hbound

end Adcp.L4
