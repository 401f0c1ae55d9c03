import Adcp.L3Store.Candidates

/-!
# What the operations on a candidate do

One structure for each operation of the candidate path: what it found when it
committed, and the database it left. Each appends one row to the table of its
own step; binding also completes the Maker attempt, and an evaluation its
Evaluator attempt.

* `BindPrecommitCandidate.Binds` … `PrepareCandidateCommit.Prepares`: the
  structures, filled in by `bindPrecommitCandidateTx_ok` …
  `prepareCandidateCommitTx_ok`.
* `ClosureIds.Authorized`: what `_candidate_closure_authority` found.
* `CandidateSealsMatch`: both seals of an attempt agree with the files, and the
  sealed result is the one presented.
-/
namespace Adcp.L3

open Adcp.L1 Adcp.L2 ExecutionState

variable {α : Type} {env : Env} {db db' snap : Db}

/-! ## Binding -/

namespace BindPrecommitCandidate

/-- The stored candidate of this execution with this manifest. -/
def existing (a : BindPrecommitCandidate) (db : Db) : Option CandidateContentBinding :=
  db.candidateContentBinding.find? fun c =>
    c.executionId = a.binding.executionId ∧ c.manifestSha256 = a.binding.manifestSha256

/-- The candidate that is bound: the stored one, or the caller's. -/
def candidateId (a : BindPrecommitCandidate) (db : Db) : String :=
  match a.existing db with
  | some c => c.candidateId
  | none => a.binding.candidateId

def row (a : BindPrecommitCandidate) (now : Timestamp) : CandidateContentBinding where
  candidateId := a.binding.candidateId
  executionId := a.binding.executionId
  serializationFormat := a.binding.serializationFormat
  serializationVersion := a.binding.serializationVersion
  repositoryIdentity := a.binding.repositoryIdentity
  expectedParent := a.binding.expectedParent
  manifestJson := a.binding.manifestJson
  manifestSha256 := a.binding.manifestSha256
  candidateContentSha256 := a.binding.candidateContentSha256
  createdAt := now

def bindings (a : BindPrecommitCandidate) (db : Db) (now : Timestamp) : List CandidateContentBinding :=
  match a.existing db with
  | some _ => db.candidateContentBinding
  | none => db.candidateContentBinding ++ [a.row now]

def provenance (a : BindPrecommitCandidate) (candidateId : String) (now : Timestamp) :
    CandidateProvenance where
  provenanceId := "provenance-" ++ a.makerAttemptId
  candidateId := candidateId
  executionId := a.binding.executionId
  makerAttemptId := a.makerAttemptId
  canonicalSourceRoot := a.canonicalSourceRoot
  worktreeIdentity := a.worktreeIdentity
  branch := a.branch
  contractFingerprint := a.contractFingerprint
  authorityFingerprint := a.authorityFingerprint
  authorityGeneration := a.authorityGeneration
  candidateContentSha256 := a.binding.candidateContentSha256
  createdAt := now

/-- What a binding found, and the database it left. -/
structure Binds (a : BindPrecommitCandidate) (env : Env) (db db' : Db) (execution : SliceExecution)
    (attempt : AgentAttempt) : Prop where
  fence : CandidateFenceHolds env 2 a.binding.executionId a.fence db execution
  version : execution.stateVersion = a.fence.expectedStateVersion
  state : execution.state = MAKER_RUNNING
  uncommitted : execution.resultCommit = none
  found : db.agentAttempt? a.makerAttemptId = some attempt
  ofExecution : attempt.executionId = a.binding.executionId
  role : attempt.role = .MAKER
  running : attempt.status = .RUNNING
  free : a.existing db = none → db.candidate? a.binding.candidateId = none
  owned : ({ db with candidateContentBinding := a.bindings db (env.clock 0) } : Db).hasCandidate
    (a.candidateId db) a.binding.executionId a.binding.candidateContentSha256 = true
  writes : db' = { db with
    candidateContentBinding := a.bindings db (env.clock 0)
    candidateProvenance := db.candidateProvenance ++
      [a.provenance (a.candidateId db) (env.clock 0)]
    agentAttempt := Table.update (·.attemptId) db.agentAttempt a.makerAttemptId (fun t =>
      { t with status := .SUCCEEDED, exitCode := some 0, endedAt := some (env.clock 0).text }) }

end BindPrecommitCandidate

/-- Finding a candidate, or appending it. -/
theorem candidate_bind_ok {a : BindPrecommitCandidate} {now : Timestamp}
    {f : String → Tx PyError Db α} {r : α × Db} (h : (a.candidate now >>= f) db = .ok r) :
    (a.existing db = none → db.candidate? a.binding.candidateId = none) ∧
      f (a.candidateId db) { db with candidateContentBinding := a.bindings db now } = .ok r := by
  obtain ⟨id, s, hx, hf⟩ := Tx.bind_ok.mp h
  unfold BindPrecommitCandidate.candidate at hx
  unfold BindPrecommitCandidate.candidateId BindPrecommitCandidate.bindings
  rcases Tx.read_option_bind_ok hx with ⟨found, hfound, hx⟩ | ⟨hnone, hx⟩
  · obtain ⟨-, hx⟩ := Tx.require_bind_ok.mp hx
    cases Tx.pure_ok.mp hx
    have hfound : a.existing db = some found := hfound
    rw [hfound]
    exact ⟨fun h => (by cases h), hf⟩
  · have hx := Tx.read_bind_ok.mp hx
    obtain ⟨-, hx⟩ := Tx.requireAll_bind_ok.mp hx
    obtain ⟨hfree, hx⟩ := Tx.require_bind_ok.mp hx
    have hx := Tx.write_bind_ok.mp hx
    cases Tx.pure_ok.mp hx
    have hnone : a.existing db = none := hnone
    rw [hnone]
    exact ⟨fun _ => hfree, hf⟩

theorem bindPrecommitCandidateTx_ok {a : BindPrecommitCandidate} {id : String}
    (h : bindPrecommitCandidateTx env a db = .ok (id, db')) :
    ∃ execution attempt, a.Binds env db db' execution attempt := by
  unfold bindPrecommitCandidateTx requireSha256 getAgentAttempt at h
  obtain ⟨-, h⟩ := Tx.require_bind_ok.mp h
  obtain ⟨-, h⟩ := Tx.require_bind_ok.mp h
  obtain ⟨_, -, h⟩ := Tx.lift_bind_ok.mp h
  obtain ⟨_, -, h⟩ := Tx.lift_bind_ok.mp h
  obtain ⟨-, h⟩ := Tx.require_bind_ok.mp h
  obtain ⟨-, h⟩ := Tx.require_bind_ok.mp h
  have h := begin_bind_ok h
  obtain ⟨execution, hfence, hversion, h⟩ := requireCandidateFence_bind_holds h
  obtain ⟨attempt, hattempt, h⟩ := Tx.find_bind_ok.mp h
  obtain ⟨⟨hstate, hnone⟩, h⟩ := Tx.require_bind_ok.mp h
  obtain ⟨⟨hof, hrole, hstatus⟩, h⟩ := Tx.require_bind_ok.mp h
  obtain ⟨hfree, h⟩ := candidate_bind_ok h
  have h := Tx.read_bind_ok.mp h
  obtain ⟨-, h⟩ := Tx.requireAll_bind_ok.mp h
  obtain ⟨-, h⟩ := Tx.require_bind_ok.mp h
  obtain ⟨howned, h⟩ := Tx.require_bind_ok.mp h
  have h := Tx.write_bind_ok.mp h
  obtain ⟨_, -, h⟩ := requireCandidateFence_readOnly.bind_ok h
  cases Tx.pure_ok.mp h
  exact ⟨execution, attempt, hfence, hversion rfl, hstate, hnone, hattempt, hof, hrole, hstatus, hfree,
    howned, rfl⟩

/-! ## Verification -/

/-- What a candidate verification found, and the database it left. -/
structure RegisterCandidateVerification.Registers (a : RegisterCandidateVerification) (env : Env)
    (snap db db' : Db) (binding : CandidateContentBinding) (execution current : SliceExecution) :
    Prop where
  found : snap.candidate? a.row.candidateId = some binding
  ofExecution : binding.executionId = a.row.executionId
  ofContent : binding.candidateContentSha256 = a.row.candidateContentSha256
  seen : snap.execution? a.row.executionId = some execution
  contract : execution.contractFingerprint = a.row.contractFingerprint
  authority : execution.authorityFingerprint = a.row.authorityFingerprint
  generation : a.row.authorityGeneration = a.fence.authorityGeneration
  fence : CandidateFenceHolds env 1 a.row.executionId a.fence db current
  state : current.state = VERIFYING
  uncommitted : current.resultCommit = none
  free : db.candidateVerification? a.row.verificationId = none
  writes : db' = { db with
    candidateVerificationResult := db.candidateVerificationResult ++ [a.row] }

theorem registerCandidateVerificationTx_ok {a : RegisterCandidateVerification}
    (h : registerCandidateVerificationTx env snap a db = .ok ((), db')) :
    ∃ binding execution current, a.Registers env snap db db' binding execution current := by
  unfold registerCandidateVerificationTx requireSha256 getCandidateBinding getExecution at h
  obtain ⟨-, h⟩ := Tx.require_bind_ok.mp h
  obtain ⟨-, h⟩ := Tx.require_bind_ok.mp h
  obtain ⟨-, h⟩ := Tx.require_bind_ok.mp h
  obtain ⟨-, h⟩ := Tx.require_bind_ok.mp h
  obtain ⟨-, h⟩ := Tx.require_bind_ok.mp h
  obtain ⟨_, -, h⟩ := Tx.lift_bind_ok.mp h
  obtain ⟨hgeneration, h⟩ := Tx.require_bind_ok.mp h
  obtain ⟨binding, _, hbinding, h⟩ := before_bind_ok h
  obtain ⟨execution, _, hexecution, h⟩ := before_bind_ok h
  obtain ⟨⟨hof, hcontent, -, hcontract, hauthority⟩, h⟩ := Tx.require_bind_ok.mp h
  have h := begin_bind_ok h
  obtain ⟨current, hfence, -, h⟩ := requireCandidateFence_bind_holds h
  obtain ⟨⟨hstate, hnone⟩, h⟩ := Tx.require_bind_ok.mp h
  have h := Tx.read_bind_ok.mp h
  obtain ⟨⟨hfree, -⟩, h⟩ := Tx.require_bind_ok.mp h
  have h := Tx.write_bind_ok.mp h
  exact ⟨binding, execution, current, (Tx.find_ok.mp hbinding).1, hof, hcontent,
    (Tx.find_ok.mp hexecution).1, hcontract, hauthority, hgeneration, hfence, hstate, hnone, hfree,
    lastFence_ok h⟩

/-! ## Evaluation -/

def BeginCandidateEvaluator.row (a : BeginCandidateEvaluator) (content : String) (now : Timestamp) :
    CandidateEvaluatorAttempt where
  evaluatorAttemptId := a.evaluatorAttemptId
  executionId := a.executionId
  candidateId := a.candidateId
  verificationId := a.verificationId
  contextSnapshotId := a.contextSnapshotId
  candidateContentSha256 := content
  leaseOwner := a.fence.leaseOwner
  leaseGeneration := a.fence.leaseGeneration
  authorityGeneration := a.fence.authorityGeneration
  status := .RUNNING
  startedAt := now
  endedAt := none

/-- What the start of a candidate evaluation found, and the database it left. -/
structure BeginCandidateEvaluator.Begins (a : BeginCandidateEvaluator) (env : Env) (snap db db' : Db)
    (binding : CandidateContentBinding) (verification : CandidateVerificationResult)
    (current : SliceExecution) : Prop where
  found : snap.candidate? a.candidateId = some binding
  ofExecution : binding.executionId = a.executionId
  verified : snap.candidateVerification? a.verificationId = some verification
  passed : verification.verdict = .PASS
  ofCandidate : verification.candidateId = a.candidateId
  generation : verification.authorityGeneration = a.fence.authorityGeneration
  contract : verification.contractFingerprint = a.fence.contractFingerprint
  authority : verification.authorityFingerprint = a.fence.authorityFingerprint
  fence : CandidateFenceHolds env 1 a.executionId a.fence db current
  state : current.state = EVALUATING
  uncommitted : current.resultCommit = none
  free : db.candidateAttempt? a.evaluatorAttemptId = none
  writes : db' = { db with candidateEvaluatorAttempt := db.candidateEvaluatorAttempt ++
    [a.row binding.candidateContentSha256 (env.clock 2)] }

theorem beginCandidateEvaluatorTx_ok {a : BeginCandidateEvaluator}
    (h : beginCandidateEvaluatorTx env snap a db = .ok ((), db')) :
    ∃ binding verification current, a.Begins env snap db db' binding verification current := by
  unfold beginCandidateEvaluatorTx at h
  obtain ⟨⟨binding, verification⟩, _, hentry, h⟩ := before_bind_ok h
  have h := begin_bind_ok h
  obtain ⟨current, hfence, -, h⟩ := requireCandidateFence_bind_holds h
  obtain ⟨⟨hstate, hnone⟩, h⟩ := Tx.require_bind_ok.mp h
  obtain ⟨⟨hgeneration, hcontract, hauthority⟩, h⟩ := Tx.require_bind_ok.mp h
  have h := Tx.read_bind_ok.mp h
  obtain ⟨⟨hfree, -⟩, h⟩ := Tx.require_bind_ok.mp h
  obtain ⟨-, h⟩ := Tx.require_bind_ok.mp h
  have h := Tx.write_bind_ok.mp h
  unfold BeginCandidateEvaluator.entry getCandidateBinding getExecution at hentry
  obtain ⟨binding', hbinding, hentry⟩ := Tx.find_bind_ok.mp hentry
  obtain ⟨execution, -, hentry⟩ := Tx.find_bind_ok.mp hentry
  have hentry := Tx.read_bind_ok.mp hentry
  obtain ⟨-, hentry⟩ := Tx.require_bind_ok.mp hentry
  obtain ⟨verification', hverification, hentry⟩ := Tx.find_bind_ok.mp hentry
  obtain ⟨⟨hpassed, hcandidate, hof, -⟩, hentry⟩ := Tx.require_bind_ok.mp hentry
  cases Tx.pure_ok.mp hentry
  exact ⟨binding, verification, current, hbinding, hof, hverification, hpassed, hcandidate,
    hgeneration, hcontract, hauthority, hfence, hstate, hnone, hfree, lastFence_ok h⟩

def Db.candidateSeal? (db : Db) (attemptId : String) (phase : SealPhase) :
    Option CandidateEvaluatorArtifactSeal :=
  db.candidateEvaluatorArtifactSeal.find? fun s => s.evaluatorAttemptId = attemptId ∧ s.phase = phase

/-- Both seals of the attempt agree with the files, and the sealed result is
`resultJson`. -/
structure CandidateSealsMatch (env : Env) (db : Db) (attempt : CandidateEvaluatorAttempt)
    (resultJson : String) (pre post : CandidateEvaluatorArtifactSeal) : Prop where
  found : db.candidateSeal? attempt.evaluatorAttemptId .PRE_EXECUTION = some pre
  verified : ∃ view, verifyManifestBytes env pre.evidenceRoot pre.manifestJson pre.manifestSha256 =
    .ok view
  foundPost : db.candidateSeal? attempt.evaluatorAttemptId .POST_EXECUTION = some post
  verifiedPost : ∃ view, verifyManifestBytes env post.evidenceRoot post.manifestJson
    post.manifestSha256 = .ok view ∧ checkSealedResult attempt view resultJson = .ok ()

theorem verifyCandidateSeal_bind_ok {id name : String} {phase : SealPhase}
    {f : VerifiedArtifactManifest → Tx PyError Db α} {r : α × Db}
    (h : (verifyCandidateSeal env id phase name >>= f) db = .ok r) :
    ∃ found view, db.candidateSeal? id phase = some found ∧
      verifyManifestBytes env found.evidenceRoot found.manifestJson found.manifestSha256 = .ok view ∧
      f view db = .ok r := by
  obtain ⟨view, s, hx, hf⟩ := Tx.bind_ok.mp h
  unfold verifyCandidateSeal at hx
  obtain ⟨found, hfound, hx⟩ := Tx.find_bind_ok.mp hx
  obtain ⟨hview, rfl⟩ := Tx.lift_ok.mp hx
  exact ⟨found, view, hfound, hview, hf⟩

theorem candidateAttempt?_id {id : String} {t : CandidateEvaluatorAttempt}
    (h : db.candidateAttempt? id = some t) : t.evaluatorAttemptId = id := Table.lookup_key h

theorem verifyCandidateEvaluatorSeals_bind_ok {id json : String} {f : Unit → Tx PyError Db α}
    {r : α × Db} (h : (verifyCandidateEvaluatorSeals env id json >>= f) db = .ok r) :
    ∃ attempt pre post, db.candidateAttempt? id = some attempt ∧
      CandidateSealsMatch env db attempt json pre post ∧ f () db = .ok r := by
  obtain ⟨u, s, hx, hf⟩ := Tx.bind_ok.mp h
  unfold verifyCandidateEvaluatorSeals at hx
  obtain ⟨pre, preView, hpre, hpreView, hx⟩ := verifyCandidateSeal_bind_ok hx
  obtain ⟨post, postView, hpost, hpostView, hx⟩ := verifyCandidateSeal_bind_ok hx
  obtain ⟨attempt, hattempt, hx⟩ := Tx.find_bind_ok.mp hx
  obtain ⟨hcheck, rfl⟩ := Tx.lift_ok.mp hx
  have hid := candidateAttempt?_id hattempt
  refine ⟨attempt, pre, post, hattempt, ⟨?_, ⟨preView, hpreView⟩, ?_, postView, hpostView, hcheck⟩,
    hf⟩
  · rw [hid]
    exact hpre
  · rw [hid]
    exact hpost

/-- What a candidate evaluation found, and the database it left. -/
structure RegisterCandidateEvaluation.Registers (a : RegisterCandidateEvaluation) (env : Env)
    (db db' : Db) (attempt : CandidateEvaluatorAttempt) (current : SliceExecution) : Prop where
  fence : CandidateFenceHolds env 1 a.row.executionId a.fence db current
  state : current.state = EVALUATING
  uncommitted : current.resultCommit = none
  found : db.candidateAttempt? a.row.evaluatorAttemptId = some attempt
  running : a.current attempt
  ofCandidate : attempt.candidateId = a.row.candidateId
  ofContent : attempt.candidateContentSha256 = a.row.candidateContentSha256
  result : ∃ parsed, jsonLoads a.row.resultJson = .ok parsed ∧
    Json.strIs (parsed.get? "verdict") a.row.verdict.value = true
  seals : ∃ pre post, CandidateSealsMatch env db attempt a.row.resultJson pre post
  free : db.candidateEvaluation? a.row.evaluationId = none
  first : ∀ e ∈ db.candidateEvaluationResult, e.evaluatorAttemptId ≠ a.row.evaluatorAttemptId
  writes : db' = { db with
    candidateEvaluationResult := db.candidateEvaluationResult ++ [a.row]
    candidateEvaluatorAttempt := Table.update (·.evaluatorAttemptId) db.candidateEvaluatorAttempt
      a.row.evaluatorAttemptId
      (fun t => { t with status := .SUCCEEDED, endedAt := some a.row.endedAt }) }

theorem registerCandidateEvaluationTx_ok {a : RegisterCandidateEvaluation}
    (h : registerCandidateEvaluationTx env snap a db = .ok ((), db')) :
    ∃ attempt current, a.Registers env db db' attempt current := by
  unfold registerCandidateEvaluationTx requireSha256 at h
  obtain ⟨-, h⟩ := Tx.require_bind_ok.mp h
  obtain ⟨-, h⟩ := Tx.require_bind_ok.mp h
  obtain ⟨-, h⟩ := Tx.require_bind_ok.mp h
  obtain ⟨-, h⟩ := Tx.require_bind_ok.mp h
  obtain ⟨_, _, -, h⟩ := before_bind_ok h
  obtain ⟨_, _, -, h⟩ := before_bind_ok h
  obtain ⟨-, h⟩ := Tx.require_bind_ok.mp h
  have h := begin_bind_ok h
  obtain ⟨current, hfence, -, h⟩ := requireCandidateFence_bind_holds h
  obtain ⟨⟨hstate, hnone⟩, h⟩ := Tx.require_bind_ok.mp h
  obtain ⟨attempt, hattempt, h⟩ := Tx.find_bind_ok.mp h
  obtain ⟨hrunning, h⟩ := Tx.require_bind_ok.mp h
  obtain ⟨parsed, hparsed, h⟩ := Tx.lift_bind_ok.mp h
  obtain ⟨-, h⟩ := Tx.require_bind_ok.mp h
  obtain ⟨hverdict, h⟩ := Tx.require_bind_ok.mp h
  obtain ⟨attempt', pre, post, hattempt', hseals, h⟩ := verifyCandidateEvaluatorSeals_bind_ok h
  obtain rfl : attempt = attempt' := Option.some.inj (hattempt.symm.trans hattempt')
  have h := Tx.read_bind_ok.mp h
  obtain ⟨⟨hfree, hfirst⟩, h⟩ := Tx.require_bind_ok.mp h
  obtain ⟨⟨hcandidate, hcontent⟩, h⟩ := Tx.require_bind_ok.mp h
  have h := Tx.write_bind_ok.mp h
  refine ⟨attempt, current, hfence, hstate, hnone, hattempt, hrunning, hcandidate, hcontent,
    ⟨parsed, hparsed, hverdict.1⟩, ⟨pre, post, hseals⟩, hfree, fun e he => ?_, lastFence_ok h⟩
  have hall := List.all_eq_true.mp hfirst e he
  exact (of_decide_eq_true hall).2

def CreateCandidateSeal.row (a : CreateCandidateSeal) (attempt : CandidateEvaluatorAttempt)
    (now : Timestamp) : CandidateEvaluatorArtifactSeal where
  sealId := a.sealId
  executionId := attempt.executionId
  evaluatorAttemptId := a.evaluatorAttemptId
  candidateId := attempt.candidateId
  candidateContentSha256 := attempt.candidateContentSha256
  phase := a.phase
  evidenceRoot := a.evidenceRoot
  manifestJson := a.manifestJson
  manifestSha256 := a.manifestSha256
  createdAt := now

/-- What a seal of a candidate evaluation found, and the database it left. -/
structure CreateCandidateSeal.Creates (a : CreateCandidateSeal) (env : Env) (db db' : Db)
    (attempt : CandidateEvaluatorAttempt) : Prop where
  found : db.candidateAttempt? a.evaluatorAttemptId = some attempt
  running : a.current attempt
  first : ∀ s ∈ db.candidateEvaluatorArtifactSeal,
    ¬ (s.evaluatorAttemptId = a.evaluatorAttemptId ∧ s.phase = a.phase)
  writes : db' = { db with
    candidateEvaluatorArtifactSeal := db.candidateEvaluatorArtifactSeal ++
      [a.row attempt (env.clock 2)] }

theorem createCandidateSealTx_ok {a : CreateCandidateSeal}
    (h : createCandidateSealTx env snap a db = .ok ((), db')) :
    ∃ attempt, a.Creates env db db' attempt := by
  unfold createCandidateSealTx requireSha256 at h
  obtain ⟨-, h⟩ := Tx.require_bind_ok.mp h
  obtain ⟨-, h⟩ := Tx.require_bind_ok.mp h
  obtain ⟨_, _, -, h⟩ := before_bind_ok h
  obtain ⟨_, -, h⟩ := Tx.lift_bind_ok.mp h
  obtain ⟨_, -, h⟩ := Tx.lift_bind_ok.mp h
  obtain ⟨_, -, h⟩ := Tx.lift_bind_ok.mp h
  obtain ⟨-, h⟩ := Tx.require_bind_ok.mp h
  have h := begin_bind_ok h
  obtain ⟨_, -, h⟩ := requireCandidateFence_readOnly.bind_ok h
  obtain ⟨attempt, hattempt, h⟩ := Tx.find_bind_ok.mp h
  obtain ⟨hrunning, h⟩ := Tx.require_bind_ok.mp h
  obtain ⟨view, -, h⟩ := Tx.lift_bind_ok.mp h
  obtain ⟨-, h⟩ := Tx.require_bind_ok.mp h
  have first {p : CandidateEvaluatorArtifactSeal → Prop} [DecidablePred p]
      (hall : db.candidateEvaluatorArtifactSeal.all (fun s => decide (s.sealId ≠ a.sealId ∧ ¬ p s)) =
        true) : ∀ s ∈ db.candidateEvaluatorArtifactSeal, ¬ p s := fun s hs =>
    (of_decide_eq_true (List.all_eq_true.mp hall s hs)).2
  unfold getContextSnapshot at h
  rcases Tx.ite_ok.mp h with ⟨-, h⟩ | ⟨-, h⟩
  · obtain ⟨_, -, h⟩ := Tx.find_bind_ok.mp h
    obtain ⟨_, -, h⟩ := Tx.lift_bind_ok.mp h
    obtain ⟨-, h⟩ := Tx.require_bind_ok.mp h
    have h := Tx.read_bind_ok.mp h
    obtain ⟨hfirst, h⟩ := Tx.require_bind_ok.mp h
    have h := Tx.write_bind_ok.mp h
    exact ⟨attempt, hattempt, hrunning, first hfirst, lastFence_ok h⟩
  · obtain ⟨_, -, h⟩ := verifyCandidateSeal_readOnly.bind_ok h
    have h := Tx.read_bind_ok.mp h
    obtain ⟨hfirst, h⟩ := Tx.require_bind_ok.mp h
    have h := Tx.write_bind_ok.mp h
    exact ⟨attempt, hattempt, hrunning, first hfirst, lastFence_ok h⟩

/-! ## Approval -/

/-- What the binding of an approval found, and the database it left. -/
structure BindCandidateApproval.Binds (a : BindCandidateApproval) (env : Env) (snap db db' : Db)
    (approval : ApprovalRequest) (evaluation : CandidateEvaluationResult) : Prop where
  found : snap.approvalRequest? a.approvalId = some approval
  evaluated : snap.candidateEvaluation? a.evaluationId = some evaluation
  passed : evaluation.verdict = .PASS
  ofExecution : approval.executionId = evaluation.executionId
  ofCandidate : evaluation.candidateId = a.candidateId
  first : ∀ b ∈ db.approvalCandidateBinding, b.approvalId ≠ a.approvalId
  writes : db' = { db with approvalCandidateBinding := db.approvalCandidateBinding ++
    [{ approvalId := a.approvalId, executionId := evaluation.executionId
       candidateId := a.candidateId, evaluationId := a.evaluationId
       authorityFingerprint := evaluation.authorityFingerprint
       authorityGeneration := a.authorityGeneration, createdAt := env.clock 2 }] }

theorem bindCandidateApprovalTx_ok {a : BindCandidateApproval}
    (h : bindCandidateApprovalTx env snap a db = .ok ((), db')) :
    ∃ approval evaluation, a.Binds env snap db db' approval evaluation := by
  unfold bindCandidateApprovalTx getApproval at h
  obtain ⟨approval, _, happroval, h⟩ := before_bind_ok h
  obtain ⟨evaluation, _, hevaluation, h⟩ := before_bind_ok h
  obtain ⟨⟨hpassed, hof, hcandidate⟩, h⟩ := Tx.require_bind_ok.mp h
  have h := begin_bind_ok h
  obtain ⟨_, -, h⟩ := requireCandidateFence_readOnly.bind_ok h
  obtain ⟨-, h⟩ := Tx.require_bind_ok.mp h
  obtain ⟨_, -, h⟩ := verifyCandidateEvaluatorSeals_readOnly.bind_ok h
  have h := Tx.read_bind_ok.mp h
  obtain ⟨hfirst, h⟩ := Tx.require_bind_ok.mp h
  have h := Tx.write_bind_ok.mp h
  refine ⟨approval, evaluation, (Tx.find_ok.mp happroval).1, (Tx.find_ok.mp hevaluation).1, hpassed,
    hof, hcandidate, fun b hb => ?_, lastFence_ok h⟩
  have hall := List.all_eq_true.mp hfirst b hb
  exact (of_decide_eq_true hall).1

/-! ## Closure -/

/-- What `_candidate_closure_authority` found. -/
structure ClosureIds.Authorized (a : ClosureIds) (env : Env) (fence : CandidateWriteFence)
    (allowConsumed : Bool) (db : Db) (execution : SliceExecution) (binding : CandidateContentBinding)
    (approval : ApprovalRequest) (linked : ApprovalCandidateBinding)
    (evaluation : CandidateEvaluationResult) : Prop where
  live : CandidateFenceHolds env 2 a.executionId fence db execution
  version : execution.stateVersion = fence.expectedStateVersion
  bound : db.candidate? a.candidateId = some binding
  boundTo : binding.executionId = a.executionId
  asked : db.approvalRequest? a.approvalId = some approval
  askedTo : approval.executionId = a.executionId
  approved : approval.status = .APPROVED
  kind : approval.approvalType = "DEVELOPMENT_ACCEPTANCE"
  unconsumed : approval.consumedAt = none ∨ allowConsumed = true
  link : Table.lookup (·.approvalId) db.approvalCandidateBinding a.approvalId = some linked
  linkTo : linked.candidateId = a.candidateId ∧ linked.evaluationId = a.evaluationId ∧
    linked.executionId = a.executionId
  linkAuthority : linked.authorityGeneration = fence.authorityGeneration ∧
    linked.authorityFingerprint = fence.authorityFingerprint
  evaluated : db.candidateEvaluation? a.evaluationId = some evaluation
  evaluatedTo : evaluation.executionId = a.executionId ∧ evaluation.candidateId = a.candidateId
  passed : evaluation.verdict = .PASS
  evaluatedAuthority : evaluation.authorityGeneration = fence.authorityGeneration ∧
    evaluation.contractFingerprint = fence.contractFingerprint ∧
    evaluation.authorityFingerprint = fence.authorityFingerprint
  content : evaluation.candidateContentSha256 = binding.candidateContentSha256
  waiting : allowConsumed = false → execution.state = WAITING_APPROVAL ∧ execution.resultCommit = none
  seals : ∃ attempt pre post, db.candidateAttempt? evaluation.evaluatorAttemptId = some attempt ∧
    CandidateSealsMatch env db attempt evaluation.resultJson pre post

theorem candidateClosureAuthority_bind_ok {a : ClosureIds} {fence : CandidateWriteFence}
    {allowConsumed : Bool} {f : SliceExecution × CandidateContentBinding → Tx PyError Db α}
    {r : α × Db} (h : (candidateClosureAuthority env a fence allowConsumed >>= f) db = .ok r) :
    ∃ execution binding approval linked evaluation,
      a.Authorized env fence allowConsumed db execution binding approval linked evaluation ∧
        f (execution, binding) db = .ok r := by
  obtain ⟨p, s, hx, hf⟩ := Tx.bind_ok.mp h
  unfold candidateClosureAuthority getCandidateBinding getApproval at hx
  obtain ⟨execution, hfence, hversion, hx⟩ := requireCandidateFence_bind_holds hx
  obtain ⟨binding, hbinding, hx⟩ := Tx.find_bind_ok.mp hx
  obtain ⟨approval, happroval, hx⟩ := Tx.find_bind_ok.mp hx
  obtain ⟨linked, hlinked, hx⟩ := Tx.find_bind_ok.mp hx
  obtain ⟨evaluation, hevaluation, hx⟩ := Tx.find_bind_ok.mp hx
  obtain ⟨⟨hbof, haof, happroved, hkind, hconsumed, hlc, hle, hlx, hex, hec, hpassed⟩, hx⟩ :=
    Tx.require_bind_ok.mp hx
  obtain ⟨⟨hlg, hla, heg, hect, hea, hcontent⟩, hx⟩ := Tx.require_bind_ok.mp hx
  obtain ⟨hwaiting, hx⟩ := Tx.require_bind_ok.mp hx
  obtain ⟨attempt, pre, post, hattempt, hseals, hx⟩ := verifyCandidateEvaluatorSeals_bind_ok hx
  cases Tx.pure_ok.mp hx
  exact ⟨execution, binding, approval, linked, evaluation,
    { live := hfence, version := hversion rfl, bound := hbinding, boundTo := hbof
      asked := happroval, askedTo := haof, approved := happroved, kind := hkind
      unconsumed := hconsumed
      link := hlinked, linkTo := ⟨hlc, hle, hlx⟩, linkAuthority := ⟨hlg, hla⟩
      evaluated := hevaluation, evaluatedTo := ⟨hex, hec⟩, passed := hpassed
      evaluatedAuthority := ⟨heg, hect, hea⟩, content := hcontent, waiting := hwaiting
      seals := ⟨attempt, pre, post, hattempt, hseals⟩ }, hf⟩

/-- A stored intent is for these identities, and its plan is intact. -/
structure CandidateCommitIntent.Intact (i : CandidateCommitIntent) (ids : ClosureIds) (plan : Json) :
    Prop where
  execution : i.executionId = ids.executionId
  approval : i.approvalId = ids.approvalId
  evaluation : i.evaluationId = ids.evaluationId
  loads : jsonLoads i.planJson = .ok plan
  hash : canonicalSha256 plan = .ok i.planSha256

/-- What the preparation of a commit found when no intent was stored, and the
database it left. -/
structure PrepareCandidateCommit.Prepares (a : PrepareCandidateCommit) (env : Env) (db db' : Db)
    (binding : CandidateContentBinding) (plan : Json) (planJson planSha256 : String) : Prop where
  unprepared : ∀ i ∈ db.candidateCommitIntent, i.candidateId ≠ a.ids.candidateId
  first : ∀ i ∈ db.candidateCommitIntent, i.closureId ≠ a.ids.closureId ∧
    i.executionId ≠ a.ids.executionId
  authorized : ∃ execution approval linked evaluation,
    a.ids.Authorized env a.fence (db.candidateCommitClosure.any (·.candidateId = a.ids.candidateId))
      db execution binding approval linked evaluation
  prepared : a.prepare = .ok plan
  named : a.ids.named plan = true
  text : canonicalJson plan = .ok planJson
  hash : canonicalSha256 plan = .ok planSha256
  writes : db' = { db with candidateCommitIntent := db.candidateCommitIntent ++
    [{ closureId := a.ids.closureId, executionId := a.ids.executionId
       candidateId := a.ids.candidateId, approvalId := a.ids.approvalId
       evaluationId := a.ids.evaluationId, planJson := planJson, planSha256 := planSha256
       createdAt := env.clock 4 }] }

theorem prepareCandidateCommitTx_ok {a : PrepareCandidateCommit}
    (h : prepareCandidateCommitTx env a db = .ok ((), db')) :
    (db' = db ∧ ∃ intent plan, intent ∈ db.candidateCommitIntent ∧
      intent.candidateId = a.ids.candidateId ∧ intent.closureId = a.ids.closureId ∧
      intent.Intact a.ids plan) ∨
    ∃ binding plan planJson planSha256, a.Prepares env db db' binding plan planJson planSha256 := by
  unfold prepareCandidateCommitTx planCommit requireCommit at h
  have h := begin_bind_ok h
  obtain ⟨_, -, h⟩ := requireCandidateFence_readOnly.bind_ok h
  have hexisting := Tx.read_bind_ok.mp h
  have hclosed := Tx.read_bind_ok.mp hexisting
  obtain ⟨execution, binding, approval, linked, evaluation, hauthorized, h⟩ :=
    candidateClosureAuthority_bind_ok hclosed
  cases hfound : db.candidateCommitIntent.find? (·.candidateId = a.ids.candidateId) with
  | some intent =>
    simp only [hfound] at h
    obtain ⟨⟨hclosure, hexecution, hevaluation, happroval⟩, h⟩ := Tx.require_bind_ok.mp h
    obtain ⟨plan, hplan, h⟩ := Tx.lift_bind_ok.mp h
    obtain ⟨sha, hsha, h⟩ := Tx.lift_bind_ok.mp h
    obtain ⟨hintact, h⟩ := Tx.require_bind_ok.mp h
    have hcandidate := List.find?_some hfound
    rw [hintact] at hsha
    exact Or.inl ⟨lastFence_ok h, intent, plan, List.mem_of_find?_eq_some hfound,
      of_decide_eq_true hcandidate, hclosure, hexecution, happroval, hevaluation, hplan, hsha⟩
  | none =>
    simp only [hfound] at h
    obtain ⟨plan, hplan, h⟩ := Tx.lift_bind_ok.mp h
    obtain ⟨hnamed, h⟩ := Tx.require_bind_ok.mp h
    obtain ⟨-, h⟩ := Tx.require_bind_ok.mp h
    obtain ⟨_, -, h⟩ := Tx.find_bind_ok.mp h
    obtain ⟨-, h⟩ := Tx.require_bind_ok.mp h
    obtain ⟨_, -, h⟩ := Tx.find_bind_ok.mp h
    obtain ⟨-, h⟩ := Tx.require_bind_ok.mp h
    obtain ⟨_, -, h⟩ := requireCandidateFence_readOnly.bind_ok h
    obtain ⟨planJson, hjson, h⟩ := Tx.lift_bind_ok.mp h
    obtain ⟨planSha256, hsha, h⟩ := Tx.lift_bind_ok.mp h
    have h := Tx.read_bind_ok.mp h
    obtain ⟨hfirst, h⟩ := Tx.require_bind_ok.mp h
    have h := Tx.write_bind_ok.mp h
    refine Or.inr ⟨binding, plan, planJson, planSha256, ?_, ?_,
      ⟨execution, approval, linked, evaluation, hauthorized⟩, hplan, hnamed, hjson, hsha,
      lastFence_ok h⟩
    · intro i hi
      have hnot := List.find?_eq_none.mp hfound i hi
      exact fun hc => hnot (decide_eq_true hc)
    · intro i hi
      have hall := List.all_eq_true.mp hfirst i hi
      have hall := of_decide_eq_true hall
      exact ⟨hall.1, hall.2.1⟩

end Adcp.L3
