import Adcp.L4Safety.CandidateRuns

/-!
# What a closed candidate rests on

A closure names a candidate, an evaluation and an approval by their ids; what
these rows say of each other was checked when they were written, by different
operations and at different times. Rows of the candidate path are never changed
(but for the status of an Evaluator attempt), so what was found then still holds.

* `Verified`, `Targeted`, `Evaluated`, `Sealed`: what is known of a row of each
  table.
* `ClosureHeld`: what is known of a closure.
* `CandidateEvidence`: all of it, together with the uniqueness of intents and
  closures; `CandidateEvidence.step`: every call keeps it.
* `Reachable.candidateEvidence`: so it holds in every reachable state.
* `closure_sound`: over a run, closures and intents are kept, each approval closes
  once, and a candidate or execution that is closed is not closed again.
-/
namespace Adcp.L4

open Adcp.L1 Adcp.L2 Adcp.L3 ExecutionState

/-! ## What is known of a row -/

/-- The verification is of a candidate of its execution, under its authority. -/
structure Verified (db : Db) (v : CandidateVerificationResult) : Prop where
  candidate : ∃ b, db.candidate? v.candidateId = some b ∧ b.executionId = v.executionId ∧
    b.candidateContentSha256 = v.candidateContentSha256
  authority : ∃ row, db.execution? v.executionId = some row ∧
    row.contractFingerprint = v.contractFingerprint ∧
    row.authorityFingerprint = v.authorityFingerprint

/-- The attempt evaluates a candidate of its execution that has passed its
verification. -/
structure Targeted (db : Db) (t : CandidateEvaluatorAttempt) : Prop where
  candidate : ∃ b, db.candidate? t.candidateId = some b ∧ b.executionId = t.executionId ∧
    b.candidateContentSha256 = t.candidateContentSha256
  verification : ∃ v, db.candidateVerification? t.verificationId = some v ∧ v.verdict = .PASS ∧
    v.candidateId = t.candidateId ∧ v.authorityGeneration = t.authorityGeneration

/-- The evaluation is by an attempt on the same candidate. -/
def Evaluated (db : Db) (e : CandidateEvaluationResult) : Prop :=
  ∃ t, db.candidateAttempt? e.evaluatorAttemptId = some t ∧ t.executionId = e.executionId ∧
    t.candidateId = e.candidateId ∧ t.candidateContentSha256 = e.candidateContentSha256 ∧
    t.authorityGeneration = e.authorityGeneration

/-- The seal is of an attempt on the same candidate. -/
def Sealed (db : Db) (s : CandidateEvaluatorArtifactSeal) : Prop :=
  ∃ t, db.candidateAttempt? s.evaluatorAttemptId = some t ∧ t.executionId = s.executionId ∧
    t.candidateId = s.candidateId ∧ t.candidateContentSha256 = s.candidateContentSha256

/-- What a closure rests on: its candidate, a verification and an evaluation of it
that passed, the two seals of that evaluation, and the approval it consumed. -/
structure ClosureHeld (db : Db) (c : CandidateCommitClosure) (row : SliceExecution)
    (b : CandidateContentBinding) (v : CandidateVerificationResult) (t : CandidateEvaluatorAttempt)
    (e : CandidateEvaluationResult) (pre post : CandidateEvaluatorArtifactSeal)
    (approval : ApprovalRequest) (link : ApprovalCandidateBinding) : Prop where
  execution : db.execution? c.executionId = some row
  candidate : db.candidate? c.candidateId = some b
  candidateOf : b.executionId = c.executionId ∧ b.expectedParent = c.expectedParent ∧
    b.candidateContentSha256 = c.candidateContentSha256
  verification : db.candidateVerification? t.verificationId = some v
  verified : v.verdict = .PASS ∧ v.executionId = c.executionId ∧ v.candidateId = c.candidateId ∧
    v.candidateContentSha256 = c.candidateContentSha256 ∧
    v.contractFingerprint = row.contractFingerprint ∧
    v.authorityFingerprint = row.authorityFingerprint
  attempt : db.candidateAttempt? e.evaluatorAttemptId = some t
  attemptOf : t.executionId = c.executionId ∧ t.candidateId = c.candidateId ∧
    t.candidateContentSha256 = c.candidateContentSha256
  evaluation : db.candidateEvaluation? c.evaluationId = some e
  evaluated : e.verdict = .PASS ∧ e.executionId = c.executionId ∧ e.candidateId = c.candidateId ∧
    e.candidateContentSha256 = c.candidateContentSha256 ∧
    e.contractFingerprint = row.contractFingerprint ∧
    e.authorityFingerprint = row.authorityFingerprint
  seals : ∃ env, CandidateSealsMatch env db t e.resultJson pre post
  sealsOf : ∀ s ∈ [pre, post], s.executionId = c.executionId ∧ s.candidateId = c.candidateId ∧
    s.candidateContentSha256 = c.candidateContentSha256
  asked : db.approvalRequest? c.approvalId = some approval
  approved : approval.executionId = c.executionId ∧ approval.status = .APPROVED ∧
    approval.consumedAt = some c.createdAt
  bound : Table.lookup (·.approvalId) db.approvalCandidateBinding c.approvalId = some link
  linked : link.executionId = c.executionId ∧ link.candidateId = c.candidateId ∧
    link.evaluationId = c.evaluationId ∧ link.authorityFingerprint = row.authorityFingerprint
  generation : v.authorityGeneration = link.authorityGeneration ∧
    t.authorityGeneration = link.authorityGeneration ∧
    e.authorityGeneration = link.authorityGeneration

/-- What is known of the candidate path in every state. -/
structure CandidateEvidence (db : Db) : Prop where
  verifications : ∀ v ∈ db.candidateVerificationResult, Verified db v
  attempts : ∀ id t, db.candidateAttempt? id = some t → Targeted db t
  evaluations : ∀ e ∈ db.candidateEvaluationResult, Evaluated db e
  seals : ∀ s ∈ db.candidateEvaluatorArtifactSeal, Sealed db s
  closures : ∀ c ∈ db.candidateCommitClosure, ∃ row b v t e pre post approval link,
    ClosureHeld db c row b v t e pre post approval link
  intentExecutions : (db.candidateCommitIntent.map (·.executionId)).Nodup
  intentCandidates : (db.candidateCommitIntent.map (·.candidateId)).Nodup
  closureExecutions : (db.candidateCommitClosure.map (·.executionId)).Nodup
  closureCandidates : (db.candidateCommitClosure.map (·.candidateId)).Nodup

variable {env : Env} {snap db db' : Db} {call : Call} {c : Commit}

/-! ## What grows with the tables -/

theorem Verified.grows {v : CandidateVerificationResult} (h : Verified db v) (hg : Grows db db') :
    Verified db' v := by
  obtain ⟨⟨b, hb, hof, hcontent⟩, row, hrow, hcontract, hauthority⟩ := h
  obtain ⟨row', hrow', hc, ha, -⟩ := hg.executions _ _ hrow
  exact ⟨⟨b, Table.lookup_prefix hg.bindings hb, hof, hcontent⟩,
    row', hrow', hc.trans hcontract, ha.trans hauthority⟩

theorem Targeted.grows {t t' : CandidateEvaluatorAttempt} (h : Targeted db t) (hg : Grows db db')
    (hsame : SameTarget t t') : Targeted db' t' := by
  obtain ⟨⟨b, hb, hof, hcontent⟩, v, hv, hpass, hcandidate, hgeneration⟩ := h
  refine ⟨⟨b, ?_, hof.trans hsame.execution.symm, hcontent.trans hsame.content.symm⟩,
    v, ?_, hpass, hcandidate.trans hsame.candidate.symm, hgeneration.trans hsame.generation.symm⟩
  · rw [hsame.candidate]
    exact Table.lookup_prefix hg.bindings hb
  · rw [hsame.verification]
    exact Table.lookup_prefix hg.verifications hv

theorem Evaluated.grows {e : CandidateEvaluationResult} (h : Evaluated db e) (hg : Grows db db') :
    Evaluated db' e := by
  obtain ⟨t, ht, hof, hcandidate, hcontent, hgeneration⟩ := h
  obtain ⟨t', ht', hsame⟩ := hg.attempts _ _ ht
  exact ⟨t', ht', hsame.execution.trans hof, hsame.candidate.trans hcandidate,
    hsame.content.trans hcontent, hsame.generation.trans hgeneration⟩

theorem Sealed.grows {s : CandidateEvaluatorArtifactSeal} (h : Sealed db s) (hg : Grows db db') :
    Sealed db' s := by
  obtain ⟨t, ht, hof, hcandidate, hcontent⟩ := h
  obtain ⟨t', ht', hsame⟩ := hg.attempts _ _ ht
  exact ⟨t', ht', hsame.execution.trans hof, hsame.candidate.trans hcandidate,
    hsame.content.trans hcontent⟩

/-- The seals of an attempt match whatever its status is. -/
theorem sealsMatch_grows {t t' : CandidateEvaluatorAttempt} {json : String}
    {pre post : CandidateEvaluatorArtifactSeal} (h : CandidateSealsMatch env db t json pre post)
    (hg : Grows db db') (hid : t'.evaluatorAttemptId = t.evaluatorAttemptId)
    (hsame : SameTarget t t') : CandidateSealsMatch env db' t' json pre post := by
  have found {phase : SealPhase} {s : CandidateEvaluatorArtifactSeal}
      (hs : db.candidateSeal? t.evaluatorAttemptId phase = some s) :
      db'.candidateSeal? t'.evaluatorAttemptId phase = some s := by
    obtain ⟨more, hmore⟩ := hg.seals
    unfold Db.candidateSeal? at hs ⊢
    rw [← hmore, hid, List.find?_append, hs]
    rfl
  obtain ⟨view, hview, hcheck⟩ := h.verifiedPost
  refine ⟨found h.found, h.verified, found h.foundPost, view, hview, ?_⟩
  have hmetadata : runnerMetadataBound t' = runnerMetadataBound t := by
    funext metadata
    unfold runnerMetadataBound
    rw [hid, hsame.candidate, hsame.content, hsame.generation]
  unfold checkSealedResult at hcheck ⊢
  rw [hmetadata]
  exact hcheck

theorem ClosureHeld.grows {c : CandidateCommitClosure} {row : SliceExecution}
    {b : CandidateContentBinding} {v : CandidateVerificationResult} {t : CandidateEvaluatorAttempt}
    {e : CandidateEvaluationResult} {pre post : CandidateEvaluatorArtifactSeal}
    {approval : ApprovalRequest} {link : ApprovalCandidateBinding}
    (h : ClosureHeld db c row b v t e pre post approval link) (hg : Grows db db') :
    ∃ row' t', ClosureHeld db' c row' b v t' e pre post approval link := by
  obtain ⟨row', hrow', hcontract, hauthority, -⟩ := hg.executions _ _ h.execution
  obtain ⟨t', ht', hsame⟩ := hg.attempts _ _ h.attempt
  have hid : t'.evaluatorAttemptId = t.evaluatorAttemptId :=
    (candidateAttempt?_id ht').trans (candidateAttempt?_id h.attempt).symm
  obtain ⟨env, hseals⟩ := h.seals
  obtain ⟨hpass, hvof, hvc, hvs, hvcontract, hvauthority⟩ := h.verified
  obtain ⟨hepass, heof, hec, hes, hecontract, heauthority⟩ := h.evaluated
  obtain ⟨htof, htc, hts⟩ := h.attemptOf
  obtain ⟨hlof, hlc, hle, hlauthority⟩ := h.linked
  exact ⟨row', t',
    { execution := hrow'
      candidate := Table.lookup_prefix hg.bindings h.candidate
      candidateOf := h.candidateOf
      verification := by
        rw [hsame.verification]
        exact Table.lookup_prefix hg.verifications h.verification
      verified := ⟨hpass, hvof, hvc, hvs, hvcontract.trans hcontract.symm,
        hvauthority.trans hauthority.symm⟩
      attempt := ht'
      attemptOf := ⟨hsame.execution.trans htof, hsame.candidate.trans htc,
        hsame.content.trans hts⟩
      evaluation := Table.lookup_prefix hg.evaluations h.evaluation
      evaluated := ⟨hepass, heof, hec, hes, hecontract.trans hcontract.symm,
        heauthority.trans hauthority.symm⟩
      seals := ⟨env, sealsMatch_grows hseals hg hid hsame⟩
      sealsOf := h.sealsOf
      asked := hg.approvals _ _ h.asked h.approved.2.1 (by rw [h.approved.2.2]; rfl)
      approved := h.approved
      bound := Table.lookup_prefix hg.links h.bound
      linked := ⟨hlof, hlc, hle, hlauthority.trans hauthority.symm⟩
      generation := ⟨h.generation.1, hsame.generation.trans h.generation.2.1,
        h.generation.2.2⟩ }⟩

/-! ## Which table a step appends to -/

namespace CandidateStep

theorem verifications (h : CandidateStep call env snap db db') :
    db'.candidateVerificationResult = db.candidateVerificationResult ∨
      ∃ (a : RegisterCandidateVerification) (binding : CandidateContentBinding)
        (execution current : SliceExecution),
        a.Registers env snap db db' binding execution current := by
  cases h with
  | keep htables => exact Or.inl (candidateTables_eq htables).2.2.1
  | verifies _ found => exact Or.inr ⟨_, _, _, _, found⟩
  | closes _ found => exact Or.inl (by rw [found.writes]; rfl)
  | binds _ found | begins _ found | evaluates _ found | seals _ found | links _ found
  | prepares _ found => exact Or.inl (by rw [found.writes])

theorem begun (h : CandidateStep call env snap db db') {id : String} {t : CandidateEvaluatorAttempt}
    (hnone : db.candidateAttempt? id = none) (ht : db'.candidateAttempt? id = some t) :
    ∃ (a : BeginCandidateEvaluator) (binding : CandidateContentBinding)
      (verification : CandidateVerificationResult) (current : SliceExecution),
      a.Begins env snap db db' binding verification current ∧
        t = a.row binding.candidateContentSha256 (env.clock 2) := by
  have gone (hsame : db'.candidateEvaluatorAttempt = db.candidateEvaluatorAttempt) : False := by
    unfold Db.candidateAttempt? at ht hnone
    rw [hsame, hnone] at ht
    cases ht
  cases h with
  | keep htables => exact (gone (candidateTables_eq htables).2.2.2.1).elim
  | binds _ found | verifies _ found | seals _ found | links _ found | prepares _ found =>
    exact (gone (by rw [found.writes])).elim
  | closes _ found => exact (gone (by rw [found.writes]; rfl)).elim
  | @begins a binding verification current _ found =>
    refine ⟨a, binding, verification, current, found, ?_⟩
    have happend : db'.candidateAttempt? id = if id = a.evaluatorAttemptId then
        some (a.row binding.candidateContentSha256 (env.clock 2)) else db.candidateAttempt? id := by
      rw [found.writes]
      exact Table.lookup_append found.free
    rw [happend, hnone] at ht
    split at ht
    · exact (Option.some.inj ht).symm
    · cases ht
  | @evaluates a attempt current _ found =>
    let set (t : CandidateEvaluatorAttempt) : CandidateEvaluatorAttempt :=
      { t with status := .SUCCEEDED, endedAt := some a.row.endedAt }
    have hnew : db'.candidateAttempt? id = if id = a.row.evaluatorAttemptId then
        (db.candidateAttempt? a.row.evaluatorAttemptId).map set else db.candidateAttempt? id := by
      rw [found.writes]
      exact Table.lookup_update fun _ hr => hr
    rw [hnew] at ht
    split at ht
    · rename_i hid
      rw [← hid, hnone] at ht
      cases ht
    · rw [hnone] at ht
      cases ht

theorem evaluations (h : CandidateStep call env snap db db') :
    db'.candidateEvaluationResult = db.candidateEvaluationResult ∨
      ∃ (a : RegisterCandidateEvaluation) (attempt : CandidateEvaluatorAttempt)
        (current : SliceExecution), a.Registers env db db' attempt current := by
  cases h with
  | keep htables => exact Or.inl (candidateTables_eq htables).2.2.2.2.1
  | evaluates _ found => exact Or.inr ⟨_, _, _, found⟩
  | closes _ found => exact Or.inl (by rw [found.writes]; rfl)
  | binds _ found | verifies _ found | begins _ found | seals _ found | links _ found
  | prepares _ found => exact Or.inl (by rw [found.writes])

theorem sealed (h : CandidateStep call env snap db db') :
    db'.candidateEvaluatorArtifactSeal = db.candidateEvaluatorArtifactSeal ∨
      ∃ (a : CreateCandidateSeal) (attempt : CandidateEvaluatorAttempt),
        a.Creates env db db' attempt := by
  cases h with
  | keep htables => exact Or.inl (candidateTables_eq htables).2.2.2.2.2.1
  | seals _ found => exact Or.inr ⟨_, _, found⟩
  | closes _ found => exact Or.inl (by rw [found.writes]; rfl)
  | binds _ found | verifies _ found | begins _ found | evaluates _ found | links _ found
  | prepares _ found => exact Or.inl (by rw [found.writes])

theorem intents (h : CandidateStep call env snap db db') :
    db'.candidateCommitIntent = db.candidateCommitIntent ∨
      ∃ (a : PrepareCandidateCommit) (binding : CandidateContentBinding) (plan : Json)
        (planJson planSha256 : String), a.Prepares env db db' binding plan planJson planSha256 := by
  cases h with
  | keep htables => exact Or.inl (candidateTables_eq htables).2.2.2.2.2.2.2.1
  | prepares _ found => exact Or.inr ⟨_, _, _, _, _, found⟩
  | closes _ found => exact Or.inl (by rw [found.writes]; rfl)
  | binds _ found | verifies _ found | begins _ found | evaluates _ found | seals _ found
  | links _ found => exact Or.inl (by rw [found.writes])

theorem closed (h : CandidateStep call env snap db db') :
    db'.candidateCommitClosure = db.candidateCommitClosure ∨
      ∃ (a : CloseCandidate) (execution : SliceExecution) (binding : CandidateContentBinding)
        (approval : ApprovalRequest) (linked : ApprovalCandidateBinding)
        (evaluation : CandidateEvaluationResult) (commit : String) (event : TransitionEvent),
        call = .closeCandidate a ∧
          a.Closes env db db' execution binding approval linked evaluation commit event := by
  cases h with
  | keep htables => exact Or.inl (candidateTables_eq htables).2.2.2.2.2.2.2.2
  | closes from_call found => exact Or.inr ⟨_, _, _, _, _, _, _, _, from_call, found⟩
  | binds _ found | verifies _ found | begins _ found | evaluates _ found | seals _ found
  | links _ found | prepares _ found => exact Or.inl (by rw [found.writes])

end CandidateStep

/-! ## One step -/

namespace CandidateEvidence

theorem verifications_step (h : CandidateEvidence db) (hstep : CandidateStep call env snap db db')
    (hg : Grows db db') (hsnap : Grows snap db) :
    ∀ v ∈ db'.candidateVerificationResult, Verified db' v := by
  intro v hv
  rcases hstep.verifications with hsame | ⟨a, binding, execution, current, found⟩
  · rw [hsame] at hv
    exact (h.verifications v hv).grows hg
  · have hrows : db'.candidateVerificationResult = db.candidateVerificationResult ++ [a.row] := by
      rw [found.writes]
    rw [hrows] at hv
    rcases List.mem_append.mp hv with hv | hv
    · exact (h.verifications v hv).grows hg
    · obtain rfl := List.mem_singleton.mp hv
      have hread : Verified snap a.row := ⟨⟨binding, found.found, found.ofExecution, found.ofContent⟩,
        execution, found.seen, found.contract, found.authority⟩
      exact hread.grows (hsnap.trans hg)

theorem attempts_step (h : CandidateEvidence db) (hstep : CandidateStep call env snap db db')
    (hg : Grows db db') (hsnap : Grows snap db) :
    ∀ id t, db'.candidateAttempt? id = some t → Targeted db' t := by
  intro id t ht
  cases hold : db.candidateAttempt? id with
  | some old =>
    obtain ⟨t', ht', hsame⟩ := hg.attempts id old hold
    cases ht.symm.trans ht'
    exact (h.attempts id old hold).grows hg hsame
  | none =>
    obtain ⟨a, binding, verification, current, found, rfl⟩ := hstep.begun hold ht
    have hread : Targeted snap (a.row binding.candidateContentSha256 (env.clock 2)) :=
      ⟨⟨binding, found.found, found.ofExecution, rfl⟩,
        verification, found.verified, found.passed, found.ofCandidate, found.generation⟩
    exact hread.grows (hsnap.trans hg) (.refl _)

theorem evaluations_step (h : CandidateEvidence db) (hstep : CandidateStep call env snap db db')
    (hg : Grows db db') : ∀ e ∈ db'.candidateEvaluationResult, Evaluated db' e := by
  intro e he
  rcases hstep.evaluations with hsame | ⟨a, attempt, current, found⟩
  · rw [hsame] at he
    exact (h.evaluations e he).grows hg
  · have hrows : db'.candidateEvaluationResult = db.candidateEvaluationResult ++ [a.row] := by
      rw [found.writes]
    rw [hrows] at he
    rcases List.mem_append.mp he with he | he
    · exact (h.evaluations e he).grows hg
    · obtain rfl := List.mem_singleton.mp he
      obtain ⟨-, hof, -, -, hgeneration, -⟩ := found.running
      have hread : Evaluated db a.row :=
        ⟨attempt, found.found, hof, found.ofCandidate, found.ofContent, hgeneration⟩
      exact hread.grows hg

theorem seals_step (h : CandidateEvidence db) (hstep : CandidateStep call env snap db db')
    (hg : Grows db db') : ∀ s ∈ db'.candidateEvaluatorArtifactSeal, Sealed db' s := by
  intro s hs
  rcases hstep.sealed with hsame | ⟨a, attempt, found⟩
  · rw [hsame] at hs
    exact (h.seals s hs).grows hg
  · have hrows : db'.candidateEvaluatorArtifactSeal =
        db.candidateEvaluatorArtifactSeal ++ [a.row attempt (env.clock 2)] := by
      rw [found.writes]
    rw [hrows] at hs
    rcases List.mem_append.mp hs with hs | hs
    · exact (h.seals s hs).grows hg
    · obtain rfl := List.mem_singleton.mp hs
      have hread : Sealed db (a.row attempt (env.clock 2)) := ⟨attempt, found.found, rfl, rfl, rfl⟩
      exact hread.grows hg

/-- The seal that an attempt's phase finds is of the attempt's candidate. -/
theorem seal_of (h : CandidateEvidence db) {t : CandidateEvaluatorAttempt} {id : String}
    {phase : SealPhase} {s : CandidateEvaluatorArtifactSeal} (ht : db.candidateAttempt? id = some t)
    (hs : db.candidateSeal? t.evaluatorAttemptId phase = some s) :
    s.executionId = t.executionId ∧ s.candidateId = t.candidateId ∧
      s.candidateContentSha256 = t.candidateContentSha256 := by
  have hid : s.evaluatorAttemptId = t.evaluatorAttemptId := by
    have hfound := List.find?_some hs
    exact (of_decide_eq_true hfound).1
  obtain ⟨t', ht', hof, hcandidate, hcontent⟩ := h.seals s (List.mem_of_find?_eq_some hs)
  rw [hid, candidateAttempt?_id ht, ht] at ht'
  cases ht'
  exact ⟨hof.symm, hcandidate.symm, hcontent.symm⟩

/-- What a closure has found. -/
theorem closes (h : CandidateEvidence db) (hg : Grows db db') {a : CloseCandidate}
    {execution : SliceExecution} {binding : CandidateContentBinding} {approval : ApprovalRequest}
    {linked : ApprovalCandidateBinding} {evaluation : CandidateEvaluationResult} {commit : String}
    {event : TransitionEvent}
    (found : a.Closes env db db' execution binding approval linked evaluation commit event) :
    ∃ row b v t e pre post approval link,
      ClosureHeld db' (a.closure binding commit (env.clock 4)) row b v t e pre post approval link := by
  obtain ⟨attempt, pre, post, hattempt, hseals⟩ := found.authorized.seals
  obtain ⟨heof, hec⟩ := found.authorized.evaluatedTo
  obtain ⟨hlc, hle, hlof⟩ := found.authorized.linkTo
  obtain ⟨hlg, hla⟩ := found.authorized.linkAuthority
  obtain ⟨heg, hecontract, hea⟩ := found.authorized.evaluatedAuthority
  have hcontract := found.authorized.live.contract
  have hauthority := found.authorized.live.authority
  have hrow := found.authorized.live.live.2.1
  -- the evaluation is by the attempt, on the candidate
  have hmem := Table.lookup_mem found.authorized.evaluated
  obtain ⟨t, ht, htof, htc, hts, htg⟩ := h.evaluations evaluation hmem
  cases hattempt.symm.trans ht
  -- the attempt had a verification that passed, of the same candidate
  obtain ⟨-, v, hv, hpass, hvc, hvg⟩ := h.attempts _ _ hattempt
  obtain ⟨⟨b, hb, hbof, hbs⟩, row, hvrow, hvcontract, hvauthority⟩ :=
    h.verifications v (Table.lookup_mem hv)
  rw [hvc, htc, hec, found.authorized.bound] at hb
  cases hb
  have hvof : v.executionId = a.ids.executionId := hbof.symm.trans found.authorized.boundTo
  rw [hvof, hrow] at hvrow
  cases hvrow
  obtain ⟨row', hrow', hc', ha', -⟩ := hg.executions _ _ hrow
  obtain ⟨t', ht', hsame⟩ := hg.attempts _ _ hattempt
  have hid : t'.evaluatorAttemptId = attempt.evaluatorAttemptId :=
    (candidateAttempt?_id ht').trans (candidateAttempt?_id hattempt).symm
  have htarget : attempt.executionId = a.ids.executionId ∧ attempt.candidateId = a.ids.candidateId ∧
      attempt.candidateContentSha256 = binding.candidateContentSha256 :=
    ⟨htof.trans heof, htc.trans hec, hts.trans found.authorized.content⟩
  have hconsumed : db'.approvalRequest? a.ids.approvalId =
      some { approval with consumedAt := some (env.clock 4) } := by
    rw [found.writes]
    exact Table.lookup_update_self (fun _ hr => hr) found.authorized.asked
  refine ⟨row', binding, v, t', evaluation, pre, post, _, linked,
    { execution := hrow'
      candidate := Table.lookup_prefix hg.bindings found.authorized.bound
      candidateOf := ⟨found.authorized.boundTo, rfl, rfl⟩
      verification := by
        rw [hsame.verification]
        exact Table.lookup_prefix hg.verifications hv
      verified := ⟨hpass, hvof, hvc.trans htarget.2.1, hbs.symm, hvcontract.symm.trans hc'.symm,
        hvauthority.symm.trans ha'.symm⟩
      attempt := ht'
      attemptOf := ⟨hsame.execution.trans htarget.1, hsame.candidate.trans htarget.2.1,
        hsame.content.trans htarget.2.2⟩
      evaluation := Table.lookup_prefix hg.evaluations found.authorized.evaluated
      evaluated := ⟨found.authorized.passed, heof, hec, found.authorized.content,
        hecontract.trans (hcontract.symm.trans hc'.symm), hea.trans (hauthority.symm.trans ha'.symm)⟩
      seals := ⟨env, sealsMatch_grows hseals hg hid hsame⟩
      sealsOf := ?_
      asked := hconsumed
      approved := ⟨found.authorized.askedTo, found.authorized.approved, rfl⟩
      bound := Table.lookup_prefix hg.links found.authorized.link
      linked := ⟨hlof, hlc, hle, hla.trans (hauthority.symm.trans ha'.symm)⟩
      generation := ⟨hvg.trans (htg.trans (heg.trans hlg.symm)),
        hsame.generation.trans (htg.trans (heg.trans hlg.symm)), heg.trans hlg.symm⟩ }⟩
  have hof {phase : SealPhase} {s : CandidateEvaluatorArtifactSeal}
      (hs : db.candidateSeal? attempt.evaluatorAttemptId phase = some s) :
      s.executionId = a.ids.executionId ∧ s.candidateId = a.ids.candidateId ∧
        s.candidateContentSha256 = binding.candidateContentSha256 := by
    obtain ⟨hx, hc, hs⟩ := h.seal_of hattempt hs
    exact ⟨hx.trans htarget.1, hc.trans htarget.2.1, hs.trans htarget.2.2⟩
  intro s hs
  rcases List.mem_cons.mp hs with rfl | hs
  · exact hof hseals.found
  · obtain rfl := List.mem_singleton.mp hs
    exact hof hseals.foundPost

theorem closures_step (h : CandidateEvidence db) (hstep : CandidateStep call env snap db db')
    (hg : Grows db db') : ∀ c ∈ db'.candidateCommitClosure, ∃ row b v t e pre post approval link,
      ClosureHeld db' c row b v t e pre post approval link := by
  have old : ∀ c ∈ db.candidateCommitClosure, ∃ row b v t e pre post approval link,
      ClosureHeld db' c row b v t e pre post approval link := by
    intro c hc
    obtain ⟨row, b, v, t, e, pre, post, approval, link, hheld⟩ := h.closures c hc
    obtain ⟨row', t', hheld⟩ := hheld.grows hg
    exact ⟨row', b, v, t', e, pre, post, approval, link, hheld⟩
  intro c hc
  rcases hstep.closed with hsame | ⟨a, _, binding, _, _, _, commit, _, -, found⟩
  · rw [hsame] at hc
    exact old c hc
  · have hrows : db'.candidateCommitClosure =
        db.candidateCommitClosure ++ [a.closure binding commit (env.clock 4)] := by
      rw [found.writes]
    rw [hrows] at hc
    rcases List.mem_append.mp hc with hc | hc
    · exact old c hc
    · obtain rfl := List.mem_singleton.mp hc
      exact h.closes hg found

/-- One intent and one closure for each execution and each candidate. -/
theorem once (h : CandidateEvidence db) (hstep : CandidateStep call env snap db db') :
    (db'.candidateCommitIntent.map (·.executionId)).Nodup ∧
      (db'.candidateCommitIntent.map (·.candidateId)).Nodup ∧
      (db'.candidateCommitClosure.map (·.executionId)).Nodup ∧
      (db'.candidateCommitClosure.map (·.candidateId)).Nodup := by
  rw [← and_assoc]
  constructor
  · rcases hstep.intents with hsame | ⟨a, binding, plan, json, sha, found⟩
    · rw [hsame]
      exact ⟨h.intentExecutions, h.intentCandidates⟩
    · rw [found.writes]
      exact ⟨Table.distinct_append (Table.lookup_eq_none.mpr fun i hi => (found.first i hi).2)
          h.intentExecutions,
        Table.distinct_append (Table.lookup_eq_none.mpr found.unprepared) h.intentCandidates⟩
  · rcases hstep.closed with hsame | ⟨a, _, _, _, _, _, _, _, -, found⟩
    · rw [hsame]
      exact ⟨h.closureExecutions, h.closureCandidates⟩
    · rw [found.writes]
      exact ⟨Table.distinct_append (Table.lookup_eq_none.mpr fun c hc => (found.first c hc).1)
          h.closureExecutions,
        Table.distinct_append (Table.lookup_eq_none.mpr fun c hc => (found.first c hc).2.1)
          h.closureCandidates⟩

/-- Every call keeps what is known of the candidate path. -/
theorem step (h : CandidateEvidence db) (hsnap : Grows snap db)
    (hx : call.tx env snap db = .ok (c, db')) : CandidateEvidence db' := by
  have hstep := Call.candidateStep hx
  have hg := Call.grows hx
  obtain ⟨hie, hic, hce, hcc⟩ := h.once hstep
  exact ⟨h.verifications_step hstep hg hsnap, h.attempts_step hstep hg hsnap,
    h.evaluations_step hstep hg, h.seals_step hstep hg, h.closures_step hstep hg, hie, hic, hce, hcc⟩

theorem init : CandidateEvidence Db.init where
  verifications _ h := (List.not_mem_nil h).elim
  attempts _ _ h := by cases h
  evaluations _ h := (List.not_mem_nil h).elim
  seals _ h := (List.not_mem_nil h).elim
  closures _ h := (List.not_mem_nil h).elim
  intentExecutions := List.nodup_nil
  intentCandidates := List.nodup_nil
  closureExecutions := List.nodup_nil
  closureCandidates := List.nodup_nil

end CandidateEvidence

theorem Reachable.candidateEvidence (h : Reachable db) : CandidateEvidence db := by
  obtain ⟨past, run⟩ := h
  exact (run.growing CandidateEvidence.init
    fun env snap call db db' c _ hsnap _ hdb hx => hdb.step hsnap hx).1

/-! ## Closures over a run -/

variable {allowed : Env → Call → Db → Prop} {past : List Db}

/-- Approvals are of one execution, and an execution is closed once. -/
theorem CandidateEvidence.closureApprovals (h : CandidateEvidence db) :
    (db.candidateCommitClosure.map (·.approvalId)).Nodup := by
  apply List.Nodup.map_on ?_ (List.Nodup.of_map _ h.closureExecutions)
  intro c hc c' hc' hsame
  obtain ⟨row, b, v, t, e, pre, post, approval, link, hheld⟩ := h.closures c hc
  obtain ⟨row', b', v', t', e', pre', post', approval', link', hheld'⟩ := h.closures c' hc'
  have hasked := hheld.asked
  rw [hsame, hheld'.asked] at hasked
  obtain rfl := Option.some.inj hasked
  have hexecution : c.executionId = c'.executionId :=
    hheld.approved.1.symm.trans hheld'.approved.1
  exact List.inj_on_of_nodup_map h.closureExecutions hc hc' hexecution

/-- What is closed is not closed again. -/
theorem closeCandidate_again {a : CloseCandidate} (hclosed : ∃ c ∈ db.candidateCommitClosure,
      c.executionId = a.ids.executionId ∨ c.candidateId = a.ids.candidateId ∨
        c.closureId = a.ids.closureId) :
    Call.exec env snap (.closeCandidate a) db = db := by
  rcases (Call.closeCandidate a).exec_cases env snap db with hsame | ⟨c, hx⟩
  · exact hsame
  · rcases closeCandidateTx_ok hx with ⟨-, hsame⟩ | ⟨-, _, _, _, _, _, _, _, hcloses⟩
    · exact hsame
    · obtain ⟨closure, hmem, hids⟩ := hclosed
      obtain ⟨hexecution, hcandidate, hid⟩ := hcloses.first closure hmem
      rcases hids with h | h | h
      · exact (hexecution h).elim
      · exact (hcandidate h).elim
      · exact (hid h).elim

end Adcp.L4
