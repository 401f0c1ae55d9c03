import Adcp.L4Safety.EvidenceSteps

/-!
# What a call does to the candidate path

The tables of an uncommitted candidate only grow, but for the status of an
Evaluator attempt. Each operation of the path appends one row to the table of
its step, and no other operation touches them.

* `Call.candidateStep`: which operation a committed call is, and what it found.
* `Grows`, `Run.grows`: rows are kept from every earlier state of a run, those an
  operation read before its transaction among them.
* `Run.growing`: the invariant rule that has this at hand.
-/
namespace Adcp.L4

open Adcp.L1 Adcp.L2 Adcp.L3 ExecutionState

/-- The tables of the candidate path. -/
def candidateTables (db : Db) : List CandidateContentBinding × List CandidateProvenance ×
    List CandidateVerificationResult × List CandidateEvaluatorAttempt ×
    List CandidateEvaluationResult × List CandidateEvaluatorArtifactSeal ×
    List ApprovalCandidateBinding × List CandidateCommitIntent × List CandidateCommitClosure :=
  (db.candidateContentBinding, db.candidateProvenance, db.candidateVerificationResult,
    db.candidateEvaluatorAttempt, db.candidateEvaluationResult, db.candidateEvaluatorArtifactSeal,
    db.approvalCandidateBinding, db.candidateCommitIntent, db.candidateCommitClosure)

/-- The approval a committed call consumes, and what it was found to be granted for. -/
inductive Call.Spends (env : Env) (db : Db) : Call → String → ApprovalRequest → Prop
  | acceptance {a : AcceptExecution} {execution : SliceExecution}
      {commit evaluationId id : String} {approval : ApprovalRequest}
      (row : a.AcceptsExecution (env.clock 0) db execution commit)
      (found : a.Consumes db execution commit evaluationId id approval) :
      Spends env db (.acceptExecution a) id approval
  | rework {a : ScheduleHumanAuthorizedRework} {execution : SliceExecution} {commit : String}
      {approval : ApprovalRequest} {authorization : TransitionEvent} {metadata : Json}
      (found : a.Consumes db execution commit approval authorization metadata) :
      Spends env db (.scheduleHumanAuthorizedRework a) a.approvalId approval
  | closure {a : CloseCandidate} {execution : SliceExecution} {binding : CandidateContentBinding}
      {approval : ApprovalRequest} {linked : ApprovalCandidateBinding}
      {evaluation : CandidateEvaluationResult}
      (found : a.ids.Authorized env a.fence false db execution binding approval linked evaluation) :
      Spends env db (.closeCandidate a) a.ids.approvalId approval

/-- What a committed call does to the candidate path and to the approvals. -/
inductive CandidateStep (call : Call) (env : Env) (snap db db' : Db) : Prop
  | keep (h : candidateTables db' = candidateTables db)
      (approvals : ApprovalStep (call.Spends env db) db db'.approvalRequest)
  | binds {a : BindPrecommitCandidate} {execution : SliceExecution} {attempt : AgentAttempt}
      (from_call : call = .bindPrecommitCandidate a) (found : a.Binds env db db' execution attempt)
  | verifies {a : RegisterCandidateVerification} {binding : CandidateContentBinding}
      {execution current : SliceExecution} (from_call : call = .registerCandidateVerification a)
      (found : a.Registers env snap db db' binding execution current)
  | begins {a : BeginCandidateEvaluator} {binding : CandidateContentBinding}
      {verification : CandidateVerificationResult} {current : SliceExecution}
      (from_call : call = .beginCandidateEvaluator a)
      (found : a.Begins env snap db db' binding verification current)
  | evaluates {a : RegisterCandidateEvaluation} {attempt : CandidateEvaluatorAttempt}
      {current : SliceExecution} (from_call : call = .registerCandidateEvaluation a)
      (found : a.Registers env db db' attempt current)
  | seals {a : CreateCandidateSeal} {attempt : CandidateEvaluatorAttempt}
      (from_call : call = .createCandidateSeal a) (found : a.Creates env db db' attempt)
  | links {a : BindCandidateApproval} {approval : ApprovalRequest}
      {evaluation : CandidateEvaluationResult} (from_call : call = .bindCandidateApproval a)
      (found : a.Binds env snap db db' approval evaluation)
  | prepares {a : PrepareCandidateCommit} {binding : CandidateContentBinding} {plan : Json}
      {planJson planSha256 : String} (from_call : call = .prepareCandidateCommit a)
      (found : a.Prepares env db db' binding plan planJson planSha256)
  | closes {a : CloseCandidate} {execution : SliceExecution} {binding : CandidateContentBinding}
      {approval : ApprovalRequest} {linked : ApprovalCandidateBinding}
      {evaluation : CandidateEvaluationResult} {commit : String} {event : TransitionEvent}
      (from_call : call = .closeCandidate a)
      (found : a.Closes env db db' execution binding approval linked evaluation commit event)

variable {env : Env} {snap db db' : Db} {call : Call} {c : Commit}

theorem bumps_candidate {b : Bump} (h : Bumps b db db') : CandidateStep call env snap db db' := by
  obtain ⟨event, -, rfl⟩ := h
  exact .keep rfl (.keep rfl)

theorem writerFrame_candidate (h : WriterFrame db db') : CandidateStep call env snap db db' := by
  obtain ⟨lease, events, rfl⟩ := h
  exact .keep rfl (.keep rfl)

theorem Call.candidateStep (h : call.tx env snap db = .ok (c, db')) :
    CandidateStep call env snap db db' := by
  cases call with
  | createExecution spec key =>
    obtain ⟨r, s, hx, h⟩ := Tx.bind_ok.mp h
    cases Tx.pure_ok.mp h
    rcases createExecutionTx_ok hx with ⟨-, rfl⟩ | ⟨-, row, event, -, rfl⟩
    · exact .keep rfl (.keep rfl)
    · exact .keep rfl (.keep rfl)
  | bindDeferredExecution a =>
    rcases bindDeferredExecutionTx_ok h with ⟨-, rfl⟩ |
      ⟨-, row, event, context, set, old, sliceEvent, hbind, -⟩
    · exact .keep rfl (.keep rfl)
    · rw [hbind.eq]
      exact .keep rfl (.keep rfl)
  | acquireLease a =>
    rcases acquireLeaseTx_ok h with ⟨-, rfl⟩ | ⟨-, _, _, hb⟩
    · exact .keep rfl (.keep rfl)
    · exact bumps_candidate hb
  | heartbeat a =>
    obtain ⟨_, hx⟩ := done_ok h
    obtain ⟨row, expires, -, -, rfl⟩ := heartbeatTx_ok hx
    exact .keep rfl (.keep rfl)
  | releaseLease a =>
    rcases releaseLeaseTx_ok h with ⟨-, rfl⟩ | ⟨-, hb⟩
    · exact .keep rfl (.keep rfl)
    · exact bumps_candidate hb
  | transition a =>
    rcases transitionTx_ok h with ⟨-, rfl⟩ | ⟨-, hb⟩
    · exact .keep rfl (.keep rfl)
    · exact bumps_candidate hb
  | registerResultCommit a =>
    rcases registerResultCommitTx_ok h with ⟨-, rfl⟩ | ⟨-, hb⟩
    · exact .keep rfl (.keep rfl)
    · exact bumps_candidate hb
  | finalizeDeferredResultCommit a =>
    rcases finalizeDeferredResultCommitTx_ok h with ⟨-, rfl⟩ |
      ⟨-, _, _, _, _, _, hfinal⟩
    · exact .keep rfl (.keep rfl)
    · rw [hfinal.eq]
      exact .keep rfl (.keep rfl)
  | releaseDeferred a =>
    rcases releaseDeferredTx_ok h with ⟨-, rfl⟩ | ⟨-, _, _, _, _, hrelease⟩
    · exact .keep rfl (.keep rfl)
    · rw [hrelease.eq]
      exact .keep rfl (.keep rfl)
  | closeCandidate a =>
    rcases closeCandidateTx_ok h with ⟨-, rfl⟩ | ⟨-, _, _, _, _, _, _, _, hcloses⟩
    · exact .keep rfl (.keep rfl)
    · exact .closes rfl hcloses
  | authorizeHighRework a =>
    obtain ⟨_, hx⟩ := done_ok h
    obtain ⟨mid, h1, h2⟩ := authorizeHighReworkTx_ok hx
    obtain ⟨_, -, rfl⟩ := h1
    obtain ⟨_, -, rfl⟩ := h2
    exact .keep rfl (.keep rfl)
  | scheduleHumanAuthorizedRework a =>
    obtain ⟨_, hx⟩ := done_ok h
    obtain ⟨_, _, _, _, _, _, hconsumes, -, rfl⟩ := scheduleHumanAuthorizedReworkTx_ok hx
    exact .keep rfl (.consume hconsumes.found hconsumes.granted hconsumes.unused (.rework hconsumes) rfl)
  | scheduleRework a =>
    rcases scheduleReworkTx_ok h with ⟨-, rfl⟩ | ⟨-, hb⟩
    · exact .keep rfl (.keep rfl)
    · exact bumps_candidate hb
  | acceptExecution a =>
    rcases acceptExecutionTx_ok h with ⟨-, rfl⟩ | ⟨-, _, _, _, _, _, _, haccepts⟩
    · exact .keep rfl (.keep rfl)
    · obtain ⟨approvals, hconsumed, rfl⟩ := haccepts.writes
      refine .keep rfl ?_
      rcases hconsumed with ⟨-, rfl⟩ | ⟨_, _, hconsumes, rfl⟩
      · exact .keep rfl
      · exact .consume hconsumes.found hconsumes.granted hconsumes.unused
          (.acceptance haccepts.row hconsumes) rfl
  | reconcileSlice a =>
    obtain ⟨_, hx⟩ := done_ok h
    rcases reconcileSliceTx_ok hx with rfl | ⟨_, _, -, rfl⟩ | ⟨_, _, _, -, -, rfl⟩
    · exact .keep rfl (.keep rfl)
    · exact .keep rfl (.keep rfl)
    · exact .keep rfl (.keep rfl)
  | reconcileTransitionalAuthority g s r =>
    obtain ⟨_, hx⟩ := done_ok h
    rcases (reconcileTransitionalAuthorityTx_ok hx).2 with ⟨-, rfl⟩ | ⟨-, -, rfl⟩
    · exact .keep rfl (.keep rfl)
    · exact .keep rfl (.keep rfl)
  | transitionAuthority a =>
    obtain ⟨_, hx⟩ := done_ok h
    rcases transitionAuthorityTx_ok hx with ⟨-, rfl, -⟩ | ⟨-, -, -, -, rfl⟩
    · exact .keep rfl (.keep rfl)
    · exact .keep rfl (.keep rfl)
  | registerContextSnapshot a =>
    obtain ⟨_, hx⟩ := done_ok h
    rcases registerContextSnapshotTx_ok hx with rfl | ⟨row, -, -, hfree, rfl⟩
    · exact .keep rfl (.keep rfl)
    · exact .keep rfl (.keep rfl)
  | registerVerificationResult record =>
    obtain ⟨_, hx⟩ := done_ok h
    rcases registerVerificationResultTx_ok hx with rfl | ⟨hfree, rfl⟩
    · exact .keep rfl (.keep rfl)
    · exact .keep rfl (.keep rfl)
  | registerAgentAttempt a =>
    obtain ⟨_, hx⟩ := done_ok h
    rcases registerAgentAttemptTx_ok hx with rfl | ⟨hfree, hctx, rfl⟩
    · exact .keep rfl (.keep rfl)
    · exact .keep rfl (.keep rfl)
  | requestApproval a =>
    obtain ⟨_, hx⟩ := done_ok h
    rcases requestApprovalTx_ok hx with rfl | ⟨_, hrequests, rfl⟩
    · exact .keep rfl (.keep rfl)
    · exact .keep rfl (.request hrequests.free rfl rfl rfl)
  | resolveApproval a =>
    obtain ⟨_, hx⟩ := done_ok h
    rcases resolveApprovalTx_ok hx with rfl | ⟨_, hresolves, rfl⟩
    · exact .keep rfl (.keep rfl)
    · exact .keep rfl
        (.resolve hresolves.found hresolves.pending hresolves.unused a.status_ne rfl)
  | createEvaluatorArtifactSeal a =>
    rcases createEvaluatorArtifactSealTx_ok h with ⟨-, rfl⟩ |
      ⟨-, row, attempt, hspec, hfree, hfound, hfresh, rfl⟩
    · exact .keep rfl (.keep rfl)
    · exact .keep rfl (.keep rfl)
  | finishAgentAttempt a =>
    rcases finishAgentAttemptTx_ok h with ⟨-, rfl⟩ | ⟨-, attempt, outcome, hfound, hrun, rfl⟩
    · exact .keep rfl (.keep rfl)
    · exact .keep rfl (.keep rfl)
  | registerEvaluationResult a =>
    rcases registerEvaluationResultTx_ok h with ⟨-, rfl⟩ |
      ⟨-, record, row, attempt, hprepared, hrow, hfree, hfirst, hfound, hdone, rfl⟩
    · exact .keep rfl (.keep rfl)
    · exact .keep rfl (.keep rfl)
  | bindPrecommitCandidate a =>
    obtain ⟨_, hx⟩ := done_ok h
    obtain ⟨_, _, hbinds⟩ := bindPrecommitCandidateTx_ok hx
    exact .binds rfl hbinds
  | registerCandidateVerification a =>
    obtain ⟨_, hx⟩ := done_ok h
    obtain ⟨_, _, _, hregisters⟩ := registerCandidateVerificationTx_ok hx
    exact .verifies rfl hregisters
  | beginCandidateEvaluator a =>
    obtain ⟨_, hx⟩ := done_ok h
    obtain ⟨_, _, _, hbegins⟩ := beginCandidateEvaluatorTx_ok hx
    exact .begins rfl hbegins
  | registerCandidateEvaluation a =>
    obtain ⟨_, hx⟩ := done_ok h
    obtain ⟨_, _, hregisters⟩ := registerCandidateEvaluationTx_ok hx
    exact .evaluates rfl hregisters
  | createCandidateSeal a =>
    obtain ⟨_, hx⟩ := done_ok h
    obtain ⟨_, hcreates⟩ := createCandidateSealTx_ok hx
    exact .seals rfl hcreates
  | bindCandidateApproval a =>
    obtain ⟨_, hx⟩ := done_ok h
    obtain ⟨_, _, hbinds⟩ := bindCandidateApprovalTx_ok hx
    exact .links rfl hbinds
  | prepareCandidateCommit a =>
    obtain ⟨_, hx⟩ := done_ok h
    rcases prepareCandidateCommitTx_ok hx with ⟨rfl, -⟩ | ⟨_, _, _, _, hprepares⟩
    · exact .keep rfl (.keep rfl)
    · exact .prepares rfl hprepares
  | appendReceipt a =>
    obtain ⟨_, hx⟩ := done_ok h
    obtain ⟨_, _, -, -, -, -, rfl⟩ := appendReceiptTx_ok hx
    exact .keep rfl (.keep rfl)
  | projection p =>
    obtain ⟨_, hx⟩ := done_ok h
    obtain ⟨_, rfl⟩ := ProjectionCall.tx_ok hx
    exact .keep rfl (.keep rfl)
  | writer w =>
    cases w with
    | acquire a =>
      obtain ⟨_, hx⟩ := done_ok h
      rcases acquireWriterTx_ok hx with ⟨-, rfl⟩ | ⟨-, -, hf⟩
      · exact .keep rfl (.keep rfl)
      · exact writerFrame_candidate hf
    | heartbeat owner token ttl =>
      obtain ⟨_, hx⟩ := done_ok h
      exact writerFrame_candidate (heartbeatWriterTx_ok hx).2.2
    | release a =>
      obtain ⟨_, hx⟩ := done_ok h
      rcases releaseWriterTx_ok hx with ⟨-, rfl⟩ | ⟨-, -, -, hf⟩
      · exact .keep rfl (.keep rfl)
      · exact writerFrame_candidate hf
    | forceRevoke a =>
      obtain ⟨_, hx⟩ := done_ok h
      rcases revokeWriterTx_ok hx with ⟨-, rfl⟩ | ⟨-, -, -, hf⟩
      · exact .keep rfl (.keep rfl)
      · exact writerFrame_candidate hf
    | assertCurrent owner token =>
      obtain ⟨_, hx⟩ := done_ok h
      rw [(assertCurrentGlobalWriter_ok hx).2]
      exact .keep rfl (.keep rfl)

/-! ## What every run keeps -/

/-- The two attempts evaluate the same candidate under the same verification. -/
structure SameTarget (t t' : CandidateEvaluatorAttempt) : Prop where
  execution : t'.executionId = t.executionId
  candidate : t'.candidateId = t.candidateId
  verification : t'.verificationId = t.verificationId
  content : t'.candidateContentSha256 = t.candidateContentSha256
  generation : t'.authorityGeneration = t.authorityGeneration

theorem SameTarget.refl (t : CandidateEvaluatorAttempt) : SameTarget t t := ⟨rfl, rfl, rfl, rfl, rfl⟩

theorem SameTarget.trans {t u v : CandidateEvaluatorAttempt} (h : SameTarget t u)
    (h' : SameTarget u v) : SameTarget t v :=
  ⟨h'.execution.trans h.execution, h'.candidate.trans h.candidate,
    h'.verification.trans h.verification, h'.content.trans h.content,
    h'.generation.trans h.generation⟩

/-- The rows of `db` are in `db'`: those of the candidate path, the consumed
approvals, and of an execution its authority and that it has a result. -/
structure Grows (db db' : Db) : Prop where
  bindings : db.candidateContentBinding <+: db'.candidateContentBinding
  provenance : db.candidateProvenance <+: db'.candidateProvenance
  verifications : db.candidateVerificationResult <+: db'.candidateVerificationResult
  attempts : ∀ id t, db.candidateAttempt? id = some t →
    ∃ t', db'.candidateAttempt? id = some t' ∧ SameTarget t t'
  evaluations : db.candidateEvaluationResult <+: db'.candidateEvaluationResult
  seals : db.candidateEvaluatorArtifactSeal <+: db'.candidateEvaluatorArtifactSeal
  links : db.approvalCandidateBinding <+: db'.approvalCandidateBinding
  intents : db.candidateCommitIntent <+: db'.candidateCommitIntent
  closures : db.candidateCommitClosure <+: db'.candidateCommitClosure
  executions : ∀ id r, db.execution? id = some r → ∃ r', db'.execution? id = some r' ∧
    r'.contractFingerprint = r.contractFingerprint ∧
    r'.authorityFingerprint = r.authorityFingerprint ∧
    (r.resultCommit.isSome → r'.resultCommit.isSome)
  approvals : ∀ id r, db.approvalRequest? id = some r → r.status = .APPROVED →
    r.consumedAt.isSome → db'.approvalRequest? id = some r

theorem Grows.refl (db : Db) : Grows db db where
  bindings := List.prefix_refl _
  provenance := List.prefix_refl _
  verifications := List.prefix_refl _
  attempts _ t ht := ⟨t, ht, .refl t⟩
  evaluations := List.prefix_refl _
  seals := List.prefix_refl _
  links := List.prefix_refl _
  intents := List.prefix_refl _
  closures := List.prefix_refl _
  executions _ r hr := ⟨r, hr, rfl, rfl, id⟩
  approvals _ _ hr _ _ := hr

theorem Grows.trans {mid : Db} (h : Grows db mid) (h' : Grows mid db') : Grows db db' where
  bindings := h.bindings.trans h'.bindings
  provenance := h.provenance.trans h'.provenance
  verifications := h.verifications.trans h'.verifications
  attempts id t ht := by
    obtain ⟨u, hu, htu⟩ := h.attempts id t ht
    obtain ⟨v, hv, huv⟩ := h'.attempts id u hu
    exact ⟨v, hv, htu.trans huv⟩
  evaluations := h.evaluations.trans h'.evaluations
  seals := h.seals.trans h'.seals
  links := h.links.trans h'.links
  intents := h.intents.trans h'.intents
  closures := h.closures.trans h'.closures
  executions id r hr := by
    obtain ⟨s, hs, hc, ha, hres⟩ := h.executions id r hr
    obtain ⟨t, ht, hc', ha', hres'⟩ := h'.executions id s hs
    exact ⟨t, ht, hc'.trans hc, ha'.trans ha, fun hr => hres' (hres hr)⟩
  approvals id r hr hs hc := h'.approvals id r (h.approvals id r hr hs hc) hs hc

/-- No step changes the authority of an execution, or takes its result away. -/
theorem CoreStep.keepsAuthority {made : Bump → Db → Prop} (h : CoreStep made db db') {id : String}
    {r : SliceExecution} (hr : db.execution? id = some r) : ∃ r', db'.execution? id = some r' ∧
      r'.contractFingerprint = r.contractFingerprint ∧
      r'.authorityFingerprint = r.authorityFingerprint ∧
      (r.resultCommit.isSome → r'.resultCommit.isSome) := by
  cases h.execution id with
  | keep row => exact ⟨r, row ▸ hr, rfl, rfl, fun hres => hres⟩
  | create creates ofId =>
    have hnone : db.execution? id = none := ofId ▸ creates.free
    rw [hnone] at hr
    cases hr
  | renew found _ row =>
    cases found.symm.trans hr
    exact ⟨_, row, rfl, rfl, fun hres => hres⟩
  | @bump b _ _ _ _ found _ row =>
    cases found.symm.trans hr
    refine ⟨_, row, ?_⟩
    obtain ⟨_, k, _, _⟩ := b
    cases k <;> exact ⟨rfl, rfl, fun hres => by first | exact hres | rfl⟩

/-- A consumed approval is final. -/
theorem ApprovalStep.final {spends : String → ApprovalRequest → Prop}
    {approvals : List ApprovalRequest} (h : ApprovalStep spends db approvals) {id : String}
    {r : ApprovalRequest} (hr : db.approvalRequest? id = some r)
    (hc : r.consumedAt.isSome) : Table.lookup (·.approvalId) approvals id = some r := by
  have other {id' : String} {row : ApprovalRequest} {f : ApprovalRequest → ApprovalRequest}
      (hf : ∀ r : ApprovalRequest, (f r).approvalId = r.approvalId)
      (found : db.approvalRequest? id' = some row) (unused : row.consumedAt = none) :
      Table.lookup (·.approvalId) (Table.update (·.approvalId) db.approvalRequest id' f) id =
        some r := by
    have hne : id ≠ id' := by
      rintro rfl
      cases found.symm.trans hr
      rw [unused] at hc
      cases hc
    rw [Table.lookup_update_ne (fun r hr => (hf r).trans hr) hne]
    exact hr
  cases h with
  | keep h =>
    rw [h]
    exact hr
  | request _ _ _ h =>
    rw [h]
    exact Table.lookup_prefix (List.prefix_append _ _) hr
  | resolve found _ unused _ h =>
    rw [h]
    exact other (fun _ => rfl) found unused
  | consume found _ unused _ h =>
    rw [h]
    exact other (fun _ => rfl) found unused

theorem candidateTables_eq (h : candidateTables db' = candidateTables db) :
    db'.candidateContentBinding = db.candidateContentBinding ∧
      db'.candidateProvenance = db.candidateProvenance ∧
      db'.candidateVerificationResult = db.candidateVerificationResult ∧
      db'.candidateEvaluatorAttempt = db.candidateEvaluatorAttempt ∧
      db'.candidateEvaluationResult = db.candidateEvaluationResult ∧
      db'.candidateEvaluatorArtifactSeal = db.candidateEvaluatorArtifactSeal ∧
      db'.approvalCandidateBinding = db.approvalCandidateBinding ∧
      db'.candidateCommitIntent = db.candidateCommitIntent ∧
      db'.candidateCommitClosure = db.candidateCommitClosure := by
  simpa only [candidateTables, Prod.mk.injEq] using h

theorem bindings_prefix (a : BindPrecommitCandidate) (now : Timestamp) :
    db.candidateContentBinding <+: a.bindings db now := by
  unfold BindPrecommitCandidate.bindings
  split
  · exact List.prefix_refl _
  · exact List.prefix_append _ _

/-- An Evaluator attempt keeps what it evaluates. -/
theorem CandidateStep.attempts (h : CandidateStep call env snap db db') {id : String}
    {t : CandidateEvaluatorAttempt} (ht : db.candidateAttempt? id = some t) :
    ∃ t', db'.candidateAttempt? id = some t' ∧ SameTarget t t' := by
  have keep (hsame : db'.candidateEvaluatorAttempt = db.candidateEvaluatorAttempt) :
      ∃ t', db'.candidateAttempt? id = some t' ∧ SameTarget t t' := by
    refine ⟨t, ?_, .refl t⟩
    unfold Db.candidateAttempt? at ht ⊢
    rw [hsame, ht]
  cases h with
  | keep htables => exact keep (candidateTables_eq htables).2.2.2.1
  | binds _ found => exact keep (by rw [found.writes])
  | verifies _ found => exact keep (by rw [found.writes])
  | seals _ found => exact keep (by rw [found.writes])
  | links _ found => exact keep (by rw [found.writes])
  | prepares _ found => exact keep (by rw [found.writes])
  | closes _ found => exact keep (by rw [found.writes]; rfl)
  | begins _ found =>
    refine ⟨t, ?_, .refl t⟩
    rw [found.writes]
    exact Table.lookup_prefix (List.prefix_append _ _) ht
  | @evaluates a attempt current _ found =>
    let set (t : CandidateEvaluatorAttempt) : CandidateEvaluatorAttempt :=
      { t with status := .SUCCEEDED, endedAt := some a.row.endedAt }
    have hnew : db'.candidateAttempt? id = if id = a.row.evaluatorAttemptId then
        (db.candidateAttempt? a.row.evaluatorAttemptId).map set else db.candidateAttempt? id := by
      rw [found.writes]
      exact Table.lookup_update fun _ hr => hr
    rw [hnew]
    split
    · rename_i hid
      rw [← hid, ht]
      exact ⟨set t, rfl, rfl, rfl, rfl, rfl, rfl⟩
    · exact ⟨t, ht, .refl t⟩

/-- What a committed call does to the approvals. -/
theorem CandidateStep.approvalStep (h : CandidateStep call env snap db db') :
    ApprovalStep (call.Spends env db) db db'.approvalRequest := by
  cases h with
  | keep _ approvals => exact approvals
  | closes from_call found =>
    rw [found.writes]
    rcases found.authorized.unconsumed with hnone | hfalse
    · subst from_call
      exact .consume found.authorized.asked found.authorized.approved hnone
        (.closure found.authorized) rfl
    · cases hfalse
  | binds _ found => exact .keep (by rw [found.writes])
  | verifies _ found => exact .keep (by rw [found.writes])
  | begins _ found => exact .keep (by rw [found.writes])
  | evaluates _ found => exact .keep (by rw [found.writes])
  | seals _ found => exact .keep (by rw [found.writes])
  | links _ found => exact .keep (by rw [found.writes])
  | prepares _ found => exact .keep (by rw [found.writes])

theorem Call.grows (h : call.tx env snap db = .ok (c, db')) : Grows db db' := by
  have hstep := Call.candidateStep h
  have happrovals := hstep.approvalStep
  have hexecutions : ∀ id r, db.execution? id = some r → ∃ r', db'.execution? id = some r' ∧
      r'.contractFingerprint = r.contractFingerprint ∧
      r'.authorityFingerprint = r.authorityFingerprint ∧
      (r.resultCommit.isSome → r'.resultCommit.isSome) := by
    intro id r hr
    refine (Call.coreRun h).invariant (P := fun mid => ∃ r', mid.execution? id = some r' ∧
      r'.contractFingerprint = r.contractFingerprint ∧
      r'.authorityFingerprint = r.authorityFingerprint ∧
      (r.resultCommit.isSome → r'.resultCommit.isSome)) ?_ ⟨r, hr, rfl, rfl, fun hres => hres⟩
    rintro mid mid' hcore ⟨s, hs, hc, ha, hres⟩
    obtain ⟨t, ht, hc', ha', hres'⟩ := hcore.keepsAuthority hs
    exact ⟨t, ht, hc'.trans hc, ha'.trans ha, fun hr => hres' (hres hr)⟩
  refine ⟨?_, ?_, ?_, fun id t ht => hstep.attempts ht, ?_, ?_, ?_, ?_, ?_, hexecutions,
    fun id r hr _ hc => ApprovalStep.final happrovals hr hc⟩ <;>
  · cases hstep with
    | keep htables =>
      obtain ⟨h1, h2, h3, -, h5, h6, h7, h8, h9⟩ := candidateTables_eq htables
      simp only [h1, h2, h3, h5, h6, h7, h8, h9, List.prefix_refl]
    | binds _ found | verifies _ found | begins _ found | evaluates _ found | seals _ found
    | links _ found | prepares _ found | closes _ found =>
      have hwrites := found.writes
      subst hwrites
      first
        | exact List.prefix_refl _
        | exact List.prefix_append _ _
        | exact bindings_prefix _ _

variable {allowed : Env → Call → Db → Prop} {past : List Db}

/-- Every state of a run holds the rows of the earlier ones. -/
theorem Run.grows (h : Run allowed past db) : ∀ old ∈ db :: past, Grows old db := by
  induction h with
  | start =>
    intro old hold
    obtain rfl := List.mem_singleton.mp hold
    exact .refl _
  | @call past db snap env call run seen ok ih =>
    intro old hold
    have hgrows : Grows db (call.exec env snap db) := by
      rcases call.exec_cases env snap db with hx | ⟨c, hx⟩
      · rw [hx]
        exact .refl db
      · exact Call.grows hx
    rcases List.mem_cons.mp hold with rfl | hold
    · exact .refl _
    · exact (ih old hold).trans hgrows

/-- What holds at first, and is kept by every committing call whose earlier read
was of a state that has grown into this one, holds in every state of a run. -/
theorem Run.growing {P : Db → Prop} (hinit : P Db.init)
    (hstep : ∀ env snap call db db' c, allowed env call db → Grows snap db → P snap → P db →
      Call.tx env snap call db = .ok (c, db') → P db')
    (h : Run allowed past db) : P db ∧ ∀ old ∈ past, P old := by
  induction h with
  | start => exact ⟨hinit, fun _ hold => (List.not_mem_nil hold).elim⟩
  | @call past db snap env call run seen ok ih =>
    obtain ⟨hdb, hpast⟩ := ih
    have hall : ∀ old ∈ db :: past, P old := by
      intro old hold
      rcases List.mem_cons.mp hold with rfl | hold
      · exact hdb
      · exact hpast old hold
    refine ⟨?_, hall⟩
    rcases call.exec_cases env snap db with he | ⟨c, hx⟩
    · rw [he]
      exact hdb
    · exact hstep env snap call db _ c ok (run.grows snap seen) (hall snap seen) hdb hx

end Adcp.L4
