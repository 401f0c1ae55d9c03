import Adcp.L4Safety.EventLog

/-!
# What a call does to the evidence tables

The evidence of an execution is its context snapshots, agent attempts,
verification and evaluation results, evaluator seals and evidence manifests. A
call appends one row to one of these tables, completes one attempt, or leaves
them alone.

* `Call.evidenceStep`: which of these a committed call does, and what it found.
* `EvidenceStep.manifests`, `EvidenceStep.contexts`, `EvidenceStep.attempts`: what
  becomes of one table.
* `Reachable.inContext`: every attempt runs in a context of its own execution.
-/
namespace Adcp.L4

open Adcp.L1 Adcp.L2 Adcp.L3 ExecutionState

/-- The evidence tables. -/
def evidence (db : Db) : List ContextSnapshot × List AgentAttempt × List VerificationResult ×
    List EvaluationResult × List EvidenceManifestRow × List EvaluatorArtifactSeal :=
  (db.contextSnapshot, db.agentAttempt, db.verificationResult, db.evaluationResult,
    db.evidenceManifest, db.evaluatorArtifactSeal)

@[simp]
theorem evidence_eq {db db' : Db} : evidence db' = evidence db ↔
    db'.contextSnapshot = db.contextSnapshot ∧ db'.agentAttempt = db.agentAttempt ∧
      db'.verificationResult = db.verificationResult ∧
      db'.evaluationResult = db.evaluationResult ∧ db'.evidenceManifest = db.evidenceManifest ∧
      db'.evaluatorArtifactSeal = db.evaluatorArtifactSeal := by
  simp [evidence]

/-- What a bound candidate's Maker attempt becomes. -/
def candidateMade (now : Timestamp) (t : AgentAttempt) : AgentAttempt :=
  { t with status := .SUCCEEDED, exitCode := some 0, endedAt := some now.text }

/-- What a committed call does to the evidence tables. -/
inductive EvidenceStep (call : Call) (env : Env) (snap db db' : Db) : Prop
  | keep (h : evidence db' = evidence db)
  | snapshot {row : ContextSnapshot} (free : db.contextSnapshot? row.contextSnapshotId = none)
      (h : evidence db' = evidence { db with contextSnapshot := db.contextSnapshot ++ [row] })
  | verification {record : VerificationResultRecord}
      (from_call : call = .registerVerificationResult record)
      (free : db.verificationResult? record.row.verificationId = none)
      (h : evidence db' =
        evidence { db with verificationResult := db.verificationResult ++ [record.row] })
  | attempt {a : RegisterAgentAttempt} (from_call : call = .registerAgentAttempt a)
      (free : db.agentAttempt? a.attemptId = none) (inContext : a.row.InContext db)
      (h : evidence db' = evidence { db with agentAttempt := db.agentAttempt ++ [a.row] })
  | finish {a : FinishAgentAttempt} {attempt : AgentAttempt} {outcome : AttemptOutcome}
      (from_call : call = .finishAgentAttempt a)
      (found : db.agentAttempt? a.attemptId = some attempt) (running : attempt.status = .RUNNING)
      (h : evidence db' = evidence { db with
        agentAttempt := Table.update (·.attemptId) db.agentAttempt a.attemptId
          (AttemptOutcome.set outcome) })
  | candidate {a : BindPrecommitCandidate} {attempt : AgentAttempt}
      (from_call : call = .bindPrecommitCandidate a)
      (found : db.agentAttempt? a.makerAttemptId = some attempt) (role : attempt.role = .MAKER)
      (running : attempt.status = .RUNNING)
      (h : evidence db' = evidence { db with
        agentAttempt := Table.update (·.attemptId) db.agentAttempt a.makerAttemptId
          (candidateMade (env.clock 0)) })
  | sealed {a : CreateSeal} {row : EvaluatorArtifactSeal} {attempt : AgentAttempt}
      (from_call : call = .createEvaluatorArtifactSeal a) (ofSpec : row.toSealFields = a.spec)
      (free : db.evaluatorArtifactSeal? a.spec.sealId = none)
      (found : db.agentAttempt? a.spec.evaluatorAttemptId = some attempt)
      (fresh : a.spec.Fresh db attempt)
      (h : evidence db' =
        evidence { db with evaluatorArtifactSeal := db.evaluatorArtifactSeal ++ [row] })
  | evaluation {a : RegisterEvaluation} {record : EvaluationResultRecord} {row : EvaluationResult}
      {attempt : AgentAttempt} (from_call : call = .registerEvaluationResult a)
      (prepared : ∃ s, prepareEvaluation env a snap = .ok (record, s))
      (ofRecord : record.row = some row) (free : db.evaluationResult? row.evaluationId = none)
      (first : ∀ e ∈ db.evaluationResult, e.evaluatorAttemptId ≠ row.evaluatorAttemptId)
      (found : db.agentAttempt? record.evaluatorAttemptId = some attempt)
      (completed : attempt.Completed .EVALUATOR record.executionId record.resultCommit)
      (h : evidence db' = evidence { db with evaluationResult := db.evaluationResult ++ [row] })
  | manifest {a : AcceptExecution} {ids : EvidenceIds} {execution : SliceExecution}
      {commit : String} {rows : EvidenceRows} {manifest : EvidenceManifestRow}
      {event : TransitionEvent} (from_call : call = .acceptExecution a)
      (accepts : a.Accepts env db db' ids execution commit rows manifest event)
      (h : evidence db' =
        evidence { db with evidenceManifest := db.evidenceManifest ++ [manifest] })

variable {env : Env} {snap db db' : Db} {call : Call} {c : Commit}

theorem Bumps.evidence {b : Bump} (h : Bumps b db db') : evidence db' = evidence db := by
  obtain ⟨event, -, rfl⟩ := h
  rfl

theorem WriterFrame.evidence (h : WriterFrame db db') : evidence db' = evidence db := by
  obtain ⟨lease, events, rfl⟩ := h
  rfl

theorem Call.evidenceStep (h : call.tx env snap db = .ok (c, db')) :
    EvidenceStep call env snap db db' := by
  cases call with
  | createExecution spec key =>
    obtain ⟨r, s, hx, h⟩ := Tx.bind_ok.mp h
    cases Tx.pure_ok.mp h
    rcases createExecutionTx_ok hx with ⟨-, rfl⟩ | ⟨-, row, event, -, rfl⟩
    · exact .keep rfl
    · exact .keep rfl
  | bindDeferredExecution a =>
    rcases bindDeferredExecutionTx_ok h with ⟨-, rfl⟩ |
      ⟨-, row, event, context, set, old, sliceEvent, hbind, -⟩
    · exact .keep rfl
    · exact .snapshot hbind.newContext.1 (by rw [hbind.eq]; rfl)
  | acquireLease a =>
    rcases acquireLeaseTx_ok h with ⟨-, rfl⟩ | ⟨-, _, _, hb⟩
    · exact .keep rfl
    · exact .keep (Bumps.evidence hb)
  | heartbeat a =>
    obtain ⟨_, hx⟩ := done_ok h
    obtain ⟨row, expires, -, -, rfl⟩ := heartbeatTx_ok hx
    exact .keep rfl
  | releaseLease a =>
    rcases releaseLeaseTx_ok h with ⟨-, rfl⟩ | ⟨-, hb⟩
    · exact .keep rfl
    · exact .keep (Bumps.evidence hb)
  | transition a =>
    rcases transitionTx_ok h with ⟨-, rfl⟩ | ⟨-, hb⟩
    · exact .keep rfl
    · exact .keep (Bumps.evidence hb)
  | registerResultCommit a =>
    rcases registerResultCommitTx_ok h with ⟨-, rfl⟩ | ⟨-, hb⟩
    · exact .keep rfl
    · exact .keep (Bumps.evidence hb)
  | finalizeDeferredResultCommit a =>
    rcases finalizeDeferredResultCommitTx_ok h with ⟨-, rfl⟩ |
      ⟨-, _, _, _, _, _, hfinal⟩
    · exact .keep rfl
    · rw [hfinal.eq]
      exact .keep rfl
  | releaseDeferred a =>
    rcases releaseDeferredTx_ok h with ⟨-, rfl⟩ | ⟨-, _, _, _, _, hrelease⟩
    · exact .keep rfl
    · rw [hrelease.eq]
      exact .keep rfl
  | closeCandidate a =>
    rcases closeCandidateTx_ok h with ⟨-, rfl⟩ | ⟨-, _, _, _, _, _, commit, event, hcloses⟩
    · exact .keep rfl
    · exact .keep (by rw [hcloses.writes]; rfl)
  | authorizeHighRework a =>
    obtain ⟨_, hx⟩ := done_ok h
    obtain ⟨mid, h1, h2⟩ := authorizeHighReworkTx_ok hx
    exact .keep ((Bumps.evidence h2).trans (Bumps.evidence h1))
  | scheduleHumanAuthorizedRework a =>
    obtain ⟨_, hx⟩ := done_ok h
    obtain ⟨_, _, _, _, _, _, -, -, rfl⟩ := scheduleHumanAuthorizedReworkTx_ok hx
    exact .keep rfl
  | scheduleRework a =>
    rcases scheduleReworkTx_ok h with ⟨-, rfl⟩ | ⟨-, hb⟩
    · exact .keep rfl
    · exact .keep (Bumps.evidence hb)
  | acceptExecution a =>
    rcases acceptExecutionTx_ok h with ⟨-, rfl⟩ |
      ⟨-, ids, execution, commit, rows, manifest, event, haccepts⟩
    · exact .keep rfl
    · obtain ⟨approvals, -, hdb⟩ := haccepts.writes
      exact .manifest rfl haccepts (by rw [hdb]; rfl)
  | reconcileSlice a =>
    obtain ⟨_, hx⟩ := done_ok h
    rcases reconcileSliceTx_ok hx with rfl | ⟨_, _, -, rfl⟩ | ⟨_, _, _, -, -, rfl⟩
    · exact .keep rfl
    · exact .keep rfl
    · exact .keep rfl
  | reconcileTransitionalAuthority g s r =>
    obtain ⟨_, hx⟩ := done_ok h
    rcases (reconcileTransitionalAuthorityTx_ok hx).2 with ⟨-, rfl⟩ | ⟨-, -, rfl⟩
    · exact .keep rfl
    · exact .keep rfl
  | transitionAuthority a =>
    obtain ⟨_, hx⟩ := done_ok h
    rcases transitionAuthorityTx_ok hx with ⟨-, rfl, -⟩ | ⟨-, -, -, -, rfl⟩
    · exact .keep rfl
    · exact .keep rfl
  | registerContextSnapshot a =>
    obtain ⟨_, hx⟩ := done_ok h
    rcases registerContextSnapshotTx_ok hx with rfl | ⟨row, -, -, hfree, rfl⟩
    · exact .keep rfl
    · exact .snapshot hfree rfl
  | registerVerificationResult record =>
    obtain ⟨_, hx⟩ := done_ok h
    rcases registerVerificationResultTx_ok hx with rfl | ⟨hfree, rfl⟩
    · exact .keep rfl
    · exact .verification rfl hfree rfl
  | registerAgentAttempt a =>
    obtain ⟨_, hx⟩ := done_ok h
    rcases registerAgentAttemptTx_ok hx with rfl | ⟨hfree, hctx, rfl⟩
    · exact .keep rfl
    · exact .attempt rfl hfree hctx rfl
  | requestApproval a =>
    obtain ⟨_, hx⟩ := done_ok h
    rcases requestApprovalTx_ok hx with rfl | ⟨_, -, rfl⟩
    · exact .keep rfl
    · exact .keep rfl
  | resolveApproval a =>
    obtain ⟨_, hx⟩ := done_ok h
    rcases resolveApprovalTx_ok hx with rfl | ⟨_, -, rfl⟩
    · exact .keep rfl
    · exact .keep rfl
  | createEvaluatorArtifactSeal a =>
    rcases createEvaluatorArtifactSealTx_ok h with ⟨-, rfl⟩ |
      ⟨-, row, attempt, hspec, hfree, hfound, hfresh, rfl⟩
    · exact .keep rfl
    · exact .sealed rfl hspec hfree hfound hfresh rfl
  | finishAgentAttempt a =>
    rcases finishAgentAttemptTx_ok h with ⟨-, rfl⟩ | ⟨-, attempt, outcome, hfound, hrun, rfl⟩
    · exact .keep rfl
    · exact .finish rfl hfound hrun rfl
  | registerEvaluationResult a =>
    rcases registerEvaluationResultTx_ok h with ⟨-, rfl⟩ |
      ⟨-, record, row, attempt, hprepared, hrow, hfree, hfirst, hfound, hdone, rfl⟩
    · exact .keep rfl
    · exact .evaluation rfl hprepared hrow hfree hfirst hfound hdone rfl
  | bindPrecommitCandidate a =>
    obtain ⟨_, hx⟩ := done_ok h
    obtain ⟨execution, attempt, hbinds⟩ := bindPrecommitCandidateTx_ok hx
    exact .candidate rfl hbinds.found hbinds.role hbinds.running (by rw [hbinds.writes]; rfl)
  | registerCandidateVerification a =>
    obtain ⟨_, hx⟩ := done_ok h
    obtain ⟨_, _, _, hregisters⟩ := registerCandidateVerificationTx_ok hx
    exact .keep (by rw [hregisters.writes]; rfl)
  | beginCandidateEvaluator a =>
    obtain ⟨_, hx⟩ := done_ok h
    obtain ⟨_, _, _, hbegins⟩ := beginCandidateEvaluatorTx_ok hx
    exact .keep (by rw [hbegins.writes]; rfl)
  | registerCandidateEvaluation a =>
    obtain ⟨_, hx⟩ := done_ok h
    obtain ⟨_, _, hregisters⟩ := registerCandidateEvaluationTx_ok hx
    exact .keep (by rw [hregisters.writes]; rfl)
  | createCandidateSeal a =>
    obtain ⟨_, hx⟩ := done_ok h
    obtain ⟨_, hcreates⟩ := createCandidateSealTx_ok hx
    exact .keep (by rw [hcreates.writes]; rfl)
  | bindCandidateApproval a =>
    obtain ⟨_, hx⟩ := done_ok h
    obtain ⟨_, _, hbinds⟩ := bindCandidateApprovalTx_ok hx
    exact .keep (by rw [hbinds.writes]; rfl)
  | prepareCandidateCommit a =>
    obtain ⟨_, hx⟩ := done_ok h
    rcases prepareCandidateCommitTx_ok hx with ⟨rfl, -⟩ | ⟨_, _, _, _, hprepares⟩
    · exact .keep rfl
    · exact .keep (by rw [hprepares.writes]; rfl)
  | appendReceipt a =>
    obtain ⟨_, hx⟩ := done_ok h
    obtain ⟨_, _, -, -, -, -, rfl⟩ := appendReceiptTx_ok hx
    exact .keep rfl
  | projection p =>
    obtain ⟨_, hx⟩ := done_ok h
    obtain ⟨_, rfl⟩ := ProjectionCall.tx_ok hx
    exact .keep rfl
  | writer w =>
    cases w with
    | acquire a =>
      obtain ⟨_, hx⟩ := done_ok h
      rcases acquireWriterTx_ok hx with ⟨-, rfl⟩ | ⟨-, -, hf⟩
      · exact .keep rfl
      · exact .keep (WriterFrame.evidence hf)
    | heartbeat owner token ttl =>
      obtain ⟨_, hx⟩ := done_ok h
      exact .keep (WriterFrame.evidence (heartbeatWriterTx_ok hx).2.2)
    | release a =>
      obtain ⟨_, hx⟩ := done_ok h
      rcases releaseWriterTx_ok hx with ⟨-, rfl⟩ | ⟨-, -, -, hf⟩
      · exact .keep rfl
      · exact .keep (WriterFrame.evidence hf)
    | forceRevoke a =>
      obtain ⟨_, hx⟩ := done_ok h
      rcases revokeWriterTx_ok hx with ⟨-, rfl⟩ | ⟨-, -, -, hf⟩
      · exact .keep rfl
      · exact .keep (WriterFrame.evidence hf)
    | assertCurrent owner token =>
      obtain ⟨_, hx⟩ := done_ok h
      rw [(assertCurrentGlobalWriter_ok hx).2]
      exact .keep rfl

/-! ## One table at a time -/

namespace EvidenceStep

/-- Only an acceptance appends a manifest. -/
theorem manifests (h : EvidenceStep call env snap db db') :
    db'.evidenceManifest = db.evidenceManifest ∨
      ∃ a ids execution commit rows manifest event, call = .acceptExecution a ∧
        a.Accepts env db db' ids execution commit rows manifest event ∧
        db'.evidenceManifest = db.evidenceManifest ++ [manifest] := by
  cases h with
  | manifest from_call accepts he =>
    exact Or.inr ⟨_, _, _, _, _, _, _, from_call, accepts, (evidence_eq.mp he).2.2.2.2.1⟩
  | keep he => exact Or.inl (evidence_eq.mp he).2.2.2.2.1
  | snapshot _ he => exact Or.inl (evidence_eq.mp he).2.2.2.2.1
  | verification _ _ he => exact Or.inl (evidence_eq.mp he).2.2.2.2.1
  | attempt _ _ _ he => exact Or.inl (evidence_eq.mp he).2.2.2.2.1
  | finish _ _ _ he => exact Or.inl (evidence_eq.mp he).2.2.2.2.1
  | candidate _ _ _ _ he => exact Or.inl (evidence_eq.mp he).2.2.2.2.1
  | sealed _ _ _ _ _ he => exact Or.inl (evidence_eq.mp he).2.2.2.2.1
  | evaluation _ _ _ _ _ _ _ he => exact Or.inl (evidence_eq.mp he).2.2.2.2.1

/-- Contexts are only appended. -/
theorem contexts (h : EvidenceStep call env snap db db') :
    db.contextSnapshot <+: db'.contextSnapshot := by
  cases h with
  | snapshot _ he =>
    rw [(evidence_eq.mp he).1]
    exact List.prefix_append _ _
  | keep he | verification _ _ he | attempt _ _ _ he | finish _ _ _ he | candidate _ _ _ _ he
  | sealed _ _ _ _ _ he | evaluation _ _ _ _ _ _ _ he | manifest _ _ he =>
    simp only [(evidence_eq.mp he).1, List.prefix_refl]

end EvidenceStep

/-- The same attempt, as it was registered; what a completion writes may differ. -/
structure SameRun (t t' : AgentAttempt) : Prop where
  id : t'.attemptId = t.attemptId
  execution : t'.executionId = t.executionId
  role : t'.role = t.role
  context : t'.contextSnapshotId = t.contextSnapshotId

theorem SameRun.refl (t : AgentAttempt) : SameRun t t := ⟨rfl, rfl, rfl, rfl⟩

/-- An update of the columns a completion writes keeps every attempt. -/
theorem SameRun.updated {t' : AgentAttempt} {id : String} {f : AgentAttempt → AgentAttempt}
    (hf : ∀ t, SameRun t (f t))
    (h : t' ∈ Table.update (·.attemptId) db.agentAttempt id f) :
    ∃ t ∈ db.agentAttempt, SameRun t t' := by
  obtain ⟨t, ht, rfl⟩ := List.mem_map.mp h
  refine ⟨t, ht, ?_⟩
  split
  · exact hf t
  · exact .refl t

/-- Every attempt was there before, or it was registered in a context of its own. -/
theorem EvidenceStep.attempts (h : EvidenceStep call env snap db db') {t' : AgentAttempt}
    (ht : t' ∈ db'.agentAttempt) : (∃ t ∈ db.agentAttempt, SameRun t t') ∨ t'.InContext db := by
  cases h with
  | attempt _ _ hcontext he =>
    rw [(evidence_eq.mp he).2.1] at ht
    rcases List.mem_append.mp ht with ht | ht
    · exact Or.inl ⟨t', ht, .refl t'⟩
    · obtain rfl := List.mem_singleton.mp ht
      exact Or.inr hcontext
  | finish _ _ _ he =>
    rw [(evidence_eq.mp he).2.1] at ht
    refine Or.inl (SameRun.updated ?_ ht)
    exact fun _ => ⟨rfl, rfl, rfl, rfl⟩
  | candidate _ _ _ _ he =>
    rw [(evidence_eq.mp he).2.1] at ht
    refine Or.inl (SameRun.updated ?_ ht)
    exact fun _ => ⟨rfl, rfl, rfl, rfl⟩
  | keep he | snapshot _ he | verification _ _ he | sealed _ _ _ _ _ he
  | evaluation _ _ _ _ _ _ _ he | manifest _ _ he =>
    rw [(evidence_eq.mp he).2.1] at ht
    exact Or.inl ⟨t', ht, .refl t'⟩

theorem inContext_kept (h : db.contextSnapshot <+: db'.contextSnapshot) {t t' : AgentAttempt}
    (hsame : SameRun t t') (ht : t.InContext db) : t'.InContext db' := by
  obtain ⟨c, hc, hexecution, hrole⟩ := ht
  refine ⟨c, ?_, hexecution.trans hsame.execution.symm, hrole.trans hsame.role.symm⟩
  rw [hsame.context]
  exact Table.lookup_prefix h hc

theorem Reachable.inContext (h : Reachable db) : ∀ t ∈ db.agentAttempt, t.InContext db := by
  refine h.invariant (P := fun db => ∀ t ∈ db.agentAttempt, t.InContext db)
    (fun t ht => (List.not_mem_nil ht).elim) fun env snap call db db' c _ hdb hx t' ht' => ?_
  have hstep := Call.evidenceStep hx
  have hgrow := hstep.contexts
  rcases hstep.attempts ht' with ⟨t, ht, hsame⟩ | hcontext
  · exact inContext_kept hgrow hsame (hdb t ht)
  · exact inContext_kept hgrow (.refl t') hcontext

end Adcp.L4
