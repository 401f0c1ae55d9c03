import Adcp.L4Safety.EvidenceSteps

/-!
# What an acceptance rests on

`accept_execution` joins the manifest it is given with the rows of six tables.
Read together, the joins say that the store held the evidence when it accepted.

* `EvidenceHeld`: the evidence for one execution and commit, under the identities
  that the filed manifest row names.
* `ApprovalSpent`: a required approval was granted and unused before the call, and
  is consumed after it.
* `acceptance_sound`: an acceptance finds the one and does the other, and a call
  that fails leaves the four tables as they were.
-/
namespace Adcp.L4

open Adcp.L1 Adcp.L2 Adcp.L3 ExecutionState

/-- The store holds the evidence that the manifest `m`, filed as `row`, names for
this execution and commit. -/
structure EvidenceHeld (db : Db) (m : EvidenceManifest) (row : EvidenceManifestRow)
    (execution : SliceExecution) (commit : String) : Prop where
  bound : row.executionId = execution.executionId ∧ row.resultCommit = commit ∧
    row.contractFingerprint = execution.contractFingerprint ∧
    row.authorityFingerprint = execution.authorityFingerprint
  maker : ∃ t, db.agentAttempt? row.makerAttemptId = some t ∧
    t.Completed .MAKER execution.executionId commit
  verification : ∃ v, db.verificationResult? row.verificationId = some v ∧ v.verdict = .PASS ∧
    v.BoundTo execution.executionId commit execution.contractFingerprint
      execution.authorityFingerprint
  evaluation : ∃ e, db.evaluationResult? row.evaluationId = some e ∧ e.verdict = .PASS ∧
    e.BoundTo execution.executionId commit execution.contractFingerprint
      execution.authorityFingerprint ∧
    ∃ t, db.agentAttempt? e.evaluatorAttemptId = some t ∧
      t.Completed .EVALUATOR execution.executionId commit
  contexts : ∀ items, m.field "context_fingerprints" = some (.arr items) →
    ∀ item ∈ items, item.isObj = true → ∃ c ∈ db.contextSnapshot,
      c.executionId = execution.executionId ∧
        (⟨c.role, c.contextSnapshotId, c.fingerprint⟩ : ContextRef).matches item = true
  transitions : ∃ text,
    canonicalJson ((m.field "transition_evidence").getD (.arr [])) = .ok text ∧
    canonicalJson (transitionEvidence (db.events execution.executionId)) = .ok text ∧
    row.transitionEvidenceJson = text

/-- A granted approval of the execution, unused in `db` and consumed in `db'`. -/
def ApprovalSpent (a : AcceptExecution) (now : Timestamp) (db db' : Db) : Prop :=
  ∃ id approval, a.approvalId = some id ∧ db.approvalRequest? id = some approval ∧
    approval.executionId = a.executionId ∧ approval.status = .APPROVED ∧
    approval.consumedAt = none ∧
    db'.approvalRequest? id = some { approval with consumedAt := some now }

variable {env : Env} {db db' : Db} {a : AcceptExecution} {ids : EvidenceIds}
  {execution : SliceExecution} {commit : String} {rows : EvidenceRows}
  {manifest : EvidenceManifestRow} {event : TransitionEvent}

/-- The context of an attempt, which the manifest names, is stored for its
execution. -/
theorem contextRef_held (h : Reachable db) {t : AgentAttempt} {id : String} {ref : ContextRef}
    (ht : db.agentAttempt? id = some t)
    (href : ∃ c, db.contextSnapshot? t.contextSnapshotId = some c ∧
      ref = ⟨t.role, t.contextSnapshotId, c.fingerprint⟩) :
    ∃ c ∈ db.contextSnapshot, c.executionId = t.executionId ∧
      ref = ⟨c.role, c.contextSnapshotId, c.fingerprint⟩ := by
  obtain ⟨c, hc, rfl⟩ := href
  obtain ⟨c', hc', hexecution, hrole⟩ := h.inContext t (Table.lookup_mem ht)
  obtain rfl : c = c' := Option.some.inj (hc.symm.trans hc')
  have hid : c.contextSnapshotId = t.contextSnapshotId := Table.lookup_key hc
  refine ⟨c, Table.lookup_mem hc, hexecution, ?_⟩
  rw [hrole, hid]

theorem evidenceHeld (h : Reachable db)
    (accepts : a.Accepts env db db' ids execution commit rows manifest event) :
    EvidenceHeld db a.manifest manifest execution commit := by
  obtain ⟨row, evidence, ⟨maker, evaluator, contexts⟩, ⟨text, hnamed, hlog⟩, files, -⟩ := accepts
  have hid : execution.executionId = a.executionId := execution?_id row.found
  refine ⟨?_, ⟨rows.maker, ?_, ?_⟩, ⟨rows.verification, ?_, evidence.verificationPassed, ?_⟩,
    ⟨rows.evaluation, ?_, evidence.evaluationPassed, ?_, rows.evaluator, ?_, ?_⟩, ?_,
    text, hnamed, ?_, ?_⟩
  · exact ⟨files.ofExecution.trans hid.symm, files.commit, files.contract, files.authority⟩
  · rw [files.maker]
    exact evidence.maker
  · rw [hid]
    exact evidence.makerDone
  · rw [files.verification]
    exact evidence.verification
  · rw [hid]
    exact evidence.verificationBound
  · rw [files.evaluation]
    exact evidence.evaluation
  · rw [hid]
    exact evidence.evaluationBound
  · rw [evidence.produced]
    exact evidence.evaluator
  · rw [hid]
    exact evidence.evaluatorDone
  · intro items hitems item hitem hobj
    rcases contexts.named items hitems item hitem hobj with hmatch | hmatch
    · obtain ⟨c, hc, hof, href⟩ := contextRef_held h evidence.maker contexts.makerContext
      refine ⟨c, hc, hof.trans (evidence.makerDone.1.trans hid.symm), ?_⟩
      rw [← href]
      exact hmatch
    · obtain ⟨c, hc, hof, href⟩ := contextRef_held h evidence.evaluator contexts.evaluatorContext
      refine ⟨c, hc, hof.trans (evidence.evaluatorDone.1.trans hid.symm), ?_⟩
      rw [← href]
      exact hmatch
  · rw [hid]
    exact hlog
  · exact Except.ok.inj (files.transitions.symm.trans hnamed)

theorem approvalSpent (accepts : a.Accepts env db db' ids execution commit rows manifest event)
    (hrequired : a.approvalRequired db = true) : ApprovalSpent a (env.clock 0) db db' := by
  obtain ⟨approvals, hcase, rfl⟩ := accepts.writes
  rcases hcase with ⟨hnot, -⟩ | ⟨id, approval, consumes, rfl⟩
  · rw [hrequired] at hnot
    cases hnot
  · refine ⟨id, approval, consumes.named, consumes.found, consumes.ofExecution, consumes.granted,
      consumes.unused, ?_⟩
    exact Table.lookup_update_self (fun _ hr => hr) consumes.found

/-- The accepted row. -/
theorem accepted_row (accepts : a.Accepts env db db' ids execution commit rows manifest event) :
    db'.execution? a.executionId = some (AcceptExecution.accepted (env.clock 0) execution) := by
  obtain ⟨approvals, -, rfl⟩ := accepts.writes
  have hrow := db.bump_execution? (a.bump env) event a.executionId
  have hid : (a.bump env).executionId = a.executionId := rfl
  rw [hid, if_pos rfl, accepts.row.found] at hrow
  exact hrow

/-- A call that fails leaves the database as it was. -/
theorem acceptExecution_failed {e : PyError} (h : acceptExecution env a db = (.error e, db')) :
    db' = db := by
  unfold acceptExecution Tx.commitThen at h
  cases htx : acceptExecutionTx env a db with
  | error e' =>
    rw [htx] at h
    exact (congrArg Prod.snd h).symm
  | ok p =>
    obtain ⟨c, mid⟩ := p
    rw [htx] at h
    obtain rfl : mid = db' := congrArg Prod.snd h
    rcases acceptExecutionTx_ok htx with ⟨-, rfl⟩ | ⟨-, ids, execution, commit, rows, manifest, event,
      accepts⟩
    · rfl
    · -- the row it reads back is the one it has just written
      have hread : getExecution a.executionId mid =
          .ok (AcceptExecution.accepted (env.clock 0) execution, mid) :=
        Tx.find_ok.mpr ⟨accepted_row accepts, rfl⟩
      simp only [hread, Except.map, Prod.mk.injEq, reduceCtorEq, false_and] at h

abbrev sampleAcceptance : AcceptExecution where
  executionId := "execution"
  expectedStateVersion := 1
  operationKey := "key"
  manifest := ⟨.obj [], "", ""⟩
  leaseOwner := "owner"
  leaseGeneration := 1
  approvalId := none
  approvalAuthorityRef := none
  actorId := "owner"

end Adcp.L4
