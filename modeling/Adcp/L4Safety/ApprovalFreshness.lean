import Adcp.L4Safety.ApprovalLifecycle

/-!
# An approval is for the next version

An acceptance hashes the version before its own into the reference it looks for in
the approval. The reference names no other version unless two of these documents
have one digest, so an approval that was asked for at one version is of use at the
next one only.

* `Run.eventsGrow`: the events of an execution are only appended.
* `Run.nextEvent`: between two versions that follow each other there is one event.
* `approval_fresh`: an acceptance that consumes an approval comes directly after
  the step out of the state it was asked for in, or exhibits a collision.
-/
namespace Adcp.L4

open Adcp.L1 Adcp.L2 Adcp.L3 ExecutionState

/-- What the reference of an acceptance approval hashes.
mirrors src/adcp/store/sqlite.py:5018-5027 -/
def authorizedRef (executionId : String) (version : Int)
    (commit evaluationId contract authority : String) : Json :=
  .obj [("execution_id", .str executionId), ("state_version", .int version),
    ("result_commit", .str commit), ("evaluation_id", .str evaluationId),
    ("contract_fingerprint", .str contract), ("authority_fingerprint", .str authority)]

/-- Two different documents with one digest. -/
def Collide (x y : Json) : Prop := x ≠ y ∧ canonicalSha256 x = canonicalSha256 y

variable {env : Env} {snap db db' : Db} {call : Call} {c : Commit}
  {allowed : Env → Call → Db → Prop} {past : List Db}

/-! ## The events of an execution -/

theorem CoreStep.eventsGrow {made : Bump → Db → Prop} (h : CoreStep made db db') (id : String) :
    db.events id <+: db'.events id := by
  cases h.execution id with
  | keep _ log | renew _ _ _ log => rw [log]
  | create _ _ _ log | bump _ _ _ _ _ log =>
    rw [log]
    exact List.prefix_append _ _

theorem Call.eventsGrow (h : call.tx env snap db = .ok (c, db')) (id : String) :
    db.events id <+: db'.events id :=
  (Call.coreRun h).invariant (P := fun mid => db.events id <+: mid.events id)
    (fun _ _ hstep hpre => hpre.trans (hstep.eventsGrow id)) (List.prefix_refl _)

/-- The log of an earlier state is a prefix of the later one's. -/
theorem Run.eventsGrow (h : Run allowed past db) (id : String) :
    ∀ old ∈ db :: past, old.events id <+: db.events id := by
  induction h with
  | start =>
    intro old hold
    rw [List.mem_singleton.mp hold]
  | @call past db snap env call run _ _ ih =>
    intro old hold
    rcases List.mem_cons.mp hold with rfl | hold
    · exact List.prefix_refl _
    · rcases call.exec_cases env snap db with hx | ⟨c, hx⟩
      · rw [hx]
        exact ih old hold
      · exact (ih old hold).trans (Call.eventsGrow hx id)

/-- Every state of a run is reachable. -/
theorem Run.reachable_past (h : Run allowed past db) : ∀ old ∈ db :: past, Reachable old := by
  induction h with
  | start =>
    intro old hold
    rw [List.mem_singleton.mp hold]
    exact ⟨[], .start⟩
  | @call past db snap env call run seen ok ih =>
    intro old hold
    rcases List.mem_cons.mp hold with rfl | hold
    · exact (Run.call run seen ok).reachable
    · exact ih old hold

/-- Between a version of an execution and the next one there is one event, from the
state of the one to the state of the other. -/
theorem Run.nextEvent {old : Db} {id : String} {row row' : SliceExecution}
    (h : Run allowed past db) (hold : old ∈ db :: past) (hrow : old.execution? id = some row)
    (hrow' : db.execution? id = some row') (hversion : row'.stateVersion = row.stateVersion + 1) :
    ∃ event, db.events id = old.events id ++ [event] ∧ event.fromState = some row.state ∧
      event.toState = row'.state := by
  have hbefore := (h.reachable_past old hold).logAgrees id
  have hafter := h.reachable.logAgrees id
  rw [hrow] at hbefore
  rw [hrow'] at hafter
  obtain ⟨n, hn, hlog⟩ := hbefore
  obtain ⟨m, hm, hlog'⟩ := hafter
  obtain rfl : m = n + 1 := by omega
  obtain ⟨rest, hrest⟩ := h.eventsGrow id old hold
  have hlen := hlog.length
  have hlen' := hlog'.length
  rw [← hrest, List.length_append, hlen] at hlen'
  obtain ⟨event, rfl⟩ : ∃ event, rest = [event] := List.length_eq_one_iff.mp (by omega)
  -- the event is the last of the later log, and the one before it the last of the earlier one
  obtain ⟨prior, hprior⟩ : ∃ prior, (old.events id)[n]? = some prior :=
    ⟨_, List.getElem?_eq_getElem (by omega)⟩
  have hlast : (old.events id).getLast?.map eventView.target = some row.state := hlog.last
  have hlast' : (db.events id).getLast?.map eventView.target = some row'.state := hlog'.last
  rw [List.getLast?_eq_getElem?, hlen, Nat.add_sub_cancel, hprior] at hlast
  rw [← hrest, List.getLast?_concat] at hlast'
  refine ⟨event, hrest.symm, ?_, Option.some.inj hlast'⟩
  rw [← hrest] at hlog'
  have hbefore : (old.events id ++ [event])[n]? = some prior := by
    rw [List.getElem?_append_left (by omega)]
    exact hprior
  have hafter : (old.events id ++ [event])[n + 1]? = some event := by
    rw [List.getElem?_append_right (by omega), hlen]
    simp
  exact (hlog'.chain hbefore hafter).trans hlast

/-! ## Acceptances -/

/-- An acceptance that consumes an approval has filed the evidence that the approval's
reference was made for, at the version before its own. -/
theorem acceptance_refers {a : AcceptExecution} {id : String}
    (hconsumes : consumesApproval id db ((Call.acceptExecution a).exec env snap db) = true) :
    ∃ execution approval manifest, db.execution? a.executionId = some execution ∧
      execution.state = EVALUATING ∧ db.approvalRequest? id = some approval ∧
      manifest ∈ ((Call.acceptExecution a).exec env snap db).evidenceManifest ∧
      manifest.executionId = a.executionId ∧
      canonicalSha256 (authorizedRef a.executionId (execution.stateVersion - 1)
        manifest.resultCommit manifest.evaluationId manifest.contractFingerprint
        manifest.authorityFingerprint) = .ok approval.authorityRef := by
  rcases (Call.acceptExecution a).exec_cases env snap db with hx | ⟨c, hx⟩
  · rw [hx, consumesApproval, Bool.and_not_self] at hconsumes
    cases hconsumes
  rcases acceptExecutionTx_ok hx with ⟨-, hsame⟩ |
    ⟨-, ids, execution, commit, rows, manifest, event, haccepts⟩
  · rw [hsame, consumesApproval, Bool.and_not_self] at hconsumes
    cases hconsumes
  obtain ⟨approvals, happrovals, hdb⟩ := haccepts.writes
  have happroved : ((Call.acceptExecution a).exec env snap db).approvalRequest = approvals := by
    rw [hdb]
  have hfiled : manifest ∈ ((Call.acceptExecution a).exec env snap db).evidenceManifest := by
    rw [hdb]
    exact List.mem_append_right _ (List.mem_singleton.mpr rfl)
  have hfiles := haccepts.files
  rcases happrovals with ⟨-, hkept⟩ | ⟨used, approval, hused, hspent⟩
  · -- none was required, and none consumed
    rw [hkept] at happroved
    unfold consumesApproval approvalConsumed Db.approvalRequest? at hconsumes
    rw [happroved, Bool.and_not_self] at hconsumes
    cases hconsumes
  · obtain rfl : id = used := by
      apply Classical.byContradiction
      intro hne
      unfold consumesApproval approvalConsumed Db.approvalRequest? at hconsumes
      rw [happroved, hspent, Table.lookup_update_ne (by intro r hr; exact hr) hne,
        Bool.and_not_self] at hconsumes
      cases hconsumes
    refine ⟨execution, approval, manifest, haccepts.row.found, haccepts.row.state, hused.found,
      hfiled, hfiles.ofExecution, ?_⟩
    have href := hused.ref
    unfold AcceptExecution.approvalRef at href
    rw [← haccepts.row.version] at href
    unfold authorizedRef
    rw [hfiles.commit, hfiles.evaluation, hfiles.contract, hfiles.authority]
    exact href

/-- **An approval does not survive a change.** In every run: if an acceptance consumes
an approval whose reference was made for the execution as some earlier state had it,
then the acceptance files that commit, evaluation, contract and authority, and exactly
one event was logged since, out of the state the execution had there and into
EVALUATING; or the two documents that the reference was made from differ and have one
digest. -/
theorem approval_fresh {asked : Db} {row : SliceExecution} {approval : ApprovalRequest}
    {a : AcceptExecution} {id commit evaluationId contract authority : String}
    (h : Run allowed past db) (hasked : asked ∈ db :: past)
    (hrow : asked.execution? a.executionId = some row)
    (hfound : db.approvalRequest? id = some approval)
    (href : canonicalSha256 (authorizedRef a.executionId row.stateVersion commit evaluationId
      contract authority) = .ok approval.authorityRef)
    (hconsumes : consumesApproval id db ((Call.acceptExecution a).exec env snap db) = true) :
    ∃ execution manifest, db.execution? a.executionId = some execution ∧
      manifest ∈ ((Call.acceptExecution a).exec env snap db).evidenceManifest ∧
      manifest.executionId = a.executionId ∧
      (Collide
        (authorizedRef a.executionId row.stateVersion commit evaluationId contract authority)
        (authorizedRef a.executionId (execution.stateVersion - 1) manifest.resultCommit
          manifest.evaluationId manifest.contractFingerprint manifest.authorityFingerprint) ∨
      (manifest.resultCommit = commit ∧ manifest.evaluationId = evaluationId ∧
        manifest.contractFingerprint = contract ∧ manifest.authorityFingerprint = authority ∧
        ∃ event, db.events a.executionId = asked.events a.executionId ++ [event] ∧
          event.fromState = some row.state ∧ event.toState = EVALUATING)) := by
  obtain ⟨execution, approval', manifest, hexecution, hstate, hfound', hfiled, hof, hnow⟩ :=
    acceptance_refers hconsumes
  obtain rfl : approval = approval' := Option.some.inj (hfound.symm.trans hfound')
  refine ⟨execution, manifest, hexecution, hfiled, hof, ?_⟩
  by_cases hsame : authorizedRef a.executionId row.stateVersion commit evaluationId contract
      authority = authorizedRef a.executionId (execution.stateVersion - 1) manifest.resultCommit
        manifest.evaluationId manifest.contractFingerprint manifest.authorityFingerprint
  · right
    simp only [authorizedRef, Json.obj.injEq, List.cons.injEq, Prod.mk.injEq, Json.str.injEq,
      Json.int.injEq, true_and, and_true] at hsame
    obtain ⟨hversion, hcommit, hevaluation, hcontract, hauthority⟩ := hsame
    obtain ⟨event, hlog, hfrom, hto⟩ := h.nextEvent hasked hrow hexecution (by omega)
    exact ⟨hcommit.symm, hevaluation.symm, hcontract.symm, hauthority.symm, event, hlog, hfrom,
      hto.trans hstate⟩
  · exact Or.inl ⟨hsame, href.trans hnow.symm⟩

/-- The database after a call that commits. -/
theorem Call.exec_run (hx : Tx.run (call.tx env db) db = .ok (c, db')) : call.exec env db db = db' :=
  Tx.atomically_run hx

/-- The sample execution, accepted under the approval that was asked for at version 6. -/
theorem approval_fresh_accepted :
    ∃ manifest ∈ (sampleAccepted "DEVELOPMENT_ACCEPTANCE").evidenceManifest,
      manifest.executionId = "execution" := by
  have hplain : ∀ {db db' : Db} {past : List Db} {id : String} {call : Call},
      Run (fun _ _ _ => True) past db → Tx.run (call.tx (sampleEnv id) db) db = .ok (.fresh, db') →
      Run (fun _ _ _ => True) (db :: past) db' := by
    intro db db' past id call hrun hx
    exact hrun.extend _ _ _ trivial hx
  obtain ⟨past, hjudged⟩ := @sampleJudged_run (fun _ _ _ => True) fun _ _ _ _ => ⟨trivial, trivial⟩
  have hwaiting := hplain (hjudged.extend _ _ _ trivial (sampleEvaluated_step .PASS))
    sampleWaiting_step
  have hasked := hplain hwaiting (@sampleAsked_step "DEVELOPMENT_ACCEPTANCE" (by decide) (by decide))
  have hreturned := hplain (hplain hasked (sampleGranted_step _)) (sampleReturned_step _)
  have hexec : (Call.acceptExecution sampleAccept).exec (sampleEnv "event-8")
      (sampleReturned "DEVELOPMENT_ACCEPTANCE") (sampleReturned "DEVELOPMENT_ACCEPTANCE") =
      sampleAccepted "DEVELOPMENT_ACCEPTANCE" :=
    Call.exec_run (sampleAccepted_step "DEVELOPMENT_ACCEPTANCE")
  have hrow : (sampleAsked "DEVELOPMENT_ACCEPTANCE").execution? sampleAccept.executionId =
      some (stagedRow WAITING_APPROVAL (some EVALUATING) (some (sampleKey 'e')) 6) := rfl
  have hfound : (sampleReturned "DEVELOPMENT_ACCEPTANCE").approvalRequest? "approval" =
      some (askedRow "DEVELOPMENT_ACCEPTANCE" .APPROVED (some .epoch) none) := rfl
  have href : canonicalSha256 (authorizedRef sampleAccept.executionId 6 (sampleKey 'e') "evaluation"
      (sampleKey 'c') (sampleKey 'a')) = .ok (acceptanceSha256 6) := by
    have hsame : authorizedRef sampleAccept.executionId 6 (sampleKey 'e') "evaluation" (sampleKey 'c')
        (sampleKey 'a') = acceptanceRef 6 := rfl
    rw [hsame]
    exact if_pos rfl
  have hconsumes : consumesApproval "approval" (sampleReturned "DEVELOPMENT_ACCEPTANCE")
      ((Call.acceptExecution sampleAccept).exec (sampleEnv "event-8")
        (sampleReturned "DEVELOPMENT_ACCEPTANCE") (sampleReturned "DEVELOPMENT_ACCEPTANCE")) =
      true := by
    rw [hexec]
    rfl
  obtain ⟨execution, manifest, -, hfiled, hof, -⟩ :=
    approval_fresh hreturned (by simp) hrow hfound href hconsumes
  rw [hexec] at hfiled
  exact ⟨manifest, hfiled, hof⟩

end Adcp.L4
