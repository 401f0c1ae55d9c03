import Adcp.L4Safety.CandidateRuns
import Adcp.L4Safety.VerdictAuthenticity

/-!
# The life of an approval

An approval is asked for, then granted or refused, and a granted one may be used
once. Three operations use one: the acceptance of an execution, the rework a human
authorized, and the closure of a candidate. Each looks its approval up by a query of
its own.

* `approvalStage`, `ApprovalMove`: where an approval stands, and the moves it makes.
* `ApprovalStep.stage`, `ApprovalStep.consumes`: one step moves each approval by at
  most one move, and consumes at most one approval, one that the call `Spends`.
* `Run.stages`, `Run.consumed_once`: the same over a run.
* `approval_lifecycle`: all of it, in every run whose acceptances present only
  approvals of their own kind.
* `approval_of_another_kind`: the acceptance does not look at the kind.
-/
namespace Adcp.L4

open Adcp.L1 Adcp.L2 Adcp.L3 ExecutionState

/-! ## Stages and moves -/

/-- Where an approval stands: its status, and whether it is consumed. -/
def approvalStage (db : Db) (id : String) : Option (ApprovalStatus × Bool) :=
  (db.approvalRequest? id).map fun r => (r.status, r.consumedAt.isSome)

/-- The moves of an approval: `PENDING` to `APPROVED` to consumed, or `PENDING` to
`REJECTED`. -/
inductive ApprovalMove : Option (ApprovalStatus × Bool) → Option (ApprovalStatus × Bool) → Prop
  | asked : ApprovalMove none (some (.PENDING, false))
  | granted : ApprovalMove (some (.PENDING, false)) (some (.APPROVED, false))
  | refused : ApprovalMove (some (.PENDING, false)) (some (.REJECTED, false))
  | consumed : ApprovalMove (some (.APPROVED, false)) (some (.APPROVED, true))

def approvalConsumed (db : Db) (id : String) : Bool :=
  (db.approvalRequest? id).any (·.consumedAt.isSome)

/-- The step from `db` to `db'` consumes the approval. -/
def consumesApproval (id : String) (db db' : Db) : Bool :=
  approvalConsumed db' id && !approvalConsumed db id

theorem approvalConsumed_stage (db : Db) (id : String) :
    approvalConsumed db id = (approvalStage db id).any (·.2) := by
  unfold approvalConsumed approvalStage
  rw [Option.any_map]

variable {env : Env} {snap db db' : Db} {call : Call} {c : Commit}

/-! ## One step -/

theorem approvalRequest?_update {id : String} {row : ApprovalRequest}
    {set : ApprovalRequest → ApprovalRequest} (found : db.approvalRequest? id = some row)
    (h : db'.approvalRequest = Table.update (·.approvalId) db.approvalRequest id set)
    (hset : ∀ r, (set r).approvalId = r.approvalId) (id' : String) :
    db'.approvalRequest? id' = if id' = id then some (set row) else db.approvalRequest? id' := by
  unfold Db.approvalRequest? at found ⊢
  rw [h, Table.lookup_update fun r hr => (hset r).trans hr, found, Option.map_some]

/-- What one step does to the approval with this id. -/
inductive ApprovalAt (spends : String → ApprovalRequest → Prop) (id : String)
    (old new : Option ApprovalRequest) : Prop
  | keep (h : new = old)
  | ask {row : ApprovalRequest} (free : old = none) (pending : row.status = .PENDING)
      (unused : row.consumedAt = none) (h : new = some row)
  | resolve {row : ApprovalRequest} {status : ApprovalStatus} {now : Timestamp}
      (found : old = some row) (pending : row.status = .PENDING) (unused : row.consumedAt = none)
      (resolved : status ≠ .PENDING)
      (h : new = some { row with status := status, resolvedAt := some now })
  | consume {row : ApprovalRequest} {now : Timestamp} (found : old = some row)
      (granted : row.status = .APPROVED) (unused : row.consumedAt = none) (spent : spends id row)
      (h : new = some { row with consumedAt := some now })

theorem ApprovalStep.at {spends : String → ApprovalRequest → Prop}
    (h : ApprovalStep spends db db'.approvalRequest) (id : String) :
    ApprovalAt spends id (db.approvalRequest? id) (db'.approvalRequest? id) := by
  cases h with
  | keep h =>
    refine .keep ?_
    unfold Db.approvalRequest?
    rw [h]
  | @request row free pending unused h =>
    have hlookup : db'.approvalRequest? id =
        if id = row.approvalId then some row else db.approvalRequest? id := by
      unfold Db.approvalRequest? at free ⊢
      rw [h]
      exact Table.lookup_append free
    by_cases hid : id = row.approvalId
    · rw [if_pos hid] at hlookup
      exact .ask (hid ▸ free) pending unused hlookup
    · rw [if_neg hid] at hlookup
      exact .keep hlookup
  | @resolve id' row status now found pending unused resolved h =>
    have hlookup := approvalRequest?_update found h (fun _ => rfl) id
    by_cases hid : id = id'
    · rw [if_pos hid] at hlookup
      exact .resolve (hid ▸ found) pending unused resolved hlookup
    · rw [if_neg hid] at hlookup
      exact .keep hlookup
  | @consume id' row now found granted unused spent h =>
    have hlookup := approvalRequest?_update found h (fun _ => rfl) id
    by_cases hid : id = id'
    · rw [if_pos hid] at hlookup
      exact .consume (hid ▸ found) granted unused (hid ▸ spent) hlookup
    · rw [if_neg hid] at hlookup
      exact .keep hlookup

/-- Each approval stays where it is, or makes one move. -/
theorem ApprovalStep.stage {spends : String → ApprovalRequest → Prop}
    (h : ApprovalStep spends db db'.approvalRequest) (id : String) :
    approvalStage db' id = approvalStage db id ∨
      ApprovalMove (approvalStage db id) (approvalStage db' id) := by
  unfold approvalStage
  cases ApprovalStep.at h id with
  | keep h =>
    left
    rw [h]
  | ask free pending unused h =>
    rw [free, h, Option.map_none, Option.map_some, pending, unused]
    exact Or.inr .asked
  | @resolve row status now found pending unused resolved h =>
    rw [found, h, Option.map_some, Option.map_some, pending, unused]
    cases status with
    | PENDING => exact absurd rfl resolved
    | APPROVED => exact Or.inr .granted
    | REJECTED => exact Or.inr .refused
  | consume found granted unused spent h =>
    rw [found, h, Option.map_some, Option.map_some, granted, unused]
    exact Or.inr .consumed

/-- What a step consumes, it spends. -/
theorem ApprovalStep.consumes {spends : String → ApprovalRequest → Prop} {id : String}
    (h : ApprovalStep spends db db'.approvalRequest)
    (hconsumes : consumesApproval id db db' = true) :
    ∃ row, db.approvalRequest? id = some row ∧ row.status = .APPROVED ∧ row.consumedAt = none ∧
      spends id row := by
  unfold consumesApproval approvalConsumed at hconsumes
  cases ApprovalStep.at h id with
  | keep h =>
    rw [h, Bool.and_not_self] at hconsumes
    cases hconsumes
  | ask free pending unused h =>
    rw [h, Option.any_some, unused] at hconsumes
    cases hconsumes
  | resolve found pending unused resolved h =>
    rw [h, Option.any_some, unused] at hconsumes
    cases hconsumes
  | consume found granted unused spent h => exact ⟨_, found, granted, unused, spent⟩

/-- A consumed approval stays consumed. -/
theorem approvalConsumed_mono {id : String}
    (h : approvalStage db' id = approvalStage db id ∨
      ApprovalMove (approvalStage db id) (approvalStage db' id))
    (hconsumed : approvalConsumed db id = true) : approvalConsumed db' id = true := by
  rw [approvalConsumed_stage] at hconsumed ⊢
  rcases h with hsame | hmove
  · rw [hsame, hconsumed]
  · generalize approvalStage db id = old at hconsumed hmove
    generalize approvalStage db' id = new at hmove ⊢
    cases hmove with
    | asked | granted | refused => cases hconsumed
    | consumed => rfl

/-- A statement that consumes one approval consumes no other. -/
theorem consumesApproval_update {id : String} {row : ApprovalRequest} {now : Timestamp}
    (found : db.approvalRequest? id = some row) (unused : row.consumedAt = none)
    (h : db'.approvalRequest = Table.update (·.approvalId) db.approvalRequest id
      (fun r => { r with consumedAt := some now })) (id' : String) :
    consumesApproval id' db db' = true ↔ id' = id := by
  have hlookup := approvalRequest?_update found h (fun _ => rfl) id'
  unfold consumesApproval approvalConsumed
  rw [hlookup]
  by_cases hid : id' = id
  · rw [if_pos hid, hid, found, Option.any_some, Option.any_some, unused]
    simp
  · rw [if_neg hid]
    simp [hid]

/-! ## The calls that use an approval -/

/-- The execution a call acts on by an approval, and the kind of approval it takes. -/
def Call.approvalUse? : Call → Option (String × String)
  | .acceptExecution a => some (a.executionId, "DEVELOPMENT_ACCEPTANCE")
  | .scheduleHumanAuthorizedRework a => some (a.executionId, "HIGH_REWORK")
  | .closeCandidate a => some (a.ids.executionId, "DEVELOPMENT_ACCEPTANCE")
  | _ => none

/-- The call needs an approval: it closes a candidate, or reworks, or accepts an
execution of which an approval is required. -/
def Call.NeedsApproval (call : Call) (db : Db) : Prop :=
  match call with
  | .acceptExecution a => a.approvalRequired db = true
  | .scheduleHumanAuthorizedRework _ | .closeCandidate _ => True
  | _ => False

/-- The approval was granted for this execution and kind of action, and for the exact
binding the call acts on. -/
structure Call.Authorized (call : Call) (env : Env) (db : Db) (id : String)
    (approval : ApprovalRequest) : Prop where
  found : db.approvalRequest? id = some approval
  granted : approval.status = .APPROVED
  unused : approval.consumedAt = none
  use : call.approvalUse? = some (approval.executionId, approval.approvalType)
  binding : call.Spends env db id approval

/-- The approval that an acceptance presents and may use. -/
structure AcceptExecution.Presents (a : AcceptExecution) (db : Db) (id : String)
    (approval : ApprovalRequest) : Prop where
  named : a.approvalId = some id
  ref : a.approvalAuthorityRef = some approval.authorityRef
  found : db.approvalRequest? id = some approval
  ofExecution : approval.executionId = a.executionId
  granted : approval.status = .APPROVED
  unused : approval.consumedAt = none

/-- An acceptance presents only an approval of its own kind. -/
def Call.PresentsOwnKind (call : Call) (db : Db) : Prop :=
  ∀ a id approval, call = .acceptExecution a → AcceptExecution.Presents a db id approval →
    approval.approvalType = "DEVELOPMENT_ACCEPTANCE"

theorem Call.Spends.authorized {id : String} {row : ApprovalRequest}
    (h : call.Spends env db id row) (hkind : call.PresentsOwnKind db) :
    call.Authorized env db id row := by
  cases h with
  | @acceptance a execution commit evaluationId id approval hrow found =>
    have hpresents : AcceptExecution.Presents a db id row :=
      ⟨found.named, found.presented, found.found, found.ofExecution, found.granted, found.unused⟩
    refine ⟨found.found, found.granted, found.unused, ?_, .acceptance hrow found⟩
    rw [found.ofExecution, hkind a id row rfl hpresents]
    rfl
  | rework found =>
    refine ⟨found.found, found.granted, found.unused, ?_, .rework found⟩
    rw [found.ofExecution, found.kind]
    rfl
  | closure found =>
    have hunused : row.consumedAt = none := by
      rcases found.unconsumed with hnone | hfalse
      · exact hnone
      · cases hfalse
    refine ⟨found.asked, found.approved, hunused, ?_, .closure found⟩
    rw [found.askedTo, found.kind]
    rfl

/-- A call that needs an approval consumes exactly one, one that it spends. -/
theorem Call.NeedsApproval.consumes (hneeds : call.NeedsApproval db)
    (h : call.tx env snap db = .ok (.fresh, db')) :
    ∃ id row, call.Spends env db id row ∧ ∀ id', consumesApproval id' db db' = true ↔ id' = id := by
  unfold Call.NeedsApproval at hneeds
  cases call with
  | acceptExecution a =>
    rcases acceptExecutionTx_ok h with ⟨hc, -⟩ | ⟨-, _, _, _, _, _, _, haccepts⟩
    · cases hc
    · obtain ⟨approvals, ⟨hfree, -⟩ | ⟨id, row, hconsumes, happrovals⟩, hdb⟩ := haccepts.writes
      · rw [hneeds] at hfree
        cases hfree
      · refine ⟨id, row, .acceptance haccepts.row hconsumes,
          consumesApproval_update hconsumes.found hconsumes.unused
            ((congrArg Db.approvalRequest hdb).trans happrovals)⟩
  | scheduleHumanAuthorizedRework a =>
    obtain ⟨_, hx⟩ := done_ok h
    obtain ⟨_, _, row, _, _, _, hconsumes, -, hdb⟩ := scheduleHumanAuthorizedReworkTx_ok hx
    refine ⟨a.approvalId, row, .rework hconsumes,
      consumesApproval_update hconsumes.found hconsumes.unused
        (congrArg Db.approvalRequest hdb)⟩
  | closeCandidate a =>
    rcases closeCandidateTx_ok h with ⟨hc, -⟩ | ⟨-, _, _, row, _, _, _, _, hcloses⟩
    · cases hc
    · have hunused : row.consumedAt = none := by
        rcases hcloses.authorized.unconsumed with hnone | hfalse
        · exact hnone
        · cases hfalse
      refine ⟨a.ids.approvalId, row, .closure hcloses.authorized,
        consumesApproval_update hcloses.authorized.asked hunused
          (congrArg Db.approvalRequest hcloses.writes)⟩
  | _ => exact hneeds.elim

/-! ## Runs -/

variable {allowed : Env → Call → Db → Prop} {past : List Db}

/-- From one state of a run to the next each approval stays where it is, or makes one
move. -/
theorem Run.stages (h : Run allowed past db) (id : String) :
    (db :: past).IsChain fun new old => approvalStage new id = approvalStage old id ∨
      ApprovalMove (approvalStage old id) (approvalStage new id) := by
  induction h with
  | start => exact .singleton _
  | @call past db snap env call run seen ok ih =>
    refine .cons_cons ?_ ih
    rcases call.exec_cases env snap db with hx | ⟨c, hx⟩
    · rw [hx]
      exact Or.inl rfl
    · exact ApprovalStep.stage (Call.candidateStep hx).approvalStep id

/-- How often the approval is consumed along a run. -/
def consumptions (id : String) (db : Db) (past : List Db) : Nat :=
  ((db :: past).zip past).countP fun p => consumesApproval id p.2 p.1

/-- Along a run an approval is consumed once if it is consumed, and else never. -/
theorem Run.consumed_once (h : Run allowed past db) (id : String) :
    consumptions id db past = if approvalConsumed db id then 1 else 0 := by
  induction h with
  | start => rfl
  | @call past db snap env call run seen ok ih =>
    have hstage : approvalStage (call.exec env snap db) id = approvalStage db id ∨
        ApprovalMove (approvalStage db id) (approvalStage (call.exec env snap db) id) :=
      (List.isChain_cons_cons.mp ((Run.call run seen ok).stages id)).1
    have hmono := approvalConsumed_mono hstage
    have hcount : consumptions id (call.exec env snap db) (db :: past) =
        consumptions id db past +
          if consumesApproval id db (call.exec env snap db) then 1 else 0 := by
      unfold consumptions
      rw [List.zip_cons_cons, List.countP_cons]
    rw [hcount, ih]
    unfold consumesApproval
    generalize approvalConsumed db id = old at hmono ⊢
    generalize approvalConsumed (call.exec env snap db) id = new at hmono ⊢
    cases old with
    | true => simp [hmono rfl]
    | false => cases new <;> rfl

/-- **Approval lifecycle.** In every run whose acceptances present only approvals of
their own kind: from one state to the next an approval moves only from `PENDING` to
`APPROVED` to consumed, or from `PENDING` to `REJECTED`; it is consumed at most once;
the next call, if it accepts where an approval is required, reworks by human authority
or closes a candidate, consumes exactly one approval; and whatever a call consumes was
granted for its execution, its kind of action and its exact binding. -/
theorem approval_lifecycle (h : Run (fun _ call db => call.PresentsOwnKind db) past db) :
    (∀ id, (db :: past).IsChain fun new old => approvalStage new id = approvalStage old id ∨
      ApprovalMove (approvalStage old id) (approvalStage new id)) ∧
    (∀ id, consumptions id db past ≤ 1) ∧
    ∀ (env : Env) (snap db' : Db) (call : Call), call.PresentsOwnKind db →
      (call.NeedsApproval db → call.tx env snap db = .ok (.fresh, db') →
        ∃ id row, call.Authorized env db id row ∧
          ∀ id', consumesApproval id' db db' = true ↔ id' = id) ∧
      ∀ c id, call.tx env snap db = .ok (c, db') → consumesApproval id db db' = true →
        ∃ row, call.Authorized env db id row := by
  refine ⟨h.stages, fun id => ?_, fun env snap db' call hkind => ⟨fun hneeds hx => ?_, ?_⟩⟩
  · rw [h.consumed_once id]
    split
    · exact Nat.le_refl 1
    · exact Nat.zero_le 1
  · obtain ⟨id, row, hspends, honly⟩ := hneeds.consumes hx
    exact ⟨id, row, hspends.authorized hkind, honly⟩
  · intro c id hx hconsumes
    obtain ⟨row, -, -, -, hspends⟩ :=
      ApprovalStep.consumes (Call.candidateStep hx).approvalStep hconsumes
    exact ⟨row, hspends.authorized hkind⟩

/-! ## The sample execution, accepted under an approval -/

abbrev sampleWaiting : Db :=
  { (sampleEvaluated .PASS) with
    sliceExecution := [stagedRow WAITING_APPROVAL (some EVALUATING) (some (sampleKey 'e')) 6]
    transitionEvent := (sampleEvaluated .PASS).transitionEvent ++
      [movedEvent 'c' 5 EVALUATING WAITING_APPROVAL (some EVALUATING) 7 "event-6"] }

theorem sampleWaiting_step :
    Tx.run (Call.tx (sampleEnv "event-6") (sampleEvaluated .PASS)
      (.transition (sampleMove 'c' 5 WAITING_APPROVAL (some EVALUATING)))) (sampleEvaluated .PASS) =
      .ok (.fresh, sampleWaiting) := by
  simp -dsimp [Call.tx, transitionTx, Transition.body, Transition.requireBlocker, Transition.set,
    Transition.eventType, Transition.payload, ExecutionState.value, ActorRole.value, requireFence,
    FenceLive, validateTransition, Edge, transitions, requireOptionalFence, requireSha256,
    Timestamp.lt_def, Timestamp.epoch, replayOr, existingEvent, getExecution, updateExecution,
    Option.filter_some, canonicalJson, Json.noFloat, Json.noFloatFields, Json.ofOption, Db.init,
    isLowerHex, requireChecks, insertEvent, executionChecks, columnChecks, companionChecks,
    commitLength, ExecutionCreate.row, resumeCheck, acceptedCheck, blockerCheck, openConflict,
    terminalStates, eventChecks, EventFields.row, ExecutionCreate.event, Db.execution?,
    Table.lookup, Table.update, Db.events, RiskLevel.maxAutoReworks, run_begin]

/-- What the acceptance of the sample execution hashes at this version. -/
def acceptanceRef (version : Int) : Json :=
  .obj [("execution_id", .str "execution"), ("state_version", .int version),
    ("result_commit", .str (sampleKey 'e')), ("evaluation_id", .str "evaluation"),
    ("contract_fingerprint", .str (sampleKey 'c')), ("authority_fingerprint", .str (sampleKey 'a'))]

def acceptanceSha256 (version : Int) : String :=
  Sha256.hexdigest (Sha256.utf8 (acceptanceRef version).render)

abbrev sampleAsk (kind : String) : RequestApproval where
  approvalId := "approval"
  idempotencyKey := sampleKey '1'
  executionId := "execution"
  approvalType := kind
  authorityRef := acceptanceSha256 6
  expectedStateVersion := 6
  leaseOwner := "owner"
  leaseGeneration := 1
  candidateWriteFence := none

abbrev askedRow (kind : String) (status : ApprovalStatus) (resolved consumed : Option Timestamp) :
    ApprovalRequest where
  approvalId := "approval"
  idempotencyKey := sampleKey '1'
  executionId := "execution"
  approvalType := kind
  required := true
  status := status
  authorityRef := acceptanceSha256 6
  requestedAt := .epoch
  resolvedAt := resolved
  consumedAt := consumed

@[simp]
theorem sqliteLength_acceptanceSha256 (version : Int) :
    sqliteLength (acceptanceSha256 version) = 64 :=
  sqliteLength_hexdigest _

abbrev sampleAsked (kind : String) : Db :=
  { sampleWaiting with approvalRequest := [askedRow kind .PENDING none none] }

theorem sampleAsked_step {kind : String} (hk : 0 < sqliteLength kind) (hh : kind ≠ "HIGH_REWORK") :
    Tx.run (Call.tx (sampleEnv "") sampleWaiting (.requestApproval (sampleAsk kind)))
      sampleWaiting = .ok (.fresh, sampleAsked kind) := by
  simp -dsimp [Call.tx, done, requestApprovalTx, requireSha256, isLowerHex, requireOptionalFence,
    getExecution, requireFence, FenceLive, Timestamp.lt_def, Timestamp.epoch,
    requireApprovalExpected, hh, hk, Db.execution?, Db.approvalRequest?, Table.lookup,
    ExecutionCreate.row, Db.init, run_begin]

abbrev sampleGrant : ResolveApproval where
  approvalId := "approval"
  executionId := "execution"
  authorityRef := acceptanceSha256 6
  approved := true
  candidateWriteFence := none

abbrev sampleGranted (kind : String) : Db :=
  { sampleWaiting with approvalRequest := [askedRow kind .APPROVED (some .epoch) none] }

theorem sampleGranted_step (kind : String) :
    Tx.run (Call.tx (sampleEnv "") (sampleAsked kind) (.resolveApproval sampleGrant))
      (sampleAsked kind) = .ok (.fresh, sampleGranted kind) := by
  simp -dsimp [Call.tx, done, resolveApprovalTx, requireOptionalFence, getApproval,
    Db.approvalRequest?, Table.lookup, Table.update, run_begin]

abbrev returnedRow : SliceExecution := stagedRow EVALUATING none (some (sampleKey 'e')) 7

abbrev sampleReturned (kind : String) : Db :=
  { sampleGranted kind with
    sliceExecution := [returnedRow]
    transitionEvent := sampleWaiting.transitionEvent ++
      [movedEvent 'd' 6 WAITING_APPROVAL EVALUATING none 8 "event-7"] }

theorem sampleReturned_step (kind : String) :
    Tx.run (Call.tx (sampleEnv "event-7") (sampleGranted kind)
      (.transition (sampleMove 'd' 6 EVALUATING none))) (sampleGranted kind) =
      .ok (.fresh, sampleReturned kind) := by
  simp -dsimp [Call.tx, transitionTx, Transition.body, Transition.requireBlocker, Transition.set,
    Transition.eventType, Transition.payload, ExecutionState.value, ActorRole.value, requireFence,
    FenceLive, validateTransition, Edge, transitions, requireOptionalFence, requireSha256,
    Timestamp.lt_def, Timestamp.epoch, replayOr, existingEvent, getExecution, updateExecution,
    Option.filter_some, canonicalJson, Json.noFloat, Json.noFloatFields, Json.ofOption, Db.init,
    isLowerHex, requireChecks, insertEvent, executionChecks, columnChecks, companionChecks,
    commitLength, ExecutionCreate.row, resumeCheck, acceptedCheck, blockerCheck, openConflict,
    terminalStates, eventChecks, EventFields.row, ExecutionCreate.event, Db.execution?,
    Table.lookup, Table.update, Db.events, RiskLevel.maxAutoReworks, run_begin]

/-! ### The acceptance -/

theorem transitionEvidence_noFloat (events : List TransitionEvent) :
    (transitionEvidence events).noFloat = true := by
  unfold transitionEvidence
  rw [Json.noFloat, Json.noFloatItems_iff]
  intro v hv
  obtain ⟨e, -, rfl⟩ := List.mem_map.mp hv
  rfl

def sampleTransitions : Json := transitionEvidence (sampleReturned "").transitionEvent

def sampleRefs : Json :=
  .arr [.obj [("approval_id", .str "approval"), ("authority_ref", .str (acceptanceSha256 6)),
    ("status", .str "APPROVED")]]

def sampleContexts : Json :=
  .arr [.obj [("role", .str "MAKER"), ("context_snapshot_id", .str "context"),
      ("fingerprint", .str sampleCapsuleSha256)],
    .obj [("role", .str "EVALUATOR"), ("context_snapshot_id", .str "evaluation-context"),
      ("fingerprint", .str evaluatorCapsuleSha256)]]

abbrev acceptedMembers : List (String × Json) :=
  [("manifest_id", .str "manifest"), ("execution_id", .str "execution"),
    ("slice_id", .str "slice"), ("contract_fingerprint", .str (sampleKey 'c')),
    ("authority_fingerprint", .str (sampleKey 'a')), ("base_commit", .str (sampleKey 'b')),
    ("result_commit", .str (sampleKey 'e')),
    ("maker_attempt_evidence",
      .obj [("attempt_id", .str (sampleKey 'd')), ("status", .str "SUCCEEDED")]),
    ("verification_evidence",
      .obj [("verification_id", .str "verification"), ("verdict", .str "PASS")]),
    ("evaluator_attempt_evidence",
      .obj [("attempt_id", .str (sampleKey '8')), ("status", .str "SUCCEEDED")]),
    ("evaluation_evidence", .obj [("evaluation_id", .str "evaluation"), ("verdict", .str "PASS")]),
    ("approval_refs", sampleRefs), ("context_fingerprints", sampleContexts),
    ("transition_evidence", sampleTransitions), ("created_at", .str "now")]

def acceptedFields : Json := .obj acceptedMembers

theorem obj_get (fields : List (String × Json)) (k : String) :
    (Json.obj fields).get? k = Json.lookupKey k fields := rfl

theorem acceptedFields_get (k : String) :
    acceptedFields.get? k = Json.lookupKey k acceptedMembers := rfl

def acceptedSha256 : String := Sha256.hexdigest (Sha256.utf8 acceptedFields.render)

def acceptedJson : String := String.ofList acceptedFields.render

theorem acceptedFields_noFloat : acceptedFields.noFloat = true := by
  have ht : sampleTransitions.noFloat = true := transitionEvidence_noFloat _
  have hr : sampleRefs.noFloat = true := rfl
  have hc : sampleContexts.noFloat = true := rfl
  simp [acceptedFields, Json.noFloat, Json.noFloatFields, ht, hr, hc]

theorem acceptedFields_json : canonicalJson acceptedFields = .ok acceptedJson :=
  if_pos acceptedFields_noFloat

theorem acceptedFields_sha256 : canonicalSha256 acceptedFields = .ok acceptedSha256 :=
  if_pos acceptedFields_noFloat

abbrev sampleAccept : AcceptExecution where
  executionId := "execution"
  expectedStateVersion := 7
  operationKey := sampleKey 'f'
  manifest := ⟨acceptedFields, acceptedJson, acceptedSha256⟩
  leaseOwner := "owner"
  leaseGeneration := 1
  approvalId := some "approval"
  approvalAuthorityRef := some (acceptanceSha256 6)
  actorId := "owner"

abbrev acceptedEvent : TransitionEvent where
  executionId := "execution"
  operationKey := sampleKey 'f'
  eventType := .ACCEPTED
  fromState := some EVALUATING
  toState := ACCEPTED
  fromStateVersion := 7
  toStateVersion := 8
  actorRole := .CONTROLLER
  actorId := "owner"
  leaseGeneration := 1
  reasonCode := "EVIDENCE_ACCEPTED"
  reasonDetail := none
  metadataJson := String.ofList sampleAccept.payload.render
  createdAt := .epoch
  eventSeq := 9
  eventId := "event-8"

abbrev acceptedManifest : EvidenceManifestRow where
  manifestId := some "manifest"
  executionId := "execution"
  sliceId := "slice"
  contractFingerprint := sampleKey 'c'
  authorityFingerprint := sampleKey 'a'
  baseCommit := sampleKey 'b'
  resultCommit := sampleKey 'e'
  makerAttemptId := sampleKey 'd'
  verificationId := "verification"
  evaluatorAttemptId := sampleKey '8'
  evaluationId := "evaluation"
  approvalRefsJson := String.ofList sampleRefs.render
  contextFingerprintsJson := String.ofList sampleContexts.render
  transitionEvidenceJson := String.ofList sampleTransitions.render
  canonicalJson := acceptedJson
  createdAt := "now"
  manifestSha256 := acceptedSha256

abbrev acceptedRow : SliceExecution :=
  { stagedRow ACCEPTED none (some (sampleKey 'e')) 8 with acceptedAt := some .epoch }

abbrev sampleAccepted (kind : String) : Db :=
  { sampleReturned kind with
    sliceExecution := [acceptedRow]
    transitionEvent := (sampleReturned kind).transitionEvent ++ [acceptedEvent]
    approvalRequest := [askedRow kind .APPROVED (some .epoch) (some .epoch)]
    evidenceManifest := [acceptedManifest] }

theorem sampleAccept_validate (db : Db) : Tx.run sampleAccept.validate db =
    .ok (⟨sampleKey 'd', "verification", sampleKey '8', "evaluation"⟩, db) := by
  simp -dsimp [AcceptExecution.validate, requireSha256, isLowerHex, acceptedFields_json,
    acceptedFields_sha256, EvidenceManifest.nested, EvidenceManifest.field,
    EvidenceManifest.identity, acceptedFields_get, Json.lookupKey, Json.asStr?, obj_get,
    sampleKey_ne_empty]

theorem sampleAccept_contexts (kind : String) :
    Tx.run (sampleAccept.requireContexts
        ⟨madeAttempt, judgedAttempt, sampleVerdict.row, judgedRow .PASS⟩)
      (sampleReturned kind) = .ok ((), sampleReturned kind) := by
  simp -dsimp [AcceptExecution.requireContexts, AcceptExecution.contextRef, getContextSnapshot,
    EvidenceManifest.items, EvidenceManifest.field, acceptedFields_get, Json.lookupKey,
    sampleContexts, Json.isObj, hashable, ContextRef.matches, CapsuleRole.value, Json.strIs,
    obj_get, Db.contextSnapshot?, Table.lookup, AttemptOutcome.set, RegisterAgentAttempt.row]

theorem sampleAccept_transitions (kind : String) :
    Tx.run sampleAccept.requireTransitions (sampleReturned kind) =
      .ok ((), sampleReturned kind) := by
  have htext : canonicalJson sampleTransitions = .ok (String.ofList sampleTransitions.render) :=
    if_pos (transitionEvidence_noFloat _)
  have hevents :
      transitionEvidence ((sampleReturned kind).events "execution") = sampleTransitions := by
    simp -dsimp [Db.events, sampleTransitions, ExecutionCreate.event, EventFields.row]
  simp -dsimp [AcceptExecution.requireTransitions, EvidenceManifest.field, acceptedFields_get,
    Json.lookupKey, htext, hevents]

abbrev sampleIds : EvidenceIds := ⟨sampleKey 'd', "verification", sampleKey '8', "evaluation"⟩

/-- The sample execution with its approval used. -/
abbrev sampleUsed (kind : String) : Db :=
  { sampleReturned kind with
    approvalRequest := [askedRow kind .APPROVED (some .epoch) (some .epoch)] }

theorem sampleAccept_consume (kind : String) (row : SliceExecution)
    (hc : row.contractFingerprint = sampleKey 'c') (ha : row.authorityFingerprint = sampleKey 'a') :
    Tx.run (sampleAccept.consume row (sampleKey 'e') "evaluation" .epoch) (sampleReturned kind) =
      .ok ((), sampleUsed kind) := by
  have href : canonicalSha256 (sampleAccept.approvalRef row (sampleKey 'e') "evaluation") =
      .ok (acceptanceSha256 6) := by
    unfold AcceptExecution.approvalRef
    rw [hc, ha]
    rfl
  simp -dsimp [AcceptExecution.consume, getApproval, href, EvidenceManifest.items,
    EvidenceManifest.field, acceptedFields_get, Json.lookupKey, sampleRefs, Json.strIs, obj_get,
    consumeApproval, Option.filter_some, Db.approvalRequest?, Table.lookup, Table.update]

abbrev sampleFiled (kind : String) : Db :=
  { sampleUsed kind with evidenceManifest := [acceptedManifest] }

theorem sampleAccept_insert (kind : String) (row : SliceExecution) (hs : row.sliceId = "slice")
    (hb : row.baseCommit = sampleKey 'b') (hc : row.contractFingerprint = sampleKey 'c')
    (ha : row.authorityFingerprint = sampleKey 'a') :
    Tx.run (sampleAccept.insertManifest sampleIds row (sampleKey 'e')) (sampleUsed kind) =
      .ok ((), sampleFiled kind) := by
  have hrefs : canonicalJson sampleRefs = .ok (String.ofList sampleRefs.render) := rfl
  have hcontexts : canonicalJson sampleContexts = .ok (String.ofList sampleContexts.render) := rfl
  have htext : canonicalJson sampleTransitions = .ok (String.ofList sampleTransitions.render) :=
    if_pos (transitionEvidence_noFloat _)
  have hsha : sqliteLength acceptedSha256 = 64 := sqliteLength_hexdigest _
  simp -dsimp [AcceptExecution.insertManifest, EvidenceManifest.field, acceptedFields_get,
    Json.lookupKey, sqlBind, jsonText, hrefs, hcontexts, htext, hsha, insertEvidenceManifest, hs,
    hb, hc, ha, commitLength, Db.agentAttempt?, Db.execution?, Db.verificationResult?,
    Db.evaluationResult?, Table.lookup, AttemptOutcome.set, RegisterAgentAttempt.row,
    ExecutionCreate.row, VerificationResult.BoundTo, EvaluationResult.BoundTo, Db.init]

theorem sampleAccept_members :
    sampleAccept.manifest.member "maker_attempt_evidence" "status" "SUCCEEDED" = true ∧
    sampleAccept.manifest.member "verification_evidence" "verdict" "PASS" = true ∧
    sampleAccept.manifest.member "evaluator_attempt_evidence" "status" "SUCCEEDED" = true ∧
    sampleAccept.manifest.member "evaluation_evidence" "verdict" "PASS" = true := by
  decide +kernel

theorem sampleAccept_evidence (kind : String) :
    Tx.run (sampleAccept.requireEvidence sampleIds returnedRow (sampleKey 'e'))
        (sampleReturned kind) =
      .ok (⟨madeAttempt, judgedAttempt, sampleVerdict.row, judgedRow .PASS⟩,
        sampleReturned kind) := by
  obtain ⟨hmaker, hverification, hevaluator, hevaluation⟩ := sampleAccept_members
  simp -dsimp only [AcceptExecution.requireEvidence, getAgentAttempt, Db.agentAttempt?,
    Table.lookup, ↓Char.isValue, getVerificationResult, Db.verificationResult?,
    getEvaluationResult, Db.evaluationResult?, ↓Tx.run_bind, ↓Tx.run_find, AttemptOutcome.set,
    RegisterAgentAttempt.row, decide_true, List.find?_cons_of_pos, Tx.found_some, Tx.next_ok,
    sampleKey_inj, Char.reduceEq, decide_false, Bool.false_eq_true, not_false_eq_true,
    List.find?_cons_of_neg, ↓Tx.run_require, AgentAttempt.Completed, and_self,
    VerificationResult.BoundTo, ExecutionCreate.row, EvaluationResult.BoundTo, hmaker,
    hverification, hevaluator, hevaluation, ↓reduceIte, ↓Tx.run_pure]

theorem sampleAccepted_step (kind : String) :
    Tx.run (Call.tx (sampleEnv "event-8") (sampleReturned kind) (.acceptExecution sampleAccept))
      (sampleReturned kind) = .ok (.fresh, sampleAccepted kind) := by
  have hval := sampleAccept_validate (sampleReturned kind)
  have hpay : canonicalJson sampleAccept.payload =
      .ok (String.ofList sampleAccept.payload.render) := rfl
  have hevidence := sampleAccept_evidence kind
  have hcontexts := sampleAccept_contexts kind
  have htransitions := sampleAccept_transitions kind
  have hconsume := sampleAccept_consume kind returnedRow rfl rfl
  have hinsert := sampleAccept_insert kind returnedRow rfl rfl rfl rfl
  have hlive : Timestamp.epoch.micros < 62135596860000000 := by decide
  simp -dsimp [Call.tx, acceptExecutionTx, hlive, hval, hpay, replayOr, existingEvent,
    AcceptExecution.body, getExecution, AcceptExecution.requireExecution, requireFence, FenceLive,
    Timestamp.lt_def, EvidenceManifest.field, acceptedFields_get, Json.lookupKey, Json.strIs,
    hevidence, ExecutionCreate.event, EventFields.row, Db.events, hcontexts, htransitions, hconsume,
    hinsert, run_begin, Db.execution?, Table.lookup, Table.update, ExecutionCreate.row, Db.init,
    updateExecution, Option.filter_some, requireChecks, insertEvent, executionChecks, columnChecks,
    companionChecks, commitLength, resumeCheck, acceptedCheck, blockerCheck, openConflict,
    terminalStates, eventChecks, AcceptExecution.accepted, RiskLevel.maxAutoReworks]

/-! ### The run -/

/-- The sample execution is evaluated under a granted approval of this kind, in every
run that allows what leads there. -/
theorem sampleReturned_run {kind : String} (hk : 0 < sqliteLength kind)
    (hh : kind ≠ "HIGH_REWORK")
    (hok : ∀ id call db, (∀ a, call ≠ .acceptExecution a) →
      allowed (sampleEnv id) call db ∧ allowed (sealedEnv id) call db) :
    ∃ past, Run allowed past (sampleReturned kind) := by
  have hplain : ∀ {db db' : Db} {id : String} {call : Call}, (∃ past, Run allowed past db) →
      Tx.run (call.tx (sampleEnv id) db) db = .ok (.fresh, db') →
      (∀ a, call ≠ .acceptExecution a) → ∃ past, Run allowed past db' := by
    rintro db db' id call ⟨_, hrun⟩ hx hcall
    exact ⟨_, hrun.extend _ _ _ (hok id call db hcall).1 hx⟩
  obtain ⟨_, hjudged⟩ := @sampleJudged_run allowed fun id call db hcall => hok id call db (by
    rintro a rfl
    exact hcall)
  have hevaluated := hjudged.extend _ _ _ (hok _ _ _ fun _ => Call.noConfusion).2
    (sampleEvaluated_step .PASS)
  have hwaiting := hplain ⟨_, hevaluated⟩ sampleWaiting_step fun _ => Call.noConfusion
  have hasked := hplain hwaiting (sampleAsked_step hk hh) fun _ => Call.noConfusion
  have hgranted := hplain hasked (sampleGranted_step kind) fun _ => Call.noConfusion
  exact hplain hgranted (sampleReturned_step kind) fun _ => Call.noConfusion

/-- The acceptance of the sample execution consumes its one approval. -/
theorem approval_lifecycle_accepted : ∃ id row,
    Call.Authorized (.acceptExecution sampleAccept) (sampleEnv "event-8")
      (sampleReturned "DEVELOPMENT_ACCEPTANCE") id row ∧
    ∀ id', consumesApproval id' (sampleReturned "DEVELOPMENT_ACCEPTANCE")
      (sampleAccepted "DEVELOPMENT_ACCEPTANCE") = true ↔ id' = id := by
  have hother : ∀ (call : Call) (db : Db), (∀ a, call ≠ .acceptExecution a) →
      call.PresentsOwnKind db := by
    intro call db hcall a id row hcalled
    exact absurd hcalled (hcall a)
  obtain ⟨past, hrun⟩ := @sampleReturned_run (fun _ call db => call.PresentsOwnKind db)
    "DEVELOPMENT_ACCEPTANCE" (by decide) (by decide)
    fun _ call db hcall => ⟨hother call db hcall, hother call db hcall⟩
  have hkind : Call.PresentsOwnKind (.acceptExecution sampleAccept)
      (sampleReturned "DEVELOPMENT_ACCEPTANCE") := by
    rintro _ id row ⟨⟩ hpresents
    cases hpresents.named
    cases hpresents.found
    rfl
  exact ((approval_lifecycle hrun).2.2 (sampleEnv "event-8") _ _ _ hkind).1 rfl
    (Tx.run_ok.mp (sampleAccepted_step "DEVELOPMENT_ACCEPTANCE"))

/-- **Another kind.** An acceptance uses up an approval of any kind that names its
reference: here one that a security review was asked for. -/
theorem approval_of_another_kind :
    ¬ ∀ (past : List Db) (db : Db), Run (fun _ _ _ => True) past db →
      ∀ (env : Env) (snap db' : Db) (a : AcceptExecution), a.approvalRequired db = true →
        (Call.acceptExecution a).tx env snap db = .ok (.fresh, db') →
        ∃ id row, db.approvalRequest? id = some row ∧
          row.approvalType = "DEVELOPMENT_ACCEPTANCE" ∧ consumesApproval id db db' = true := by
  intro h
  obtain ⟨past, hrun⟩ := @sampleReturned_run (fun _ _ _ => True) "SECURITY_REVIEW" (by decide)
    (by decide) fun _ _ _ _ => ⟨trivial, trivial⟩
  obtain ⟨id, row, hrow, hkind, -⟩ := h past _ hrun (sampleEnv "event-8") _ _ sampleAccept rfl
    (Tx.run_ok.mp (sampleAccepted_step "SECURITY_REVIEW"))
  have hmem : row ∈ (sampleReturned "SECURITY_REVIEW").approvalRequest :=
    Table.lookup_mem hrow
  obtain rfl := List.mem_singleton.mp hmem
  revert hkind
  decide

end Adcp.L4
