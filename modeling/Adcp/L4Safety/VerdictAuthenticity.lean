import Adcp.L4Safety.SliceBinding

/-!
# Whose verdict an evaluation row carries

The store registers an evaluation under the verdict its caller names. The result
beside it has to be the document that the attempt's seal holds; nothing compares
the verdict with it.

* `Reads`: the bytes read in a run, told apart by their hashes.
* `SealsOnce`: an attempt has one seal that speaks for its result.
* `evaluation_verdict_sealed`: in every run whose registrations name the verdict
  of the result they hand in, a row's verdict is the one in its attempt's seal.
-/
namespace Adcp.L4

open Adcp.L1 Adcp.L2 Adcp.L3 ExecutionState

/-! ## What a seal holds -/

/-- The bytes the environment reads are those that `content` has for their hash:
no two of them collide. -/
structure Reads (content : String → List UInt8) (floatRepr : String → String) (env : Env) :
    Prop where
  bytes : ∀ {root path : String} {data : List UInt8}, env.readOne root path = .ok data →
    content (Sha256.hexdigest data) = data
  floats : env.floatRepr = floatRepr

/-- The result document in the tree that a seal describes. -/
def sealedResult (content : String → List UInt8) (floatRepr : String → String) (s : SealFields) :
    Except PyError Json := do
  let entries ← parseManifest s.manifestJson s.manifestSha256
  let entry ← VerifiedArtifactManifest.entryForRole ⟨[], entries, []⟩ "result"
  decodeDurableEvaluatorResultBytes floatRepr (content entry.sha256)

variable {content : String → List UInt8} {floatRepr : String → String} {env : Env}
  {snap db db' : Db} {call : Call} {c : Commit} {past : List Db}

/-- What is decoded from a verified tree is the result its seal holds. -/
theorem Reads.sealedResult (h : Reads content floatRepr env) {s : SealFields}
    {view : VerifiedArtifactManifest} {v : Json}
    (hv : verifyManifestBytes env s.evidenceRoot s.manifestJson s.manifestSha256 = .ok view)
    (hd : decodeSealedResult env view = .ok v) : sealedResult content floatRepr s = .ok v := by
  obtain ⟨raw, hraw, hdecode⟩ := decodeSealedResult_ok.mp hd
  obtain ⟨-, hparse, entry, hentry, hread⟩ := verifyManifestBytes_read hv hraw
  obtain ⟨entry', hentry', hhash⟩ := verifyManifestBytes_hash hv hraw
  obtain rfl : entry' = entry := Except.ok.inj (hentry'.symm.trans hentry)
  have hbytes : content entry'.sha256 = raw := by
    rw [← hhash]
    exact h.bytes hread
  refine except_bind_ok.mpr ⟨_, hparse, except_bind_ok.mpr ⟨entry', hentry, ?_⟩⟩
  rw [hbytes, ← h.floats]
  exact hdecode

/-! ## One seal speaks for an attempt -/

namespace EvidenceStep

/-- Seals are only appended. -/
theorem seals (h : EvidenceStep call env snap db db') :
    db.evaluatorArtifactSeal <+: db'.evaluatorArtifactSeal := by
  cases h with
  | sealed _ _ _ _ _ he =>
    rw [(evidence_eq.mp he).2.2.2.2.2]
    exact List.prefix_append _ _
  | keep he | snapshot _ he | verification _ _ he | attempt _ _ _ he | finish _ _ _ he
  | candidate _ _ _ _ he | evaluation _ _ _ _ _ _ _ he | manifest _ _ he =>
    simp only [(evidence_eq.mp he).2.2.2.2.2, List.prefix_refl]

/-- An attempt that has ended is not written again. -/
theorem ended (h : EvidenceStep call env snap db db') {id : String} {t : AgentAttempt}
    (ht : db.agentAttempt? id = some t) (hstatus : t.status ≠ .RUNNING) :
    db'.agentAttempt? id = some t := by
  have hrunning : ∀ {id' : String} {t' : AgentAttempt}, db.agentAttempt? id' = some t' →
      t'.status = .RUNNING → id ≠ id' := by
    intro id' t' ht' hrun heq
    subst heq
    rw [ht] at ht'
    cases ht'
    exact hstatus hrun
  have ht : Table.lookup (·.attemptId) db.agentAttempt id = some t := ht
  show Table.lookup (·.attemptId) db'.agentAttempt id = some t
  cases h with
  | attempt _ _ _ he =>
    rw [(evidence_eq.mp he).2.1]
    exact Table.lookup_prefix (List.prefix_append _ _) ht
  | @finish a attempt outcome _ found running he =>
    have hkey : ∀ r : AgentAttempt, r.attemptId = a.attemptId →
        (outcome.set r).attemptId = a.attemptId := fun _ h => h
    rw [(evidence_eq.mp he).2.1]
    exact (Table.lookup_update_ne hkey (hrunning found running)).trans ht
  | @candidate a attempt _ found _ running he =>
    have hkey : ∀ r : AgentAttempt, r.attemptId = a.makerAttemptId →
        (candidateMade (env.clock 0) r).attemptId = a.makerAttemptId := fun _ h => h
    rw [(evidence_eq.mp he).2.1]
    exact (Table.lookup_update_ne hkey (hrunning found running)).trans ht
  | keep he | snapshot _ he | verification _ _ he | sealed _ _ _ _ _ he
  | evaluation _ _ _ _ _ _ _ he | manifest _ _ he =>
    rw [(evidence_eq.mp he).2.1]
    exact ht

end EvidenceStep

/-- An attempt has one seal that is not made before its execution. A human attests
the artifacts of an attempt that has ended. -/
structure SealsOnce (db : Db) : Prop where
  one : ∀ s ∈ db.evaluatorArtifactSeal, ∀ s' ∈ db.evaluatorArtifactSeal,
    s.evaluatorAttemptId = s'.evaluatorAttemptId → s.phase ≠ .PRE_EXECUTION →
    s'.phase ≠ .PRE_EXECUTION → s = s'
  attested : ∀ s ∈ db.evaluatorArtifactSeal, s.phase = .LEGACY_ATTESTED →
    ∃ t, db.agentAttempt? s.evaluatorAttemptId = some t ∧ t.status ≠ .RUNNING

theorem findSeal_none {attemptId : String} {phase : SealPhase}
    (h : db.findSeal attemptId phase = none) :
    ∀ s ∈ db.evaluatorArtifactSeal, s.evaluatorAttemptId = attemptId → s.phase ≠ phase := by
  intro s hs hattempt hphase
  have hnone := List.find?_eq_none.mp h s hs
  simp [hattempt, hphase] at hnone

/-- A new seal that speaks for its attempt finds no other one. -/
theorem SealsOnce.first (h : SealsOnce db) {s : SealFields} {attempt : AgentAttempt}
    (found : db.agentAttempt? s.evaluatorAttemptId = some attempt) (fresh : s.Fresh db attempt)
    (hphase : s.phase ≠ .PRE_EXECUTION) :
    ∀ s' ∈ db.evaluatorArtifactSeal, s'.evaluatorAttemptId = s.evaluatorAttemptId →
      s'.phase = .PRE_EXECUTION := by
  intro s' hs' hattempt
  have hfirst := findSeal_none fresh.first s' hs' hattempt
  cases hs : s.phase with
  | PRE_EXECUTION => exact absurd hs hphase
  | POST_EXECUTION =>
    cases hp : s'.phase with
    | PRE_EXECUTION => rfl
    | POST_EXECUTION => exact absurd (hp.trans hs.symm) hfirst
    | LEGACY_ATTESTED =>
      obtain ⟨t, ht, hended⟩ := h.attested s' hs' hp
      rw [hattempt, found] at ht
      cases ht
      exact absurd (fresh.running (by rw [hs]; decide)) hended
  | LEGACY_ATTESTED =>
    cases hp : s'.phase with
    | PRE_EXECUTION => rfl
    | POST_EXECUTION =>
      exact absurd hp (findSeal_none (fresh.legacy hs).2 s' hs' hattempt)
    | LEGACY_ATTESTED => exact absurd (hp.trans hs.symm) hfirst

theorem SealsOnce.step (h : SealsOnce db) (hstep : EvidenceStep call env snap db db') :
    SealsOnce db' := by
  have hattested : ∀ s ∈ db.evaluatorArtifactSeal, s.phase = .LEGACY_ATTESTED →
      ∃ t, db'.agentAttempt? s.evaluatorAttemptId = some t ∧ t.status ≠ .RUNNING := by
    intro s hs hphase
    obtain ⟨t, ht, hended⟩ := h.attested s hs hphase
    exact ⟨t, hstep.ended ht hended, hended⟩
  cases hstep with
  | @sealed a row attempt _ ofSpec _ found fresh he =>
    have hseals := (evidence_eq.mp he).2.2.2.2.2
    have hattempts := (evidence_eq.mp he).2.1
    dsimp only at hseals hattempts
    have hattempt : row.evaluatorAttemptId = a.spec.evaluatorAttemptId := by rw [ofSpec]
    have hphase : row.phase = a.spec.phase := by rw [ofSpec]
    have hothers : row.phase ≠ .PRE_EXECUTION → ∀ s' ∈ db.evaluatorArtifactSeal,
        s'.evaluatorAttemptId = row.evaluatorAttemptId → s'.phase = .PRE_EXECUTION := by
      intro hrow s' hs' hsame
      exact h.first found fresh (hphase ▸ hrow) s' hs' (hsame.trans hattempt)
    refine ⟨fun s hs s' hs' hsame hpre hpre' => ?_, fun s hs hlegacy => ?_⟩
    · rw [hseals] at hs hs'
      rcases List.mem_append.mp hs with hold | hnew <;>
        rcases List.mem_append.mp hs' with hold' | hnew'
      · exact h.one s hold s' hold' hsame hpre hpre'
      · rw [List.mem_singleton.mp hnew'] at hsame hpre'
        exact absurd (hothers hpre' s hold hsame) hpre
      · rw [List.mem_singleton.mp hnew] at hsame hpre
        exact absurd (hothers hpre s' hold' hsame.symm) hpre'
      · rw [List.mem_singleton.mp hnew, List.mem_singleton.mp hnew']
    · rw [hseals] at hs
      rcases List.mem_append.mp hs with hs | hs
      · exact hattested s hs hlegacy
      · obtain rfl := List.mem_singleton.mp hs
        refine ⟨attempt, ?_, ?_⟩
        · rw [hattempt]
          show Table.lookup (·.attemptId) db'.agentAttempt _ = _
          rw [hattempts]
          exact found
        · rw [(fresh.legacy (hphase ▸ hlegacy)).1]
          decide
  | keep he | snapshot _ he | verification _ _ he | attempt _ _ _ he | finish _ _ _ he
  | candidate _ _ _ _ he | evaluation _ _ _ _ _ _ _ he | manifest _ _ he =>
    have hseals : db'.evaluatorArtifactSeal = db.evaluatorArtifactSeal :=
      (evidence_eq.mp he).2.2.2.2.2
    refine ⟨?_, ?_⟩
    · rw [hseals]
      exact h.one
    · rw [hseals]
      exact hattested

/-! ## The verdict of a row -/

/-- The result handed in is a document, and the verdict named is the one in it, if
there is one. -/
def RegisterEvaluation.NamesVerdict (a : RegisterEvaluation) : Prop :=
  a.result.distinctKeys ∧ ∀ m, a.result.get? "verdict" = some m → m = .str a.verdict

/-- Every registration among the calls names the verdict of its result. -/
def Call.NamesVerdict : Call → Prop
  | .registerEvaluationResult a => RegisterEvaluation.NamesVerdict a
  | _ => True

/-- A seal speaks for the attempt of the row, and the result it holds carries the
row's verdict, if it carries one. -/
def Backed (content : String → List UInt8) (floatRepr : String → String) (db : Db)
    (e : EvaluationResult) : Prop :=
  ∃ s ∈ db.evaluatorArtifactSeal, s.evaluatorAttemptId = e.evaluatorAttemptId ∧
    s.phase ≠ .PRE_EXECUTION ∧ ∃ v, sealedResult content floatRepr s.toSealFields = .ok v ∧
      ∀ m, v.get? "verdict" = some m → m = .str e.verdict.value

theorem Backed.grows {e : EvaluationResult} (h : Backed content floatRepr db e)
    (hgrow : db.evaluatorArtifactSeal <+: db'.evaluatorArtifactSeal) :
    Backed content floatRepr db' e := by
  obtain ⟨s, hs, hsealed⟩ := h
  exact ⟨s, hgrow.subset hs, hsealed⟩

theorem canonicalJson_ok {v : Json} {text : String} (h : canonicalJson v = .ok text) :
    v.noFloat = true ∧ String.ofList v.render = text := by
  unfold canonicalJson at h
  split at h
  · rename_i hf
    exact ⟨hf, Except.ok.inj h⟩
  · cases h

/-- A prepared record names the verdict of the document its seal holds: its own
result is of one text with that document, so both have the same members. -/
theorem prepared_backed {a : RegisterEvaluation} {record : EvaluationResultRecord}
    {row : EvaluationResult} {found : EvaluatorArtifactSeal} {view : VerifiedArtifactManifest}
    {durable : Json} (h : Prepares env a db record found view durable)
    (hreads : Reads content floatRepr env) (hnames : RegisterEvaluation.NamesVerdict a)
    (hrow : record.row = some row) : Backed content floatRepr db row := by
  unfold EvaluationResultRecord.row at hrow
  obtain ⟨verdict, hverdict, rfl⟩ := Option.map_eq_some_iff.mp hrow
  refine ⟨found, h.filed, h.attempt, h.authoritative, durable,
    hreads.sealedResult h.verified h.decoded, fun m hm => ?_⟩
  obtain ⟨hdurable, hdurableText⟩ := canonicalJson_ok h.durableText
  obtain ⟨hresult, hresultText⟩ := canonicalJson_ok h.resultText
  have hrender : durable.render = record.result.render := by
    have hlist := congrArg String.toList (hdurableText.trans hresultText.symm)
    simpa using hlist
  have hdistinct : durable.distinctKeys := by
    obtain ⟨raw, -, hdecode⟩ := decodeSealedResult_ok.mp h.decoded
    exact decodeDurable_distinctKeys hdecode
  have hkeys : record.result.distinctKeys := h.result ▸ hnames.1
  have hsorted := Json.sorted_of_render hdurable hdistinct hresult hkeys hrender
  have hmember : (record.result.get? "verdict").map Json.sorted = some (Json.sorted m) := by
    rw [← Json.get?_sorted hkeys, ← hsorted, Json.get?_sorted hdistinct, hm]
    rfl
  obtain ⟨w, hw, hwm⟩ := Option.map_eq_some_iff.mp hmember
  rw [hnames.2 w (h.result ▸ hw), ← h.verdict] at hwm
  show m = .str verdict.value
  rw [EvaluationVerdict.value_ofString hverdict]
  cases m with
  | str t => exact hwm.symm
  | null | bool _ | int _ | float _ | arr _ | obj _ => cases hwm

/-- The evaluations after a step are backed, if those before it are. -/
theorem EvidenceStep.backed (hstep : EvidenceStep call env snap db db')
    (hreads : Reads content floatRepr env) (hnames : call.NamesVerdict)
    (hsnap : snap.evaluatorArtifactSeal <+: db.evaluatorArtifactSeal)
    (h : ∀ e ∈ db.evaluationResult, Backed content floatRepr db e) :
    ∀ e ∈ db'.evaluationResult, Backed content floatRepr db' e := by
  have hgrow := hstep.seals
  intro e he
  cases hstep with
  | @evaluation a record row attempt from_call prepared ofRecord _ _ _ _ hev =>
    rw [(evidence_eq.mp hev).2.2.2.1] at he
    rcases List.mem_append.mp he with he | he
    · exact (h e he).grows hgrow
    · obtain rfl := List.mem_singleton.mp he
      subst from_call
      obtain ⟨s, hs⟩ := prepared
      obtain ⟨found, view, durable, hp⟩ := prepareEvaluation_ok hs
      exact (prepared_backed hp hreads hnames ofRecord).grows (hsnap.trans hgrow)
  | keep hev | snapshot _ hev | verification _ _ hev | attempt _ _ _ hev | finish _ _ _ hev
  | candidate _ _ _ _ hev | sealed _ _ _ _ _ hev | manifest _ _ hev =>
    rw [(evidence_eq.mp hev).2.2.2.1] at he
    exact (h e he).grows hgrow

/-- What holds along a run whose registrations name their results' verdicts. -/
structure VerdictRun (content : String → List UInt8) (floatRepr : String → String)
    (past : List Db) (db : Db) : Prop where
  once : SealsOnce db
  grows : ∀ old ∈ past, old.evaluatorArtifactSeal <+: db.evaluatorArtifactSeal
  backed : ∀ e ∈ db.evaluationResult, Backed content floatRepr db e

theorem Run.verdictRun
    (h : Run (fun env call _ => Reads content floatRepr env ∧ call.NamesVerdict) past db) :
    VerdictRun content floatRepr past db := by
  induction h with
  | start =>
    exact ⟨⟨fun s hs => (List.not_mem_nil hs).elim, fun s hs => (List.not_mem_nil hs).elim⟩,
      by simp, fun e he => (List.not_mem_nil he).elim⟩
  | @call past db snap env call run seen ok ih =>
    have hall : ∀ old ∈ db :: past, old.evaluatorArtifactSeal <+: db.evaluatorArtifactSeal := by
      intro old hold
      rcases List.mem_cons.mp hold with rfl | hold
      · simp only [List.prefix_refl]
      · exact ih.grows old hold
    rcases call.exec_cases env snap db with he | ⟨c, hx⟩
    · rw [he]
      exact ⟨ih.once, hall, ih.backed⟩
    · have hstep := Call.evidenceStep hx
      exact ⟨ih.once.step hstep, fun old hold => (hall old hold).trans hstep.seals,
        hstep.backed ok.1 ok.2 (hall snap seen) ih.backed⟩

/-- **An evaluation row carries its sealed verdict.** In every run in which every
registration names the verdict of the result it hands in, the verdict of an
evaluation row is the one in the result that its attempt's seal holds, wherever
that result has one. -/
theorem evaluation_verdict_sealed
    (h : Run (fun env call _ => Reads content floatRepr env ∧ call.NamesVerdict) past db)
    {e : EvaluationResult} (he : e ∈ db.evaluationResult) {s : EvaluatorArtifactSeal}
    (hs : db.findAuthoritativeSeal e.evaluatorAttemptId = some s) {v m : Json}
    (hv : sealedResult content floatRepr s.toSealFields = .ok v)
    (hm : v.get? "verdict" = some m) : m = .str e.verdict.value := by
  have hrun := h.verdictRun
  obtain ⟨s', hs', hattempt', hphase', v', hv', hverdict⟩ := hrun.backed e he
  have hfound : ∀ {phase : SealPhase}, db.findSeal e.evaluatorAttemptId phase = some s →
      s ∈ db.evaluatorArtifactSeal ∧ s.evaluatorAttemptId = e.evaluatorAttemptId ∧
        s.phase = phase := by
    intro phase hfind
    have hprop := List.find?_some hfind
    simp only [Bool.decide_and, Bool.and_eq_true, decide_eq_true_eq] at hprop
    exact ⟨List.mem_of_find?_eq_some hfind, hprop⟩
  have hseal : s ∈ db.evaluatorArtifactSeal ∧ s.evaluatorAttemptId = e.evaluatorAttemptId ∧
      s.phase ≠ .PRE_EXECUTION := by
    rcases Option.or_eq_some_iff.mp hs with hpost | ⟨-, hlegacy⟩
    · obtain ⟨hmem, hattempt, hphase⟩ := hfound hpost
      exact ⟨hmem, hattempt, by rw [hphase]; decide⟩
    · obtain ⟨hmem, hattempt, hphase⟩ := hfound hlegacy
      exact ⟨hmem, hattempt, by rw [hphase]; decide⟩
  obtain rfl : s' = s :=
    hrun.once.one s' hs' s hseal.1 (hattempt'.trans hseal.2.1.symm) hphase' hseal.2.2
  obtain rfl : v' = v := Except.ok.inj (hv'.symm.trans hv)
  exact hverdict m hm

/-! ## A sample execution, judged -/

/-- What the sample Maker ends with. -/
abbrev madeOutcome : AttemptOutcome where
  resultCommit := some (sampleKey 'e')
  status := .SUCCEEDED
  exitCode := some 0
  stdoutArtifact := none
  stdoutSha256 := none
  stderrArtifact := none
  stderrSha256 := none
  resultArtifact := none
  resultSha256 := none
  failureCode := none
  endedAt := "end"

abbrev finishMaker : FinishAgentAttempt where
  attemptId := sampleKey 'd'
  outcome := madeOutcome
  postExecutionSealId := none
  leaseOwner := none
  leaseGeneration := none
  requiredExecutionState := none

abbrev madeAttempt : AgentAttempt := madeOutcome.set sampleFirst

abbrev sampleMade : Db := { sampleOneMaker with agentAttempt := [madeAttempt] }

theorem sampleMade_step :
    Tx.run (Call.tx (sampleEnv "") sampleOneMaker (.finishAgentAttempt finishMaker))
      sampleOneMaker = .ok (.fresh, sampleMade) := by
  simp -dsimp [Call.tx, finishAgentAttemptTx, isLowerHex, getAgentAttempt, requireOptionalLease,
    terminalOutcome, AttemptOutcome.set, attemptChecks, orUnspecified, RegisterAgentAttempt.row,
    Db.agentAttempt?, Table.lookup, Table.update, commitLength, run_begin]

/-- The sample row in this state, with this result. -/
abbrev stagedRow (state : ExecutionState) (resume : Option ExecutionState)
    (commit : Option String) (version : Int) : SliceExecution :=
  { sampleLeasedRow with
    state := state, resumeState := resume, resultCommit := commit, stateVersion := version }

abbrev resultEvent : TransitionEvent where
  executionId := "execution"
  operationKey := sampleKey '4'
  eventType := .RESULT_COMMIT_REGISTERED
  fromState := some MAKER_RUNNING
  toState := MAKER_RUNNING
  fromStateVersion := 2
  toStateVersion := 3
  actorRole := .MAKER
  actorId := "owner"
  leaseGeneration := 1
  reasonCode := "RESULT_COMMIT_REGISTERED"
  reasonDetail := none
  metadataJson := String.ofList (sampleRegister '4' 'e' 2).payload.render
  createdAt := .epoch
  eventSeq := 4
  eventId := "event-3"

abbrev sampleCommitted : Db :=
  { sampleMade with
    sliceExecution := [stagedRow MAKER_RUNNING none (some (sampleKey 'e')) 3]
    transitionEvent := [sampleCreation, sampleLeasing, sampleStarting, resultEvent] }

theorem sampleCommitted_step :
    Tx.run (Call.tx (sampleEnv "event-3") sampleMade
      (.registerResultCommit (sampleRegister '4' 'e' 2))) sampleMade =
        .ok (.fresh, sampleCommitted) := by
  simp -dsimp [Call.tx, registerResultCommitTx, RegisterResultCommit.payload, ActorRole.value,
    requireFence, requireCommit, FenceLive, requireSha256, Timestamp.lt_def, Timestamp.epoch,
    replayOr, existingEvent, getExecution, updateExecution, Option.filter_some, canonicalJson,
    Json.noFloat, Json.noFloatFields, Db.init, isLowerHex, requireChecks, insertEvent,
    executionChecks, columnChecks, companionChecks, commitLength, ExecutionCreate.row, resumeCheck,
    acceptedCheck, blockerCheck, openConflict, terminalStates, eventChecks, EventFields.row,
    ExecutionCreate.event, Db.execution?, Table.lookup, Table.update, Db.events,
    RiskLevel.maxAutoReworks, run_begin]

/-- A transition of the sample execution. -/
abbrev sampleMove (key : Char) (version : Int) (target : ExecutionState)
    (resume : Option ExecutionState) : Transition where
  executionId := "execution"
  expectedStateVersion := version
  operationKey := sampleKey key
  toState := target
  actorRole := .CONTROLLER
  actorId := "owner"
  leaseOwner := "owner"
  leaseGeneration := 1
  resumeState := resume
  blockerCode := none
  blockerDetail := none
  reasonCode := "NEXT"
  reasonDetail := none
  candidateWriteFence := none

abbrev movedEvent (key : Char) (version : Int) (source target : ExecutionState)
    (resume : Option ExecutionState) (seq : Nat) (id : String) : TransitionEvent where
  executionId := "execution"
  operationKey := sampleKey key
  eventType := .STATE_TRANSITION
  fromState := some source
  toState := target
  fromStateVersion := version
  toStateVersion := version + 1
  actorRole := .CONTROLLER
  actorId := "owner"
  leaseGeneration := 1
  reasonCode := "NEXT"
  reasonDetail := none
  metadataJson := String.ofList (sampleMove key version target resume).payload.render
  createdAt := .epoch
  eventSeq := seq
  eventId := id

abbrev sampleVerifying : Db :=
  { sampleCommitted with
    sliceExecution := [stagedRow VERIFYING none (some (sampleKey 'e')) 4]
    transitionEvent := [sampleCreation, sampleLeasing, sampleStarting, resultEvent,
      movedEvent '5' 3 MAKER_RUNNING VERIFYING none 5 "event-4"] }

theorem sampleVerifying_step :
    Tx.run (Call.tx (sampleEnv "event-4") sampleCommitted
      (.transition (sampleMove '5' 3 VERIFYING none))) sampleCommitted =
        .ok (.fresh, sampleVerifying) := by
  simp -dsimp [Call.tx, transitionTx, Transition.body, Transition.requireBlocker, Transition.set,
    Transition.eventType, Transition.payload, ExecutionState.value, ActorRole.value, requireFence,
    FenceLive, validateTransition, Edge, transitions, requireOptionalFence, requireSha256,
    Timestamp.lt_def, Timestamp.epoch, replayOr, existingEvent, getExecution, updateExecution,
    Option.filter_some, canonicalJson, Json.noFloat, Json.noFloatFields, Json.ofOption, Db.init,
    isLowerHex, requireChecks, insertEvent, executionChecks, columnChecks, companionChecks,
    commitLength, ExecutionCreate.row, resumeCheck, acceptedCheck, blockerCheck, openConflict,
    terminalStates, eventChecks, EventFields.row, ExecutionCreate.event, Db.execution?,
    Table.lookup, Table.update, Db.events, RiskLevel.maxAutoReworks, run_begin]

/-- The record of a passed verification of the sample result. -/
abbrev sampleVerdict : VerificationResultRecord where
  row :=
    { verificationId := "verification", operationKey := sampleKey '6', executionId := "execution"
      resultCommit := sampleKey 'e', contractFingerprint := sampleKey 'c'
      authorityFingerprint := sampleKey 'a', verdict := .PASS
      commandManifest := String.ofList (Json.obj []).render
      commandManifestSha256 := Sha256.hexdigest (Sha256.utf8 (Json.obj []).render)
      resultJson := String.ofList (Json.obj []).render, startedAt := "start", endedAt := "end" }
  commandManifest := .obj []
  result := .obj []

abbrev sampleVerified : Db := { sampleVerifying with verificationResult := [sampleVerdict.row] }

@[simp]
theorem sqliteLength_hexdigest (data : List UInt8) : sqliteLength (Sha256.hexdigest data) = 64 :=
  sqliteLength_of_isSha256 (isSha256_hexdigest _)

theorem sampleVerified_step :
    Tx.run (Call.tx (sampleEnv "") sampleVerifying (.registerVerificationResult sampleVerdict))
      sampleVerifying = .ok (.fresh, sampleVerified) := by
  simp -dsimp [Call.tx, done, registerVerificationResultTx, canonicalJson, canonicalSha256,
    Json.noFloat, Json.noFloatFields, commitLength, Db.verificationResult?, Table.lookup,
    Db.execution?, Db.init, ExecutionCreate.row, run_begin]

abbrev sampleEvaluating : Db :=
  { sampleVerified with
    sliceExecution := [stagedRow EVALUATING none (some (sampleKey 'e')) 5]
    transitionEvent := [sampleCreation, sampleLeasing, sampleStarting, resultEvent,
      movedEvent '5' 3 MAKER_RUNNING VERIFYING none 5 "event-4",
      movedEvent '7' 4 VERIFYING EVALUATING none 6 "event-5"] }

theorem sampleEvaluating_step :
    Tx.run (Call.tx (sampleEnv "event-5") sampleVerified
      (.transition (sampleMove '7' 4 EVALUATING none))) sampleVerified =
        .ok (.fresh, sampleEvaluating) := by
  simp -dsimp [Call.tx, transitionTx, Transition.body, Transition.requireBlocker, Transition.set,
    Transition.eventType, Transition.payload, ExecutionState.value, ActorRole.value, requireFence,
    FenceLive, validateTransition, Edge, transitions, requireOptionalFence, requireSha256,
    Timestamp.lt_def, Timestamp.epoch, replayOr, existingEvent, getExecution, updateExecution,
    Option.filter_some, canonicalJson, Json.noFloat, Json.noFloatFields, Json.ofOption, Db.init,
    isLowerHex, requireChecks, insertEvent, executionChecks, columnChecks, companionChecks,
    commitLength, ExecutionCreate.row, resumeCheck, acceptedCheck, blockerCheck, openConflict,
    terminalStates, eventChecks, EventFields.row, ExecutionCreate.event, Db.execution?,
    Table.lookup, Table.update, Db.events, RiskLevel.maxAutoReworks, run_begin]

def evaluatorCapsule : Json := envelope 1 .EVALUATOR (.obj [])

def evaluatorCapsuleSha256 : String := Sha256.hexdigest (Sha256.utf8 evaluatorCapsule.render)

@[simp]
theorem evaluatorCapsule_json : canonicalJson (envelope 1 .EVALUATOR (.obj [])) =
    .ok (String.ofList evaluatorCapsule.render) := by
  simp -dsimp [canonicalJson, envelope, Json.noFloat, Json.noFloatFields, evaluatorCapsule]

@[simp]
theorem evaluatorCapsule_sha256 :
    canonicalSha256 (envelope 1 .EVALUATOR (.obj [])) = .ok evaluatorCapsuleSha256 := by
  simp -dsimp [canonicalSha256, envelope, Json.noFloat, Json.noFloatFields, evaluatorCapsuleSha256,
    evaluatorCapsule]

@[simp]
theorem sqliteLength_evaluatorCapsule :
    0 < sqliteLength (String.ofList evaluatorCapsule.render) := by
  decide +kernel

abbrev evaluatorSnapshot : RegisterContextSnapshot where
  contextSnapshotId := "evaluation-context"
  executionId := "execution"
  role := .EVALUATOR
  capsuleVersion := 1
  content := .inl (.obj [])
  candidateWriteFence := none

abbrev evaluatorContext : ContextSnapshot where
  contextSnapshotId := "evaluation-context"
  executionId := "execution"
  role := .EVALUATOR
  capsuleVersion := 1
  fingerprint := evaluatorCapsuleSha256
  canonicalJson := String.ofList evaluatorCapsule.render
  createdAt := .epoch

abbrev sampleBriefed : Db :=
  { sampleEvaluating with contextSnapshot := [sampleContext, evaluatorContext] }

@[simp]
theorem sqliteLength_evaluatorSha256 : sqliteLength evaluatorCapsuleSha256 = 64 :=
  sqliteLength_of_isSha256 (isSha256_hexdigest _)

theorem sampleBriefed_step :
    Tx.run (Call.tx (sampleEnv "") sampleEvaluating (.registerContextSnapshot evaluatorSnapshot))
      sampleEvaluating = .ok (.fresh, sampleBriefed) := by
  simp -dsimp [Call.tx, done, registerContextSnapshotTx, RegisterContextSnapshot.capsuleContent,
    Json.isObj, requireOptionalFence, insertContextSnapshot, Db.contextSnapshot?, Table.lookup,
    Db.execution?, Db.init, ExecutionCreate.row, run_begin]

abbrev sampleEvaluator : RegisterAgentAttempt where
  attemptId := sampleKey '8'
  operationKey := sampleKey '8'
  executionId := "execution"
  role := .EVALUATOR
  attemptNo := 1
  model := none
  reasoningEffort := none
  sessionId := sampleKey '8'
  contextSnapshotId := "evaluation-context"
  baseCommit := sampleKey 'b'
  resultCommit := some (sampleKey 'e')
  startedAt := "start"
  candidateWriteFence := none

abbrev sampleJudging : Db :=
  { sampleBriefed with agentAttempt := [madeAttempt, sampleEvaluator.row] }

theorem sampleJudging_step :
    Tx.run (Call.tx (sampleEnv "") sampleBriefed (.registerAgentAttempt sampleEvaluator))
      sampleBriefed = .ok (.fresh, sampleJudging) := by
  simp -dsimp [Call.tx, done, registerAgentAttemptTx, requireSha256, requireCommit, isLowerHex,
    sampleKey_ne_empty, requireOptionalFence, insertAgentAttempt, attemptChecks, orUnspecified,
    RegisterAgentAttempt.row, Db.agentAttempt?, Db.contextSnapshot?, Table.lookup, Db.execution?,
    AttemptOutcome.set, Db.init, commitLength, ExecutionCreate.row, run_begin]

/-! ### Its evidence tree -/

/-- The result document of the sample Evaluator. -/
def passResult : Json := .obj [("verdict", .str "PASS")]

/-- What the sample tree holds. -/
def sampleBytes (path : String) : List UInt8 :=
  if path = "result.json" then Sha256.utf8 passResult.render else []

/-- The sample environment, with the sample tree below `/evidence`. -/
abbrev sealedEnv (id : String) : Env :=
  { sampleEnv id with readOne := fun _ path => .ok (sampleBytes path) }

/-- The entries of the sample tree under these roles. -/
def sealedEntries (roles : List (String × String)) : List SealedArtifactEntry :=
  roles.map fun p => .ofBytes p.1 p.2 (sampleBytes p.2)

abbrev preRoles : List (String × String) :=
  [("context_snapshot", "context.json"), ("output_schema", "schema.json"), ("prompt", "prompt.md")]

abbrev postRoles : List (String × String) :=
  [("result", "result.json"), ("runner_metadata", "runner.json"), ("stderr", "stderr.txt"),
    ("stdout", "stdout.txt")]

theorem sealedEntries_collected {roles : List (String × String)} (hne : roles ≠ [])
    (hroles : ∀ p ∈ roles, p.1 ≠ "") (hpaths : ∀ p ∈ roles, BelowRoot p.2)
    (hd : roles.Pairwise fun p q => p.1 ≠ q.1 ∧ p.2 ≠ q.2)
    (hin : roles.Pairwise fun p q => p.1 ≤ q.1) : Collected (sealedEntries roles) where
  nonempty := by simpa [sealedEntries] using hne
  read := by
    intro e he
    obtain ⟨p, -, rfl⟩ := List.mem_map.mp he
    exact ⟨sampleBytes p.2, rfl⟩
  roles := by
    intro e he
    obtain ⟨p, hp, rfl⟩ := List.mem_map.mp he
    exact hroles p hp
  paths := by
    intro e he
    obtain ⟨p, hp, rfl⟩ := List.mem_map.mp he
    exact hpaths p hp
  distinct := List.pairwise_map.mpr hd
  inOrder := List.pairwise_map.mpr hin

def sealedManifest (roles : List (String × String)) : String :=
  String.ofList (manifestPayload (sealedEntries roles)).render

def sealedSha256 (roles : List (String × String)) : String :=
  Sha256.hexdigest (Sha256.utf8 (manifestPayload (sealedEntries roles)).render)

def sealedView (roles : List (String × String)) : VerifiedArtifactManifest :=
  ⟨["evidence"], sealedEntries roles,
    (sealedEntries roles).map fun e => (e.relativePath, sampleBytes e.relativePath)⟩

theorem sealedTree_verifies {roles : List (String × String)} (id : String)
    (hc : Collected (sealedEntries roles)) :
    verifyManifestBytes (sealedEnv id) "/evidence" (sealedManifest roles) (sealedSha256 roles) =
      .ok (sealedView roles) := by
  refine verifyManifestBytes_payload hc rfl rfl fun e he => ⟨rfl, ?_⟩
  obtain ⟨p, -, rfl⟩ := List.mem_map.mp he
  rfl

theorem sealedTree_run {roles : List (String × String)} (id : String) (db : Db)
    (hc : Collected (sealedEntries roles)) :
    Tx.run (liftSealed (verifyManifestBytes (sealedEnv id) "/evidence" (sealedManifest roles)
      (sealedSha256 roles))) db = .ok (sealedView roles, db) := by
  unfold liftSealed
  rw [sealedTree_verifies id hc]
  exact Tx.run_lift_ok _ _

theorem preTree_collected : Collected (sealedEntries preRoles) :=
  sealedEntries_collected (by decide) (by decide) (by decide) (by decide) (by decide)

theorem postTree_collected : Collected (sealedEntries postRoles) :=
  sealedEntries_collected (by decide) (by decide) (by decide) (by decide) (by decide)


/-! ### Its seals -/

abbrev sealFields (phase : SealPhase) (key : Char) (roles : List (String × String)) :
    SealFields where
  sealId := String.ofList [key]
  executionId := "execution"
  resultCommit := sampleKey 'e'
  verificationId := "verification"
  evaluatorAttemptId := sampleKey '8'
  contextSnapshotId := "evaluation-context"
  contextFingerprint := evaluatorCapsuleSha256
  contractFingerprint := sampleKey 'c'
  authorityFingerprint := sampleKey 'a'
  phase := phase
  producerKind := .CONTROLLER_RUNNER
  producerRef := "runner"
  evidenceRoot := "/evidence"
  manifestVersion := 1
  manifestJson := sealedManifest roles
  manifestSha256 := sealedSha256 roles
  authorityGeneration := 0
  operationKey := sampleKey key
  approvalId := none

abbrev sampleSeal (phase : SealPhase) (key : Char) (roles : List (String × String)) :
    CreateSeal where
  spec := sealFields phase key roles
  leaseOwner := "owner"
  leaseGeneration := 1
  requiredExecutionState := EVALUATING

abbrev sealRow (phase : SealPhase) (key : Char) (roles : List (String × String)) :
    EvaluatorArtifactSeal :=
  { sealFields phase key roles with createdAt := .epoch }

theorem sealedManifest_loads (roles : List (String × String)) :
    jsonLoads (sealedManifest roles) =
      .ok (Json.sorted (manifestPayload (sealedEntries roles))) := by
  unfold jsonLoads sealedManifest
  rw [String.toList_ofList,
    Json.loads_render (manifestPayload_noFloat _) (manifestPayload_distinctKeys _)]

theorem sealedManifest_json (roles : List (String × String)) :
    canonicalJson (Json.sorted (manifestPayload (sealedEntries roles))) =
      .ok (sealedManifest roles) := by
  unfold canonicalJson
  rw [Json.noFloat_sorted, manifestPayload_noFloat, Json.render_sorted]
  rfl

theorem sealedManifest_sha256 (roles : List (String × String)) :
    canonicalSha256 (Json.sorted (manifestPayload (sealedEntries roles))) =
      .ok (sealedSha256 roles) := by
  unfold canonicalSha256
  rw [Json.noFloat_sorted, manifestPayload_noFloat, Json.render_sorted]
  rfl

theorem isSha256_sealedSha256 (roles : List (String × String)) :
    isSha256 (sealedSha256 roles) = true := isSha256_hexdigest _

theorem isSha256_evaluatorCapsule : isSha256 evaluatorCapsuleSha256 = true := isSha256_hexdigest _

abbrev samplePreSealed : Db :=
  { sampleJudging with evaluatorArtifactSeal := [sealRow .PRE_EXECUTION '9' preRoles] }

abbrev samplePostSealed : Db :=
  { sampleJudging with evaluatorArtifactSeal :=
      [sealRow .PRE_EXECUTION '9' preRoles, sealRow .POST_EXECUTION 'a' postRoles] }

theorem sealFields_validate (phase : SealPhase) (key : Char) (roles : List (String × String))
    (db : Db) (hphase : phase ≠ .LEGACY_ATTESTED) (hkey : isLowerHex key = true) :
    Tx.run (sealFields phase key roles).validate db = .ok ((), db) := by
  have hroot : (PosixPath.parse "/evidence").absolute = true := rfl
  have hlower : isLowerHex 'e' = true ∧ isLowerHex 'c' = true ∧ isLowerHex 'a' = true := by decide
  simp -dsimp [SealFields.validate, requireCommit, requireSha256, hlower, sampleKey_ne_empty,
    sealedManifest_loads, Except.mapError, sealedManifest_json, sealedManifest_sha256,
    isSha256_sealedSha256, isSha256_evaluatorCapsule, hkey, hphase, hroot]

theorem samplePreSealed_step :
    Tx.run (Call.tx (sealedEnv "") sampleJudging
      (.createEvaluatorArtifactSeal (sampleSeal .PRE_EXECUTION '9' preRoles))) sampleJudging =
        .ok (.fresh, samplePreSealed) := by
  have hv := sealedTree_run "" sampleJudging preTree_collected
  have hroles : SealPhase.PRE_EXECUTION.requiredRoles.all (fun role =>
    (sealedView preRoles).entries.any (·.role = role)) = true := by
    simp [SealPhase.requiredRoles, sealedView, sealedEntries, SealedArtifactEntry.ofBytes]
  have hval := sealFields_validate .PRE_EXECUTION '9' preRoles sampleJudging (by decide)
    (by decide)
  simp -dsimp [Call.tx, createEvaluatorArtifactSealTx, hval, hv, hroles, run_begin,
    getControlAuthorityState, getExecution, getAgentAttempt, getContextSnapshot, requireFence,
    FenceLive, Timestamp.lt_def, Timestamp.epoch, SealFields.Bound, Db.execution?, Db.agentAttempt?,
    Db.contextSnapshot?, Db.verificationResult?, Table.lookup, Db.findSeal,
    Db.evaluatorArtifactSeal?, SealFields.requirePhase, VerificationResult.BoundTo,
    ExecutionCreate.row, AttemptOutcome.set, RegisterAgentAttempt.row, Db.init]

theorem samplePostSealed_step :
    Tx.run (Call.tx (sealedEnv "") samplePreSealed
      (.createEvaluatorArtifactSeal (sampleSeal .POST_EXECUTION 'a' postRoles))) samplePreSealed =
        .ok (.fresh, samplePostSealed) := by
  have hv := sealedTree_run "" samplePreSealed postTree_collected
  have hroles : SealPhase.POST_EXECUTION.requiredRoles.all (fun role =>
    (sealedView postRoles).entries.any (·.role = role)) = true := by
    simp [SealPhase.requiredRoles, sealedView, sealedEntries, SealedArtifactEntry.ofBytes]
  have hval := sealFields_validate .POST_EXECUTION 'a' postRoles samplePreSealed (by decide)
    (by decide)
  simp -dsimp [Call.tx, createEvaluatorArtifactSealTx, hval, hv, hroles, run_begin,
    getControlAuthorityState, getExecution, getAgentAttempt, getContextSnapshot, requireFence,
    FenceLive, Timestamp.lt_def, Timestamp.epoch, SealFields.Bound, Db.execution?, Db.agentAttempt?,
    Db.contextSnapshot?, Db.verificationResult?, Table.lookup, Db.findSeal,
    Db.evaluatorArtifactSeal?, SealFields.requirePhase, SealFields.agreesWithPre,
    VerificationResult.BoundTo, ExecutionCreate.row, AttemptOutcome.set, RegisterAgentAttempt.row,
    Db.init]

/-- What the sample Evaluator ends with, its commit and artifacts read off the seal. -/
abbrev judgedOutcome : AttemptOutcome :=
  { madeOutcome with
    stdoutArtifact := some "/evidence/stdout.txt"
    stdoutSha256 := some (Sha256.hexdigest (sampleBytes "stdout.txt"))
    stderrArtifact := some "/evidence/stderr.txt"
    stderrSha256 := some (Sha256.hexdigest (sampleBytes "stderr.txt"))
    resultArtifact := some "/evidence/result.json"
    resultSha256 := some (Sha256.hexdigest (sampleBytes "result.json")) }

abbrev finishEvaluator : FinishAgentAttempt where
  attemptId := sampleKey '8'
  outcome := madeOutcome
  postExecutionSealId := some "a"
  leaseOwner := none
  leaseGeneration := none
  requiredExecutionState := none

abbrev judgedAttempt : AgentAttempt := judgedOutcome.set sampleEvaluator.row

abbrev sampleJudged : Db := { samplePostSealed with agentAttempt := [madeAttempt, judgedAttempt] }

theorem sealedOutcome_post (env : Env) (found : EvaluatorArtifactSeal)
    (h : found.resultCommit = sampleKey 'e') :
    sealedOutcome env madeOutcome found (sealedView postRoles) = .ok judgedOutcome := by
  have hresult : (sealedView postRoles).entryForRole "result" =
      .ok (.ofBytes "result" "result.json" (sampleBytes "result.json")) := by
    simp [VerifiedArtifactManifest.entryForRole, sealedView, sealedEntries,
      SealedArtifactEntry.ofBytes]
  have hstdout : (sealedView postRoles).entryForRole "stdout" =
      .ok (.ofBytes "stdout" "stdout.txt" (sampleBytes "stdout.txt")) := by
    simp [VerifiedArtifactManifest.entryForRole, sealedView, sealedEntries,
      SealedArtifactEntry.ofBytes]
  have hstderr : (sealedView postRoles).entryForRole "stderr" =
      .ok (.ofBytes "stderr" "stderr.txt" (sampleBytes "stderr.txt")) := by
    simp [VerifiedArtifactManifest.entryForRole, sealedView, sealedEntries,
      SealedArtifactEntry.ofBytes]
  unfold sealedOutcome
  rw [hresult, hstdout, hstderr]
  refine except_bind_ok.mpr ⟨_, rfl, except_bind_ok.mpr ⟨_, rfl, except_bind_ok.mpr ⟨_, rfl,
    except_bind_ok.mpr ⟨(), ?_, ?_⟩⟩⟩⟩
  · rw [h]
    rfl
  · rw [h]
    rfl

theorem sampleJudged_step :
    Tx.run (Call.tx (sealedEnv "") samplePostSealed (.finishAgentAttempt finishEvaluator))
      samplePostSealed = .ok (.fresh, sampleJudged) := by
  have hv := sealedTree_run "" samplePostSealed postTree_collected
  have hout : Tx.run (liftSealed (sealedOutcome (sealedEnv "") madeOutcome
      (sealRow .POST_EXECUTION 'a' postRoles) (sealedView postRoles))) samplePostSealed =
        .ok (judgedOutcome, samplePostSealed) := by
    unfold liftSealed
    rw [sealedOutcome_post _ _ rfl]
    exact Tx.run_lift_ok _ _
  simp -dsimp [Call.tx, finishAgentAttemptTx, isLowerHex, getAgentAttempt, requireOptionalLease,
    terminalOutcome, hv, hout, verifyEvaluatorArtifactSeal, getEvaluatorArtifactSeal,
    getControlAuthorityState, getExecution, getContextSnapshot, SealFields.Bound, Db.execution?,
    Db.contextSnapshot?, Db.verificationResult?, Db.evaluatorArtifactSeal?,
    VerificationResult.BoundTo, AttemptOutcome.set, attemptChecks, orUnspecified,
    RegisterAgentAttempt.row, Db.agentAttempt?, Table.lookup, Table.update, commitLength,
    ExecutionCreate.row, Db.init, run_begin]


/-! ### Its evaluation -/

abbrev judgedRecord (verdict : EvaluationVerdict) : EvaluationResultRecord where
  evaluationId := "evaluation"
  operationKey := sampleKey 'b'
  executionId := "execution"
  evaluatorAttemptId := sampleKey '8'
  contextSnapshotId := "evaluation-context"
  resultCommit := sampleKey 'e'
  contractFingerprint := sampleKey 'c'
  authorityFingerprint := sampleKey 'a'
  verdict := verdict.value
  result := passResult
  resultJson := String.ofList passResult.render
  startedAt := "start"
  endedAt := "end"
  canonicalPayloadJson := String.ofList (Json.obj [("evaluation_id", .str "evaluation"),
    ("operation_key", .str (sampleKey 'b')), ("execution_id", .str "execution"),
    ("evaluator_attempt_id", .str (sampleKey '8')),
    ("context_snapshot_id", .str "evaluation-context"), ("result_commit", .str (sampleKey 'e')),
    ("contract_fingerprint", .str (sampleKey 'c')),
    ("authority_fingerprint", .str (sampleKey 'a')), ("verdict", .str verdict.value),
    ("result", passResult), ("started_at", .str "start"), ("ended_at", .str "end")]).render

abbrev sampleEvaluation (verdict : EvaluationVerdict) : RegisterEvaluation where
  record := .inl (judgedRecord verdict)
  leaseOwner := none
  leaseGeneration := none
  requiredExecutionState := none

abbrev judgedRow (verdict : EvaluationVerdict) : EvaluationResult where
  evaluationId := "evaluation"
  operationKey := sampleKey 'b'
  executionId := "execution"
  evaluatorAttemptId := sampleKey '8'
  contextSnapshotId := "evaluation-context"
  resultCommit := sampleKey 'e'
  contractFingerprint := sampleKey 'c'
  authorityFingerprint := sampleKey 'a'
  verdict := verdict
  resultJson := String.ofList passResult.render
  startedAt := "start"
  endedAt := "end"

abbrev sampleEvaluated (verdict : EvaluationVerdict) : Db :=
  { sampleJudged with evaluationResult := [judgedRow verdict] }

theorem sampleBytes_result : sampleBytes "result.json" = Sha256.utf8 passResult.render :=
  if_pos rfl

theorem sealedView_result :
    (sealedView postRoles).bytesForRole "result" = .ok (Sha256.utf8 passResult.render) := by
  have hentry : (sealedView postRoles).entryForRole "result" =
      .ok (.ofBytes "result" "result.json" (sampleBytes "result.json")) := by
    simp [VerifiedArtifactManifest.entryForRole, sealedView, sealedEntries,
      SealedArtifactEntry.ofBytes]
  refine except_bind_ok.mpr ⟨_, hentry, ?_⟩
  have hfound : (sealedView postRoles).bytesByPath.find? (·.1 = "result.json") =
      some ("result.json", sampleBytes "result.json") := by
    simp [sealedView, sealedEntries, SealedArtifactEntry.ofBytes]
  unfold VerifiedArtifactManifest.bytesAt
  simp only [SealedArtifactEntry.ofBytes, hfound, sampleBytes_result]

theorem passResult_loads : Json.loads passResult.render = some passResult :=
  Json.loads_render rfl ⟨by simp, trivial, trivial⟩

theorem passResult_decoded (env : Env) :
    decodeSealedResult env (sealedView postRoles) = .ok passResult := by
  have hloads : loadsBytes "EVALUATOR_RESULT_ARTIFACT_INVALID" "" (Sha256.utf8 passResult.render) =
      .ok passResult := by
    unfold loadsBytes
    rw [Sha256.ofUtf8_utf8, Option.bind_some, passResult_loads]
    rfl
  have hcheck : checkCanonical [("verdict", .str "PASS")] = .ok passResult := by
    have htiming : validateEvaluationTiming "$" (.obj [("verdict", .str "PASS")]) = .ok () := by
      simp [validateEvaluationTiming, validateTimingFields, expect]
      rfl
    have hverdict : requireVerdict (.str "PASS") = .ok () := by
      simp [requireVerdict, isVerdict, evaluationVerdicts]
    refine except_bind_ok.mpr ⟨(), htiming, ?_⟩
    show (requireVerdict (.str "PASS") >>= fun _ => pure (Json.obj [("verdict", .str "PASS")])) = _
    rw [hverdict]
    rfl
  have hpass : passResult = .obj [("verdict", .str "PASS")] := rfl
  rw [hpass] at hloads hcheck ⊢
  refine decodeSealedResult_ok.mpr ⟨_, sealedView_result, ?_⟩
  rw [hpass, decodeDurable_canonical hloads rfl rfl, hcheck]


theorem evaluatorContext_envelope :
    loadContextEnvelope evaluatorContext = .ok (Json.sorted evaluatorCapsule) := by
  have hf : evaluatorCapsule.noFloat = true := rfl
  have hd : evaluatorCapsule.distinctKeys := by
    simp [evaluatorCapsule, envelope, Json.distinctKeys, Json.distinctKeysFields]
  have hloads : jsonLoads evaluatorContext.canonicalJson = .ok (Json.sorted evaluatorCapsule) := by
    unfold jsonLoads
    rw [String.toList_ofList, Json.loads_render hf hd]
  have hsf : (Json.sorted evaluatorCapsule).noFloat = true := by rw [Json.noFloat_sorted, hf]
  unfold loadContextEnvelope
  rw [hloads]
  refine except_bind_ok.mpr ⟨_, rfl, except_bind_ok.mpr ⟨_, if_pos hsf, except_bind_ok.mpr
    ⟨_, if_pos hsf, except_bind_ok.mpr ⟨(), ?_, ?_⟩⟩⟩⟩
  · rw [Json.render_sorted]
    exact if_pos ⟨rfl, rfl⟩
  · rfl

theorem completion_notStrict (env : Env) (execution : SliceExecution) (attempt : AgentAttempt)
    (verification : Option VerificationResult) (bundle : Option EvaluatorArtifactBinding)
    (view : VerifiedArtifactManifest) (allowed : List AgentAttemptStatus) (db : Db) :
    Tx.run (liftSealed (validateDurableEvaluatorCompletionBinding env
      { execution := execution, attempt := attempt, verification := verification
        context := evaluatorContext, bundle := bundle, sealedArtifacts := view
        result := passResult, allowedStatuses := allowed })) db = .ok ((), db) := by
  have hd : evaluatorCapsule.distinctKeys := by
    simp [evaluatorCapsule, envelope, Json.distinctKeys, Json.distinctKeysFields]
  have hok : validateDurableEvaluatorCompletionBinding env
      { execution := execution, attempt := attempt, verification := verification
        context := evaluatorContext, bundle := bundle, sealedArtifacts := view
        result := passResult, allowedStatuses := allowed } = .ok () := by
    refine except_bind_ok.mpr ⟨_, evaluatorContext_envelope, ?_⟩
    rw [Json.get?_sorted hd]
    rfl
  unfold liftSealed
  rw [hok]
  exact Tx.run_lift_ok _ _

theorem sampleEvaluation_prepared (verdict : EvaluationVerdict) :
    Tx.run (prepareEvaluation (sealedEnv "") (sampleEvaluation verdict)) sampleJudged =
      .ok (judgedRecord verdict, sampleJudged) := by
  have hv := sealedTree_run "" sampleJudged postTree_collected
  have hd := passResult_decoded (sealedEnv "")
  have hjson : canonicalJson passResult = .ok (String.ofList passResult.render) := rfl
  have hpayload : canonicalJson (judgedRecord verdict).semanticPayload =
      .ok (judgedRecord verdict).canonicalPayloadJson := rfl
  simp -dsimp [prepareEvaluation, hpayload, hjson, validateEvaluationCompletionBinding,
    getExecution, getAgentAttempt, getContextSnapshot, hv, hd, completion_notStrict,
    verifyEvaluatorArtifactSeal, getEvaluatorArtifactSeal, getControlAuthorityState,
    SealFields.Bound, Db.execution?, Db.contextSnapshot?, Db.verificationResult?,
    Db.evaluatorArtifactSeal?, VerificationResult.BoundTo, AttemptOutcome.set,
    RegisterAgentAttempt.row, Db.agentAttempt?, Table.lookup, ExecutionCreate.row, Db.init,
    Db.findAuthoritativeSeal, Db.findSeal]

theorem sampleEvaluated_step (verdict : EvaluationVerdict) :
    Tx.run (Call.tx (sealedEnv "") sampleJudged (.registerEvaluationResult
      (sampleEvaluation verdict))) sampleJudged = .ok (.fresh, sampleEvaluated verdict) := by
  have hp : Tx.run (Tx.lift ((prepareEvaluation (sealedEnv "") (sampleEvaluation verdict)
      sampleJudged).map Prod.fst)) sampleJudged = .ok (judgedRecord verdict, sampleJudged) :=
    Tx.run_lift_run (sampleEvaluation_prepared verdict) _
  simp -dsimp [Call.tx, registerEvaluationResultTx, hp, commitEvaluationTx, requireOptionalLease,
    getExecution, getAgentAttempt, insertEvaluationResult, Db.execution?, Db.evaluationResult?,
    AttemptOutcome.set, RegisterAgentAttempt.row, Db.agentAttempt?, Table.lookup,
    ExecutionCreate.row, Db.init, AgentAttempt.Completed, EvaluationResultRecord.row,
    EvaluationVerdict.ofString_value, commitLength, run_begin]

/-! ### The run -/

/-- A call that neither judges nor accepts. -/
def Call.Prepares : Call → Prop
  | .registerEvaluationResult _ | .acceptExecution _ => False
  | _ => True

/-- The sample execution is judged in every run that allows what leads there. -/
theorem sampleJudged_run {allowed : Env → Call → Db → Prop}
    (hok : ∀ id call db, Call.Prepares call →
      allowed (sampleEnv id) call db ∧ allowed (sealedEnv id) call db) :
    ∃ past, Run allowed past sampleJudged := by
  have hsample : ∀ {db db' : Db} {id : String} {call : Call}, (∃ past, Run allowed past db) →
      Tx.run (call.tx (sampleEnv id) db) db = .ok (.fresh, db') → Call.Prepares call →
      ∃ past, Run allowed past db' := by
    rintro db db' id call ⟨_, hrun⟩ hx hcall
    exact ⟨_, hrun.extend _ _ _ (hok id call db hcall).1 hx⟩
  have hsealed : ∀ {db db' : Db} {id : String} {call : Call}, (∃ past, Run allowed past db) →
      Tx.run (call.tx (sealedEnv id) db) db = .ok (.fresh, db') → Call.Prepares call →
      ∃ past, Run allowed past db' := by
    rintro db db' id call ⟨_, hrun⟩ hx hcall
    exact ⟨_, hrun.extend _ _ _ (hok id call db hcall).2 hx⟩
  have hmaking := hsample (hsample (hsample ⟨[], .start⟩ sampleCreated_step trivial)
    sampleLeased_step trivial) sampleMaking_step trivial
  have hmade := hsample (hsample (hsample hmaking sampleInContext_step trivial)
    sampleOneMaker_step trivial) sampleMade_step trivial
  have hverified := hsample (hsample (hsample hmade sampleCommitted_step trivial)
    sampleVerifying_step trivial) sampleVerified_step trivial
  have hjudging := hsample (hsample (hsample hverified sampleEvaluating_step trivial)
    sampleBriefed_step trivial) sampleJudging_step trivial
  exact hsealed (hsealed (hsealed hjudging samplePreSealed_step trivial) samplePostSealed_step
    trivial) sampleJudged_step trivial

/-- The bytes of the sample runs, by their hashes. -/
def sampleContent (sha256 : String) : List UInt8 :=
  if sha256 = Sha256.hexdigest (Sha256.utf8 passResult.render) then Sha256.utf8 passResult.render
  else []

theorem sampleContent_nil : sampleContent (Sha256.hexdigest []) = [] :=
  if_neg (by decide +kernel)

theorem sampleReads (id : String) : Reads sampleContent (fun text => text) (sampleEnv id) := by
  refine ⟨fun h => ?_, rfl⟩
  cases h
  exact sampleContent_nil

theorem sealedReads (id : String) : Reads sampleContent (fun text => text) (sealedEnv id) := by
  refine ⟨fun {root path data} h => ?_, rfl⟩
  obtain rfl : sampleBytes path = data := Except.ok.inj h
  unfold sampleBytes
  split
  · exact if_pos rfl
  · exact sampleContent_nil

theorem sampleSeal_found (verdict : EvaluationVerdict) :
    (sampleEvaluated verdict).findAuthoritativeSeal (judgedRow verdict).evaluatorAttemptId =
      some (sealRow .POST_EXECUTION 'a' postRoles) := by
  simp [Db.findAuthoritativeSeal, Db.findSeal]

theorem sampleSeal_result : sealedResult sampleContent (fun text => text)
    (sealFields .POST_EXECUTION 'a' postRoles) = .ok passResult :=
  (sealedReads "").sealedResult (sealedTree_verifies "" postTree_collected) (passResult_decoded _)

/-- Registered under the verdict of its result, the sample evaluation passed. -/
theorem evaluation_verdict_sealed_pass :
    ∃ m, passResult.get? "verdict" = some m ∧ m = .str (judgedRow .PASS).verdict.value := by
  have hnames : RegisterEvaluation.NamesVerdict (sampleEvaluation .PASS) := by
    refine ⟨⟨by simp, trivial, trivial⟩, fun m hm => ?_⟩
    cases hm
    rfl
  obtain ⟨past, hrun⟩ := @sampleJudged_run
    (fun env call _ => Reads sampleContent (fun text => text) env ∧ Call.NamesVerdict call)
    fun id call db hcall => by
      have hcall : Call.NamesVerdict call := by cases call <;> trivial
      exact ⟨⟨sampleReads id, hcall⟩, ⟨sealedReads id, hcall⟩⟩
  refine ⟨_, rfl, ?_⟩
  exact evaluation_verdict_sealed
    (hrun.extend (sealedEnv "") (.registerEvaluationResult (sampleEvaluation .PASS)) .fresh
      ⟨sealedReads "", hnames⟩ (sampleEvaluated_step .PASS))
    (List.mem_singleton_self (judgedRow .PASS)) (sampleSeal_found .PASS) sampleSeal_result rfl

/-- **Another verdict.** The store registers the sample evaluation as one that asks
for a rework, while the result in the seal of its attempt says that it passed. -/
theorem evaluation_verdict_not_sealed :
    ∃ past db e s v m, Run (fun env _ _ => Reads sampleContent (fun text => text) env) past db ∧
      e ∈ db.evaluationResult ∧ db.findAuthoritativeSeal e.evaluatorAttemptId = some s ∧
      sealedResult sampleContent (fun text => text) s.toSealFields = .ok v ∧
      v.get? "verdict" = some m ∧ m ≠ .str e.verdict.value := by
  obtain ⟨past, hrun⟩ := @sampleJudged_run
    (fun env _ _ => Reads sampleContent (fun text => text) env)
    fun id _ _ _ => ⟨sampleReads id, sealedReads id⟩
  refine ⟨_, _, judgedRow .REWORK_REQUIRED, _, passResult, .str "PASS",
    hrun.extend _ _ _ (sealedReads "") (sampleEvaluated_step .REWORK_REQUIRED),
    List.mem_singleton_self _, sampleSeal_found .REWORK_REQUIRED, sampleSeal_result, rfl, ?_⟩
  simp [EvaluationVerdict.value]

end Adcp.L4
