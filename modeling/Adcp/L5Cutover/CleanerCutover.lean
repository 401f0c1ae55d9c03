import Adcp.L1Base.Method
import Adcp.L2Domain.Writers
import Adcp.L5Deploy.ControlledDeployment

/-!
# The cutover of the Cleaner

The two deployments that move the Cleaner to PostgreSQL: one prepares the authority and
starts no writer, the other one activates the runtime too. Each is the one step of a
controlled deployment; what it does to the runtime and to the epoch are calls of its ports.

* `CleanerEpochTransition`, `CleanerRuntimeTuple`: values that cannot be built wrong.
* `preparation`: `prepare_cleaner_postgres_cutover`.
* `cutover`: `execute_cleaner_postgres_cutover`, whose effect, readback and persisting share
  one dictionary.
-/
namespace Adcp.L5.Cutover

open Adcp.L1 Adcp.L2 Adcp.L3 Script

/-! ## Values -/

/-- mirrors src/adcp/cleaner_cutover_control.py:136-139 -/
inductive CleanerAuthorityMode where
  | legacy
  | postgres
  deriving DecidableEq, Repr

/-- mirrors src/adcp/cleaner_cutover_control.py:142-144 -/
inductive CleanerRuntimeTopology where
  | preCutover
  | postCutoverPg
  deriving DecidableEq, Repr

/-- mirrors src/adcp/cleaner_cutover_control.py:147-167 -/
structure CleanerRuntimeTuple where
  authority : CleanerAuthorityMode
  pgIngressEnabled : Bool
  authorityEpoch : Int
  topology : CleanerRuntimeTopology
  epochValid : 0 ≤ authorityEpoch
  valid : (authority = .legacy ∧ pgIngressEnabled = false ∧ topology = .preCutover) ∨
    (authority = .postgres ∧ pgIngressEnabled = true ∧ topology = .postCutoverPg)

/-- mirrors src/adcp/cleaner_cutover_control.py:170-179 -/
structure CleanerEpochTransition where
  currentEpoch : Int
  targetEpoch : Int
  nonneg : 0 ≤ currentEpoch ∧ 0 ≤ targetEpoch
  successor : targetEpoch = currentEpoch + 1

/-- `CleanerCutoverControlError(code)`. -/
def cutoverError {β γ : Type} (code : String) : ControlError β γ :=
  .raised (.raised "CleanerCutoverControlError" code)

/-- `CleanerEpochTransition(current, target)`. -/
def epochTransition {β γ : Type} (current target : Int) :
    Except (ControlError β γ) CleanerEpochTransition :=
  if h : 0 ≤ current ∧ 0 ≤ target then
    if hs : target = current + 1 then .ok ⟨current, target, h, hs⟩
    else .error (cutoverError "CLEANER_EPOCH_SUCCESSOR_REQUIRED")
  else .error (cutoverError "CLEANER_EPOCH_VALUE_INVALID")

/-- `CleanerRuntimeTuple(POSTGRES, True, epoch, POST_CUTOVER_PG)`. -/
def postgresRuntime {β γ : Type} (epoch : Int) : Except (ControlError β γ) CleanerRuntimeTuple :=
  if h : 0 ≤ epoch then .ok ⟨.postgres, true, epoch, .postCutoverPg, h, Or.inr ⟨rfl, rfl, rfl⟩⟩
  else .error (cutoverError "CLEANER_RUNTIME_EPOCH_INVALID")

abbrev Bytes : Type := List UInt8

/-- The service definition of a writer as it was. -/
structure PriorPlist where
  writerId : String
  path : String
  raw : Bytes
  sha256 : String
  deriving DecidableEq

/-- The authorised identity of a writer as it was, when there was one. -/
structure PriorIdentity where
  writerId : String
  path : String
  raw : Option (Bytes × String)
  deriving DecidableEq

/-- Without the three fields that repeat what is known of W07's identity.
mirrors src/adcp/cleaner_cutover_control.py:302-310 -/
structure CleanerRuntimeSnapshot where
  inventory : WriterInventory
  selectedWriterIds : List String
  priorPlists : List PriorPlist
  priorAuthorizedIdentities : List PriorIdentity
  deriving DecidableEq

/-- mirrors src/adcp/cleaner_cutover_control.py:313-320 -/
structure CleanerCutoverPrepared where
  currentEpoch : Int
  targetEpoch : Int
  runtimeTuple : CleanerRuntimeTuple
  selectedWriterIds : List String
  plistSha256 : List (String × String)

/-- mirrors src/adcp/cleaner_cutover_control.py:323-332 -/
structure CleanerCutoverActivated (μ : Type) where
  currentEpoch : Int
  targetEpoch : Int
  runtimeTuple : CleanerRuntimeTuple
  selectedWriterIds : List String
  plistSha256 : List (String × String)
  w07AuthorizedIdentitySha256 : String
  physicalReadback : μ

/-! ## The ports -/

variable {μ : Type}

/-- What the two deployments call: the epoch port, the runtime port, whose readbacks are
mappings of a type `μ`, and the persisting of the result.
mirrors src/adcp/cleaner_cutover_control.py:358-375 -/
inductive CutoverCall (μ δ : Type) where
  | readCurrent
  | advance (transition : CleanerEpochTransition)
  | validateActivationBinding
  | quiesceForCutover
  | materializePostgresRuntime (s : CleanerRuntimeSnapshot) (r : CleanerRuntimeTuple)
  | restorePreCutover (s : CleanerRuntimeSnapshot)
  | readbackPrepared (r : CleanerRuntimeTuple)
  | materializeW07AuthorizedIdentity (s : CleanerRuntimeSnapshot) (r : CleanerRuntimeTuple)
  | activatePostgresRuntime (s : CleanerRuntimeSnapshot) (r : CleanerRuntimeTuple) (w07Sha : String)
  | readbackEffective (s : CleanerRuntimeSnapshot) (r : CleanerRuntimeTuple) (w07Sha : String)
  | quiesceAfterFailedActivation (s : CleanerRuntimeSnapshot)
  | persistResult (evidence : List (EffectEvidence δ μ))

abbrev CutoverAnswer {μ δ : Type} : CutoverCall μ δ → Type
  | .readCurrent | .advance _ => Int
  | .quiesceForCutover => CleanerRuntimeSnapshot
  | .materializePostgresRuntime .. => List (String × String)
  | .materializeW07AuthorizedIdentity .. => String
  | .readbackPrepared _ | .activatePostgresRuntime .. | .readbackEffective .. => μ
  | .validateActivationBinding | .restorePreCutover _ | .quiesceAfterFailedActivation _
  | .persistResult _ => Unit

/-- What the deployment of a request is. -/
structure CutoverRequest where
  deployment : Deployment
  approvedTargetEpoch : Int

/-! ## The preparation -/

abbrev PrepareScript (μ α : Type) : Type :=
  ControlScript (CutoverAnswer (μ := μ) (δ := CleanerCutoverPrepared)) CleanerCutoverPrepared μ α

namespace Prepare

def port (c : CutoverCall μ CleanerCutoverPrepared) : PrepareScript μ (CutoverAnswer c) :=
  ask (.user c)

/-- What is guarded by the restoration.
mirrors src/adcp/cleaner_cutover_control.py:2123-2134 -/
def advanceAndMaterialize (target : Int) (snapshot : CleanerRuntimeSnapshot) (current : Int) :
    PrepareScript μ CleanerCutoverPrepared := do
  let transition ← lift (epochTransition current target)
  let target ← port (.advance transition)
  let runtime ← lift (postgresRuntime target)
  let plists ← port (.materializePostgresRuntime snapshot runtime)
  pure { currentEpoch := current, targetEpoch := target, runtimeTuple := runtime
         selectedWriterIds := snapshot.selectedWriterIds, plistSha256 := plists }

/-- mirrors src/adcp/cleaner_cutover_control.py:2120-2139 (`effect`) -/
def effect (target : Int) : PrepareScript μ CleanerCutoverPrepared := do
  let snapshot ← port .quiesceForCutover
  -- a read that raises leaves the effect with the writers quiesced
  let current ← port .readCurrent
  match ← (advanceAndMaterialize target snapshot current).attempt with
  | .ok prepared => pure prepared
  | .error e => do
    port (.restorePreCutover snapshot)
    fail e

def step (target : Int) : DeploymentStep (CutoverAnswer (μ := μ) (δ := CleanerCutoverPrepared))
    CleanerCutoverPrepared μ where
  name := "CLEANER_CUTOVER_PREPARE"
  effect := effect target
  readback result := port (.readbackPrepared result.runtimeTuple)

end Prepare

/-- mirrors src/adcp/cleaner_cutover_control.py:2106-2155 -/
def preparation (req : CutoverRequest) :
    PrepareScript μ (List (EffectEvidence CleanerCutoverPrepared μ)) := do
  let evidence ← runControlledDeployment req.deployment [Prepare.step req.approvedTargetEpoch]
    fun evidence => Prepare.port (.persistResult evidence)
  Script.require (evidence.length = 1) (cutoverError "CLEANER_CUTOVER_PREPARE_RECEIPT_MISSING")
  pure evidence

/-! ## The cutover -/

/-- The dictionary that the three parts of a cutover share.
mirrors src/adcp/cleaner_cutover_control.py:2178-2185 -/
structure CutoverState where
  snapshot : Option CleanerRuntimeSnapshot
  current : Int
  epochAdvanced : Bool
  stage : CutoverStage
  quiescedAfterFailure : Bool

def CutoverState.initial : CutoverState where
  snapshot := none
  current := -1
  epochAdvanced := false
  stage := .notStarted
  quiescedAfterFailure := false

/-- What the effect and the readback of a cutover answer: with it travels the dictionary as
they leave it, which nothing else reads before the next part. -/
abbrev CutoverError (μ : Type) : Type :=
  ControlError (CleanerCutoverActivated μ × CutoverState) (μ × CutoverState)

abbrev CutoverControlAnswer (μ : Type) :
    ControlCall (CutoverCall μ (CleanerCutoverActivated μ)) → Type :=
  ControlAnswer (CutoverAnswer (μ := μ) (δ := CleanerCutoverActivated μ))

abbrev CutoverScript (μ α : Type) : Type := Script (CutoverError μ) (CutoverControlAnswer μ) α

abbrev CutoverMethod (μ α : Type) : Type :=
  Method CutoverState (CutoverError μ) (CutoverControlAnswer μ) α

/-- `type(error).__name__`. -/
def className : CutoverError μ → String
  | .raised (.store ..) => "StoreError"
  | .raised (.integrity _) | .raised (.check ..) => "IntegrityError"
  | .raised (.canonicalization _) => "CanonicalizationError"
  | .raised .overflow => "OverflowError"
  | .raised (.boundary ..) => "EvaluatorBoundaryError"
  | .raised (.controller ..) => "ControllerError"
  | .raised (.reconciliation _) => "CleanerCutoverReconciliationRequired"
  | .raised (.raised name _) => name
  | .control .. => "ProductionControlError"
  | .authorityLost .. => "DeploymentAuthorityLost"

namespace Execute

open Method (modify fields raise)

def port (c : CutoverCall μ (CleanerCutoverActivated μ)) : CutoverMethod μ (CutoverAnswer c) :=
  Method.ask (ControlCall.user c)

def demand (c : Prop) [Decidable c] (code : String) : CutoverMethod μ Unit :=
  Method.lift (if c then .ok () else .error (cutoverError code))

def setStage (stage : CutoverStage) : CutoverMethod μ Unit :=
  modify fun s => { s with stage := stage }

/-- mirrors src/adcp/cleaner_cutover_control.py:2197-2216 -/
def evidenceOf (req : CutoverRequest) (s : CutoverState) (error : CutoverError μ) :
    CutoverReconciliation where
  operationId := req.deployment.deploymentId
  stage := s.stage
  currentEpoch := s.current
  targetEpoch := req.approvedTargetEpoch
  epochAdvanced := s.epochAdvanced
  selectedWriterIds := (s.snapshot.map (·.selectedWriterIds)).getD []
  priorPlistSha256 := (s.snapshot.map fun snapshot =>
    snapshot.priorPlists.map fun p => (p.writerId, p.sha256)).getD []
  safeQuiescenceAttempted := s.snapshot.isSome
  safeQuiescenceConfirmed := s.quiescedAfterFailure
  failureType := className error

/-- Quiesces the writers again, when they have been before.
mirrors src/adcp/cleaner_cutover_control.py:2188-2196 -/
def quiesceAgain : CutoverMethod μ Unit := do
  match (← fields).snapshot with
  | none => pure ()
  | some snapshot =>
    match ← Method.attempt (port (.quiesceAfterFailedActivation snapshot)) with
    | .ok () => modify fun s => { s with quiescedAfterFailure := true }
    | .error _ => modify fun s => { s with quiescedAfterFailure := false }

/-- mirrors src/adcp/cleaner_cutover_control.py:2187-2217 -/
def reconciliation {α : Type} (req : CutoverRequest) (error : CutoverError μ) : CutoverMethod μ α := do
  quiesceAgain
  let s ← fields
  raise (.raised (.reconciliation (evidenceOf req s error)))

/-- `tuple(dict.fromkeys((*ids, "W07")))` -/
def withW07 (ids : List String) : List String := (ids ++ ["W07"]).eraseDups

variable [DecidableEq μ]

/-- What follows the advance.
mirrors src/adcp/cleaner_cutover_control.py:2234-2264 -/
def activateRuntime (snapshot : CleanerRuntimeSnapshot) (current target : Int) :
    CutoverMethod μ (CleanerCutoverActivated μ) := do
  setStage .runtimeMaterialization
  let runtime ← Method.lift (postgresRuntime target)
  let plists ← port (.materializePostgresRuntime snapshot runtime)
  setStage .startupAuthorityMaterialization
  let w07Sha ← port (.materializeW07AuthorizedIdentity snapshot runtime)
  setStage .preparedReadback
  let _ ← port (.readbackPrepared runtime)
  setStage .runtimeActivation
  let physical ← port (.activatePostgresRuntime snapshot runtime w07Sha)
  setStage .effectiveReadback
  let effective ← port (.readbackEffective snapshot runtime w07Sha)
  demand (effective = physical) "CLEANER_POST_CUTOVER_READBACK_DRIFT"
  let now ← port .readCurrent
  demand (now = target) "CLEANER_POST_CUTOVER_EPOCH_DRIFT"
  setStage .effectComplete
  pure { currentEpoch := current, targetEpoch := target, runtimeTuple := runtime
         selectedWriterIds := withW07 snapshot.selectedWriterIds, plistSha256 := plists
         w07AuthorizedIdentitySha256 := w07Sha, physicalReadback := effective }

/-- mirrors src/adcp/cleaner_cutover_control.py:2225-2264 -/
def activate (req : CutoverRequest) (snapshot : CleanerRuntimeSnapshot) :
    CutoverMethod μ (CleanerCutoverActivated μ) := do
  setStage .epochRead
  let current ← port .readCurrent
  modify fun s => { s with current := current }
  setStage .epochTransitionValidation
  let transition ← Method.lift (epochTransition current req.approvedTargetEpoch)
  setStage .epochCas
  let target ← port (.advance transition)
  modify fun s => { s with epochAdvanced := true }
  activateRuntime snapshot current target

/-- The prior runtime comes back, and the exception goes on. -/
def restore {α : Type} (snapshot : CleanerRuntimeSnapshot) (error : CutoverError μ) :
    CutoverMethod μ α := do
  setStage .preCasRestore
  port (.restorePreCutover snapshot)
  raise error

/-- After the epoch has been read again.
mirrors src/adcp/cleaner_cutover_control.py:2271-2282 -/
def decideFrom {α : Type} (req : CutoverRequest) (snapshot : CleanerRuntimeSnapshot)
    (error : CutoverError μ) : Except (CutoverError μ) Int → CutoverMethod μ α
  | .error _ => reconciliation req error
  | .ok factual => do
    let s ← fields
    if factual = req.approvedTargetEpoch then do
      modify fun s => { s with epochAdvanced := true }
      reconciliation req error
    else if factual ≠ s.current then reconciliation req error
    else restore snapshot error

/-- mirrors src/adcp/cleaner_cutover_control.py:2265-2282 -/
def afterFailure {α : Type} (req : CutoverRequest) (snapshot : CleanerRuntimeSnapshot)
    (error : CutoverError μ) : CutoverMethod μ α := do
  let s ← fields
  if s.stage = .epochRead ∨ s.stage = .epochTransitionValidation then restore snapshot error
  else do
    let factual ← Method.attempt (port .readCurrent)
    decideFrom req snapshot error factual

/-- mirrors src/adcp/cleaner_cutover_control.py:2219-2282 (`effect`) -/
def effect (req : CutoverRequest) : CutoverMethod μ (CleanerCutoverActivated μ) := do
  setStage .bindingValidation
  port .validateActivationBinding
  setStage .quiesce
  let snapshot ← port .quiesceForCutover
  modify fun s => { s with snapshot := some snapshot }
  match ← Method.attempt (activate req snapshot) with
  | .ok activated => pure activated
  | .error e => afterFailure req snapshot e

/-- What stands under `try` in the readback. -/
def readEffective (snapshot : CleanerRuntimeSnapshot) (result : CleanerCutoverActivated μ) :
    CutoverMethod μ μ := do
  setStage .runnerReadback
  let value ← port (.readbackEffective snapshot result.runtimeTuple
    result.w07AuthorizedIdentitySha256)
  let now ← port .readCurrent
  demand (now = result.targetEpoch) "CLEANER_POST_CUTOVER_EPOCH_DRIFT"
  setStage .runnerReadbackComplete
  pure value

/-- mirrors src/adcp/cleaner_cutover_control.py:2284-2298 (`readback`) -/
def readback (req : CutoverRequest) (result : CleanerCutoverActivated μ) : CutoverMethod μ μ := do
  match (← fields).snapshot with
  | none => raise (cutoverError "CLEANER_CUTOVER_SNAPSHOT_MISSING")
  | some snapshot =>
    match ← Method.attempt (readEffective snapshot result) with
    | .ok value => pure value
    | .error e => reconciliation req e

abbrev Evidence (μ : Type) : Type :=
  List (EffectEvidence (CleanerCutoverActivated μ × CutoverState) (μ × CutoverState))

/-- The evidence without the dictionary. -/
def stripped (evidence : Evidence μ) : List (EffectEvidence (CleanerCutoverActivated μ) μ) :=
  evidence.map fun e => ⟨e.step, e.operationId, e.effectResult.1, e.readback.1⟩

/-- The dictionary as the readback has left it. -/
def stateOf (evidence : Evidence μ) : CutoverState :=
  (evidence.getLast?.map (·.readback.2)).getD .initial

/-- mirrors src/adcp/cleaner_cutover_control.py:2300-2307 (`persist`) -/
def persist (req : CutoverRequest) (evidence : Evidence μ) : CutoverMethod μ Unit := do
  setStage .durableReceipt
  match ← Method.attempt (port (.persistResult (stripped evidence))) with
  | .ok () => setStage .durableReceiptComplete
  | .error e => reconciliation req e

/-- A part of the cutover as the runner calls it. -/
def part {α : Type} (m : CutoverMethod μ α) (s : CutoverState) : CutoverScript μ (α × CutoverState) := do
  let p ← m s
  lift (p.1.map (·, p.2))

def step (req : CutoverRequest) :
    DeploymentStep (CutoverAnswer (μ := μ) (δ := CleanerCutoverActivated μ))
      (CleanerCutoverActivated μ × CutoverState) (μ × CutoverState) where
  name := "CLEANER_CUTOVER_ACTIVATE"
  effect := part (effect req) .initial
  readback result := part (readback req result.1) result.2

end Execute

/-- mirrors src/adcp/cleaner_cutover_control.py:2158-2321 -/
def cutover [DecidableEq μ] (req : CutoverRequest) :
    CutoverScript μ (List (EffectEvidence (CleanerCutoverActivated μ) μ)) := do
  let evidence ← runControlledDeployment req.deployment [Execute.step req] fun evidence => do
    let _ ← Execute.part (Execute.persist req evidence) (Execute.stateOf evidence)
  Script.require (evidence.length = 1) (cutoverError "CLEANER_CUTOVER_ACTIVATION_RECEIPT_MISSING")
  pure (Execute.stripped evidence)

end Adcp.L5.Cutover
