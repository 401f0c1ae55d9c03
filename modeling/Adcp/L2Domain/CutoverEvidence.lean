import Mathlib
/-!
# The evidence of a failed cutover

What a cutover that has to be reconciled says of itself: how far it had got, and what
became of the writers.
-/
namespace Adcp.L2

/-- How far a cutover has got; `str(state["stage"])` is the name. -/
inductive CutoverStage where
  | notStarted
  | bindingValidation
  | quiesce
  | epochRead
  | epochTransitionValidation
  | epochCas
  | runtimeMaterialization
  | startupAuthorityMaterialization
  | preparedReadback
  | runtimeActivation
  | effectiveReadback
  | effectComplete
  | preCasRestore
  | runnerReadback
  | runnerReadbackComplete
  | durableReceipt
  | durableReceiptComplete
  deriving DecidableEq, Repr

/-- mirrors src/adcp/cleaner_cutover_control.py:2175-2271 -/
def CutoverStage.name : CutoverStage → String
  | notStarted => "NOT_STARTED"
  | bindingValidation => "BINDING_VALIDATION"
  | quiesce => "QUIESCE"
  | epochRead => "EPOCH_READ"
  | epochTransitionValidation => "EPOCH_TRANSITION_VALIDATION"
  | epochCas => "EPOCH_CAS"
  | runtimeMaterialization => "RUNTIME_MATERIALIZATION"
  | startupAuthorityMaterialization => "STARTUP_AUTHORITY_MATERIALIZATION"
  | preparedReadback => "PREPARED_READBACK"
  | runtimeActivation => "RUNTIME_ACTIVATION"
  | effectiveReadback => "EFFECTIVE_READBACK"
  | effectComplete => "EFFECT_COMPLETE"
  | preCasRestore => "PRE_CAS_RESTORE"
  | runnerReadback => "RUNNER_READBACK"
  | runnerReadbackComplete => "RUNNER_READBACK_COMPLETE"
  | durableReceipt => "DURABLE_RECEIPT"
  | durableReceiptComplete => "DURABLE_RECEIPT_COMPLETE"

/-- mirrors src/adcp/cleaner_cutover_control.py:336-347
(`CleanerCutoverReconciliationEvidence`) -/
structure CutoverReconciliation where
  operationId : String
  stage : CutoverStage
  currentEpoch : Int
  targetEpoch : Int
  epochAdvanced : Bool
  selectedWriterIds : List String
  priorPlistSha256 : List (String × String)
  safeQuiescenceAttempted : Bool
  safeQuiescenceConfirmed : Bool
  failureType : String
  deriving DecidableEq, Repr

/-- mirrors src/adcp/cleaner_cutover_control.py:350-356
(`CleanerCutoverReconciliationRequired`) -/
def CutoverReconciliation.detail (e : CutoverReconciliation) : String :=
  "stage=" ++ e.stage.name ++ ",epoch=" ++ toString e.currentEpoch ++ "->" ++ toString e.targetEpoch

end Adcp.L2
