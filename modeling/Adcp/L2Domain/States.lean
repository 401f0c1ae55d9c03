import Adcp.L2Domain.Basic

/-!
# The execution state machine

The states of an execution, the transition table, and `validate_transition`.
`Edge` is the table together with the dynamic rule for `BLOCKED`: the only ways
out of it are the resume state stored when it was entered, and `CANCELLED`.

* `validateTransition_ok`: the check lets a step through iff it is an `Edge`
  and the new resume state fits the target.
* `edge_terminal`: no edge leaves a terminal state.
-/
namespace Adcp.L2

open Adcp.L1

/-- mirrors src/adcp/domain.py:24-34 -/
inductive ExecutionState where
  | READY | MAKER_RUNNING | VERIFYING | EVALUATING | REWORK_READY | WAITING_APPROVAL
  | BLOCKED | DESIGN_ESCALATION | ACCEPTED | CANCELLED
  deriving DecidableEq, Repr

/-- mirrors src/adcp/domain.py:37-40 -/
inductive RiskLevel where
  | LOW | NORMAL | HIGH
  deriving DecidableEq, Repr

/-- mirrors src/adcp/domain.py:43-46 -/
inductive Environment where
  | TEST | SHADOW | PRODUCTION
  deriving DecidableEq, Repr

/-- mirrors src/adcp/domain.py:49-53 -/
inductive ActorRole where
  | CONTROLLER | MAKER | EVALUATOR | HUMAN
  deriving DecidableEq, Repr

/-- `CapsuleRole`: the roles a context capsule and an agent attempt can have. -/
inductive CapsuleRole where
  | MAKER | EVALUATOR
  deriving DecidableEq, Repr

/-- mirrors src/adcp/domain.py:56-61 -/
inductive AgentAttemptStatus where
  | RUNNING | SUCCEEDED | FAILED | ABORTED | LOST
  deriving DecidableEq, Repr

def ExecutionState.value : ExecutionState → String
  | .READY => "READY"
  | .MAKER_RUNNING => "MAKER_RUNNING"
  | .VERIFYING => "VERIFYING"
  | .EVALUATING => "EVALUATING"
  | .REWORK_READY => "REWORK_READY"
  | .WAITING_APPROVAL => "WAITING_APPROVAL"
  | .BLOCKED => "BLOCKED"
  | .DESIGN_ESCALATION => "DESIGN_ESCALATION"
  | .ACCEPTED => "ACCEPTED"
  | .CANCELLED => "CANCELLED"

def RiskLevel.value : RiskLevel → String
  | .LOW => "LOW"
  | .NORMAL => "NORMAL"
  | .HIGH => "HIGH"

def Environment.value : Environment → String
  | .TEST => "TEST"
  | .SHADOW => "SHADOW"
  | .PRODUCTION => "PRODUCTION"

def ActorRole.value : ActorRole → String
  | .CONTROLLER => "CONTROLLER"
  | .MAKER => "MAKER"
  | .EVALUATOR => "EVALUATOR"
  | .HUMAN => "HUMAN"

def CapsuleRole.value : CapsuleRole → String
  | .MAKER => "MAKER"
  | .EVALUATOR => "EVALUATOR"

/-- mirrors src/adcp/domain.py:133-137 (`MAX_AUTO_REWORKS`) -/
def RiskLevel.maxAutoReworks : RiskLevel → Int
  | .LOW => 2
  | .NORMAL => 2
  | .HIGH => 0

open ExecutionState

/-- mirrors src/adcp/domain.py:139-145 -/
def terminalStates : List ExecutionState := [ACCEPTED, CANCELLED, DESIGN_ESCALATION]

/-- mirrors src/adcp/domain.py:147-154 -/
def blockedResumeStates : List ExecutionState := [READY, VERIFYING, EVALUATING, REWORK_READY]

/-- mirrors src/adcp/domain.py:156-200 (`TRANSITIONS`) -/
def transitions : ExecutionState → List ExecutionState
  | READY => [MAKER_RUNNING, BLOCKED, CANCELLED]
  | MAKER_RUNNING => [VERIFYING, BLOCKED, DESIGN_ESCALATION, CANCELLED]
  | VERIFYING => [EVALUATING, REWORK_READY, DESIGN_ESCALATION, BLOCKED, CANCELLED]
  | EVALUATING =>
    [ACCEPTED, REWORK_READY, DESIGN_ESCALATION, WAITING_APPROVAL, BLOCKED, CANCELLED]
  | REWORK_READY => [MAKER_RUNNING, BLOCKED, CANCELLED]
  | WAITING_APPROVAL => [EVALUATING, DESIGN_ESCALATION, CANCELLED]
  | BLOCKED => []
  | DESIGN_ESCALATION => []
  | ACCEPTED => []
  | CANCELLED => []

/-- The step `source → target` when `resume` is the stored resume state: an edge
of the table, or out of `BLOCKED` to `resume` or `CANCELLED`. -/
def Edge (source target : ExecutionState) (resume : Option ExecutionState) : Prop :=
  if source = BLOCKED then resume = some target ∨ target = CANCELLED
  else target ∈ transitions source

instance (source target : ExecutionState) (resume : Option ExecutionState) :
    Decidable (Edge source target resume) := by
  unfold Edge; infer_instance

/-- The resume state a step into `target` stores. -/
def ResumeFits (target : ExecutionState) (resume : Option ExecutionState) : Prop :=
  match target with
  | WAITING_APPROVAL => resume = some EVALUATING
  | BLOCKED => ∃ r ∈ blockedResumeStates, resume = some r
  | _ => resume = none

/-- mirrors src/adcp/domain.py:231-254 -/
def validateTransition {σ : Type} (source target : ExecutionState)
    (storedResumeState newResumeState : Option ExecutionState) : Tx PyError σ Unit := do
  Tx.require (Edge source target storedResumeState)
    (.store "INVALID_TRANSITION" (source.value ++ "->" ++ target.value))
  if target = WAITING_APPROVAL then
    Tx.require (newResumeState = some EVALUATING)
      (.store "INVALID_TRANSITION" "WAITING_APPROVAL resumes to EVALUATING")
  else if target = BLOCKED then
    Tx.require (newResumeState.any (· ∈ blockedResumeStates))
      (.store "INVALID_TRANSITION" "invalid BLOCKED resume_state")
  else
    Tx.require (newResumeState = none) (.store "INVALID_TRANSITION" "resume_state is not allowed")

theorem validateTransition_ok {σ : Type} {source target : ExecutionState}
    {stored new : Option ExecutionState} {s : σ} {r : Unit × σ} :
    (validateTransition source target stored new : Tx PyError σ Unit) s = .ok r ↔
      (Edge source target stored ∧ ResumeFits target new) ∧ r = ((), s) := by
  unfold validateTransition
  rw [Tx.require_bind_ok, and_assoc]
  refine and_congr_right fun _ => ?_
  cases target <;> cases new <;> simp [Tx.require_ok, ResumeFits, blockedResumeStates]

theorem validateTransition_bind_ok {σ α : Type} {source target : ExecutionState}
    {stored new : Option ExecutionState} {f : Unit → Tx PyError σ α} {s : σ} {r : α × σ} :
    (validateTransition source target stored new >>= f) s = .ok r ↔
      (Edge source target stored ∧ ResumeFits target new) ∧ f () s = .ok r :=
  Tx.check_bind_ok fun _ => validateTransition_ok

theorem edge_terminal {source target : ExecutionState} {resume : Option ExecutionState}
    (h : Edge source target resume) : source ∉ terminalStates := by
  cases source <;> simp_all [Edge, transitions, terminalStates]

end Adcp.L2
