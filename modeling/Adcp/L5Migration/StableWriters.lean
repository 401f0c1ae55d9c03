import Mathlib.Data.List.Dedup
import Mathlib.Data.List.Sort
import Adcp.L1Base.Json
import Adcp.L1Base.Polling
/-!
# Waiting until the writers are stable

Before a migration every writer is stopped, and afterwards started again. What `launchctl`, the
process table and the identity files say may lag behind, so each of three waits polls until two
cycles in a row have found all writers as they should be.

* `launchState`: what is made of a launchd report and a probe of its process.
* `waitForStableNonrunning`, `waitForScheduledBaseline`, `waitForStableActiveResume`: the waits,
  each a `Poll` with its own cycle. `none` says that the fuel was used up.
-/
namespace Adcp.L5.Migration.StableWriters

open Adcp.L1 Script

/-! ## Evidence -/

inductive RuntimeState where
  | active | inactive | inconsistent | unresolved
  deriving DecidableEq, Repr

inductive LoadState where
  | loaded | unloaded | unresolved
  deriving DecidableEq, Repr

inductive EnabledState where
  | enabled | disabled
  deriving DecidableEq, Repr

/-- What `launchctl print` says of a service. -/
structure LaunchctlPrint where
  returncode : Int
  declaredState : Option String
  pidField : Option Int
  serviceNotFound : Bool
  deriving DecidableEq, Repr

/-- mirrors src/adcp/production_dcs_v8_adoption.py:393-403 (`_LaunchdRuntimeEvidence`) -/
structure LaunchdRuntimeEvidence where
  launchdDeclaredState : Option String
  pidField : Option Int
  pidLiveness : Bool
  pidServiceOwnership : Bool
  runtimeState : RuntimeState
  loadState : LoadState
  pidProbeResolved : Bool
  deriving DecidableEq, Repr

def LaunchctlPrint.knownNotLoaded (p : LaunchctlPrint) : Bool :=
  p.returncode = 113 && p.serviceNotFound

def LaunchctlPrint.loadState (p : LaunchctlPrint) : LoadState :=
  if p.knownNotLoaded then .unloaded else if p.returncode = 0 then .loaded else .unresolved

/-- mirrors src/adcp/production_dcs_v8_adoption.py:1086-1108 -/
def LaunchctlPrint.runtimeState (p : LaunchctlPrint) (live owned resolved : Bool) : RuntimeState :=
  if !resolved then .unresolved
  else if p.returncode ≠ 0 then
    if live && owned then .inconsistent
    else if p.knownNotLoaded then .inactive
    else .unresolved
  else if p.declaredState = some "running" then
    if p.pidField.isSome && live && owned then .active else .unresolved
  else if p.declaredState = some "inactive" ∨ p.declaredState = some "not running" then
    if live && owned then .inconsistent else .inactive
  else .unresolved

def LaunchctlPrint.evidence (p : LaunchctlPrint) (live owned resolved : Bool) :
    LaunchdRuntimeEvidence where
  launchdDeclaredState := p.declaredState
  pidField := p.pidField
  pidLiveness := live
  pidServiceOwnership := owned
  runtimeState := p.runtimeState live owned resolved
  loadState := p.loadState
  pidProbeResolved := resolved

/-! ## Errors -/

/-- mirrors src/adcp/production_dcs_v8_adoption.py:1758-1786 (`_transition_evidence_detail`) -/
structure TransitionEvidence where
  writerCode : String
  transitionStage : String
  evidence : Option LaunchdRuntimeEvidence
  runtimeIdentityPid : Option Int
  serviceOwnedLivePids : Option (List Int)
  timestamp : Int
  deriving DecidableEq, Repr

inductive Detail where
  | empty
  | text (t : String)
  | transition (e : TransitionEvidence)
  deriving DecidableEq, Repr

/-- `ProductionDcsV8AdoptionError`, or an exception of another class. -/
inductive WatchError where
  | adoption (code : String) (detail : Detail) (phase recoveryStatus : String)
  | other (typeName : String)
  deriving DecidableEq, Repr

def WatchError.isAdoption : WatchError → Bool
  | .adoption .. => true
  | .other _ => false

/-! ## Calls -/

/-- The fields of an inventory entry that are read here. `C` is the type of client identities. -/
structure DcsWriterInventoryEntry (C : Type) where
  writerId : String
  launchdLabel : String
  serviceCode : String
  runtimeIdentityPath : String
  authorizedIdentityPath : String
  pid : Option Int
  productBuildCommit : String
  productBuildIdentity : String
  sourceRootOrArtifactIdentity : String
  client : C

/-- `serviceDefinition` is `_service_definition_for_entry` in a phase; it answers the arguments
of the service's process. -/
inductive WatchCall (C : Type) where
  | assertCurrent
  | assertEventGuard
  | serviceDefinition (entry : DcsWriterInventoryEntry C) (phase : String)
  | enabledState (label : String)
  | launchctlPrint (label : String)
  | processProbe (pid : Int) (arguments : List String)
  | processScan (arguments : List String)
  | pathExists (path : String)
  | requirePlainFile (path code : String)
  | safeJson (path : String)
  | runtimeIdentityPid (path : String)
  | time
  | monotonic
  | sleep

/-- A probe answers whether the process lives, and whether it is the service's. -/
abbrev WatchAnswer {C : Type} : WatchCall C → Type
  | .assertCurrent | .assertEventGuard | .requirePlainFile .. | .sleep => Unit
  | .serviceDefinition .. => List String
  | .enabledState _ => EnabledState
  | .launchctlPrint _ => LaunchctlPrint
  | .processProbe .. => Bool × Bool
  | .processScan _ => List Int
  | .pathExists _ => Bool
  | .safeJson _ => Json
  | .runtimeIdentityPid _ => Option Int
  | .time | .monotonic => Int

abbrev Watch (C : Type) : Type → Type := Script WatchError (WatchAnswer (C := C))

variable {C : Type}

abbrev ask (c : WatchCall C) : Watch C (WatchAnswer c) := invoke c

/-- mirrors src/adcp/production_dcs_v8_adoption.py:1047-1118 (`_launch_state`) -/
def launchState (label : String) (arguments : List String) : Watch C LaunchdRuntimeEvidence := do
  let printed ← ask (.launchctlPrint label)
  match printed.pidField with
  | none => pure (printed.evidence false false true)
  | some pid =>
    match ← (ask (.processProbe pid arguments)).attempt with
    | .ok (live, owned) => pure (printed.evidence live (live && owned) true)
    | .error _ => pure (printed.evidence false false false)

/-- mirrors src/adcp/production_dcs_v8_adoption.py:1758-1786 -/
def transitionEvidenceDetail (entry : DcsWriterInventoryEntry C) (stage : String)
    (evidence : Option LaunchdRuntimeEvidence) (pids : Option (List Int)) : Watch C Detail := do
  let runtimePid ← ask (.runtimeIdentityPid entry.runtimeIdentityPath)
  let timestamp ← ask .time
  pure (.transition ⟨entry.writerId, stage, evidence, runtimePid, pids, timestamp⟩)

/-! ## Stopped writers -/

def quiescenceStableObservations : Nat := 2

/-- Which of the two optional assertions are given. -/
structure Guards where
  assertCurrent : Bool := false
  assertEventGuard : Bool := false

def guard (guards : Guards) : Watch C Unit := do
  (if guards.assertCurrent then ask .assertCurrent else pure ())
  (if guards.assertEventGuard then ask .assertEventGuard else pure ())

def quiescenceError (code : String) (detail : Detail) : WatchError :=
  .adoption code detail "QUIESCENCE" "NOT_REQUIRED"

/-- One look at one writer: what was found, unless it is as it should be. mirrors
src/adcp/production_dcs_v8_adoption.py:1801-1858 -/
def observeNonrunning (guards : Guards) (entry : DcsWriterInventoryEntry C)
    (arguments : List String) : Watch C (Option LaunchdRuntimeEvidence) := do
  guard guards
  let observed ← ask (.serviceDefinition entry "QUIESCENCE")
  if observed ≠ arguments then
    fail (quiescenceError "PRODUCTION_DCS_WRITER_IDENTITY_CHANGED_DURING_QUIESCENCE"
      (.text entry.writerId))
  else do
    let enabledState ← ask (.enabledState entry.launchdLabel)
    let evidence ← launchState entry.launchdLabel arguments
    if enabledState ≠ .disabled then pure (some evidence)
    else match evidence.runtimeState with
      | .active => pure (some evidence)
      | .inactive =>
        if evidence.loadState = .unloaded then do
          match ← (ask (.processScan arguments)).attempt with
          | .error _ => do
            let detail ← transitionEvidenceDetail entry "PROCESS_SCAN_UNRESOLVED" (some evidence)
              none
            fail (quiescenceError "PRODUCTION_DCS_WRITER_QUIESCENCE_INCONSISTENT" detail)
          | .ok pids =>
            if pids ≠ [] then do
              let detail ← transitionEvidenceDetail entry "STABILIZE_ORPHAN_PROCESS"
                (some evidence) (some pids)
              fail (quiescenceError "PRODUCTION_DCS_WRITER_QUIESCENCE_INCONSISTENT" detail)
            else pure none
        else pure (some evidence)
      | .inconsistent | .unresolved => do
        let detail ← transitionEvidenceDetail entry "STABILIZE" (some evidence) none
        fail (quiescenceError "PRODUCTION_DCS_WRITER_QUIESCENCE_INCONSISTENT" detail)

/-- The writers in turn, `unstable` being the last one that was not stopped. -/
def nonrunningCycle (guards : Guards) : List (DcsWriterInventoryEntry C × List String) →
    Option (DcsWriterInventoryEntry C × LaunchdRuntimeEvidence) →
    Watch C (Option (DcsWriterInventoryEntry C × LaunchdRuntimeEvidence))
  | [], unstable => pure unstable
  | (entry, arguments) :: rest, unstable => do
    match ← observeNonrunning guards entry arguments with
    | none => nonrunningCycle guards rest unstable
    | some evidence => nonrunningCycle guards rest (some (entry, evidence))

/-- mirrors src/adcp/production_dcs_v8_adoption.py:1863-1873 -/
def nonrunningTimeout (transitions : List (DcsWriterInventoryEntry C × List String))
    (lastUnstable : Option (DcsWriterInventoryEntry C × LaunchdRuntimeEvidence)) :
    Watch C WatchError := do
  match lastUnstable, transitions with
  | some (entry, evidence), _ => do
    let detail ← transitionEvidenceDetail entry "STABILIZE_TIMEOUT" (some evidence) none
    pure (quiescenceError "PRODUCTION_DCS_WRITER_QUIESCENCE_TIMEOUT" detail)
  | none, [] => fail (.other "IndexError")
  | none, (entry, arguments) :: _ => do
    let evidence ← launchState entry.launchdLabel arguments
    let detail ← transitionEvidenceDetail entry "STABILIZE_TIMEOUT" (some evidence) none
    pure (quiescenceError "PRODUCTION_DCS_WRITER_QUIESCENCE_TIMEOUT" detail)

def nonrunningPoll (transitions : List (DcsWriterInventoryEntry C × List String)) (deadline : Int)
    (guards : Guards) : Poll WatchError (WatchAnswer (C := C))
      (Option (DcsWriterInventoryEntry C × LaunchdRuntimeEvidence)) Unit Int where
  cycle _ := do
    let unstable ← nonrunningCycle guards transitions none
    pure (if unstable.isNone then some () else none, unstable)
  required := quiescenceStableObservations
  now := ask .monotonic
  late t := deadline ≤ t
  timeout := nonrunningTimeout transitions
  pause := ask .sleep

/-- mirrors src/adcp/production_dcs_v8_adoption.py:1788-1874 (`_wait_for_stable_nonrunning`) -/
def waitForStableNonrunning (fuel : Nat)
    (transitions : List (DcsWriterInventoryEntry C × List String)) (deadline : Int)
    (guards : Guards) : Watch C (Option Unit) :=
  (nonrunningPoll transitions deadline guards).run fuel none none 0

/-! ## Scheduled writers -/

/-- `tuple(sorted(entries, key=lambda item: item.writer_id))` -/
def sortedEntries (entries : List (DcsWriterInventoryEntry C)) : List (DcsWriterInventoryEntry C) :=
  entries.insertionSort fun a b => a.writerId ≤ b.writerId

/-- One look at one writer. mirrors src/adcp/production_dcs_v8_adoption.py:2346-2368 -/
def observeBaseline (guards : Guards) (entry : DcsWriterInventoryEntry C) : Watch C Bool := do
  guard guards
  let arguments ← ask (.serviceDefinition entry "RECOVERY")
  let enabledState ← ask (.enabledState entry.launchdLabel)
  let evidence ← launchState entry.launchdLabel arguments
  match ← (ask (.processScan arguments)).attempt with
  | .error _ =>
    fail (.adoption "PRODUCTION_DCS_WRITER_B_RESTORE_PROCESS_SCAN_UNRESOLVED"
      (.text entry.writerId) "RECOVERY" "RECOVERY_REQUIRED")
  | .ok pids => pure (enabledState = .enabled ∧ evidence.runtimeState = .inactive ∧
      evidence.loadState = .loaded ∧ pids = [])

def baselineCycle (guards : Guards) : List (DcsWriterInventoryEntry C) → Bool → Watch C Bool
  | [], cycle => pure cycle
  | entry :: rest, cycle => do
    let found ← observeBaseline guards entry
    baselineCycle guards rest (cycle && found)

def baselinePoll (targets : List (DcsWriterInventoryEntry C)) (deadline : Int) (guards : Guards) :
    Poll WatchError (WatchAnswer (C := C)) Unit Unit Int where
  cycle _ := do
    let cycle ← baselineCycle guards targets true
    pure (if cycle then some () else none, ())
  required := quiescenceStableObservations
  now := ask .monotonic
  late t := deadline ≤ t
  timeout _ := pure (.adoption "PRODUCTION_DCS_WRITER_B_RESTORE_STABILIZATION_TIMEOUT" .empty
    "RECOVERY" "RECOVERY_REQUIRED")
  pause := ask .sleep

/-- mirrors src/adcp/production_dcs_v8_adoption.py:2335-2377 (`_wait_for_scheduled_baseline`) -/
def waitForScheduledBaseline (fuel : Nat) (entries : List (DcsWriterInventoryEntry C))
    (deadline : Int) (guards : Guards) : Watch C (Option Unit) :=
  (baselinePoll (sortedEntries entries) deadline guards).run fuel () none 0

/-! ## Resumed writers -/

section Resume

/-! How a build text is read as a client identity, and which identities support the schema, are
fixed by the release tables. -/
variable [DecidableEq C] (parseClientIdentity : Option Json → C) (supportsV8 : C → Bool)

def activeResumeStableObservations : Nat := 2

/-- mirrors src/adcp/production_dcs_v8_adoption.py:1876-1895 (`_active_resume_error`) -/
def activeResumeError (code : String) (entry : DcsWriterInventoryEntry C) (stage : String)
    (evidence : Option LaunchdRuntimeEvidence) (pids : Option (List Int)) :
    Watch C WatchError := do
  let detail ← transitionEvidenceDetail entry stage evidence pids
  pure (.adoption code detail "ACTIVE_RESUME" "RECOVERY_REQUIRED")

def resumeInconsistent : String := "PRODUCTION_DCS_WRITER_ACTIVE_RESUME_INCONSISTENT"

/-- Raise an `activeResumeError`. -/
def failResume {α : Type} (code : String) (entry : DcsWriterInventoryEntry C) (stage : String)
    (evidence : Option LaunchdRuntimeEvidence) (pids : Option (List Int)) : Watch C α := do
  let e ← activeResumeError code entry stage evidence pids
  fail e

def getEq (a b : Json) (field : String) : Bool :=
  match a.get? field, b.get? field with
  | none, none => true
  | some v, some w => v.pyEq w
  | some v, none => v.pyEq .null
  | none, some w => Json.null.pyEq w

/-- mirrors src/adcp/production_dcs_v8_adoption.py:800-809 -/
def authorizedRuntimeMatch (runtime authorized : Json) : Bool :=
  ["service_code", "product_build_commit", "product_build_identity", "global_writer_client_build",
    "source_root_or_artifact_identity", "config_artifact_identity"].all (getEq runtime authorized)

/-- mirrors src/adcp/production_dcs_v8_adoption.py:1978-1987 -/
def buildMatch (entry : DcsWriterInventoryEntry C) (runtime : Json) : Bool :=
  Json.strIs (runtime.get? "service_code") entry.serviceCode &&
    Json.strIs (runtime.get? "product_build_commit") entry.productBuildCommit &&
    Json.strIs (runtime.get? "product_build_identity") entry.productBuildIdentity &&
    Json.strIs (runtime.get? "source_root_or_artifact_identity")
      entry.sourceRootOrArtifactIdentity &&
    decide (parseClientIdentity (runtime.get? "global_writer_client_build") = entry.client) &&
    supportsV8 (parseClientIdentity (runtime.get? "global_writer_client_build"))

/-- A process id in an identity file. -/
def pidOf (runtime : Json) : Option Int :=
  match runtime.get? "pid" with
  | some (.int n) => if 0 < n then some n else none
  | _ => none

def incarnationOf (runtime : Json) : Option String :=
  match runtime.get? "process_incarnation_id" with
  | some (.str s) => if s = "" then none else some s
  | _ => none

/-- `tuple(sorted(set(pids)))` -/
def liveSet (pids : List Int) : List Int := pids.dedup.insertionSort (· ≤ ·)

/-- What one look at a resumed writer gives: its process and incarnation when it is settled, the
evidence, and the live processes of the service. -/
abbrev Look : Type := Option (Int × String) × LaunchdRuntimeEvidence × List Int

/-- The identity of a service with one live process. mirrors
src/adcp/production_dcs_v8_adoption.py:1952-2037 -/
def observeIdentity (entry : DcsWriterInventoryEntry C) (arguments : List String)
    (prior : List Int) (evidence : LaunchdRuntimeEvidence) (launchPid : Int) (pids : List Int) :
    Watch C Look := do
  if !(← ask (.pathExists entry.runtimeIdentityPath)) then pure (none, evidence, pids)
  else do
    ask (.requirePlainFile entry.runtimeIdentityPath
      "PRODUCTION_DCS_WRITER_RUNTIME_IDENTITY_INVALID")
    let runtime ← ask (.safeJson entry.runtimeIdentityPath)
    ask (.requirePlainFile entry.authorizedIdentityPath
      "PRODUCTION_DCS_WRITER_AUTHORIZED_IDENTITY_INVALID")
    let authorized ← ask (.safeJson entry.authorizedIdentityPath)
    if !authorizedRuntimeMatch runtime authorized then
      failResume "PRODUCTION_DCS_WRITER_RUNTIME_AUTHORITY_MISMATCH" entry
        "RUNTIME_AUTHORITY_MISMATCH" (some evidence) (some pids)
    else if !buildMatch parseClientIdentity supportsV8 entry runtime then
      failResume "PRODUCTION_DCS_V8_ADOPTION_POST_MIGRATION_WRITER_INVENTORY_CHANGED" entry
        "RUNTIME_BUILD_OR_THIN_AUTHORITY_MISMATCH" (some evidence) (some pids)
    else match pidOf runtime with
      | none =>
        failResume "PRODUCTION_DCS_WRITER_RUNTIME_IDENTITY_INVALID" entry
          "RUNTIME_IDENTITY_PID_INVALID" (some evidence) (some pids)
      | some runtimePid =>
        if runtimePid ≠ launchPid then
          if runtimePid ∉ prior then
            failResume "PRODUCTION_DCS_WRITER_PROCESS_IDENTITY_MISMATCH" entry
              "RUNTIME_IDENTITY_PID_MISMATCH" (some evidence) (some pids)
          else do
            match ← (ask (.processProbe runtimePid arguments)).attempt with
            | .error _ =>
              failResume resumeInconsistent entry "PRIOR_PID_OWNERSHIP_UNRESOLVED" (some evidence)
                (some pids)
            | .ok (live, owned) =>
              if live then
                failResume resumeInconsistent entry
                  (if owned then "PRIOR_PID_DUPLICATE_SERVICE" else "PRIOR_PID_REUSED_UNRELATED")
                  (some evidence) (some pids)
              else pure (none, evidence, pids)
        else match incarnationOf runtime with
          | none =>
            failResume "PRODUCTION_DCS_WRITER_RUNTIME_IDENTITY_INVALID" entry
              "PROCESS_INCARNATION_INVALID" (some evidence) (some pids)
          | some incarnation => pure (some (launchPid, incarnation), evidence, pids)

/-- mirrors src/adcp/production_dcs_v8_adoption.py:1897-2037 (`_observe_active_resume_entry`) -/
def observeActiveResumeEntry (entry : DcsWriterInventoryEntry C) (arguments : List String)
    (prior : List Int) : Watch C Look := do
  let evidence ← launchState entry.launchdLabel arguments
  if evidence.loadState ≠ .loaded then
    failResume resumeInconsistent entry "LOAD_STATE_NOT_LOADED" (some evidence) none
  else match evidence.runtimeState with
    | .inactive =>
      if evidence.pidField.isSome ∧ (evidence.pidProbeResolved = false ∨
          evidence.pidLiveness ∧ evidence.pidServiceOwnership = false) then
        failResume resumeInconsistent entry "INACTIVE_PROCESS_OWNERSHIP_UNSAFE" (some evidence) none
      else pure (none, evidence, [])
    | .inconsistent | .unresolved =>
      failResume resumeInconsistent entry
        (if evidence.pidField.isSome ∧ evidence.pidProbeResolved = false then
          "PROCESS_OWNERSHIP_UNRESOLVED" else "LAUNCHD_ACTIVE_STATE_UNSAFE") (some evidence) none
    | .active =>
      match evidence.pidField with
      | none => failResume resumeInconsistent entry "PROCESS_OWNERSHIP_UNSAFE" (some evidence) none
      | some launchPid =>
        if evidence.pidLiveness = false ∨ evidence.pidServiceOwnership = false ∨
            evidence.pidProbeResolved = false then
          failResume resumeInconsistent entry "PROCESS_OWNERSHIP_UNSAFE" (some evidence) none
        else do
          match ← (ask (.processScan arguments)).attempt with
          | .error _ =>
            failResume resumeInconsistent entry "PROCESS_SCAN_UNRESOLVED" (some evidence) none
          | .ok pids =>
            if liveSet pids ≠ [launchPid] then
              failResume resumeInconsistent entry "SERVICE_PROCESS_SET_INCONSISTENT"
                (some evidence) (some (liveSet pids))
            else
              observeIdentity parseClientIdentity supportsV8 entry arguments prior evidence
                launchPid (liveSet pids)

/-- What a cycle hands to the next one: the earlier process ids of each writer, and the
last look. -/
structure ResumeState (C : Type) where
  prior : String → List Int
  lastEvidence : Option (DcsWriterInventoryEntry C × LaunchdRuntimeEvidence × List Int) := none

/-- A writer, its process and its incarnation. -/
abbrev Resumed : Type := String × Int × String

/-- mirrors src/adcp/production_dcs_v8_adoption.py:2071-2086 -/
def resumeCycle (definitions : String → List String) : List (DcsWriterInventoryEntry C) →
    ResumeState C → Bool → List Resumed → Watch C (Bool × List Resumed × ResumeState C)
  | [], s, stable, current => pure (stable, current, s)
  | entry :: rest, s, stable, current => do
    let (identity, evidence, pids) ← observeActiveResumeEntry parseClientIdentity supportsV8 entry
      (definitions entry.writerId) (s.prior entry.writerId)
    match identity with
    | none => resumeCycle definitions rest ⟨s.prior, some (entry, evidence, pids)⟩ false current
    | some (pid, incarnation) =>
      resumeCycle definitions rest
        ⟨Function.update s.prior entry.writerId (pid :: s.prior entry.writerId),
          some (entry, evidence, pids)⟩ stable (current ++ [(entry.writerId, pid, incarnation)])

/-- mirrors src/adcp/production_dcs_v8_adoption.py:2096-2109 -/
def resumeTimeout (targets : List (DcsWriterInventoryEntry C)) (s : ResumeState C) :
    Watch C WatchError :=
  match s.lastEvidence, targets with
  | some (entry, evidence, pids), _ =>
    activeResumeError "PRODUCTION_DCS_WRITER_ACTIVE_RESUME_STABILIZATION_TIMEOUT" entry
      "ACTIVE_RESUME_STABILIZATION_TIMEOUT" (some evidence) (some pids)
  | none, entry :: _ =>
    activeResumeError "PRODUCTION_DCS_WRITER_ACTIVE_RESUME_STABILIZATION_TIMEOUT" entry
      "ACTIVE_RESUME_STABILIZATION_TIMEOUT" none (some [])
  | none, [] => fail (.other "IndexError")

def resumePoll (targets : List (DcsWriterInventoryEntry C)) (definitions : String → List String)
    (deadline : Int) :
    Poll WatchError (WatchAnswer (C := C)) (ResumeState C) (List Resumed) Int where
  cycle s := do
    let (stable, current, s') ← resumeCycle parseClientIdentity supportsV8 definitions targets s
      true []
    pure (if stable ∧ current.length = targets.length then some current else none, s')
  required := activeResumeStableObservations
  now := ask .monotonic
  late t := deadline ≤ t
  timeout := resumeTimeout targets
  pause := ask .sleep

/-- mirrors src/adcp/production_dcs_v8_adoption.py:2048-2056 -/
def resolveDefinitions : List (DcsWriterInventoryEntry C) → (String → List String) →
    Watch C (String → List String)
  | [], definitions => pure definitions
  | entry :: rest, definitions => do
    match ← (ask (.serviceDefinition entry "QUIESCENCE")).attempt with
    | .ok arguments =>
      resolveDefinitions rest (Function.update definitions entry.writerId arguments)
    | .error e =>
      if e.isAdoption then
        failResume resumeInconsistent entry "SERVICE_DEFINITION_CHANGED" none none
      else fail e

/-- The process ids known before the first cycle. -/
def priorProcessPids (targets : List (DcsWriterInventoryEntry C)) (writerId : String) : List Int :=
  match targets.reverse.find? (·.writerId = writerId) with
  | some entry => entry.pid.toList.filter (0 < ·)
  | none => []

/-- mirrors src/adcp/production_dcs_v8_adoption.py:2039-2110 (`_wait_for_stable_active_resume`) -/
def waitForStableActiveResume (fuel : Nat) (entries : List (DcsWriterInventoryEntry C))
    (deadline : Int) : Watch C (Option (List Resumed)) := do
  let targets := sortedEntries entries
  if targets.isEmpty then pure (some [])
  else do
    let definitions ← resolveDefinitions targets fun _ => []
    (resumePoll parseClientIdentity supportsV8 targets definitions deadline).run fuel
      { prior := priorProcessPids targets } none 0

end Resume

end Adcp.L5.Migration.StableWriters
