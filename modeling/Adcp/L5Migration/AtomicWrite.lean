import Adcp.L1Base.FileSystem
import Adcp.L1Base.Interleaving
/-!
# Replacing a projection file

A projection file is replaced by a new file beside it: the new one is created, written, flushed,
synced and closed, renamed over the old one, given its mode, and the directory is synced. Every
step may fail; what is known afterwards is put into an outcome, which is returned, or carried by
the exception when a step has failed.

* `writeTempStream`, `fsyncDirectory`, `atomicWriteExact`: the programs, over the calls of
  `FileSystem`.
* `TempStreamOutcome`, `DirectoryDurabilityOutcome`, `AtomicWriteOutcome`: what they report.
* `assemble`: the outcome, from what the steps before have left in the program's variables.
-/
namespace Adcp.L5.Migration.AtomicWrite

open Adcp.L1 Script FileSystem

/-! ## Paths -/

/-- The components of a path. -/
abbrev Path : Type := List String

def parent (path : Path) : Path := path.dropLast

def pathName (path : Path) : String := path.getLastD ""

/-- mirrors src/adcp/production_schema10_operational.py:2648 -/
def tempPath (path : Path) (uuid : String) : Path :=
  parent path ++ ["." ++ pathName path ++ ".dl85-" ++ uuid ++ ".tmp"]

/-! ## Evidence -/

/-- What is read of an exception a step raises. -/
structure StepError where
  typeName : String
  text : String
  fileNotFound : Bool
  deriving DecidableEq, Repr

/-- mirrors src/adcp/production_schema10_operational.py:276-280 (`_AtomicFailureEvidence`) -/
structure AtomicFailureEvidence where
  operation : String
  exceptionType : String
  detail : String
  deriving DecidableEq, Repr

inductive StepStatus where
  | notAttempted | success | fail
  deriving DecidableEq, Repr

/-- mirrors src/adcp/production_schema10_operational.py:300-319 -/
structure DirectoryDurabilityOutcome where
  openStatus : StepStatus
  fsyncStatus : StepStatus
  closeStatus : StepStatus
  openFailure : Option AtomicFailureEvidence := none
  fsyncFailure : Option AtomicFailureEvidence := none
  closeFailure : Option AtomicFailureEvidence := none
  deriving DecidableEq, Repr

def DirectoryDurabilityOutcome.fsyncComplete (o : DirectoryDurabilityOutcome) : Bool :=
  o.fsyncStatus = .success

/-- mirrors src/adcp/production_schema10_operational.py:425-437 -/
structure TempStreamOutcome where
  openStatus : StepStatus
  writeStatus : StepStatus
  flushStatus : StepStatus
  fsyncStatus : StepStatus
  closeStatus : StepStatus
  openFailure : Option AtomicFailureEvidence := none
  writeFailure : Option AtomicFailureEvidence := none
  flushFailure : Option AtomicFailureEvidence := none
  fsyncFailure : Option AtomicFailureEvidence := none
  closeFailure : Option AtomicFailureEvidence := none
  deriving DecidableEq, Repr

def firstNonNone {α : Type} : List (Option α) → Option α
  | [] => none
  | some a :: _ => some a
  | none :: rest => firstNonNone rest

def TempStreamOutcome.primaryFailure (o : TempStreamOutcome) : Option AtomicFailureEvidence :=
  firstNonNone [o.openFailure, o.writeFailure, o.flushFailure, o.fsyncFailure, o.closeFailure]

/-- Whether the close failure is the primary one: all before it are absent. -/
def TempStreamOutcome.closeIsPrimary (o : TempStreamOutcome) : Bool :=
  (firstNonNone [o.openFailure, o.writeFailure, o.flushFailure, o.fsyncFailure]).isNone

inductive ResidualState where
  | none | absent | present | unknown
  deriving DecidableEq, Repr

/-- mirrors src/adcp/production_schema10_operational.py:520-533 -/
structure AtomicWriteOutcome where
  destinationReplaced : Bool
  durabilityComplete : Bool
  failedOperation : Option String
  primaryFailure : Option AtomicFailureEvidence
  cleanupFailure : Option AtomicFailureEvidence
  directoryOutcome : Option DirectoryDurabilityOutcome
  secondaryFailures : List AtomicFailureEvidence
  tempPath : Option Path
  tempResidualState : ResidualState
  tempResidualObservationFailure : Option AtomicFailureEvidence
  tempStreamOutcome : Option TempStreamOutcome
  chmodStatus : StepStatus
  deriving DecidableEq, Repr

/-- What the programs raise: an exception of a step, `_DirectoryDurabilityFailure` with its
causes, `_AtomicWriteFailure`, and `_AtomicWriteReportingFailure` when that cannot be built. -/
inductive WriteError where
  | step (e : StepError)
  | directory (outcome : DirectoryDurabilityOutcome) (primaryCause closeCause : Option StepError)
  | atomicWrite (outcome : AtomicWriteOutcome)
  | reporting (outcome : AtomicWriteOutcome)
  deriving DecidableEq, Repr

/-- The exception as a step's. -/
def WriteError.asStep : WriteError → StepError
  | .step e => e
  | .directory .. => ⟨"_DirectoryDurabilityFailure", "SCHEMA10_DIRECTORY_DURABILITY_FAILED", false⟩
  | .atomicWrite _ => ⟨"_AtomicWriteFailure", "SCHEMA10_ATOMIC_WRITE_FAILED", false⟩
  | .reporting _ =>
    ⟨"_AtomicWriteReportingFailure", "SCHEMA10_ATOMIC_WRITE_REPORTING_FAILED", false⟩

def WriteError.isFileNotFound (e : WriteError) : Bool := e.asStep.fileNotFound

/-- The outcome an exception carries. -/
def WriteError.outcome? : WriteError → Option AtomicWriteOutcome
  | .atomicWrite outcome | .reporting outcome => some outcome
  | _ => none

/-- mirrors src/adcp/production_schema10_operational.py:2524-2529 -/
def atomicFailureEvidence (operation : String) (e : StepError) : AtomicFailureEvidence :=
  ⟨operation, e.typeName, e.text⟩

/-! ## The steps -/

abbrev Write : Type → Type := Script WriteError (FileAnswer (κ := Path))

/-- A step under `try`: its exception, if it raised. -/
def tryStep (c : FileCall Path) : Write (Option StepError) := do
  match ← (invoke c).attempt with
  | .ok _ => pure none
  | .error e => pure (some e.asStep)

/-- The write, which fails as well when it is short. -/
def tryWrite (temp : Path) (payload : Bytes) : Write (Option StepError) := do
  match ← (invoke (.write temp payload)).attempt with
  | .ok written =>
    if written ≠ payload.length then
      pure (some ⟨"OSError", s!"short temp write: expected={payload.length} actual={written}",
        false⟩)
    else pure none
  | .error e => pure (some e.asStep)

/-- A step that is attempted only when those before it succeeded: `none` when it was not. -/
def tryWhen (before : Bool) (c : FileCall Path) : Write (Option (Option StepError)) :=
  if before then do return some (← tryStep c) else return none

/-- The status of a step that was attempted. -/
def statusOf : Option StepError → StepStatus
  | none => .success
  | some _ => .fail

/-- The outcome of a stream that was opened, from the errors of its steps. -/
def openedStream (writeError : Option StepError) (flushed synced : Option (Option StepError))
    (closeError : Option StepError) : TempStreamOutcome where
  openStatus := .success
  writeStatus := statusOf writeError
  flushStatus := (flushed.map statusOf).getD .notAttempted
  fsyncStatus := (synced.map statusOf).getD .notAttempted
  closeStatus := statusOf closeError
  writeFailure := writeError.map (atomicFailureEvidence "TEMP_WRITE")
  flushFailure := flushed.join.map (atomicFailureEvidence "TEMP_FLUSH")
  fsyncFailure := synced.join.map (atomicFailureEvidence "TEMP_FSYNC")
  closeFailure := closeError.map (atomicFailureEvidence "TEMP_STREAM_CLOSE")

/-- mirrors src/adcp/production_schema10_operational.py:2544-2643 (`_write_temp_stream`): the
outcome, and the first error. -/
def writeTempStream (temp : Path) (payload : Bytes) :
    Write (TempStreamOutcome × Option StepError) := do
  match ← tryStep (.openStream temp) with
  | some openError =>
    -- `fdopen` did not take the descriptor, so it is closed here
    let closeError ← tryStep (.close temp)
    return ({
      openStatus := .fail
      writeStatus := .notAttempted
      flushStatus := .notAttempted
      fsyncStatus := .notAttempted
      closeStatus := statusOf closeError
      openFailure := some (atomicFailureEvidence "TEMP_STREAM_OPEN" openError)
      closeFailure := closeError.map (atomicFailureEvidence "TEMP_STREAM_CLOSE") }, some openError)
  | none =>
    let writeError ← tryWrite temp payload
    let flushed ← tryWhen writeError.isNone (.flush temp)
    let synced ← tryWhen (writeError.isNone && flushed.join.isNone) (.fsync temp)
    let closeError ← tryStep (.close temp)
    return (openedStream writeError flushed synced closeError,
      firstNonNone [writeError, flushed.join, synced.join, closeError])

/-- The outcome of a directory that was opened, from the errors of its sync and its close. -/
def closedOutcome (fsyncError closeError : Option StepError) : DirectoryDurabilityOutcome where
  openStatus := .success
  fsyncStatus := statusOf fsyncError
  closeStatus := statusOf closeError
  fsyncFailure := fsyncError.map (atomicFailureEvidence "DIRECTORY_FSYNC")
  closeFailure := closeError.map (atomicFailureEvidence "DIRECTORY_CLOSE")

def closedDirectory (fsyncError closeError : Option StepError) : Write DirectoryDurabilityOutcome :=
  if fsyncError.isSome ∨ closeError.isSome then
    fail (.directory (closedOutcome fsyncError closeError) fsyncError closeError)
  else pure (closedOutcome fsyncError closeError)

/-- mirrors src/adcp/production_schema10_operational.py:1906-1952 (`_fsync_directory`) -/
def fsyncDirectory (directory : Path) : Write DirectoryDurabilityOutcome := do
  match ← tryStep (.openDirectory directory) with
  | some openError =>
    fail (.directory {
      openStatus := .fail
      fsyncStatus := .notAttempted
      closeStatus := .notAttempted
      openFailure := some (atomicFailureEvidence "DIRECTORY_OPEN" openError) } (some openError)
      none)
  | none =>
    let fsyncError ← tryStep (.fsyncDirectory directory)
    let closeError ← tryStep (.closeDirectory directory)
    closedDirectory fsyncError closeError

/-- The variables of `_atomic_write_exact` when its first `try` is over. -/
structure Progress where
  destinationReplaced : Bool := false
  durabilityComplete : Bool := false
  chmodStatus : StepStatus := .notAttempted
  operation : String
  primaryError : Option StepError := none
  directoryOutcome : Option DirectoryDurabilityOutcome := none
  tempStreamOutcome : Option TempStreamOutcome := none
  deriving DecidableEq

/-- What an exception of the directory sync leaves. mirrors
src/adcp/production_schema10_operational.py:2689-2702 -/
def directoryProgress (stream : TempStreamOutcome) : WriteError → Progress
  | .directory outcome primaryCause closeCause => {
      destinationReplaced := true
      durabilityComplete := outcome.fsyncComplete
      chmodStatus := .success
      operation :=
        if outcome.openFailure.isSome then "DIRECTORY_OPEN"
        else if outcome.fsyncFailure.isSome then "DIRECTORY_FSYNC"
        else if outcome.closeFailure.isSome then "DIRECTORY_CLOSE"
        else "DIRECTORY_FSYNC"
      primaryError :=
        if outcome.openFailure.isSome ∨ outcome.fsyncFailure.isSome then
          some (primaryCause.getD (WriteError.directory outcome primaryCause closeCause).asStep)
        else none
      directoryOutcome := some outcome
      tempStreamOutcome := some stream }
  | e => {
      destinationReplaced := true
      chmodStatus := .success
      operation := "DIRECTORY_FSYNC"
      primaryError := some e.asStep
      tempStreamOutcome := some stream }

/-- The first `try` of `_atomic_write_exact`. mirrors
src/adcp/production_schema10_operational.py:2664-2704 -/
def replaceDestination (path temp : Path) (payload : Bytes) (mode : Nat) : Write Progress := do
  match ← tryStep (.create temp mode) with
  | some e => return { operation := "TEMP_CREATE", primaryError := some e }
  | none =>
    let (stream, streamError) ← writeTempStream temp payload
    match stream.primaryFailure with
    | some failure =>
      return {
        operation := failure.operation
        primaryError := streamError
        tempStreamOutcome := some stream }
    | none =>
      match ← tryStep (.replace temp path) with
      | some e =>
        return {
          operation := "DESTINATION_REPLACE"
          primaryError := some e
          tempStreamOutcome := some stream }
      | none =>
        match ← tryStep (.chmod path mode) with
        | some e =>
          return {
            destinationReplaced := true
            chmodStatus := .fail
            operation := "DESTINATION_CHMOD"
            primaryError := some e
            tempStreamOutcome := some stream }
        | none =>
          match ← (fsyncDirectory (parent path)).attempt with
          | .ok outcome =>
            return {
              destinationReplaced := true
              durabilityComplete := true
              chmodStatus := .success
              operation := "DIRECTORY_FSYNC"
              directoryOutcome := some outcome
              tempStreamOutcome := some stream }
          | .error e => return directoryProgress stream e

/-- What the removal of the temporary file leaves. -/
structure Cleanup where
  error : Option StepError := none
  residualState : ResidualState := .none
  observationFailure : Option AtomicFailureEvidence := none
  deriving DecidableEq

/-- mirrors src/adcp/production_schema10_operational.py:2532-2541 (`_observe_temp_residual`) -/
def observeTempResidual (temp : Path) :
    Write (ResidualState × Option AtomicFailureEvidence) := do
  match ← tryStep (.lstat temp) with
  | none => return (.present, none)
  | some e =>
    if e.fileNotFound then return (.absent, none)
    else return (.unknown, some (atomicFailureEvidence "TEMP_RESIDUAL_LSTAT" e))

/-- mirrors src/adcp/production_schema10_operational.py:2706-2712 -/
def removeTemp (temp : Path) : Write Cleanup := do
  match ← tryStep (.unlink temp) with
  | none => return {}
  | some e =>
    if e.fileNotFound then return {}
    else
      let (state, failure) ← observeTempResidual temp
      return { error := some e, residualState := state, observationFailure := failure }

/-- The stream's failure, or the failure of the directory, or of the operation. mirrors
src/adcp/production_schema10_operational.py:2714-2736 -/
def primaryFailureOf (p : Progress) : Option AtomicFailureEvidence :=
  match p.tempStreamOutcome.bind (·.primaryFailure), p.directoryOutcome, p.primaryError with
  | some failure, _, _ => some failure
  | none, _, none => none
  | none, some directory, some e =>
    if p.operation = "DIRECTORY_OPEN" ∧ directory.openFailure.isSome then directory.openFailure
    else if p.operation = "DIRECTORY_FSYNC" ∧ directory.fsyncFailure.isSome then
      directory.fsyncFailure
    else some (atomicFailureEvidence p.operation e)
  | none, none, some e => some (atomicFailureEvidence p.operation e)

/-- mirrors src/adcp/production_schema10_operational.py:2743-2753 -/
def secondaryFailuresOf (p : Progress) (cleanupFailure : Option AtomicFailureEvidence) :
    List AtomicFailureEvidence :=
  (match p.tempStreamOutcome with
    | some stream => if stream.closeIsPrimary then [] else stream.closeFailure.toList
    | none => []) ++
  (p.directoryOutcome.bind (·.closeFailure)).toList ++ cleanupFailure.toList

/-- mirrors src/adcp/production_schema10_operational.py:2738-2774 -/
def assemble (temp : Path) (p : Progress) (c : Cleanup) : AtomicWriteOutcome :=
  let primaryFailure := primaryFailureOf p
  let cleanupFailure := c.error.map (atomicFailureEvidence "TEMP_CLEANUP")
  let secondaryFailures := secondaryFailuresOf p cleanupFailure
  { destinationReplaced := p.destinationReplaced
    durabilityComplete := p.durabilityComplete
    failedOperation := (firstNonNone [primaryFailure, secondaryFailures.head?]).map (·.operation)
    primaryFailure := primaryFailure
    cleanupFailure := cleanupFailure
    directoryOutcome := p.directoryOutcome
    secondaryFailures := secondaryFailures
    tempPath := if c.error.isSome then some temp else none
    tempResidualState := c.residualState
    tempResidualObservationFailure := c.observationFailure
    tempStreamOutcome := p.tempStreamOutcome
    chmodStatus := p.chmodStatus }

/-- Returned, or carried by the typed exception, or by the other one when that cannot be built.
mirrors src/adcp/production_schema10_operational.py:2775-2813 -/
def report (builds : AtomicWriteOutcome → Bool) (outcome : AtomicWriteOutcome) :
    Write AtomicWriteOutcome :=
  if outcome.primaryFailure.isSome ∨ outcome.secondaryFailures ≠ [] then
    fail (if builds outcome then .atomicWrite outcome else .reporting outcome)
  else pure outcome

/-- mirrors src/adcp/production_schema10_operational.py:2646-2813 (`_atomic_write_exact`) -/
def atomicWriteExact (builds : AtomicWriteOutcome → Bool) (uuid : String) (path : Path)
    (payload : Bytes) (mode : Nat) : Write AtomicWriteOutcome := do
  let temp := tempPath path uuid
  let progress ← replaceDestination path temp payload mode
  let cleanup ← removeTemp temp
  report builds (assemble temp progress cleanup)

end Adcp.L5.Migration.AtomicWrite
