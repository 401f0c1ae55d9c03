import Adcp.L1Base.FileSystem
import Adcp.L1Base.Interleaving
import Adcp.L1Base.JsonAscii
import Adcp.L1Base.Sha256
import Adcp.L5Cutover.CleanerCutover

/-!
# The runtime port of the Cleaner

`LaunchdCleanerRuntimePort`, as far as a preparation uses it: its programs over the files of
the writers, `launchd`, the writer authority and the lease.

* `temporary`: the names that `mkstemp` chooses.
* `atomicReplace`, `quiesceForCutover`, `materializePostgresRuntime`, `restorePreCutover`: the
  programs.
* `RuntimeServes`: what the system may answer; only file calls change files.
* `PrepareServes`: the world of a preparation. A call of the port is answered by a finished run
  of its program, a call of the epoch or of the runner by anything.
-/
namespace Adcp.L5.Cutover

open Adcp.L1 Adcp.L2 Script FileSystem

/-! ## Paths -/

/-- The directory of a path, with the slash. -/
def directoryOf (path : String) : List Char := (path.toList.reverse.dropWhile (· ≠ '/')).reverse

def nameOf (path : String) : List Char := (path.toList.reverse.takeWhile (· ≠ '/')).reverse

/-- `tempfile.mkstemp(prefix=f".{path.name}.dl77-", dir=path.parent)` -/
def temporary (path suffix : String) : String :=
  String.ofList (directoryOf path ++ '.' :: nameOf path ++ ".dl77-".toList ++ suffix.toList)

theorem directoryOf_nameOf (path : String) : directoryOf path ++ nameOf path = path.toList := by
  unfold directoryOf nameOf
  rw [← List.reverse_append, List.takeWhile_append_dropWhile, List.reverse_reverse]

theorem temporary_ne (path suffix : String) : temporary path suffix ≠ path := by
  intro h
  have htoList := congrArg String.toList h
  rw [temporary, String.toList_ofList] at htoList
  have hlist := htoList.trans (directoryOf_nameOf path).symm
  have hlength := congrArg List.length hlist
  simp only [List.length_append, List.length_cons] at hlength
  omega

/-! ## Calls -/

/-- mirrors src/adcp/production_dcs_v8_adoption.py:393-402 -/
structure LaunchEvidence where
  runtimeState : String
  loadState : String
  pidField : Option Int
  pidLiveness : Bool
  pidServiceOwnership : Bool
  pidProbeResolved : Bool

/-- What the port calls. `serviceDefinition`, `enabledState`, `launchState`, `waitForStable`,
`launchctl`, `discover` and `resumeFenced` are the writer authority's, `revalidate` the
runner's; `render` only reads. The restoration is a call of the port itself. -/
inductive RuntimeCall where
  | file (c : FileCall String)
  | mkstemp (path : String)
  | revalidate
  | discover
  | serviceDefinition (entry : WriterEntry)
  | launchctl (verb target : String)
  | enabledState (label : String)
  | launchState (label : String) (arguments : List String)
  | waitForStable (entry : WriterEntry) (arguments : List String)
  | render (writer : String) (runtime : CleanerRuntimeTuple)
  | resumeFenced (token : QuiescenceToken) (schemaVersion : Int)
  | restorePreCutover (snapshot : CleanerRuntimeSnapshot)

abbrev RuntimeAnswer : RuntimeCall → Type
  | .file c => FileAnswer c
  | .mkstemp _ => String
  | .discover => WriterInventory
  | .serviceDefinition _ => String × List String
  | .launchctl .. => Int
  | .enabledState _ => String
  | .launchState .. => LaunchEvidence
  | .render .. => FileSystem.Bytes
  | .revalidate | .waitForStable .. | .resumeFenced .. | .restorePreCutover _ => Unit

abbrev RuntimeScript (α : Type) : Type := Script PyError RuntimeAnswer α

/-- The fields of the port and of its authority that the programs read.
mirrors src/adcp/cleaner_cutover_control.py:455-489 -/
structure LaunchdPort where
  launchAgentsRoot : String
  runtimeRoot : String
  productReleaseRoot : String
  uid : Nat
  dcsSchemaVersion : Int

namespace Runtime

def call (c : RuntimeCall) : RuntimeScript (RuntimeAnswer c) := invoke c

def file (c : FileCall String) : RuntimeScript (FileAnswer c) := call (.file c)

/-- `CleanerCutoverControlError(code, detail)`. -/
def runtimeError (code detail : String) : PyError :=
  .raised "CleanerCutoverControlError" (if detail = "" then code else code ++ ": " ++ detail)

def demand (c : Prop) [Decidable c] (code detail : String) : RuntimeScript Unit :=
  Script.require c (runtimeError code detail)

def sha256 (raw : FileSystem.Bytes) : String := Sha256.hexdigest raw

/-! ## The writers -/

/-- mirrors src/adcp/cleaner_cutover_control.py:50-51 -/
def requiredWriters : List String := ["W06", "W01", "W03", "W04", "W05"]
def optionalWriters : List String := ["W07"]

/-- mirrors src/adcp/cleaner_cutover_control.py:52-59 (`_FIXED_LABELS`) -/
def fixedLabel : String → Option String
  | "W01" => some "com.propertyai.gmail-readonly"
  | "W03" => some "com.propertyai.telegram-cleaner"
  | "W04" => some "com.propertyai.cleaning-operations"
  | "W05" => some "com.propertyai.cleaning-completion"
  | "W06" => some "com.propertyai.health-monitor"
  | "W07" => some "com.propertyai.cleaner-pg-outbox"
  | _ => none

/-- mirrors src/adcp/cleaner_cutover_control.py:88-89 -/
def postCutoverActiveWriters : List String := ["W03", "W07"]
def postCutoverScheduledWriters : List String := ["W01", "W06"]

def w07Label : String := "com.propertyai.cleaner-pg-outbox"

/-- `{entry.writer_id: entry for entry in inventory.entries}.get(writer)` -/
def byId (inventory : WriterInventory) (writer : String) : Option WriterEntry :=
  inventory.entries.reverse.find? (·.writerId = writer)

/-- A key of that dictionary. -/
def keyed {α : Type} (o : Option α) (key : String) : RuntimeScript α :=
  match o with
  | some a => pure a
  | none => fail (.raised "KeyError" key)

/-- mirrors src/adcp/cleaner_cutover_control.py:491-495 -/
def inventoryEntry (inventory : WriterInventory) (writer : String) : Except PyError WriterEntry :=
  match inventory.entries.filter (·.writerId = writer) with
  | [entry] =>
    if some entry.launchdLabel = fixedLabel writer then .ok entry
    else .error (runtimeError "CLEANER_WRITER_IDENTITY_INVALID" writer)
  | _ => .error (runtimeError "CLEANER_WRITER_IDENTITY_INVALID" writer)

/-- `launch_agents_root / f"{_FIXED_LABELS['W07']}.plist"` -/
def w07Target (port : LaunchdPort) : String := port.launchAgentsRoot ++ "/" ++ w07Label ++ ".plist"

def authorizedPath (port : LaunchdPort) (writer : String) : String :=
  port.runtimeRoot ++ "/" ++ writer ++ ".authorized.json"

def launchTarget (port : LaunchdPort) (label : String) : String :=
  "gui/" ++ toString port.uid ++ "/" ++ label

/-! ## Replacing a file -/

def isFileNotFound : PyError → Bool
  | .raised "FileNotFoundError" _ => true
  | _ => false

/-- `os.unlink`, with `except FileNotFoundError: pass`. -/
def unlinkIfThere (path : String) : RuntimeScript Unit := do
  match ← (file (.unlink path)).attempt with
  | .ok _ => pure ()
  | .error e => if isFileNotFound e then pure () else fail e

/-- The stream, with its closing. -/
def writeStream (temp : String) (payload : FileSystem.Bytes) : RuntimeScript Unit := do
  file (.openStream temp)
  ensuring (do
    let _ ← file (.write temp payload)
    file (.flush temp)
    file (.fsync temp)) (file (.close temp))

def syncDirectory (directory : String) : RuntimeScript Unit := do
  file (.openDirectory directory)
  ensuring (file (.fsyncDirectory directory)) (file (.closeDirectory directory))

/-- What stands under `try`. -/
def replaceThrough (temp path : String) (payload : FileSystem.Bytes) : RuntimeScript Unit := do
  file (.chmod temp 0o600)
  writeStream temp payload
  file (.replace temp path)
  syncDirectory (String.ofList (directoryOf path))

/-- mirrors src/adcp/cleaner_cutover_control.py:634-655 -/
def atomicReplace (path : String) (payload : FileSystem.Bytes) : RuntimeScript Unit := do
  file (.makeDirectory (String.ofList (directoryOf path)))
  let temp ← call (.mkstemp path)
  ensuring (replaceThrough temp path payload) (unlinkIfThere temp)

/-! ## Quiescing -/

/-- The physical absence of a service that `bootout` has not removed.
mirrors src/adcp/cleaner_cutover_control.py:552-562 -/
def requireAbsent (entry : WriterEntry) (arguments : List String) : RuntimeScript Unit := do
  call .revalidate
  let observed ← call (.launchState entry.launchdLabel arguments)
  demand (observed.runtimeState = "INACTIVE" ∧ observed.loadState = "UNLOADED" ∧
    observed.pidField = none ∧ observed.pidLiveness = false ∧ observed.pidServiceOwnership = false ∧
    observed.pidProbeResolved = true) "CLEANER_WRITER_BOOTOUT_FAILED" entry.writerId

/-- mirrors src/adcp/cleaner_cutover_control.py:538-577 (`_fence_one`) -/
def fenceOne (port : LaunchdPort) (entry : WriterEntry) : RuntimeScript Unit := do
  call .revalidate
  let (_, arguments) ← call (.serviceDefinition entry)
  let target := launchTarget port entry.launchdLabel
  let disabled ← call (.launchctl "disable" target)
  demand (disabled = 0) "CLEANER_WRITER_DISABLE_FAILED" entry.writerId
  let enabledState ← call (.enabledState entry.launchdLabel)
  demand (enabledState = "DISABLED") "CLEANER_WRITER_DISABLE_READBACK_FAILED" entry.writerId
  call .revalidate
  let result ← call (.launchctl "bootout" target)
  if result ≠ 0 ∧ result ≠ 113 then requireAbsent entry arguments
  call (.waitForStable entry arguments)

/-- mirrors src/adcp/cleaner_cutover_control.py:586-591 -/
def capturePlists (inventory : WriterInventory) : List String → RuntimeScript (List PriorPlist)
  | [] => pure []
  | writer :: rest => do
    let entry ← lift (inventoryEntry inventory writer)
    let (path, _) ← call (.serviceDefinition entry)
    let raw ← file (.readBytes path)
    let others ← capturePlists inventory rest
    pure (⟨writer, path, raw, sha256 raw⟩ :: others)

/-- `path.read_bytes() if path.exists() else None` -/
def readIfThere (path : String) : RuntimeScript (Option FileSystem.Bytes) := do
  if ← file (.exist path) then
    let raw ← file (.readBytes path)
    pure (some raw)
  else pure none

/-- `path.is_symlink() or (path.exists() and not path.is_file())` -/
def unusable (path : String) : RuntimeScript Bool := do
  if ← file (.isSymlink path) then pure true
  else if ← file (.exist path) then
    let plain ← file (.isFile path)
    pure !plain
  else pure false

/-- mirrors src/adcp/cleaner_cutover_control.py:592-600 -/
def captureIdentities (port : LaunchdPort) : List String → RuntimeScript (List PriorIdentity)
  | [] => pure []
  | writer :: rest => do
    let path := authorizedPath port writer
    let bad ← unusable path
    demand (bad = false) "CLEANER_AUTHORIZED_IDENTITY_TARGET_INVALID" writer
    let raw ← readIfThere path
    let others ← captureIdentities port rest
    pure (⟨writer, path, raw.map fun raw => (raw, sha256 raw)⟩ :: others)

/-- `before_w02` and `after_w02` of the checks after a quiescence and a restoration. -/
def w02Kept (before after : WriterInventory) : Prop :=
  ∀ e, byId before "W02" = some e →
    ∃ e', byId after "W02" = some e' ∧ e'.stableIdentity = e.stableIdentity ∧ e'.state = e.state

instance (before after : WriterInventory) : Decidable (w02Kept before after) :=
  match hb : byId before "W02", ha : byId after "W02" with
  | none, _ => .isTrue fun e h => nomatch hb.symm.trans h
  | some e, none => .isFalse fun h => by
    obtain ⟨e', h', -⟩ := h e hb
    cases ha.symm.trans h'
  | some e, some e' =>
    if hk : e'.stableIdentity = e.stableIdentity ∧ e'.state = e.state then
      .isTrue fun e₁ h₁ => by
        cases hb.symm.trans h₁
        exact ⟨e', ha, hk⟩
    else .isFalse fun h => by
      obtain ⟨e₁, h₁, hk'⟩ := h e hb
      cases ha.symm.trans h₁
      exact hk hk'

/-- mirrors src/adcp/cleaner_cutover_control.py:616-620 -/
def requireQuiesced (after : WriterInventory) : List String → RuntimeScript Unit
  | [] => pure ()
  | writer :: rest => do
    let quiet := (byId after writer).any fun entry =>
      entry.state = "INACTIVE" && entry.loadState = "UNLOADED" && entry.enabledState = "DISABLED"
    demand (quiet = true) "CLEANER_WRITER_QUIESCENCE_READBACK_FAILED" writer
    requireQuiesced after rest

def fenceEach (port : LaunchdPort) (inventory : WriterInventory) : List String → RuntimeScript Unit
  | [] => pure ()
  | writer :: rest => do
    if writer ≠ "W06" then
      let entry ← keyed (byId inventory writer) writer
      fenceOne port entry
    fenceEach port inventory rest

/-- What stands under `try`.
mirrors src/adcp/cleaner_cutover_control.py:609-627 -/
def fenceAll (port : LaunchdPort) (snapshot : CleanerRuntimeSnapshot) : RuntimeScript Unit := do
  let w06 ← keyed (byId snapshot.inventory "W06") "W06"
  fenceOne port w06
  fenceEach port snapshot.inventory snapshot.selectedWriterIds
  let after ← call .discover
  requireQuiesced after snapshot.selectedWriterIds
  demand (w02Kept snapshot.inventory after) "CLEANER_W02_UNRELATED_WRITER_CHANGED" ""

/-- mirrors src/adcp/cleaner_cutover_control.py:579-608 -/
def capture (port : LaunchdPort) : RuntimeScript CleanerRuntimeSnapshot := do
  let inventory ← call .discover
  let missing := requiredWriters.filter fun writer => (byId inventory writer).isNone
  demand (missing = []) "CLEANER_REQUIRED_WRITER_MISSING" (String.intercalate "," missing)
  let selected := requiredWriters ++
    optionalWriters.filter fun writer => (byId inventory writer).isSome
  let prior ← capturePlists inventory selected
  let authorizedPrior ← captureIdentities port
    (postCutoverScheduledWriters ++ postCutoverActiveWriters)
  pure ⟨inventory, selected, prior, authorizedPrior⟩

/-- mirrors src/adcp/cleaner_cutover_control.py:579-632 -/
def quiesceForCutover (port : LaunchdPort) : RuntimeScript CleanerRuntimeSnapshot := do
  let snapshot ← capture port
  match ← (fenceAll port snapshot).attempt with
  | .ok _ => pure snapshot
  | .error e => do
    call (.restorePreCutover snapshot)
    fail e

/-! ## Materialising -/

/-- `prior_paths[writer]` -/
def priorPath (snapshot : CleanerRuntimeSnapshot) (writer : String) : Option String :=
  (snapshot.priorPlists.reverse.find? (·.writerId = writer)).map (·.path)

/-- A file takes its new bytes, and is read again. -/
def materialize (path writer : String) (payload : FileSystem.Bytes) :
    RuntimeScript (String × String) := do
  atomicReplace path payload
  let now ← file (.readBytes path)
  demand (now = payload) "CLEANER_RUNTIME_PLIST_READBACK_DRIFT" writer
  pure (writer, sha256 payload)

/-- mirrors src/adcp/cleaner_cutover_control.py:711-718 -/
def materializeEach (snapshot : CleanerRuntimeSnapshot) (runtime : CleanerRuntimeTuple) :
    List String → RuntimeScript (List (String × String))
  | [] => pure []
  | writer :: rest => do
    call .revalidate
    let payload ← call (.render writer runtime)
    let path ← keyed (priorPath snapshot writer) writer
    let output ← materialize path writer payload
    let others ← materializeEach snapshot runtime rest
    pure (output :: others)

/-- `"W07" not in snapshot.selected_writer_ids and target.exists()` -/
def unmanagedTarget (port : LaunchdPort) (snapshot : CleanerRuntimeSnapshot) :
    RuntimeScript Bool :=
  if "W07" ∉ snapshot.selectedWriterIds then file (.exist (w07Target port)) else pure false

/-- mirrors src/adcp/cleaner_cutover_control.py:705-741 -/
def materializePostgresRuntime (port : LaunchdPort) (snapshot : CleanerRuntimeSnapshot)
    (runtime : CleanerRuntimeTuple) : RuntimeScript (List (String × String)) := do
  demand (runtime.authority = .postgres) "CLEANER_POSTGRES_RUNTIME_REQUIRED" ""
  let outputs ← materializeEach snapshot runtime ["W01", "W03", "W06"]
  let sourceThere ← file (.isFile (port.productReleaseRoot ++
    "/propertyai_core/runtime/com.propertyai.cleaner-pg-outbox.plist"))
  demand (sourceThere = true) "CLEANER_W07_RUNTIME_SOURCE_MISSING" ""
  let target := w07Target port
  let unmanaged ← unmanagedTarget port snapshot
  demand (unmanaged = false) "CLEANER_W07_UNMANAGED_RUNTIME_TARGET_PRESENT" ""
  call .revalidate
  let disabled ← call (.launchctl "disable" (launchTarget port w07Label))
  demand (disabled = 0) "CLEANER_WRITER_DISABLE_FAILED" "W07"
  let enabledState ← call (.enabledState w07Label)
  demand (enabledState = "DISABLED") "CLEANER_WRITER_DISABLE_READBACK_FAILED" "W07"
  let payload ← call (.render "W07" runtime)
  let output ← materialize target "W07" payload
  pure (outputs ++ [output])

/-! ## Restoring -/

/-- mirrors src/adcp/cleaner_cutover_control.py:830-836 -/
def restorePlist (prior : PriorPlist) : RuntimeScript Unit := do
  call .revalidate
  demand (sha256 prior.raw = prior.sha256) "CLEANER_PRE_PONR_SNAPSHOT_CORRUPT" prior.writerId
  atomicReplace prior.path prior.raw
  let now ← file (.readBytes prior.path)
  demand (sha256 now = prior.sha256) "CLEANER_PRE_PONR_RESTORE_READBACK_DRIFT" prior.writerId

/-- `if path.exists(): path.unlink()` -/
def removeIfThere (path : String) : RuntimeScript Unit := do
  if ← file (.exist path) then file (.unlink path)

/-- mirrors src/adcp/cleaner_cutover_control.py:838-848 -/
def restoreIdentity (prior : PriorIdentity) : RuntimeScript Unit := do
  call .revalidate
  match prior.raw with
  | none => removeIfThere prior.path
  | some (raw, expected) => do
    demand (sha256 raw = expected) "CLEANER_AUTHORIZED_IDENTITY_SNAPSHOT_CORRUPT" prior.writerId
    atomicReplace prior.path raw
    let now ← file (.readBytes prior.path)
    demand (sha256 now = expected) "CLEANER_AUTHORIZED_IDENTITY_RESTORE_DRIFT" prior.writerId

/-- A W07 that was not there goes.
mirrors src/adcp/cleaner_cutover_control.py:850-856 -/
def removeStaged (port : LaunchdPort) (snapshot : CleanerRuntimeSnapshot) : RuntimeScript Unit := do
  if "W07" ∉ snapshot.selectedWriterIds then
    if ← file (.exist (w07Target port)) then
      call .revalidate
      file (.unlink (w07Target port))

/-- The entries of the selected writers. -/
def selectedEntries (snapshot : CleanerRuntimeSnapshot) : List String →
    RuntimeScript (List WriterEntry)
  | [] => pure []
  | writer :: rest => do
    let entry ← keyed (byId snapshot.inventory writer) writer
    let others ← selectedEntries snapshot rest
    pure (entry :: others)

/-- mirrors src/adcp/cleaner_cutover_control.py:860-873 -/
def restoreToken (selected : List WriterEntry) : QuiescenceToken where
  before := { entries := selected
              fingerprint := Sha256.hexdigest (Sha256.utf8 (Json.arr (selected.map fun e =>
                Json.arr (e.stableIdentity.map Json.str))).dumps) }
  quiescedStableIdentities := selected.map (·.stableIdentity)
  beforeClasses := selected.map fun e => (e.writerId, e.beforeClass)

/-- mirrors src/adcp/cleaner_cutover_control.py:882-891 -/
def requireRestored (observed : WriterInventory) : List WriterEntry → RuntimeScript Unit
  | [] => pure ()
  | expected :: rest => do
    let same := (byId observed expected.writerId).any fun actual =>
      actual.stableIdentity = expected.stableIdentity && actual.beforeClass = expected.beforeClass
    demand (same = true) "CLEANER_PRE_PONR_TOPOLOGY_RESTORE_FAILED" expected.writerId
    requireRestored observed rest

/-- What follows the files: the services.
mirrors src/adcp/cleaner_cutover_control.py:858-900 -/
def restoreServices (port : LaunchdPort) (snapshot : CleanerRuntimeSnapshot) : RuntimeScript Unit :=
    do
  let selected ← selectedEntries snapshot snapshot.selectedWriterIds
  call (.resumeFenced (restoreToken selected) port.dcsSchemaVersion)
  call .revalidate
  let observed ← call .discover
  requireRestored observed selected
  demand (w02Kept snapshot.inventory observed) "CLEANER_W02_UNRELATED_WRITER_CHANGED" ""

/-- mirrors src/adcp/cleaner_cutover_control.py:824-900 -/
def restorePreCutover (port : LaunchdPort) (snapshot : CleanerRuntimeSnapshot) :
    RuntimeScript Unit := do
  each restorePlist snapshot.priorPlists
  each restoreIdentity snapshot.priorAuthorizedIdentities
  removeStaged port snapshot
  restoreServices port snapshot

end Runtime

/-! ## What answers -/

abbrev WriterFiles : Type := Files String

/-- `mkstemp` makes a file of a new name. -/
def MadeTemporary (files : WriterFiles) (path temp : String) (files' : WriterFiles) : Prop :=
  (∃ suffix, temp = temporary path suffix) ∧ files temp = none ∧
    ∃ mode, files' = Function.update files temp (some ⟨[], mode⟩)

/-- A call on a file may raise after its effect as well; nothing else changes a file. How a
restoration is answered is a parameter. -/
def RuntimeServes (restores : WriterFiles → CleanerRuntimeSnapshot → Except PyError Unit →
      WriterFiles → Prop) (files : WriterFiles) :
    (c : RuntimeCall) → Except PyError (RuntimeAnswer c) → WriterFiles → Prop
  | .file c, a, files' => Faulty files c a files'
  | .mkstemp path, .ok temp, files' => MadeTemporary files path temp files'
  | .mkstemp path, .error _, files' => files' = files ∨ ∃ temp, MadeTemporary files path temp files'
  | .restorePreCutover snapshot, a, files' => restores files snapshot a files'
  | _, _, files' => files' = files

/-- What makes no call of the restoration. -/
def SystemServes : WriterFiles → (c : RuntimeCall) → Except PyError (RuntimeAnswer c) →
    WriterFiles → Prop :=
  RuntimeServes fun _ _ _ _ => False

/-- A restoration is answered by what its program ends in. -/
def Restores (port : LaunchdPort) (files : WriterFiles) (snapshot : CleanerRuntimeSnapshot)
    (a : Except PyError Unit) (files' : WriterFiles) : Prop :=
  Steps SystemServes (Runtime.restorePreCutover port snapshot) files (.done a) files'

/-- The port's own exceptions leave a preparation as they are. -/
def portRaised {μ α : Type} (r : Except PyError α) :
    Except (ControlError CleanerCutoverPrepared μ) α := r.mapError .raised

variable {μ : Type}

/-- The world of a preparation. -/
def PrepareServes (port : LaunchdPort) (files : WriterFiles) :
    (c : ControlCall (CutoverCall μ CleanerCutoverPrepared)) →
    Except (ControlError CleanerCutoverPrepared μ)
      (ControlAnswer (CutoverAnswer (μ := μ) (δ := CleanerCutoverPrepared)) c) → WriterFiles → Prop
  | .user .quiesceForCutover, a, files' => ∃ r, a = portRaised r ∧
      Steps (RuntimeServes (Restores port)) (Runtime.quiesceForCutover port) files (.done r) files'
  | .user (.materializePostgresRuntime s runtime), a, files' => ∃ r, a = portRaised r ∧
      Steps SystemServes (Runtime.materializePostgresRuntime port s runtime) files (.done r) files'
  | .user (.restorePreCutover s), a, files' => ∃ r, a = portRaised r ∧
    Restores port files s r files'
  | _, _, files' => files' = files

end Adcp.L5.Cutover
