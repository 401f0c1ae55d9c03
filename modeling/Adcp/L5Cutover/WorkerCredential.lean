import Adcp.L1Base.Interleaving
import Adcp.L1Base.JsonAscii
import Adcp.L5Deploy.RunnerCalls

/-!
# The protected credential of the worker

The three calls on the credential of the Cleaner's worker: one creates it, once, and writes its
evidence; one settles an effect whose last evidence is missing; one only reads.

* `classify`: what the files say, as a status.
* `createWorkerCredential`, `reconcileWorkerCredential`, `readWorkerCredential`: the programs.
* `WorkerServes`: the disk under them. Opening with `O_EXCL` creates a file that was not there;
  a write may leave a part of its text behind at any time, a flush that returns leaves all of it.
-/
namespace Adcp.L5.Worker

open Adcp.L1 Adcp.L2 Adcp.L3 Script

/-! ## Values -/

/-- `CleanerWorkerRequest`, with the other arguments of a call. -/
structure WorkerRequest where
  changeId : String
  operationId : String
  controlDecisionRef : String
  gateOrControlId : String
  deriving DecidableEq

/-- mirrors src/adcp/cleaner_worker_control.py:38-45, without the binding, which only
`revalidate` reads -/
structure WorkerAuthority where
  expectedHead : String
  tree : String
  approvalEvidenceSha256 : String
  deriving DecidableEq

/-- What `lstat` tells of the credential. -/
structure FileInfo where
  uid : Int
  mode : Int
  device : Int
  inode : Int
  size : Int
  mtimeNs : Int
  ctimeNs : Int
  deriving DecidableEq

/-- `CredentialReference.WORKER_PGPASS.value` -/
def workerCredential : String := "cleaner-prod/worker.pgpass"

def workerContract : String := "DL98_W07_WORKER_CREDENTIAL_V1"

/-- The metadata of the credential, `none` where there is none.
mirrors src/adcp/cleaner_worker_control.py:297-307 -/
def metadataJson : Option FileInfo → Json
  | none => .obj [("exists", .bool false)]
  | some info => .obj [("exists", .bool true), ("reference", .str workerCredential),
      ("uid", .int info.uid), ("mode", .int info.mode), ("device", .int info.device),
      ("inode", .int info.inode), ("size", .int info.size), ("mtime_ns", .int info.mtimeNs),
      ("ctime_ns", .int info.ctimeNs)]

inductive EvidencePhase where
  | prepared
  | effect
  | final
  deriving DecidableEq

def EvidencePhase.text : EvidencePhase → String
  | .prepared => "PREPARED"
  | .effect => "EFFECT"
  | .final => "FINAL"

def EvidencePhase.suffix : EvidencePhase → String
  | .prepared => ".prepared.json"
  | .effect => ".effect.json"
  | .final => ".final.json"

/-- A file below the evidence root, `name + phase.suffix`. -/
structure EvidencePath where
  name : String
  phase : EvidencePhase
  deriving DecidableEq

/-- mirrors src/adcp/cleaner_worker_control.py:310-315 (`_credential_evidence_identity`) -/
def evidenceIdentity (req : WorkerRequest) (authority : WorkerAuthority) : List (String × Json) :=
  [("operation_id", .str req.operationId), ("change_id", .str req.changeId),
    ("control_decision_ref", .str req.controlDecisionRef), ("reference", .str workerCredential),
    ("controller_commit", .str authority.expectedHead), ("controller_tree", .str authority.tree),
    ("approval_evidence_sha256", .str authority.approvalEvidenceSha256),
    ("contract", .str workerContract)]

/-- The stable location of an operation.
mirrors src/adcp/cleaner_worker_control.py:318-321 (`_credential_paths`) -/
def credentialPath (req : WorkerRequest) (phase : EvidencePhase) : EvidencePath where
  name := Sha256.hexdigest (Sha256.utf8 (Json.dumps (.obj [("change_id", .str req.changeId),
    ("operation_id", .str req.operationId)])))
  phase := phase

/-- What a call reports. -/
inductive CredentialStatus where
  | partialOrInvalidFile
  | finalReadbackMismatch
  | finalPass (metadata : Option FileInfo)
  | pristine
  | unattributedFile
  | preparedFileAbsent
  | validFileWithoutEffect
  | effectAppliedFinalMissing (metadata : Option FileInfo)
  | noPreparedEvidence (credentialExists : Bool)
  deriving DecidableEq

def CredentialStatus.text : CredentialStatus → String
  | .partialOrInvalidFile => "PARTIAL_OR_INVALID_FILE_RECONCILIATION_REQUIRED"
  | .finalReadbackMismatch => "FINAL_READBACK_MISMATCH"
  | .finalPass _ => "FINAL_PASS"
  | .pristine => "PRISTINE"
  | .unattributedFile => "UNATTRIBUTED_FILE_RECONCILIATION_REQUIRED"
  | .preparedFileAbsent => "PREPARED_FILE_ABSENT_RECONCILIATION_REQUIRED"
  | .validFileWithoutEffect =>
    "VALID_FILE_WITHOUT_DURABLE_EFFECT_IDENTITY_RECONCILIATION_REQUIRED"
  | .effectAppliedFinalMissing _ => "EFFECT_APPLIED_FINAL_MISSING"
  | .noPreparedEvidence _ => "NO_PREPARED_EVIDENCE"

/-! ## Reading the evidence -/

def typedError (code : String) : PyError := .raised "TypedPostgresError" code

/-- `document.get(key) == value` -/
def holdsKey (document : Json) (key : String) (value : Json) : Bool :=
  ((document.get? key).getD .null).pyEq value

/-- A text of an evidence file, as the document it is.
mirrors src/adcp/cleaner_worker_control.py:334-342 -/
def documentOf (identity : List (String × Json)) (phase : EvidencePhase) (raw : List Char) :
    Except PyError Json :=
  match Json.loads raw with
  | none => .error (typedError "WORKER_CREDENTIAL_EVIDENCE_INVALID")
  | some document =>
    if document.isObj && holdsKey document "phase" (.str phase.text) &&
        identity.all (fun p => holdsKey document p.1 p.2) then .ok document
    else .error (typedError "WORKER_CREDENTIAL_EVIDENCE_IDENTITY_DRIFT")

/-- `document.get("metadata") == metadata` -/
def holdsMetadata (document : Json) (metadata : Option FileInfo) : Bool :=
  holdsKey document "metadata" (metadataJson metadata)

/-- mirrors src/adcp/cleaner_worker_control.py:344-354 -/
def classify (prepared effect final : Option Json) (metadata : Option FileInfo) : CredentialStatus :=
  match final with
  | some final =>
    if prepared.isNone ∨ effect.isNone ∨ holdsMetadata final metadata = false ∨
        effect.any (holdsMetadata · metadata) = false then .finalReadbackMismatch
    else .finalPass metadata
  | none =>
    if prepared.isNone then
      if metadata.isNone ∧ effect.isNone then .pristine else .unattributedFile
    else if metadata.isNone then .preparedFileAbsent
    else if effect.any (holdsMetadata · metadata) = false then .validFileWithoutEffect
    else .effectAppliedFinalMissing metadata

/-! ## Calls -/

/-- What the programs call: the approval, the policy and the store, the database, the two
directories, the evidence files and the credential. -/
inductive WorkerCall where
  | approve (req : WorkerRequest)
  | validateIdentifiers (req : WorkerRequest)
  | validatePolicy
  | openStore
  | closeStore
  | schemaVersion
  | validateSchema
  | workerState
  | writerRow
  | now
  | ensureSecretDirectory
  | ensureEvidenceRoot
  | rootThere
  | rootParentUsable
  | makeRoot
  | evidenceThere (p : EvidencePath)
  | evidenceStat (p : EvidencePath)
  | readPinned (p : EvidencePath)
  | openEvidenceRoot
  | createEvidence (p : EvidencePath)
  | writeEvidence (p : EvidencePath) (text : List Char)
  | flushEvidence (p : EvidencePath) (text : List Char)
  | syncEvidence (p : EvidencePath)
  | closeEvidence (p : EvidencePath)
  | syncEvidenceRoot
  | closeEvidenceRoot
  | credentialThere
  | validateCredential
  | credentialStat
  | newSecret
  | openSecretDirectory
  | statSecretDirectory
  | createCredential
  | writeCredential (text : List Char)
  | flushCredential (text : List Char)
  | syncCredential
  | closeCredential
  | syncSecretDirectory
  | closeSecretDirectory

abbrev WorkerAnswer : WorkerCall → Type
  | .approve _ => WorkerAuthority
  | .schemaVersion => Option Int
  | .writerRow => GlobalWriterLease
  | .now | .newSecret => String
  | .rootThere | .rootParentUsable | .evidenceThere _ | .credentialThere => Bool
  | .evidenceStat _ | .statSecretDirectory => Int × Int
  | .readPinned _ => List Char
  | .credentialStat => FileInfo
  | _ => Unit

/-- What an effect or a readback answers. -/
inductive WorkerValue where
  | metadata (m : Option FileInfo)
  | status (s : CredentialStatus)
  deriving DecidableEq

abbrev WorkerError : Type := ControlError WorkerValue WorkerValue

abbrev WorkerControlAnswer : ControlCall WorkerCall → Type := ControlAnswer WorkerAnswer

abbrev WorkerScript (α : Type) : Type := ControlScript WorkerAnswer WorkerValue WorkerValue α

/-- The policy's address of the database and the owner of its secrets. -/
structure WorkerPolicy where
  host : String
  port : Nat
  ownerUid : Int

def call (c : WorkerCall) : WorkerScript (WorkerAnswer c) := ask (.user c)

def demand (c : Prop) [Decidable c] (code : String) : WorkerScript Unit :=
  Script.require c (.raised (typedError code))

/-! ## The credential's metadata -/

/-- mirrors src/adcp/cleaner_worker_control.py:297-307 (`_credential_metadata`) -/
def credentialMetadata : WorkerScript (Option FileInfo) := do
  if ← call .credentialThere then
    call .validateCredential
    let info ← call .credentialStat
    pure (some info)
  else pure none

def isTypedError : WorkerError → Bool
  | .raised (.raised "TypedPostgresError" _) => true
  | _ => false

/-- mirrors src/adcp/cleaner_worker_control.py:326-343 -/
def readDocument (policy : WorkerPolicy) (req : WorkerRequest) (identity : List (String × Json))
    (phase : EvidencePhase) : WorkerScript (Option Json) := do
  let path := credentialPath req phase
  if ← call (.evidenceThere path) then
    let (uid, mode) ← call (.evidenceStat path)
    demand (uid = policy.ownerUid ∧ mode = 0o600) "WORKER_CREDENTIAL_EVIDENCE_METADATA_INVALID"
    let raw ← call (.readPinned path)
    let document ← lift ((documentOf identity phase raw).mapError .raised)
    pure (some document)
  else pure none

/-- mirrors src/adcp/cleaner_worker_control.py:324-354 (`_read_credential_reconciliation`) -/
def readReconciliation (policy : WorkerPolicy) (req : WorkerRequest)
    (identity : List (String × Json)) : WorkerScript CredentialStatus := do
  let prepared ← readDocument policy req identity .prepared
  let effect ← readDocument policy req identity .effect
  let final ← readDocument policy req identity .final
  match ← credentialMetadata.attempt with
  | .ok metadata => pure (classify prepared effect final metadata)
  | .error e => if isTypedError e then pure .partialOrInvalidFile else fail e

/-! ## Writing -/

/-- The stream of a new evidence file, with its closing. -/
def writeEvidenceStream (path : EvidencePath) (text : List Char) : WorkerScript Unit := do
  call (.createEvidence path)
  ensuring (do
    call (.writeEvidence path text)
    call (.flushEvidence path text)
    call (.syncEvidence path)) (call (.closeEvidence path))
  call .syncEvidenceRoot

/-- mirrors src/adcp/cleaner_worker_control.py:276-294 (`_exclusive_json`) -/
def exclusiveJson (path : EvidencePath) (value : List (String × Json)) : WorkerScript Unit := do
  let now ← call .now
  let text := Json.dumps (.obj (value ++ [("created_at", .str now)]))
  call .openEvidenceRoot
  ensuring (do
    match ← (writeEvidenceStream path text).attempt with
    | .ok _ => pure ()
    -- partial evidence is kept: an interruption is no permission to replace it
    | .error _ =>
      fail (.raised (typedError "WORKER_CREDENTIAL_EVIDENCE_RECONCILIATION_REQUIRED")))
    (call .closeEvidenceRoot)

/-- mirrors src/adcp/postgres_control.py:1348-1361 (`_assert_current_typed_authority`) -/
def assertCurrentTypedAuthority (changeId deploymentId : String) : WorkerScript Int := do
  ask .revalidate
  let row ← call .writerRow
  demand (row.state = .HELD ∧ row.context.writerClass = some w08WriterClass ∧
    row.context.changeId = some changeId ∧ row.context.sliceId = some deploymentId)
    "TYPED_POSTGRES_W08_RECEIPT_AUTHORITY_MISSING"
  let _ ← ask (.assertCurrent (row.context.ownerId.getD "None") row.fencingToken)
  pure row.fencingToken

/-- `f"{policy.host}:{policy.port}:{pg.CLEANER_DATABASE}:{WORKER_LOGIN}:{secret}\n"` -/
def credentialText (policy : WorkerPolicy) (secret : String) : List Char :=
  (policy.host ++ ":" ++ toString policy.port ++ ":propertyai:propertyai_cleaner_worker:" ++
    secret ++ "\n").toList

/-- What stands under `try` in the secret's directory.
mirrors src/adcp/cleaner_worker_control.py:396-410 -/
def writeSecret (policy : WorkerPolicy) (req : WorkerRequest) (secret : String) :
    WorkerScript Unit := do
  call .openSecretDirectory
  ensuring (do
    let (uid, mode) ← call .statSecretDirectory
    demand (uid = policy.ownerUid ∧ mode = 0o700) "WORKER_SECRET_DIR_METADATA_DRIFT"
    let _ ← assertCurrentTypedAuthority req.changeId req.operationId
    call .createCredential
    ensuring (do
      call (.writeCredential (credentialText policy secret))
      call (.flushCredential (credentialText policy secret))
      call .syncCredential) (call .closeCredential)
    call .syncSecretDirectory) (call .closeSecretDirectory)

namespace Create

def metadataField (metadata : Option FileInfo) : String × Json := ("metadata", metadataJson metadata)

/-- mirrors src/adcp/cleaner_worker_control.py:374-381 -/
def makeEvidenceRoot : WorkerScript Unit := do
  if ← call .rootThere then pure ()
  else
    let usable ← call .rootParentUsable
    demand (usable = true) "WORKER_EVIDENCE_PARENT_INVALID"
    call .makeRoot

/-- mirrors src/adcp/cleaner_worker_control.py:371-416 (`effect`) -/
def effect (policy : WorkerPolicy) (req : WorkerRequest) (identity : List (String × Json)) :
    WorkerScript WorkerValue := do
  let _ ← assertCurrentTypedAuthority req.changeId req.operationId
  makeEvidenceRoot
  call .ensureEvidenceRoot
  call .workerState
  let before ← credentialMetadata
  demand (before = none) "WORKER_CREDENTIAL_ALREADY_EXISTS"
  let token ← assertCurrentTypedAuthority req.changeId req.operationId
  exclusiveJson (credentialPath req .prepared) (identity ++
    [("phase", .str "PREPARED"), ("w08_fence", .int token), ("before", metadataJson none)])
  let _ ← assertCurrentTypedAuthority req.changeId req.operationId
  let secret ← call .newSecret
  match ← (writeSecret policy req secret).attempt with
  | .ok _ => do
    let metadata ← credentialMetadata
    exclusiveJson (credentialPath req .effect)
      (identity ++ [("phase", .str "EFFECT"), metadataField metadata])
    pure (.metadata metadata)
  | .error _ =>
    fail (.raised (typedError "WORKER_CREDENTIAL_EFFECT_RECONCILIATION_REQUIRED"))

/-- The readback as a dictionary. -/
def readbackField : WorkerValue → String × Json
  | .metadata m => metadataField m
  | .status s => ("metadata", .str s.text)

/-- mirrors src/adcp/cleaner_worker_control.py:418-423 (`persist`) -/
def persist (req : WorkerRequest) (identity : List (String × Json))
    (items : List (EffectEvidence WorkerValue WorkerValue)) : WorkerScript Unit := do
  let _ ← assertCurrentTypedAuthority req.changeId req.operationId
  match items with
  | [item] => do
    demand (item.effectResult = item.readback) "WORKER_CREDENTIAL_READBACK_DRIFT"
    exclusiveJson (credentialPath req .final)
      (identity ++ [("phase", .str "FINAL"), readbackField item.readback])
  | _ => fail (.raised (typedError "WORKER_CREDENTIAL_READBACK_DRIFT"))

def step (policy : WorkerPolicy) (req : WorkerRequest) (identity : List (String × Json)) :
    DeploymentStep WorkerAnswer WorkerValue WorkerValue where
  name := "CREATE_EXACT_WORKER_PROTECTED_CREDENTIAL"
  effect := effect policy req identity
  readback _ := do
    let metadata ← credentialMetadata
    pure (.metadata metadata)

end Create

def deploymentOf (req : WorkerRequest) (deploymentId : String) : Deployment where
  changeId := req.changeId
  deploymentId := deploymentId
  controlDecisionRef := some req.controlDecisionRef
  startHeartbeat := true
  boundedAcquireWait := false

/-- mirrors src/adcp/cleaner_worker_control.py:357-429 (`_create_worker_credential`) -/
def createCredential (policy : WorkerPolicy) (req : WorkerRequest) (authority : WorkerAuthority) :
    WorkerScript (List (EffectEvidence WorkerValue WorkerValue)) := do
  let version ← call .schemaVersion
  demand (version = some 10) "POSTGRES_WORKER_REQUIRES_SCHEMA10"
  call .validateSchema
  call .ensureSecretDirectory
  if ← call .rootThere then call .ensureEvidenceRoot
  let identity := evidenceIdentity req authority
  let status ← readReconciliation policy req identity
  demand (status.text = "PRISTINE") "WORKER_CREDENTIAL_EXISTING_STATE_RECONCILIATION_REQUIRED"
  runControlledDeployment (deploymentOf req req.operationId) [Create.step policy req identity]
    (Create.persist req identity)

/-- mirrors src/adcp/cleaner_worker_control.py:432-441 -/
def createWorkerCredential (policy : WorkerPolicy) (req : WorkerRequest) : WorkerScript Unit := do
  let authority ← call (.approve req)
  call .validatePolicy
  call .openStore
  ensuring (do
    let _ ← createCredential policy req authority
    pure ()) (call .closeStore)

namespace Reconcile

/-- The deterministic attempt that completes a receipt. -/
def attemptId (req : WorkerRequest) : String := req.operationId ++ ":FINAL_RECONCILIATION:V1"

def requireSame (current status : CredentialStatus) : WorkerScript Unit :=
  demand (current = status) "WORKER_CREDENTIAL_RECONCILIATION_READBACK_DRIFT"

/-- mirrors src/adcp/cleaner_worker_control.py:468-473 (`effect`) -/
def effect (policy : WorkerPolicy) (req : WorkerRequest) (identity : List (String × Json))
    (status : CredentialStatus) : WorkerScript WorkerValue := do
  let _ ← assertCurrentTypedAuthority req.changeId (attemptId req)
  let current ← readReconciliation policy req identity
  requireSame current status
  pure (.status current)

/-- mirrors src/adcp/cleaner_worker_control.py:474-480 (`persist`) -/
def persist (req : WorkerRequest) (identity : List (String × Json)) (status : CredentialStatus)
    (metadata : Option FileInfo) (items : List (EffectEvidence WorkerValue WorkerValue)) :
    WorkerScript Unit := do
  let _ ← assertCurrentTypedAuthority req.changeId (attemptId req)
  match items with
  | [item] => do
    demand (item.readback = .status status) "WORKER_CREDENTIAL_RECONCILIATION_READBACK_DRIFT"
    exclusiveJson (credentialPath req .final) (identity ++ [("phase", .str "FINAL"),
      Create.metadataField metadata, ("reconciliation_attempt", .str (attemptId req))])
  | _ => fail (.raised (typedError "WORKER_CREDENTIAL_RECONCILIATION_READBACK_DRIFT"))

def step (policy : WorkerPolicy) (req : WorkerRequest) (identity : List (String × Json))
    (status : CredentialStatus) : DeploymentStep WorkerAnswer WorkerValue WorkerValue where
  name := "RECONCILE_EXACT_WORKER_CREDENTIAL_FINAL"
  effect := effect policy req identity status
  readback _ := do
    let current ← readReconciliation policy req identity
    pure (.status current)

/-- What follows a missing final evidence. -/
def settle (policy : WorkerPolicy) (req : WorkerRequest) (identity : List (String × Json))
    (status : CredentialStatus) (metadata : Option FileInfo) : WorkerScript CredentialStatus := do
  call .openStore
  ensuring (do
    let _ ← runControlledDeployment (deploymentOf req (attemptId req))
      [step policy req identity status] (persist req identity status metadata)
    pure ()) (call .closeStore)
  readReconciliation policy req identity

end Reconcile

/-- mirrors src/adcp/cleaner_worker_control.py:444-486 -/
def reconcileWorkerCredential (policy : WorkerPolicy) (req : WorkerRequest) :
    WorkerScript CredentialStatus := do
  let authority ← call (.approve req)
  call .validatePolicy
  call .ensureEvidenceRoot
  let identity := evidenceIdentity req authority
  let status ← readReconciliation policy req identity
  match status with
  | .effectAppliedFinalMissing metadata => Reconcile.settle policy req identity status metadata
  | _ => pure status

namespace ReadOnly

def identityKeys : List String :=
  ["operation_id", "change_id", "control_decision_ref", "reference", "controller_commit",
    "controller_tree", "approval_evidence_sha256", "contract"]

/-- A lower-case hexadecimal text of a length. -/
def isHex (length : Nat) : Json → Bool
  | .str s => s.toList.length = length && s.toList.all fun c => "0123456789abcdef".toList.contains c
  | _ => false

/-- The identity that the first evidence was written with.
mirrors src/adcp/cleaner_worker_control.py:509-523 -/
def identityOf (req : WorkerRequest) (raw : List Char) : Except PyError (List (String × Json)) :=
  match Json.loads raw with
  | none => .error (typedError "WORKER_CREDENTIAL_EVIDENCE_IDENTITY_INVALID")
  | some document =>
    match identityKeys.mapM fun key => (document.get? key).map fun v => (key, v) with
    | none => .error (typedError "WORKER_CREDENTIAL_EVIDENCE_IDENTITY_INVALID")
    | some identity =>
      if holdsKey document "change_id" (.str req.changeId) &&
          holdsKey document "operation_id" (.str req.operationId) &&
          holdsKey document "reference" (.str workerCredential) &&
          holdsKey document "contract" (.str workerContract) &&
          isHex 40 ((document.get? "controller_commit").getD .null) &&
          isHex 40 ((document.get? "controller_tree").getD .null) &&
          isHex 64 ((document.get? "approval_evidence_sha256").getD .null) then .ok identity
      else .error (typedError "WORKER_CREDENTIAL_EVIDENCE_IDENTITY_INVALID")

end ReadOnly

/-- Without the two members that repeat the identity, and without the third, which grants
nothing.
mirrors src/adcp/cleaner_worker_control.py:489-526 -/
def readWorkerCredential (policy : WorkerPolicy) (req : WorkerRequest) :
    WorkerScript CredentialStatus := do
  call (.validateIdentifiers req)
  call .validatePolicy
  if ← call .rootThere then
    call .ensureEvidenceRoot
    let path := credentialPath req .prepared
    if ← call (.evidenceThere path) then
      let (uid, mode) ← call (.evidenceStat path)
      demand (uid = policy.ownerUid ∧ mode = 0o600) "WORKER_CREDENTIAL_EVIDENCE_METADATA_INVALID"
      let raw ← call (.readPinned path)
      let identity ← lift ((ReadOnly.identityOf req raw).mapError .raised)
      readReconciliation policy req identity
    else
      let metadata ← credentialMetadata
      pure (.noPreparedEvidence metadata.isSome)
  else
    let metadata ← credentialMetadata
    pure (if metadata.isSome then .unattributedFile else .pristine)

/-! ## The disk -/

structure Credential where
  content : List Char
  info : FileInfo
  deriving DecidableEq

/-- The evidence root, the files below it and the credential. -/
structure WorkerDisk where
  root : Bool
  evidence : EvidencePath → Option (List Char)
  credential : Option Credential

def WorkerDisk.pristine : WorkerDisk := ⟨false, fun _ => none, none⟩

def WorkerDisk.setEvidence (d : WorkerDisk) (p : EvidencePath) (text : List Char) : WorkerDisk :=
  { d with evidence := Function.update d.evidence p (some text) }

/-- Some of a text has been written to the file `p`, if it is there. -/
def PartWritten (d : WorkerDisk) (p : EvidencePath) (text : List Char) (d' : WorkerDisk) : Prop :=
  d' = d ∨ ((d.evidence p).isSome ∧ ∃ part, part <+: text ∧ d' = d.setEvidence p part)

/-- The credential has changed, if it is there. -/
def CredentialTouched (d d' : WorkerDisk) : Prop :=
  d' = d ∨ ∃ f f', d.credential = some f ∧ d' = { d with credential := some f' }

/-- What a call has done that has returned. -/
def DiskDone (d : WorkerDisk) : (c : WorkerCall) → WorkerAnswer c → WorkerDisk → Prop
  | .makeRoot, _, d' => d.root = false ∧ d' = { d with root := true }
  | .createEvidence p, _, d' => d.root = true ∧ d.evidence p = none ∧ d' = d.setEvidence p []
  | .writeEvidence p text, _, d' => PartWritten d p text d'
  | .flushEvidence p text, _, d' => (d.evidence p).isSome ∧ d' = d.setEvidence p text
  | .createCredential, _, d' =>
    d.credential = none ∧ ∃ info, d' = { d with credential := some ⟨[], info⟩ }
  | .writeCredential _, _, d' => CredentialTouched d d'
  | .flushCredential text, _, d' => ∃ f info, d.credential = some f ∧
      d' = { d with credential := some ⟨text, info⟩ }
  | .syncCredential, _, d' | .closeCredential, _, d' => CredentialTouched d d'
  | .rootThere, b, d' => b = d.root ∧ d' = d
  | .evidenceThere p, b, d' => b = (d.evidence p).isSome ∧ d' = d
  | .readPinned p, text, d' => d.evidence p = some text ∧ d' = d
  | .credentialThere, b, d' => b = d.credential.isSome ∧ d' = d
  | .credentialStat, info, d' => d.credential.map (·.info) = some info ∧ d' = d
  | _, _, d' => d' = d

/-- What a call may have done that has raised. -/
def DiskTried (d : WorkerDisk) : WorkerCall → WorkerDisk → Prop
  | .makeRoot, d' => d' = d ∨ (d.root = false ∧ d' = { d with root := true })
  | .createEvidence p, d' =>
    d' = d ∨ (d.root = true ∧ d.evidence p = none ∧ d' = d.setEvidence p [])
  | .writeEvidence p text, d' | .flushEvidence p text, d' => PartWritten d p text d'
  | .createCredential, d' =>
    d' = d ∨ (d.credential = none ∧ ∃ info, d' = { d with credential := some ⟨[], info⟩ })
  | .writeCredential _, d' | .flushCredential _, d' | .syncCredential, d' | .closeCredential, d' =>
    CredentialTouched d d'
  | _, d' => d' = d

/-- The runner's calls, and any call that has no part in it, leave the disk as it is. -/
def WorkerServes (d : WorkerDisk) : (c : ControlCall WorkerCall) →
    Except WorkerError (WorkerControlAnswer c) → WorkerDisk → Prop
  | .user c, .ok a, d' => DiskDone d c a d'
  | .user c, .error _, d' => DiskTried d c d'
  | _, _, d' => d' = d

/-! ## Calls one after the other -/

/-- A call of one of the three programs. -/
inductive WorkerEntry where
  | create (req : WorkerRequest)
  | reconcile (req : WorkerRequest)
  | read (req : WorkerRequest)

abbrev WorkerEvent : Type := Event WorkerDisk WorkerError WorkerControlAnswer

/-- The program of a call, with the status it reports, if any. -/
def WorkerEntry.program (policy : WorkerPolicy) :
    WorkerEntry → WorkerScript (Option CredentialStatus)
  | .create req => do
    createWorkerCredential policy req
    pure none
  | .reconcile req => do
    let status ← reconcileWorkerCredential policy req
    pure (some status)
  | .read req => do
    let status ← readWorkerCredential policy req
    pure (some status)

/-- Any number of calls one after the other, each run to its end or cut short by a crash behind
any of its file operations, with what each has called. -/
inductive Sessions (policy : WorkerPolicy) (d₀ : WorkerDisk) :
    List (List WorkerEvent) → WorkerDisk → Prop
  | start : Sessions policy d₀ [] d₀
  | call {history : List (List WorkerEvent)} {d d' : WorkerDisk} {log : List WorkerEvent}
      {p : WorkerScript (Option CredentialStatus)} (before : Sessions policy d₀ history d)
      (entry : WorkerEntry)
      (run : Steps (traced WorkerServes) (entry.program policy) (d, []) p (d', log)) :
      Sessions policy d₀ (history ++ [log]) d'

end Adcp.L5.Worker
