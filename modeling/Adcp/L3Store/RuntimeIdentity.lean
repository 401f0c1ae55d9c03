import Adcp.L1Base.AsciiRecord
import Adcp.L3Store.Datetimes
/-!
# The identity of a running process

A service records which build it runs, in a file, and production names the build it authorizes, in
another. A new mutation needs both files, and the process that asks must be the one that recorded.

* `RuntimeIdentity`, `validateRuntime`: a record, and the values that make one.
* `parseCanonicalTimestamp`: the one text of an instant.
* `captureRuntimeIdentity`, `writeRuntimeIdentity`, `readRuntimeIdentity`: what a process records.
* `authorizeNewMutation`: the gate.
-/
namespace Adcp.L3.Identity

open Adcp.L1 Adcp.L2 PyText

/-- `RuntimeIdentityError`, and the errors that no handler of the module expects. -/
inductive IdentityFault where
  | identity (code detail : String)
  | value
  | overflow
  deriving DecidableEq

abbrev Checked : Type → Type := Except IdentityFault

def invalid (field : String) : IdentityFault := .identity "RUNTIME_IDENTITY_INVALID" field
def unknown (detail : String) : IdentityFault := .identity "RUNTIME_IDENTITY_UNKNOWN" detail
def stale (detail : String) : IdentityFault := .identity "RUNTIME_IDENTITY_STALE" detail

def guarded (c : Bool) (fault : IdentityFault) : Checked Unit :=
  if c then pure () else throw fault

/-- What the module uses of Python: `datetime.fromisoformat`, `none` for a `ValueError`, and whether
the float that a literal denotes is this integer. -/
structure Python where
  fromisoformat : PyText → Option Datetime
  floatIs : PyText → Int → Bool

/-- A time with the offset `+00:00`. -/
def utc (t : Timestamp) : Datetime where
  wall := t
  utcoffset := some 0
  bound := by
    rintro _ ⟨⟩
    decide

/-- "Inverse of `isoformat`." -/
def Python.Documented (py : Python) : Prop :=
  ∀ t : Timestamp, py.fromisoformat (ofString t.text) = some (utc t)

/-! ## Fields -/

/-- `c.isspace()` -/
def isSpace (c : CodePoint) : Bool :=
  c.val ∈ [9, 10, 11, 12, 13, 28, 29, 30, 31, 32, 133, 160, 5760, 8192, 8193, 8194, 8195, 8196,
    8197, 8198, 8199, 8200, 8201, 8202, 8232, 8233, 8239, 8287, 12288]

/-- `text.strip()` -/
def strip (t : PyText) : PyText := ((t.dropWhile isSpace).reverse.dropWhile isSpace).reverse

def isDigit (c : CodePoint) : Bool := 48 ≤ c.val && c.val ≤ 57

def isLowerHex (c : CodePoint) : Bool := isDigit c || (97 ≤ c.val && c.val ≤ 102)

def isAlphanumeric (c : CodePoint) : Bool :=
  isDigit c || (65 ≤ c.val && c.val ≤ 90) || (97 ≤ c.val && c.val ≤ 122)

/-- `[0-9a-f]{n}` -/
def isHex (n : Nat) (t : PyText) : Bool := t.length = n && t.all isLowerHex

/-- mirrors runtime_identity.py:117-120 -/
def requireText (value : PyJson) (field : String) : Checked PyText :=
  match value with
  | .str t => if strip t = [] ∨ t ≠ strip t then .error (invalid field) else .ok t
  | _ => .error (invalid field)

/-- mirrors runtime_identity.py:123-126 -/
def requirePid (value : PyJson) : Checked Int :=
  match value with
  | .int n => if 0 < n then .ok n else .error (invalid "pid")
  | _ => .error (invalid "pid")

/-- mirrors runtime_identity.py:129-133 -/
def requireCommit (value : PyJson) (field : String) : Checked PyText := do
  let t ← requireText value field
  guarded (isHex 40 t) (invalid field)
  pure t

/-- mirrors runtime_identity.py:136-144 -/
def requireArtifactIdentity (value : PyJson) (field : String) : Checked PyText := do
  let t ← requireText value field
  guarded ((ofString "source-commit:").isPrefixOf t && isHex 40 (t.drop 14) ||
    (ofString "sha256:").isPrefixOf t && isHex 64 (t.drop 7) ||
    (ofString "wheel-sha256:").isPrefixOf t && isHex 64 (t.drop 13)) (invalid field)
  pure t

/-- mirrors runtime_identity.py:147-160 -/
def parseCanonicalTimestamp (py : Python) (value : PyJson) (field : String) :
    Checked Timestamp := do
  let text ← requireText value field
  guarded ((ofString "+00:00").isSuffixOf text) (invalid field)
  match py.fromisoformat text with
  | none => throw (invalid field)
  | some parsed =>
    match parsed.utcoffset with
    | none => throw (invalid field)
    | some offset =>
      match Datetime.astimezone parsed.wall offset with
      | .error _ => throw .overflow
      | .ok t =>
        guarded (text = ofString t.text) (invalid field)
        pure t

/-- mirrors runtime_identity.py:163-166 -/
def timestamp (value : Datetime) : Checked PyText :=
  match value.utcoffset with
  | none => .error (invalid "naive datetime")
  | some offset =>
    match Datetime.astimezone value.wall offset with
    | .error _ => .error .overflow
    | .ok t => .ok (ofString t.text)

/-- What is behind a literal text. -/
def after (literal : String) (t : PyText) : Option PyText :=
  if (ofString literal).isPrefixOf t then some (t.drop (ofString literal).length) else none

/-- `([0-9a-f]{n})` and what is behind it. -/
def hexes (n : Nat) (t : PyText) : Option (PyText × PyText) :=
  if isHex n (t.take n) then some (t.take n, t.drop n) else none

/-- `([0-9a-f]{12})\|source=([0-9a-f]{40})\|artifact=(.+)$` -/
def buildTail (t : PyText) : Option (PyText × PyText × PyText) := do
  let (pre, t) ← hexes 12 t
  let t ← after "|source=" t
  let (commit, t) ← hexes 40 t
  let artifact ← after "|artifact=" t
  if artifact = [] ∨ ofChar '\n' ∈ artifact then none else some (pre, commit, artifact)

/-- `[0-9]+\.[0-9]+\.[0-9]+` -/
def isVersion (t : PyText) : Bool :=
  (t.splitOn (ofChar '.')).length = 3 &&
    (t.splitOn (ofChar '.')).all fun part => part ≠ [] && part.all isDigit

/-- `_CLIENT_BUILD.fullmatch(value)`: version, prefix, commit and artifact. -/
def matchClientBuild (t : PyText) : Option (PyText × PyText × PyText × PyText) := do
  let t ← after "adcp-global-writer-client@" t
  let version := t.takeWhile fun c => isDigit c || c = ofChar '.'
  if isVersion version then
    let t ← after "+g" (t.drop version.length)
    let (pre, commit, artifact) ← buildTail t
    some (version, pre, commit, artifact)
  else none

def isNameChar (c : CodePoint) : Bool :=
  isAlphanumeric c || c = ofChar '.' || c = ofChar '_' || c = ofChar '-'

/-- `_PRODUCT_NAME.fullmatch(value)` -/
def isProductName : PyText → Bool
  | [] => false
  | c :: t => isAlphanumeric c && t.length ≤ 127 && t.all isNameChar

/-- `_PRODUCT_BUILD.fullmatch(value)`: name, prefix, commit and artifact. -/
def matchProductBuild (t : PyText) : Option (PyText × PyText × PyText × PyText) := do
  let t ← after "product:" t
  let name := t.takeWhile isNameChar
  if isProductName name then
    let t ← after "@g" (t.drop name.length)
    let (pre, commit, artifact) ← buildTail t
    some (name, pre, commit, artifact)
  else none

/-- mirrors runtime_identity.py:169-182 -/
def requireClientBuild (value : PyJson) : Checked PyText := do
  let t ← requireText value "global_writer_client_build"
  match matchClientBuild t with
  | none => throw (invalid "global_writer_client_build")
  | some (version, pre, commit, artifact) =>
    let artifact ← requireArtifactIdentity (.str artifact) "global_writer_client_build.artifact"
    guarded (pre = commit.take 12) (invalid "global_writer_client_build.prefix")
    guarded (!((ofString "source-commit:").isPrefixOf artifact) || artifact.drop 14 = commit)
      (invalid "global_writer_client_build.artifact")
    guarded (version ≠ []) (invalid "global_writer_client_build.version")
    pure t

/-- mirrors runtime_identity.py:185-195 -/
def requireProductBuild (value : PyJson) (commit artifact : PyText) : Checked PyText := do
  let t ← requireText value "product_build_identity"
  match matchProductBuild t with
  | none => throw (invalid "product_build_identity")
  | some (name, pre, embeddedCommit, embeddedArtifact) =>
    guarded (isProductName name) (invalid "product_build_identity.product")
    let embedded ← requireArtifactIdentity (.str embeddedArtifact) "product_build_identity.artifact"
    guarded (pre = embeddedCommit.take 12 && embeddedCommit = commit && embedded = artifact)
      (invalid "product_build_identity.binding")
    pure t

/-- mirrors runtime_identity.py:371-375 -/
def requireIncarnation (value : PyJson) (field : String) : Checked PyText := do
  let t ← requireText value field
  guarded (isHex 64 t) (invalid field)
  pure t

/-! ## Identities -/

/-- The dataclass with whatever values; its annotations are not enforced.
mirrors runtime_identity.py:80-96 -/
structure RawIdentity where
  serviceCode : PyJson
  pid : PyJson
  processStartedAt : PyJson
  processIncarnationId : PyJson
  productBuildCommit : PyJson
  productBuildIdentity : PyJson
  globalWriterClientBuild : PyJson
  interpreterOrExecutable : PyJson
  sourceRootOrArtifactIdentity : PyJson
  identityGeneratedAt : PyJson
  configArtifactIdentity : PyJson
  schemaVersion : PyJson

/-- A validated identity. -/
structure RuntimeIdentity where
  serviceCode : PyText
  pid : Int
  processStartedAt : Timestamp
  processIncarnationId : PyText
  productBuildCommit : PyText
  productBuildIdentity : PyText
  globalWriterClientBuild : PyText
  interpreterOrExecutable : PyText
  sourceRootOrArtifactIdentity : PyText
  identityGeneratedAt : Timestamp
  configArtifactIdentity : Option PyText
  schemaVersion : PyJson

/-- mirrors runtime_identity.py:99-111 -/
structure RawAuthorized where
  serviceCode : PyJson
  productBuildCommit : PyJson
  productBuildIdentity : PyJson
  globalWriterClientBuild : PyJson
  sourceRootOrArtifactIdentity : PyJson
  configArtifactIdentity : PyJson
  authorizedAt : PyJson
  schemaVersion : PyJson

structure AuthorizedIdentity where
  serviceCode : PyText
  productBuildCommit : PyText
  productBuildIdentity : PyText
  globalWriterClientBuild : PyText
  sourceRootOrArtifactIdentity : PyText
  configArtifactIdentity : Option PyText
  authorizedAt : Option Timestamp
  schemaVersion : PyJson

/-- `value == n` -/
def isVersionNumber (py : Python) (value : PyJson) (n : Int) : Bool :=
  match value with
  | .int m => m = n
  | .bool b => (if b then 1 else 0) = n
  | .float t => py.floatIs t n
  | _ => false

/-- `None if value is None else check(value)` -/
def optional {α : Type} (check : PyJson → Checked α) : PyJson → Checked (Option α)
  | .null => pure none
  | value => some <$> check value

/-- mirrors runtime_identity.py:506-525 -/
def validateRuntime (py : Python) (raw : RawIdentity) : Checked RuntimeIdentity := do
  guarded (isVersionNumber py raw.schemaVersion 3) (invalid "runtime identity schema")
  let serviceCode ← requireText raw.serviceCode "service_code"
  let pid ← requirePid raw.pid
  let started ← parseCanonicalTimestamp py raw.processStartedAt "process_started_at"
  let incarnation ← requireIncarnation raw.processIncarnationId "process_incarnation_id"
  let generated ← parseCanonicalTimestamp py raw.identityGeneratedAt "identity_generated_at"
  guarded (!(generated < started)) (invalid "identity generated before process start")
  let commit ← requireCommit raw.productBuildCommit "product_build_commit"
  let artifact ← requireArtifactIdentity raw.sourceRootOrArtifactIdentity
    "source_root_or_artifact_identity"
  let product ← requireProductBuild raw.productBuildIdentity commit artifact
  let client ← requireClientBuild raw.globalWriterClientBuild
  let interpreter ← requireText raw.interpreterOrExecutable "interpreter_or_executable"
  let config ← optional (requireArtifactIdentity · "config_artifact_identity")
    raw.configArtifactIdentity
  pure { serviceCode := serviceCode, pid := pid, processStartedAt := started
         processIncarnationId := incarnation, productBuildCommit := commit
         productBuildIdentity := product, globalWriterClientBuild := client
         interpreterOrExecutable := interpreter, sourceRootOrArtifactIdentity := artifact
         identityGeneratedAt := generated, configArtifactIdentity := config
         schemaVersion := raw.schemaVersion }

/-- mirrors runtime_identity.py:528-541 -/
def validateAuthorized (py : Python) (raw : RawAuthorized) : Checked AuthorizedIdentity := do
  guarded (isVersionNumber py raw.schemaVersion 2) (invalid "authorized identity schema")
  let serviceCode ← requireText raw.serviceCode "service_code"
  let commit ← requireCommit raw.productBuildCommit "product_build_commit"
  let artifact ← requireArtifactIdentity raw.sourceRootOrArtifactIdentity
    "source_root_or_artifact_identity"
  let product ← requireProductBuild raw.productBuildIdentity commit artifact
  let client ← requireClientBuild raw.globalWriterClientBuild
  let config ← optional (requireArtifactIdentity · "config_artifact_identity")
    raw.configArtifactIdentity
  let authorizedAt ← optional (parseCanonicalTimestamp py · "authorized_at") raw.authorizedAt
  pure { serviceCode := serviceCode, productBuildCommit := commit, productBuildIdentity := product
         globalWriterClientBuild := client, sourceRootOrArtifactIdentity := artifact
         configArtifactIdentity := config, authorizedAt := authorizedAt
         schemaVersion := raw.schemaVersion }

/-! ## Files -/

/-- The two files, `none` for one that is missing and `some none` for one that cannot be decoded. -/
structure Files where
  runtime : Option (Option PyText)
  authorized : Option (Option PyText)

/-- `identity.as_dict()` -/
def RawIdentity.asDict (raw : RawIdentity) : List (PyText × PyJson) :=
  [(ofString "service_code", raw.serviceCode), (ofString "pid", raw.pid),
   (ofString "process_started_at", raw.processStartedAt),
   (ofString "process_incarnation_id", raw.processIncarnationId),
   (ofString "product_build_commit", raw.productBuildCommit),
   (ofString "product_build_identity", raw.productBuildIdentity),
   (ofString "global_writer_client_build", raw.globalWriterClientBuild),
   (ofString "interpreter_or_executable", raw.interpreterOrExecutable),
   (ofString "source_root_or_artifact_identity", raw.sourceRootOrArtifactIdentity),
   (ofString "identity_generated_at", raw.identityGeneratedAt),
   (ofString "config_artifact_identity", raw.configArtifactIdentity),
   (ofString "schema_version", raw.schemaVersion)]

def RawAuthorized.asDict (raw : RawAuthorized) : List (PyText × PyJson) :=
  [(ofString "service_code", raw.serviceCode),
   (ofString "product_build_commit", raw.productBuildCommit),
   (ofString "product_build_identity", raw.productBuildIdentity),
   (ofString "global_writer_client_build", raw.globalWriterClientBuild),
   (ofString "source_root_or_artifact_identity", raw.sourceRootOrArtifactIdentity),
   (ofString "config_artifact_identity", raw.configArtifactIdentity),
   (ofString "authorized_at", raw.authorizedAt), (ofString "schema_version", raw.schemaVersion)]

/-- `int.__repr__` writes it. -/
def isWritable : PyJson → Bool
  | .int n => decide (PyJson.IntWritable n)
  | _ => true

/-- The bytes of `_atomic_write_json`, which are ASCII.
mirrors runtime_identity.py:544-548 -/
def jsonText (payload : List (PyText × PyJson)) : Checked PyText :=
  if payload.all fun p => isWritable p.2 then
    .ok (ofChars (PyJson.dumps (.obj payload)) ++ ofChars ['\n'])
  else .error .value

/-- mirrors runtime_identity.py:610-618 -/
def readJson (content : Option (Option PyText)) (kind : String) :
    Checked (List (PyText × PyJson)) :=
  match content with
  | some (some text) =>
    match PyJson.loads text with
    | .error .invalid => .error (unknown (kind ++ " unreadable"))
    | .error .digits => .error .value
    | .ok (.obj fields) => .ok fields
    | .ok _ => .error (unknown (kind ++ " invalid"))
  | _ => .error (unknown (kind ++ " unreadable"))

/-- `payload[key]` -/
def need (fields : List (PyText × PyJson)) (key detail : String) : Checked PyJson :=
  match PyJson.lookupKey (ofString key) fields with
  | some v => .ok v
  | none => .error (unknown detail)

/-- `payload.get(key)` -/
def getOr (fields : List (PyText × PyJson)) (key : String) : PyJson :=
  (PyJson.lookupKey (ofString key) fields).getD .null

/-- `except RuntimeIdentityError as error`: the detail stays, the code is UNKNOWN. -/
def asUnknown : IdentityFault → IdentityFault
  | .identity _ detail => unknown detail
  | e => e

def RawIdentity.ofFields (fields : List (PyText × PyJson)) : Checked RawIdentity := do
  let missing := "runtime identity invalid"
  let serviceCode ← need fields "service_code" missing
  let pid ← need fields "pid" missing
  let started ← need fields "process_started_at" missing
  let incarnation ← need fields "process_incarnation_id" missing
  let commit ← need fields "product_build_commit" missing
  let product ← need fields "product_build_identity" missing
  let client ← need fields "global_writer_client_build" missing
  let interpreter ← need fields "interpreter_or_executable" missing
  let artifact ← need fields "source_root_or_artifact_identity" missing
  let generated ← need fields "identity_generated_at" missing
  let schema ← need fields "schema_version" missing
  pure { serviceCode := serviceCode, pid := pid, processStartedAt := started
         processIncarnationId := incarnation, productBuildCommit := commit
         productBuildIdentity := product, globalWriterClientBuild := client
         interpreterOrExecutable := interpreter, sourceRootOrArtifactIdentity := artifact
         identityGeneratedAt := generated
         configArtifactIdentity := getOr fields "config_artifact_identity"
         schemaVersion := schema }

def RawAuthorized.ofFields (fields : List (PyText × PyJson)) : Checked RawAuthorized := do
  let missing := "authorized identity invalid"
  let serviceCode ← need fields "service_code" missing
  let commit ← need fields "product_build_commit" missing
  let product ← need fields "product_build_identity" missing
  let client ← need fields "global_writer_client_build" missing
  let artifact ← need fields "source_root_or_artifact_identity" missing
  let schema ← need fields "schema_version" missing
  pure { serviceCode := serviceCode, productBuildCommit := commit, productBuildIdentity := product
         globalWriterClientBuild := client, sourceRootOrArtifactIdentity := artifact
         configArtifactIdentity := getOr fields "config_artifact_identity"
         authorizedAt := getOr fields "authorized_at", schemaVersion := schema }

/-- mirrors runtime_identity.py:621-642 -/
def readRuntimeIdentity (py : Python) (files : Files) : Checked RuntimeIdentity := do
  let payload ← readJson files.runtime "runtime identity"
  let raw ← RawIdentity.ofFields payload
  (validateRuntime py raw).mapError asUnknown

/-- mirrors runtime_identity.py:645-662 -/
def readAuthorizedIdentity (py : Python) (files : Files) : Checked AuthorizedIdentity := do
  let payload ← readJson files.authorized "authorized identity"
  let raw ← RawAuthorized.ofFields payload
  (validateAuthorized py raw).mapError asUnknown

/-- What a process may not change of its record. -/
structure Authority where
  serviceCode : PyText
  productBuildCommit : PyText
  productBuildIdentity : PyText
  globalWriterClientBuild : PyText
  sourceRootOrArtifactIdentity : PyText
  configArtifactIdentity : Option PyText
  deriving DecidableEq

/-- `_runtime_authority_tuple`; the schema versions of two valid identities are equal.
mirrors runtime_identity.py:567-576 -/
def RuntimeIdentity.authority (id : RuntimeIdentity) : Authority :=
  ⟨id.serviceCode, id.productBuildCommit, id.productBuildIdentity, id.globalWriterClientBuild,
    id.sourceRootOrArtifactIdentity, id.configArtifactIdentity⟩

/-- The answer of `write_runtime_identity` and the files behind it.
mirrors runtime_identity.py:579-595 -/
def writeRuntimeIdentity (py : Python) (files : Files) (raw : RawIdentity) :
    Checked Unit × Files :=
  match (validateRuntime py raw).mapError asUnknown with
  | .error e => (.error e, files)
  | .ok identity =>
    if files.runtime.isSome then
      match readRuntimeIdentity py files with
      | .error e => (.error e, files)
      | .ok existing =>
        if existing.pid = identity.pid ∧
            existing.processIncarnationId = identity.processIncarnationId then
          if existing.processStartedAt = identity.processStartedAt ∧
              existing.authority = identity.authority then (.ok (), files)
          else
            (.error (.identity "RUNTIME_IDENTITY_REBIND_FORBIDDEN"
              "same process cannot rebind build authority"), files)
        else store files raw
    else store files raw
where
  store (files : Files) (raw : RawIdentity) : Checked Unit × Files :=
    match jsonText raw.asDict with
    | .error e => (.error e, files)
    | .ok text => (.ok (), { files with runtime := some (some text) })

/-- mirrors runtime_identity.py:598-603 -/
def writeAuthorizedIdentity (py : Python) (files : Files) (raw : RawAuthorized) :
    Checked Unit × Files :=
  match (validateAuthorized py raw).mapError asUnknown with
  | .error e => (.error e, files)
  | .ok _ =>
    match jsonText raw.asDict with
    | .error e => (.error e, files)
    | .ok text => (.ok (), { files with authorized := some (some text) })

/-! ## A process -/

/-- mirrors runtime_identity.py:59-64 -/
structure ProductBuildIdentity where
  productName : PyText
  productBuildCommit : PyText
  productBuildIdentity : PyText
  sourceArtifactIdentity : PyText

/-- What `client_build_identity` tells of the installed client. -/
structure ClientBuild where
  packageName : PyText
  version : PyText
  buildId : PyText
  sourceCommit : PyText
  artifactIdentity : PyText

/-- mirrors runtime_identity.py:74-77 -/
structure ProcessAuthority where
  pid : PyJson
  processStartedAt : PyJson
  incarnationId : PyJson

/-- A process: `os.getpid()`, what its verifier says of it, and the builds it has loaded. -/
structure Process where
  pid : UInt32
  current : Checked ProcessAuthority
  product : ProductBuildIdentity
  client : ClientBuild
  executable : PyJson

/-- mirrors runtime_identity.py:430-438 -/
def installedClientBuild (c : ClientBuild) : Checked PyText := do
  let commit ← requireCommit (.str c.sourceCommit) "client source commit"
  let artifact ← requireArtifactIdentity (.str c.artifactIdentity) "client artifact identity"
  let expected := c.packageName ++ ofString "@" ++ c.version ++ ofString "+g" ++ commit.take 12
  guarded (c.packageName = ofString "adcp-global-writer-client" && c.buildId = expected)
    (unknown "client build metadata inconsistent")
  requireClientBuild (.str (c.buildId ++ ofString "|source=" ++ commit ++ ofString "|artifact=" ++
    artifact))

/-- mirrors runtime_identity.py:441-449 -/
def validateProductIdentity (p : ProductBuildIdentity) : Checked Unit := do
  let commit ← requireCommit (.str p.productBuildCommit) "product_build_commit"
  let artifact ← requireArtifactIdentity (.str p.sourceArtifactIdentity) "source_artifact_identity"
  let _ ← requireProductBuild (.str p.productBuildIdentity) commit artifact
  guarded (isProductName p.productName) (unknown "Product build identity product name")

/-- What a capture is asked for. -/
structure CaptureRequest where
  serviceCode : PyJson
  configArtifactIdentity : PyJson
  generatedAt : Datetime

/-- mirrors runtime_identity.py:452-488 -/
def captureRuntimeIdentity (py : Python) (p : Process) (q : CaptureRequest) :
    Checked RawIdentity := do
  let serviceCode ← requireText q.serviceCode "service_code"
  validateProductIdentity p.product
  let process ← p.current
  let pid ← requirePid process.pid
  guarded (pid = p.pid.toNat) (stale "process identity adapter is not current process")
  let startedAt ← parseCanonicalTimestamp py process.processStartedAt "process_started_at"
  let incarnation ← requireIncarnation process.incarnationId "process_incarnation_id"
  let generated ← timestamp q.generatedAt
  let generatedAt ← parseCanonicalTimestamp py (.str generated) "identity_generated_at"
  guarded (!(generatedAt < startedAt)) (invalid "identity generated before process start")
  let config ← optional (requireArtifactIdentity · "config_artifact_identity")
    q.configArtifactIdentity
  let client ← installedClientBuild p.client
  let interpreter ← requireText p.executable "interpreter_or_executable"
  pure { serviceCode := .str serviceCode, pid := .int pid
         processStartedAt := process.processStartedAt, processIncarnationId := .str incarnation
         productBuildCommit := .str p.product.productBuildCommit
         productBuildIdentity := .str p.product.productBuildIdentity
         globalWriterClientBuild := .str client, interpreterOrExecutable := .str interpreter
         sourceRootOrArtifactIdentity := .str p.product.sourceArtifactIdentity
         identityGeneratedAt := .str generated
         configArtifactIdentity := (config.map PyJson.str).getD .null, schemaVersion := .int 3 }

/-! ## The gate -/

inductive Comparison where
  | MATCH | MISMATCH | UNKNOWN
  deriving DecidableEq, Repr

/-- The fields that the two identities share. -/
def RuntimeIdentity.sameAs (loaded : RuntimeIdentity) (authorized : AuthorizedIdentity) : Prop :=
  loaded.serviceCode = authorized.serviceCode ∧
  loaded.productBuildCommit = authorized.productBuildCommit ∧
  loaded.productBuildIdentity = authorized.productBuildIdentity ∧
  loaded.globalWriterClientBuild = authorized.globalWriterClientBuild ∧
  loaded.sourceRootOrArtifactIdentity = authorized.sourceRootOrArtifactIdentity ∧
  loaded.configArtifactIdentity = authorized.configArtifactIdentity

instance (loaded : RuntimeIdentity) (authorized : AuthorizedIdentity) :
    Decidable (loaded.sameAs authorized) := inferInstanceAs (Decidable (_ ∧ _))

/-- `compare_runtime_identity` of identities that were read, and are therefore valid.
mirrors runtime_identity.py:665-679 -/
def compareRuntimeIdentity (loaded : RuntimeIdentity) (authorized : AuthorizedIdentity) :
    Comparison := if loaded.sameAs authorized then .MATCH else .MISMATCH

/-- `except RuntimeIdentityError … except Exception`: anything but a stale process is reported as
one. -/
def asStale : IdentityFault → IdentityFault
  | .identity code detail =>
    if code = "RUNTIME_IDENTITY_STALE" then .identity code detail
    else stale "current process identity unavailable"
  | _ => stale "current process identity unavailable"

/-- What the asking process is, as far as it can tell. -/
structure Current where
  pid : Int
  processStartedAt : Timestamp
  incarnationId : PyText

/-- mirrors runtime_identity.py:688-696 -/
def currentProcess (py : Python) (p : Process) : Checked Current := do
  let current ← p.current
  let pid ← requirePid current.pid
  guarded (pid = p.pid.toNat) (stale "process identity adapter is not current process")
  let startedAt ← parseCanonicalTimestamp py current.processStartedAt "actual_process_started_at"
  let incarnation ← requireIncarnation current.incarnationId "actual_process_incarnation_id"
  pure { pid := pid, processStartedAt := startedAt, incarnationId := incarnation }

/-- mirrors runtime_identity.py:682-715 -/
def authorizeNewMutation (py : Python) (files : Files) (p : Process) : Checked Comparison := do
  let loaded ← readRuntimeIdentity py files
  let authorized ← readAuthorizedIdentity py files
  let current ← (currentProcess py p).mapError asStale
  guarded (loaded.pid = current.pid) (stale "runtime identity belongs to a different live process")
  guarded (loaded.processIncarnationId = current.incarnationId)
    (stale "process incarnation mismatch")
  guarded (loaded.processStartedAt = current.processStartedAt)
    (stale "PID/process start mismatch")
  match compareRuntimeIdentity loaded authorized with
  | .MATCH => pure .MATCH
  | _ => throw (.identity "RUNTIME_IDENTITY_MISMATCH" "")

end Adcp.L3.Identity
