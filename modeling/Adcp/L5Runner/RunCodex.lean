import Adcp.L1Base.Sha256
import Adcp.L2Domain.CanonicalBytes
/-!
# After the Codex process has ended

`run_codex` starts the process, waits for it and then writes what it has left: the two streams, the
structured result and the metadata. Modelled is what follows the wait; the four files can be
written, and what is only known of the invocation is in `Invocation`.

* `parseEvents`, `threadIdFromEvents`, `validateSchema`: what the streams and the result are checked
  for.
* `readResult`: what stands under `try`, with the thread that is known when it ends.
* `runCodex`: the files that are written, and the result or the exception.
-/
namespace Adcp.L5.Runner

open Adcp.L1 Adcp.L2 PyText Canonical

abbrev Bytes : Type := List UInt8

/-! ## The interpreter -/

/-- What `json.loads` raises for bytes. -/
inductive ReadFault where
  | unicodeDecode
  | jsonDecode
  | value
  | recursion
  deriving DecidableEq

mutual

/-- How deep lists and dictionaries nest. -/
def depth : PyValue → Nat
  | .list items | .tuple items => itemsDepth items + 1
  | .dict items => fieldsDepth items + 1
  | _ => 0

def itemsDepth : List PyValue → Nat
  | [] => 0
  | v :: vs => max (depth v) (itemsDepth vs)

def fieldsDepth : List (PyValue × PyValue) → Nat
  | [] => 0
  | (_, v) :: rest => max (depth v) (fieldsDepth rest)

end

/-- `json.loads` on bytes, `==` and `repr` of a list of texts; `exhausts` are the values on which
`canonical_bytes` runs out of stack, before it raises anything else. -/
structure Interpreter where
  loads : Bytes → Except ReadFault PyValue
  equal : PyValue → PyValue → Bool
  reprTexts : List PyText → PyText
  exhausts : PyValue → Bool
  shallow : ∀ v, depth v ≤ 4 → exhausts v = false

/-! ## Errors and artifacts -/

/-- The files by their hashes. mirrors src/adcp/runner.py:166-171 -/
structure ArtifactSet where
  stdout : String
  stderr : String
  result : String
  metadata : String
  deriving DecidableEq, Repr

/-- mirrors src/adcp/runner.py:67-72 -/
structure RunnerError where
  code : String
  detail : PyText := []
  artifacts : Option ArtifactSet := none
  deriving DecidableEq

/-- `other` is any exception of the capture that is no `RunnerError`. -/
inductive RunFault where
  | runner (e : RunnerError)
  | read (f : ReadFault)
  | canonical (f : CanonicalFault)
  | recursion
  | assertion
  | other
  deriving DecidableEq

abbrev Run : Type → Type := Except RunFault

def raiseRunner {α : Type} (code : String) (detail : PyText := []) : Run α :=
  .error (.runner { code := code, detail := detail })

/-! ## Events -/

/-- `stdout.splitlines()`, behind the line that has begun. -/
def splitLinesFrom (line : Bytes) : Bytes → List Bytes
  | [] => if line = [] then [] else [line]
  | 13 :: 10 :: rest => line :: splitLinesFrom [] rest
  | c :: rest =>
    if c = 10 ∨ c = 13 then line :: splitLinesFrom [] rest else splitLinesFrom (line ++ [c]) rest

/-- `not raw_line.strip()` -/
def isBlankLine (line : Bytes) : Bool :=
  line.all fun c => c = 32 || (9 ≤ c && c ≤ 13)

/-- The lines with their numbers, without the blank ones. -/
def eventLines (stdout : Bytes) : List (Nat × Bytes) :=
  ((splitLinesFrom [] stdout).zipIdx 1).filterMap fun (line, n) =>
    if isBlankLine line then none else some (n, line)

variable (i : Interpreter)

/-- One line. -/
def parseEvent (n : Nat) (line : Bytes) : Run PyValue :=
  match i.loads line with
  | .error .unicodeDecode | .error .jsonDecode =>
    raiseRunner "INVALID_JSONL_EVENT" (ofString ("line " ++ toString n))
  | .error f => .error (.read f)
  | .ok (.dict items) => .ok (.dict items)
  | .ok _ => raiseRunner "INVALID_JSONL_EVENT"
      (ofString ("line " ++ toString n ++ " is not an object"))

/-- mirrors src/adcp/runner.py:250-265 -/
def parseEvents (stdout : Bytes) : Run (List PyValue) := do
  let events ← (eventLines stdout).mapM fun line => parseEvent i line.1 line.2
  if events = [] then raiseRunner "MISSING_JSONL_EVENTS" else pure events

def asciiLower (c : CodePoint) : Nat := if 65 ≤ c.val ∧ c.val ≤ 90 then c.val + 32 else c.val

/-- `str(event.get("type", "")).lower() == "thread.started"`. No value but a text has a `str` like
this, and no letter outside ASCII becomes one of these in lower case. -/
def isThreadStarted : PyValue → Bool
  | .str t => t.map asciiLower = (ofString "thread.started").map Fin.val
  | _ => false

/-- The thread an event names. -/
def startedThread : PyValue → Option PyText
  | .dict items =>
    if (PyValue.get? items (ofString "type")).any isThreadStarted then
      match PyValue.get? items (ofString "thread_id") with
      | some (.str t) => if t = [] then none else some t
      | _ => none
    else none
  | _ => none

/-- mirrors src/adcp/runner.py:268-282 -/
def threadIdFromEvents (events : List PyValue) (required : Bool) : Run (Option PyText) :=
  match (events.filterMap startedThread).dedup with
  | [thread] => pure (some thread)
  | [] => if required then raiseRunner "MISSING_CODEX_THREAD_ID" else pure none
  | _ => if required then raiseRunner "AMBIGUOUS_CODEX_THREAD_ID" else pure none

/-! ## Schemas -/

/-- An output schema: the keywords that the validator reads. A type that is no text stands as its
`str`. -/
inductive Schema where
  | mk (type : Option PyText) (properties : List (PyText × Schema)) (required : List PyText)
      (additionalProperties : Bool) (items : Option Schema) (enum : Option (List PyValue))

namespace Schema

def type : Schema → Option PyText
  | mk type _ _ _ _ _ => type

def properties : Schema → List (PyText × Schema)
  | mk _ properties _ _ _ _ => properties

def required : Schema → List PyText
  | mk _ _ required _ _ _ => required

def additionalProperties : Schema → Bool
  | mk _ _ _ additionalProperties _ _ => additionalProperties

def items : Schema → Option Schema
  | mk _ _ _ _ items _ => items

def enum : Schema → Option (List PyValue)
  | mk _ _ _ _ _ enum => enum

/-- `properties.get(name)` -/
def property (s : Schema) (name : PyText) : Option Schema :=
  (s.properties.find? fun p => p.1 = name).map Prod.snd

def hasType (s : Schema) (name : String) : Bool := s.type = some (ofString name)

end Schema

def mismatch (detail : PyText) : Run Unit :=
  raiseRunner "STRUCTURED_RESULT_SCHEMA_MISMATCH" detail

/-- The types that are supported, with their tests. -/
def typeNames : List (String × (PyValue → Bool)) := [
  ("object", fun v => match v with | .dict _ => true | _ => false),
  ("array", fun v => match v with | .list _ => true | _ => false),
  ("string", fun v => match v with | .str _ => true | _ => false),
  ("integer", fun v => match v with | .int _ => true | _ => false),
  ("boolean", fun v => match v with | .bool _ => true | _ => false),
  ("null", fun v => match v with | .none => true | _ => false)]

/-- The branch of the type. -/
def checkType (schema : Schema) (value : PyValue) (path : PyText) : Run Unit :=
  match schema.type with
  | none => pure ()
  | some type =>
    match typeNames.find? fun p => ofString p.1 = type with
    | some (name, test) =>
      if test value then pure () else mismatch (path ++ ofString (" " ++ name))
    | none => raiseRunner "UNSUPPORTED_OUTPUT_SCHEMA" type

/-- `set(value) - set(properties)` -/
def unexpectedKeys (schema : Schema) (items : PyValue.Items) : List PyText :=
  items.filterMap fun item => match item.1 with
    | .str name => if (schema.property name).isNone then some name else none
    | _ => none

/-- The keys of an object: those required are there, and no others if the schema is closed. -/
def checkKeys (schema : Schema) (items : PyValue.Items) (path : PyText) : Run Unit := do
  schema.required.forM fun name =>
    if PyValue.hasKey items name then pure ()
    else mismatch (path ++ ofString "." ++ name ++ ofString " required")
  if schema.additionalProperties = false ∧ unexpectedKeys schema items ≠ [] then
    mismatch (path ++ ofString " unexpected " ++
      i.reprTexts ((unexpectedKeys schema items).insertionSort fun a b => a ≤ b))
  else pure ()

def checkEnum (schema : Schema) (value : PyValue) (path : PyText) : Run Unit :=
  match schema.enum with
  | none => pure ()
  | some members =>
    if members.any fun m => i.equal value m then pure () else mismatch (path ++ ofString " enum")

mutual

/-- mirrors src/adcp/runner.py:399-440 -/
def validateSchema : PyValue → Schema → PyText → Run Unit
  | .dict items, schema, path => do
    checkType schema (.dict items) path
    (if schema.hasType "object" then do
        checkKeys i schema items path
        validateProperties items schema path
      else pure ())
    checkEnum i schema (.dict items) path
  | .list items, schema, path => do
    checkType schema (.list items) path
    (if schema.hasType "array" then validateItems items schema.items path 0 else pure ())
    checkEnum i schema (.list items) path
  | value, schema, path => do
    checkType schema value path
    checkEnum i schema value path

def validateProperties : List (PyValue × PyValue) → Schema → PyText → Run Unit
  | [], _, _ => pure ()
  | (key, item) :: rest, schema, path => do
    (match key with
      | .str name =>
        match schema.property name with
        | some s => validateSchema item s (keyPath path name)
        | none => pure ()
      | _ => pure ())
    validateProperties rest schema path

def validateItems : List PyValue → Option Schema → PyText → Nat → Run Unit
  | [], _, _, _ => pure ()
  | item :: rest, schema, path, index => do
    (match schema with
      | some s => validateSchema item s (indexPath path index)
      | none => pure ())
    validateItems rest schema path (index + 1)

end

/-! ## The run -/

/-- What the capture raises: a `RunnerError`, or anything else. -/
inductive CaptureFault where
  | runner (e : RunnerError)
  | other

/-- mirrors src/adcp/runner.py:174-181; the thread is the one that is asked for. -/
structure Rollout where
  sourcePath : PyText
  capturedPath : PyText
  sha256 : String
  size : UInt64
  mtimeNs : Int64
  mtimeUtc : String

/-- What is known of the invocation when the process has ended. -/
structure Invocation where
  command : List PyText
  cwd : PyText
  binary : PyText
  binaryVersion : Option String
  removedNames : List PyText
  sandbox : String
  ephemeral : Bool
  ignoreUserConfig : Bool
  ignoreRules : Bool
  model : Option PyText
  reasoningEffort : Option PyText
  startedAtNs : Int64
  endedAtNs : Int64
  outputSchema : Schema
  capture : Option (PyText → Except CaptureFault Rollout)

/-- What the process has left. -/
structure Child where
  stdout : Bytes
  stderr : Bytes
  rawFinal : Bytes
  exitCode : Int32
  timedOut : Bool

/-- The artifact directory; there is no file of these names before. -/
structure Files where
  stdout : Option Bytes := none
  stderr : Option Bytes := none
  result : Option Bytes := none
  metadata : Option Bytes := none
  deriving DecidableEq

/-- mirrors src/adcp/runner.py:184-194 -/
structure RunResult where
  command : List PyText
  events : List PyValue
  structuredResult : PyValue
  exitCode : Int32
  timedOut : Bool
  removedNames : List PyText
  artifacts : ArtifactSet
  threadId : Option PyText
  rollout : Option Rollout

/-- `canonical_bytes` -/
def canonicalBytes (v : PyValue) : Run Bytes :=
  if i.exhausts v then .error .recursion else (Canonical.canonicalBytes v).mapError .canonical

/-- A result that satisfies the schema, with its canonical bytes. -/
def sealResult (schema : Schema) (parsed : PyValue) : Run (PyValue × Bytes) := do
  validateSchema i parsed schema (ofString "$")
  let bytes ← canonicalBytes i parsed
  pure (parsed, bytes)

/-- The result, behind the events. -/
def readFinal (schema : Schema) (rawFinal : Bytes) : Run (PyValue × Bytes) :=
  if rawFinal = [] then raiseRunner "MISSING_STRUCTURED_RESULT"
  else
    match i.loads rawFinal with
    | .error f => .error (.read f)
    | .ok (.dict items) => sealResult i schema (.dict items)
    | .ok _ => raiseRunner "INVALID_STRUCTURED_RESULT" (ofString "object required")

/-- The variables that the `try` block assigns. -/
structure Reading where
  events : List PyValue
  canonicalResult : Bytes
  structured : Option PyValue
  parseError : Option RunnerError
  threadId : Option PyText

/-- The two `except` clauses. -/
def catchFault (rawFinal : Bytes) (threadId : Option PyText) : RunFault → Run Reading
  | .read .unicodeDecode | .read .jsonDecode =>
    .ok ⟨[], rawFinal, none, some { code := "INVALID_STRUCTURED_RESULT" }, threadId⟩
  | .runner e => .ok ⟨[], rawFinal, none, some e, threadId⟩
  | f => .error f

/-- mirrors src/adcp/runner.py:517-540 -/
def readResult (inv : Invocation) (child : Child) : Run Reading :=
  match parseEvents i child.stdout with
  | .error f => catchFault child.rawFinal none f
  | .ok events =>
    match threadIdFromEvents events inv.capture.isSome with
    | .error f => catchFault child.rawFinal none f
    | .ok thread =>
      match readFinal i inv.outputSchema child.rawFinal with
      | .error f => catchFault child.rawFinal thread f
      | .ok (structured, bytes) => .ok ⟨events, bytes, some structured, none, thread⟩

/-- mirrors src/adcp/runner.py:542-552 -/
def captureRollout (inv : Invocation) (thread : Option PyText) :
    Run (Option Rollout × Option RunnerError) :=
  match inv.capture, thread with
  | some capture, some thread =>
    match capture thread with
    | .ok rollout => .ok (some rollout, none)
    | .error (.runner e) => .ok (none, some e)
    | .error .other => .error .other
  | _, _ => .ok (none, none)

def object (fields : List (String × PyValue)) : PyValue :=
  .dict (fields.map fun p => (.str (ofString p.1), p.2))

def texts (ts : List PyText) : PyValue := .list (ts.map .str)

def optional : Option PyText → PyValue
  | none => .none
  | some t => .str t

/-- mirrors src/adcp/runner.py:555-565 -/
def rolloutValue (thread : Option PyText) : Option Rollout → PyValue
  | none => .none
  | some r => object [
    ("source_path", .str r.sourcePath),
    ("captured_path", .str r.capturedPath),
    ("sha256", .str (ofString r.sha256)),
    ("size", .int r.size.toNat),
    ("mtime_ns", .int r.mtimeNs.toInt),
    ("mtime_utc", .str (ofString r.mtimeUtc)),
    ("thread_id", optional thread)]

def executionConfig (inv : Invocation) : PyValue := object [
  ("approval_policy", .str (ofString "never")),
  ("sandbox", .str (ofString inv.sandbox)),
  ("ephemeral", .bool inv.ephemeral),
  ("ignore_user_config", .bool inv.ignoreUserConfig),
  ("ignore_rules", .bool inv.ignoreRules),
  ("model", optional inv.model),
  ("reasoning_effort", optional inv.reasoningEffort),
  ("features.code_mode", .bool false),
  ("unified_exec_override", .none)]

/-- mirrors src/adcp/runner.py:566-592 -/
def metadataValue (inv : Invocation) (child : Child) (thread : Option PyText) (result : Bytes)
    (rollout : Option Rollout) : PyValue := object [
  ("command", texts inv.command),
  ("cwd", .str inv.cwd),
  ("binary", .str inv.binary),
  ("binary_version", optional (inv.binaryVersion.map ofString)),
  ("exit_code", .int child.exitCode.toInt),
  ("timed_out", .bool child.timedOut),
  ("started_at_ns", .int inv.startedAtNs.toInt),
  ("ended_at_ns", .int inv.endedAtNs.toInt),
  ("thread_id", optional thread),
  ("removed_environment_names", texts inv.removedNames),
  ("stdout_sha256", .str (ofString (Sha256.hexdigest child.stdout))),
  ("stderr_sha256", .str (ofString (Sha256.hexdigest child.stderr))),
  ("result_sha256", .str (ofString (Sha256.hexdigest result))),
  ("evidence_capture", .bool inv.capture.isSome),
  ("effective_execution_config", executionConfig inv),
  ("rollout", rolloutValue thread rollout)]

/-- What is raised or returned when the files are written. mirrors src/adcp/runner.py:595-611 -/
def conclude (inv : Invocation) (child : Child) (reading : Reading) (rollout : Option Rollout)
    (evidenceError : Option RunnerError) (artifacts : ArtifactSet) : Run RunResult :=
  if child.timedOut then .error (.runner { code := "CODEX_TIMEOUT", artifacts := some artifacts })
  else if child.exitCode ≠ 0 then
    .error (.runner {
      code := "CODEX_NONZERO_EXIT"
      detail := ofString (toString child.exitCode.toInt)
      artifacts := some artifacts })
  else
    match reading.parseError, evidenceError, reading.structured with
    | some e, _, _ => .error (.runner { e with artifacts := some artifacts })
    | none, some e, _ => .error (.runner { e with artifacts := some artifacts })
    | none, none, none => .error .assertion
    | none, none, some structured => .ok {
      command := inv.command
      events := reading.events
      structuredResult := structured
      exitCode := child.exitCode
      timedOut := false
      removedNames := inv.removedNames
      artifacts := artifacts
      threadId := reading.threadId
      rollout := rollout }

/-- What follows the wait for the process. mirrors src/adcp/runner.py:506-611 -/
def runCodex (inv : Invocation) (child : Child) : Files × Run RunResult :=
  let files : Files := { stdout := some child.stdout, stderr := some child.stderr }
  match readResult i inv child with
  | .error f => (files, .error f)
  | .ok reading =>
    match captureRollout inv reading.threadId with
    | .error f => (files, .error f)
    | .ok (rollout, evidenceError) =>
      let files := { files with result := some reading.canonicalResult }
      let metadata := metadataValue inv child reading.threadId reading.canonicalResult rollout
      match canonicalBytes i metadata with
      | .error f => (files, .error f)
      | .ok bytes =>
        ({ files with metadata := some bytes },
          conclude inv child reading rollout evidenceError {
            stdout := Sha256.hexdigest child.stdout
            stderr := Sha256.hexdigest child.stderr
            result := Sha256.hexdigest reading.canonicalResult
            metadata := Sha256.hexdigest bytes })

/-! ## What a run leaves -/

/-- The type of a value, by its name in a schema. -/
def HasType (type : PyText) : PyValue → Prop
  | .dict _ => type = ofString "object"
  | .list _ => type = ofString "array"
  | .str _ => type = ofString "string"
  | .int _ => type = ofString "integer"
  | .bool _ => type = ofString "boolean"
  | .none => type = ofString "null"
  | _ => False

/-- The value is one that the schema describes. -/
inductive Satisfies : PyValue → Schema → Prop
  | intro {v : PyValue} {s : Schema}
      (type : ∀ t, s.type = some t → HasType t v)
      (required : ∀ fields, v = .dict fields → s.hasType "object" = true →
        ∀ name ∈ s.required, PyValue.hasKey fields name = true)
      (closed : ∀ fields, v = .dict fields → s.hasType "object" = true →
        s.additionalProperties = false → ∀ name item, (.str name, item) ∈ fields →
        (s.property name).isSome = true)
      (properties : ∀ fields name item p, v = .dict fields → s.hasType "object" = true →
        (.str name, item) ∈ fields → s.property name = some p → Satisfies item p)
      (items : ∀ vs item p, v = .list vs → s.hasType "array" = true → item ∈ vs →
        s.items = some p → Satisfies item p)
      (enum : ∀ members, s.enum = some members → ∃ m ∈ members, i.equal v m = true) :
      Satisfies v s

/-- All four files, with the hashes they have. -/
structure Complete (files : Files) (child : Child) (a : ArtifactSet) : Prop where
  stdout : files.stdout = some child.stdout ∧ a.stdout = Sha256.hexdigest child.stdout
  stderr : files.stderr = some child.stderr ∧ a.stderr = Sha256.hexdigest child.stderr
  result : ∃ bytes, files.result = some bytes ∧ a.result = Sha256.hexdigest bytes
  metadata : ∃ bytes, files.metadata = some bytes ∧ a.metadata = Sha256.hexdigest bytes

/-- A result that satisfies the schema and is sealed in its canonical form, or a `RunnerError` with
all the artifacts; nothing else is raised. -/
def Leaves (schema : Schema) (child : Child) : Files × Run RunResult → Prop
  | (files, .ok r) => Satisfies i r.structuredResult schema ∧
      (∃ bytes, canonicalBytes i r.structuredResult = .ok bytes ∧ files.result = some bytes) ∧
      Complete files child r.artifacts
  | (files, .error (.runner e)) => ∃ a, e.artifacts = some a ∧ Complete files child a
  | (_, .error _) => False

def Evidenced (inv : Invocation) (child : Child) : Prop :=
  Leaves i inv.outputSchema child (runCodex i inv child)

/-! ## When it does -/

/-- `json.loads` raises nothing but the two exceptions that are caught. -/
def Caught (r : Except ReadFault PyValue) : Prop := r ≠ .error .value ∧ r ≠ .error .recursion

/-- A line that is an event. -/
def IsEvent (line : Bytes) : Prop := ∃ items, i.loads line = .ok (.dict items)

/-- Every line that is reached, those before it being events. -/
def LinesContained : List (Nat × Bytes) → Prop
  | [] => True
  | (_, line) :: rest => Caught (i.loads line) ∧ (IsEvent i line → LinesContained rest)

/-- The final output is missing, or no document, or canonical where it satisfies the schema. -/
def FinalContained (schema : Schema) (rawFinal : Bytes) : Prop :=
  rawFinal = [] ∨ Caught (i.loads rawFinal) ∧ ∀ items, i.loads rawFinal = .ok (.dict items) →
    Satisfies i (.dict items) schema →
    Encodable (.dict items) ∧ i.exhausts (.dict items) = false

/-- The texts of the invocation that its metadata shows. -/
def Invocation.texts (inv : Invocation) : List PyText :=
  inv.command ++ inv.removedNames ++ [inv.cwd, inv.binary] ++ inv.model.toList ++
    inv.reasoningEffort.toList

/-- The thread's text can be written, and so can the paths of what is captured for it; the capture
raises nothing but a `RunnerError`. -/
def ThreadContained (inv : Invocation) (thread : PyText) : Prop :=
  Utf8 thread ∧ ∀ capture, inv.capture = some capture →
    match capture thread with
    | .ok rollout => Utf8 rollout.sourcePath ∧ Utf8 rollout.capturedPath
    | .error (.runner _) => True
    | .error .other => False

/-- What the streams, the final output and the capture must not be for a run to be evidenced. -/
structure Contained (inv : Invocation) (child : Child) : Prop where
  texts : ∀ t ∈ inv.texts, Utf8 t
  lines : LinesContained i (eventLines child.stdout)
  events : ∀ events thread, parseEvents i child.stdout = .ok events →
    threadIdFromEvents events inv.capture.isSome = .ok thread →
    (∀ t, thread = some t → ThreadContained inv t) ∧
      FinalContained i inv.outputSchema child.rawFinal

end Adcp.L5.Runner
