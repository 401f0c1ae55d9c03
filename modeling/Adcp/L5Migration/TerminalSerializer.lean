import Adcp.L5Migration.TerminalEvidence
/-!
# Writing the evidence of a failed transition

* `canonicalJson`, `terminalFallbackText`, `terminalLastResortText`,
  `emergencyTerminalDetailText`: the four writers.
* `Layers`: the writers and carriers as they are called, which may raise or return anything;
  `Layers.source` are the program's own.
* `serializeEvidencePayload`, `OperationalError.new`: the detail and the error.
* `surfaceProjectionRecovery`: the error of a failed recovery.
-/
namespace Adcp.L5.Migration.TerminalEvidence

open Adcp.L1 PyText
open PyValue (Items get? hasKey set)

/-! ## Canonical JSON -/

def keyError : Fault := builtinFault "TypeError" (ofString "keys must be texts")

mutual

/-- A value as JSON. It raises for what JSON has no form for, and for an integer that cannot be
written. -/
def toJson : PyValue → Try PyJson
  | .none => pure .null
  | .bool b => pure (.bool b)
  | .int n => do
    let _ ← intRepr n
    pure (.int n)
  | .float f => pure (.float (ofString f.json))
  | .str t => pure (.str t)
  | .list items | .tuple items => do
    let items ← toJsonItems items
    pure (.arr items)
  | .dict items => do
    let fields ← toJsonFields items
    pure (.obj fields)
  | .bytes _ => .error (builtinFault "TypeError"
      (ofString "Object of type bytes is not JSON serializable"))
  | .object name => .error (builtinFault "TypeError"
      (ofString "Object of type " ++ name ++ ofString " is not JSON serializable"))

def toJsonItems : List PyValue → Try (List PyJson)
  | [] => pure []
  | v :: vs => do
    let v ← toJson v
    let vs ← toJsonItems vs
    pure (v :: vs)

def toJsonFields : List (PyValue × PyValue) → Try (List (PyText × PyJson))
  | [] => pure []
  | (k, v) :: rest =>
    match k with
    | .str key => do
      let v ← toJson v
      let rest ← toJsonFields rest
      pure ((key, v) :: rest)
    | _ => .error keyError

end

/-- mirrors src/adcp/production_schema10_operational.py:752-753 (`_canonical_json`) -/
def canonicalJson (value : PyValue) : Try PyText := do
  let json ← toJson value
  pure (ofChars json.dumps)

/-! ## Lines -/

def joinLines : List PyText → PyText
  | [] => []
  | [line] => line
  | line :: rest => line ++ ofString "\n" ++ joinLines rest

def line (path value : PyText) : PyText := path ++ ofString "=" ++ value

/-- `sorted(dict.items(items))`, the keys being texts. -/
def sortedItems (items : Items) : Try (List (PyText × PyValue)) := do
  let keyed ← items.mapM fun (key, item) => match key with
    | .str t => pure (t, item)
    | _ => .error keyError
  pure (keyed.insertionSort fun a b => a.1 ≤ b.1)

/-- `_truncate_exact_text(_terminal_safe_scalar(value), 768)` -/
def identityText (value : PyValue) : Try PyText :=
  truncateExactText (terminalSafeScalar value) identityMaxBytes

/-- `value is not None and type(value) not in {dict, list}` -/
def isIdentityScalar : PyValue → Bool
  | .none | .dict _ | .list _ => false
  | _ => true

def reserveLines (snapshot : Items) : Try (List PyText) :=
  match get? snapshot terminalIdentityReserveKey with
  | some (.dict reserved) => do
    let sorted ← sortedItems reserved
    let lines ← sorted.mapM fun (path, value) => match value with
      | .str text => do
        let text ← truncateExactText text identityMaxBytes
        pure [line path text]
      | _ => pure []
    pure lines.flatten
  | _ => pure []

def identityContainers : List String :=
  ["original_operation_error", "outer_compensation_error", "unexpected_compensation_error",
    "terminal_recovery_builder_failure", "terminal_snapshot_failure", "terminal_attach_failure"]

/-- What is shown beside the reserve, with its paths. -/
def shownIdentity (snapshot : Items) : List (PyText × PyValue) :=
  ((itemsAt "$." (some (.dict snapshot))
      ["critical_error_identity", "writer_id", "required_reconciliation_action"] ++
    identityContainers.flatMap fun container =>
      itemsAt ("$." ++ container ++ ".") (get? snapshot (ofString container)) errorFields).filter
    fun item => isIdentityScalar item.2) ++
  (itemsAt "$.destination_state." (get? snapshot (ofString "destination_state"))
    ["replaced"]).filter fun item => match item.2 with
      | .none => false
      | _ => true

def maxIdentityLines : Nat := 32

/-- mirrors src/adcp/production_schema10_operational.py:1515-1552 (`_terminal_identity_lines`) -/
def terminalIdentityLines (snapshot : Items) : Try (List PyText) := do
  let reserved ← reserveLines snapshot
  let shown ← (shownIdentity snapshot).mapM fun (path, value) => do
    let text ← identityText value
    pure (line path text)
  pure ((reserved ++ shown).take maxIdentityLines)

def criticalKeys : List String :=
  ["exception_type", "code", "operation", "writer_id", "required_reconciliation_action",
    "destination_replaced", "restore_destination_replaced", "serialization_failure",
    "serialization_fallback_failure", "critical_error_identity"]

def isCritical (key : PyText) (item : PyValue) : Bool :=
  criticalKeys.any (fun k => ofString k = key) && match item with
    | .dict _ | .list _ => false
    | _ => true

def child (path key : PyText) : PyText := path ++ ofString "." ++ key

def element (path : PyText) (index : Nat) : PyText :=
  path ++ ofString "[" ++ ofString (toString index) ++ ofString "]"

def maxCriticalLines : Nat := 128

/-- The first argument is how many levels more are walked. -/
def criticalWalk : Nat → PyValue → PyText → List PyText → Try (List PyText)
  | 0, _, _, lines => pure lines
  | levels + 1, node, path, lines =>
    if maxCriticalLines ≤ lines.length then pure lines
    else match node with
      | .dict items => do
        let sorted ← sortedItems items
        sorted.foldlM (fun lines (key, item) => do
          let added ← if isCritical key item then do
              let text ← identityText item
              pure [line (child path key) text]
            else pure []
          criticalWalk levels item (child path key) (lines ++ added)) lines
      | .list items =>
        (items.take 32).zipIdx.foldlM (fun lines (item, index) =>
          criticalWalk levels item (element path index) lines) lines
      | _ => pure lines

/-- mirrors src/adcp/production_schema10_operational.py:1555-1593 (`_critical_terminal_lines`) -/
def criticalTerminalLines (snapshot : Items) : Try (List PyText) :=
  criticalWalk (terminalMaxDepth + 1) (.dict snapshot) (ofString "$") []

def textTruncationMarker : PyText := ofString "\n$.__truncated__=true"

/-- mirrors src/adcp/production_schema10_operational.py:1596-1609 (`_bounded_terminal_text`) -/
def boundedTerminalText (text : PyText) : Try PyText := do
  let safe := normalizeExactString text
  let encoded ← encodedUtf8 safe
  if utf8Length encoded ≤ terminalEvidenceMaxBytes then pure safe
  else do
    let marker ← encodedUtf8 textTruncationMarker
    let kept := takeBytes (terminalEvidenceMaxBytes - utf8Length marker) encoded
    contract textTruncationMarker terminalEvidenceMaxBytes kept.length kept

/-! ## The fallback writer -/

/-- The first argument is how many levels more are walked; `budget` is how many lines more are
written. -/
def fallbackWalk : Nat → PyValue → PyText → List PyText × Nat → Try (List PyText × Nat)
  | 0, _, path, (lines, budget) =>
    if budget = 0 then pure (lines, budget)
    else pure (lines ++ [line path (terminalTruncationMarker ++ ofString ":max-depth")], budget - 1)
  | levels + 1, node, path, (lines, budget) =>
    if budget = 0 then pure (lines, budget)
    else match node with
      | .dict items => do
        let sorted ← sortedItems items
        sorted.foldlM (fun s (key, item) => fallbackWalk levels item (child path key) s)
          (lines, budget)
      | .list items =>
        items.zipIdx.foldlM (fun s (item, index) =>
          fallbackWalk levels item (element path index) s) (lines, budget)
      | node => pure (lines ++ [line path (terminalSafeScalar node)], budget - 1)

/-- mirrors src/adcp/production_schema10_operational.py:1612-1656 (`_terminal_fallback_text`) -/
def terminalFallbackText (snapshot : Items) : Try PyText := do
  let identity ← terminalIdentityLines snapshot
  let critical ← criticalTerminalLines snapshot
  let seen := critical.foldl (fun seen l => if l ∈ seen then seen else seen ++ [l]) identity
  let (lines, budget) ← fallbackWalk (terminalMaxDepth + 1) (.dict snapshot) (ofString "$")
    (ofString "DL93_TERMINAL_EVIDENCE_V1" :: seen, terminalMaxNodes)
  let lines := if budget = 0 then lines ++ [ofString "$.__truncated_nodes__=true"] else lines
  boundedTerminalText (joinLines lines)

/-! ## The last resort -/

/-- mirrors src/adcp/production_schema10_operational.py:1659-1694 (`_terminal_last_resort_text`) -/
def terminalLastResortText (operation : PyText) (snapshot : Items) (failures : List Failure) :
    Try PyText := do
  let operation ← identityText (.str operation)
  let critical := match terminalIdentityLines snapshot with
    | .error _ => [ofString "critical_snapshot=<unavailable>"]
    | .ok identity => match criticalTerminalLines snapshot with
      | .error _ => identity ++ [ofString "critical_snapshot=<unavailable>"]
      | .ok critical => identity ++ critical.take 64
  let failed ← (failures.take 32).zipIdx.mapM fun (failure, index) => do
    let operation ← identityText (.str failure.operation)
    let exceptionType ← identityText (.str failure.exceptionType)
    let path := element (ofString "failure") index
    pure [line (child path (ofString "operation")) operation,
      line (child path (ofString "exception_type")) exceptionType]
  boundedTerminalText (joinLines (ofString "DL93_TERMINAL_LAST_RESORT_V1" ::
    (ofString "operation=" ++ operation) :: critical ++ failed.flatten))

/-! ## The emergency writer -/

def emergencyMarker : PyText := ofString "<DL93_EMERGENCY_TRUNCATED>"

/-- mirrors src/adcp/production_schema10_operational.py:780-792 (`_emergency_exact_text`) -/
def emergencyExactText (text : PyText) (maxBytes : Nat) : PyText :=
  let raw := backslashreplace text
  if maxBytes < utf8Length raw then
    let keep := maxBytes - utf8Length emergencyMarker
    takeBytes keep raw ++ takeBytes (maxBytes - keep) emergencyMarker
  else raw

/-- Items that are texts, each with its path. -/
def emergencyLines (items : List (PyText × PyValue)) : List PyText :=
  items.filterMap fun (path, value) => match value with
    | .str text => some (line path (emergencyExactText text identityMaxBytes))
    | _ => none

/-- mirrors src/adcp/production_schema10_operational.py:1176-1233
(`_emergency_terminal_detail_text`) -/
def emergencyTerminalDetailText (operation : PyText) (working : Items) (failures : List Failure) :
    PyText :=
  let reserve := match get? working terminalIdentityReserveKey with
    | some (.dict reserved) => emergencyLines (reserved.filterMap fun (key, value) => match key with
      | .str path => some (emergencyExactText path identityMaxBytes, value)
      | _ => none)
    | _ => []
  let identity := emergencyLines (itemsAt "$." (some (.dict working))
      ["critical_error_identity", "writer_id", "required_reconciliation_action"] ++
    identityContainers.flatMap fun container =>
      itemsAt ("$." ++ container ++ ".") (get? working (ofString container)) errorFields)
  let failed := (failures.take 64).zipIdx.map fun (failure, index) =>
    line (element (ofString "failure") index)
      (emergencyExactText failure.operation terminalMaxScalarBytes ++ ofString "/" ++
        emergencyExactText failure.exceptionType terminalMaxScalarBytes)
  emergencyExactText (joinLines (ofString "DL93_TERMINAL_EMERGENCY_DETAIL_V2" ::
    (ofString "operation=" ++ emergencyExactText operation identityMaxBytes) ::
      reserve ++ identity ++ failed)) terminalEvidenceMaxBytes

/-! ## Layers -/

/-- What is called on the way to a detail. A writer may raise, and return anything; a carrier is the
constructor of a class of details, which may raise. -/
structure Layers where
  canonicalJson : PyValue → Try PyValue
  fallbackText : Items → Try PyValue
  lastResortText : PyText → Items → List Failure → Try PyValue
  evidenceDetail : Try Unit
  terminalEvidenceFallback : Try Unit

/-- The program's own. -/
def Layers.source : Layers where
  canonicalJson value := PyValue.str <$> TerminalEvidence.canonicalJson value
  fallbackText snapshot := PyValue.str <$> terminalFallbackText snapshot
  lastResortText operation snapshot failures :=
    PyValue.str <$> terminalLastResortText operation snapshot failures
  evidenceDetail := pure ()
  terminalEvidenceFallback := pure ()

/-- The class of a detail. -/
inductive Carrier where
  | evidenceDetail
  | terminalEvidenceFallback
  | terminalEvidenceEmergency
  deriving DecidableEq, Repr

/-- mirrors src/adcp/production_schema10_operational.py:664-704 -/
structure Detail where
  carrier : Carrier
  text : PyText
  evidencePayload : PyValue
  serializationFailures : List Failure

/-- An exact text, or what stands for it. -/
def exactText (value : PyValue) (instead : String) : PyText :=
  match value with
  | .str t => t
  | _ => ofString instead

/-- `working["serialization_failures"]` with a failure more, `instead` where it is no list. -/
def appendFailure (working : Items) (failure : Failure) (instead : List Failure) : Items :=
  set working (ofString "serialization_failures")
    (match get? working (ofString "serialization_failures") with
      | some (.list existing) => .list (existing ++ [failure.toValue])
      | _ => failuresValue instead)

/-- The failure that is first stays. -/
def setFirst (working : Items) (key : String) (failure : Failure) : Items :=
  if hasKey working (ofString key) then working
  else set working (ofString key) failure.toValue

def firstFailureKey : String := "serialization_failure"

/-- mirrors src/adcp/production_schema10_operational.py:1258-1273
(`_make_terminal_emergency_detail`) -/
def makeTerminalEmergencyDetail (text : PyText) (working : Items) (failures : List Failure) :
    Detail :=
  ⟨.terminalEvidenceEmergency, emergencyExactText text terminalEvidenceMaxBytes, .dict working,
    failures⟩

/-- mirrors src/adcp/production_schema10_operational.py:1276-1320 (`_build_evidence_detail`) -/
def buildEvidenceDetail (layers : Layers) (text : PyValue) (working : Items)
    (failures : List Failure) : Try Detail := do
  let safeText ← boundedTerminalText (exactText text "<terminal-detail-invalid>")
  let safeFailures ← terminalFailureTuple (failuresValue failures)
  match layers.evidenceDetail with
  | .ok _ => pure ⟨.evidenceDetail, safeText, .dict working, safeFailures⟩
  | .error constructorError => do
    let failure ← safeFailurePayload (ofString "EVIDENCE_DETAIL_CONSTRUCTION") constructorError
    let merged := safeFailures ++ [failure]
    let working := appendFailure (setFirst working firstFailureKey failure) failure merged
    let fallbackText := match layers.lastResortText
      (ofString "EVIDENCE_DETAIL_CONSTRUCTION") working
        merged with
      | .ok text => exactText text "<terminal-detail-fallback>"
      | .error _ => ofString "DL93_TERMINAL_CARRIER_FALLBACK_V1"
    match layers.terminalEvidenceFallback with
    | .ok _ => pure ⟨.terminalEvidenceFallback, fallbackText, .dict working, merged⟩
    | .error carrierError =>
      let merged := merged ++ [⟨ofString "TERMINAL_FALLBACK_CONSTRUCTION", carrierError.typeName,
        ofString "fallback carrier construction failed"⟩]
      let working := setFirst (set working (ofString "serialization_failures")
        (failuresValue merged)) firstFailureKey failure
      pure (makeTerminalEmergencyDetail
        (emergencyTerminalDetailText (ofString "TERMINAL_FALLBACK_CONSTRUCTION") working merged)
        working merged)

/-! ## The serializer -/

/-- mirrors src/adcp/production_schema10_operational.py:1490-1512
(`_record_serialization_failure`) -/
def recordSerializationFailure (working : Items) (failures : List Failure) (failure : Failure)
    (fallback : Bool) : Try (Items × List Failure) := do
  let safe ← terminalPayloadDict failure.toValue
  let normalized := failureOf safe
  let working := setFirst (appendFailure working normalized [normalized]) firstFailureKey normalized
  pure (if fallback then setFirst working "serialization_fallback_failure" normalized else working,
    failures ++ [normalized])

/-- mirrors src/adcp/production_schema10_operational.py:1236-1255 (`_emergency_append_failure`) -/
def emergencyAppendFailure (working : Items) (failures : List Failure) (operation : PyText)
    (error : Fault) : Try (Items × List Failure) := do
  let text ← safeExceptionText error
  let failure : Failure :=
    ⟨operation, error.typeName, emergencyExactText text terminalMaxScalarBytes⟩
  let failures := failures ++ [failure]
  pure (setFirst (appendFailure working failure failures) firstFailureKey
    (failures.headD failure), failures)

/-- `item` once more only if it is not there. -/
def addNew {α : Type} [DecidableEq α] (all : List α) (item : α) : List α :=
  if item ∈ all then all else all ++ [item]

/-- The failures known before: those of the caller, and those the payload carries. -/
def priorFailures (working : Items) (prior : PyValue) : Try (List Failure) := do
  let failures ← terminalFailureTuple prior
  let existing ← terminalFailureTuple (match get? working (ofString "serialization_failures") with
    | some (.list existing) => .list existing
    | _ => .tuple [])
  let failures := existing.foldl addNew failures
  match get? working (ofString firstFailureKey) with
  | some (.dict first) => do
    let found ← terminalFailureTuple (.list [.dict first])
    pure (found.foldl addNew failures)
  | _ => pure failures

/-- The payload with the failures, and the failures. -/
def startSerialization (payload prior : PyValue) : Try (Items × List Failure) := do
  let working ← terminalPayloadDict payload
  let failures ← priorFailures working prior
  match failures with
  | [] => pure (working, [])
  | first :: _ =>
    pure (setFirst (set working (ofString "serialization_failures") (failuresValue failures))
      firstFailureKey first, failures)

def terminalTruncation (encoded : PyText) : PyValue :=
  .dict [(.str (ofString "reason"), .str (ofString "FINAL_ENCODED_BYTE_BUDGET")),
    (.str (ofString "canonical_encoded_bytes"), .int (utf8Length encoded)),
    (.str (ofString "max_bytes"), .int terminalEvidenceMaxBytes)]

/-- What the canonical writer gives: a detail, or the payload when its text is too long. -/
def tryCanonical (layers : Layers) (working : Items) (failures : List Failure) :
    Try (Detail ⊕ Items) := do
  match ← layers.canonicalJson (.dict working) with
  | .str text => do
    let encoded ← encodedUtf8 text
    if utf8Length encoded ≤ terminalEvidenceMaxBytes then
      Sum.inl <$> buildEvidenceDetail layers (.str text) working failures
    else
      pure (.inr (set working (ofString "terminal_truncation") (terminalTruncation encoded)))
  | _ => .error (builtinFault "TypeError"
      (ofString "canonical serializer returned non-builtin str"))

def tryFallback (layers : Layers) (working : Items) (failures : List Failure) : Try Detail := do
  match ← layers.fallbackText working with
  | .str text => do
    let bounded ← boundedTerminalText text
    let encoded ← encodedUtf8 bounded
    if terminalEvidenceMaxBytes < utf8Length encoded then
      .error (builtinFault "RuntimeError" (ofString "terminal fallback byte bound violated"))
    else buildEvidenceDetail layers (.str bounded) working failures
  | _ => .error (builtinFault "TypeError" (ofString "terminal fallback returned non-builtin str"))

/-- Behind the fallback writer. -/
def lastResort (layers : Layers) (operation : PyText) (working : Items)
    (failures : List Failure) : Try Detail :=
  match layers.lastResortText operation working failures with
  | .ok text => buildEvidenceDetail layers text working failures
  | .error error => do
    let (working, failures) ← emergencyAppendFailure working failures
      (operation ++ ofString "_TERMINAL_LAST_RESORT") error
    pure (makeTerminalEmergencyDetail (emergencyTerminalDetailText operation working failures)
      working failures)

/-- Behind the canonical writer. -/
def serializeFallback (layers : Layers) (operation : PyText) (working : Items)
    (failures : List Failure) : Try Detail :=
  match tryFallback layers working failures with
  | .ok detail => pure detail
  | .error error => do
    let failure ← safeFailurePayload (operation ++ ofString "_TERMINAL_FALLBACK") error
    let (working, failures) ← recordSerializationFailure working failures failure true
    lastResort layers operation working failures

/-- `operation if type(operation) is str else _terminal_safe_scalar(operation)` -/
def safeOperation : PyValue → PyText
  | .str t => t
  | value => terminalSafeScalar value

/-- mirrors src/adcp/production_schema10_operational.py:1697-1773 (`_serialize_evidence_payload`) -/
def serializeEvidencePayload (layers : Layers) (payload operation : PyValue) (forceFailsafe : Bool)
    (prior : PyValue) : Try Detail := do
  let (working, failures) ← startSerialization payload prior
  if forceFailsafe then serializeFallback layers (safeOperation operation) working failures
  else match tryCanonical layers working failures with
    | .ok (.inl detail) => pure detail
    | .ok (.inr working) => serializeFallback layers (safeOperation operation) working failures
    | .error error => do
      let failure ← safeFailurePayload (safeOperation operation) error
      let (working, failures) ← recordSerializationFailure working failures failure false
      serializeFallback layers (safeOperation operation) working failures

/-! ## The error -/

/-- What an error is constructed from: a detail as it was carried, an exact text, nothing, or another
object. -/
inductive DetailArgument where
  | carried (detail : Detail)
  | text (t : PyText)
  | absent
  | object (typeName : PyText) (rendered : Rendered)

/-- mirrors src/adcp/production_schema10_operational.py:1400-1418 (`_terminal_safe_detail_text`) -/
def terminalSafeDetailText : DetailArgument → Try PyText
  | .carried detail => truncateExactText detail.text terminalEvidenceMaxBytes
  | .text t => truncateExactText t terminalEvidenceMaxBytes
  | .absent => pure []
  | .object typeName (.raises failure) => pure (ofString "<detail-unavailable; detail_type=" ++
      typeName ++ ofString "; render_failure=" ++ failure ++ ofString ">")
  | .object typeName .invalid => pure (ofString "<detail-invalid:" ++ typeName ++ ofString ">")
  | .object _ (.text t) => truncateExactText t terminalEvidenceMaxBytes

structure Components where
  code : PyText
  detail : PyText
  message : PyText

/-- mirrors src/adcp/production_schema10_operational.py:1371-1397 (`_bounded_error_components`) -/
def boundedErrorComponents (code : PyValue) (detail : PyText) : Try Components := do
  let safeCode ← match code with
    | .str t => truncateExactText t terminalMaxScalarBytes
    | code => pure (terminalSafeScalar code)
  let safeDetail ← terminalSafeDetailText (.text detail)
  if safeDetail = [] then do
    let message ← truncateExactText safeCode terminalEvidenceMaxBytes
    pure ⟨safeCode, [], message⟩
  else do
    let start := safeCode ++ ofString ": "
    let encoded ← encodedUtf8 start
    if terminalEvidenceMaxBytes ≤ utf8Length encoded then do
      let boundedCode ← truncateExactText safeCode terminalEvidenceMaxBytes
      pure ⟨boundedCode, [], boundedCode⟩
    else do
      let boundedDetail ← truncateExactText safeDetail
        (terminalEvidenceMaxBytes - utf8Length encoded)
      let message := start ++ boundedDetail
      let encodedMessage ← encodedUtf8 message
      if terminalEvidenceMaxBytes < utf8Length encodedMessage then do
        let message ← boundedTerminalText message
        if start <+: message then pure ⟨safeCode, message.drop start.length, message⟩
        else pure ⟨message, [], message⟩
      else pure ⟨safeCode, boundedDetail, message⟩

/-- mirrors src/adcp/production_schema10_operational.py:158-226
(`ProductionSchema10OperationalError`) -/
structure OperationalError where
  code : PyText
  detail : PyText
  evidencePayload : Option PyValue
  serializationFailures : List Failure
  message : PyText

/-- What the constructor makes of its arguments, when nothing raises. -/
def errorParts (code : PyValue) (detail : DetailArgument) (evidencePayload : Option PyValue)
    (serializationFailures : PyValue) :
    Try (PyText × PyText × Option PyValue × List Failure) := do
  let safeCode := safeOperation code
  let (text, inheritedPayload, inheritedFailures) ← match detail with
    | .carried detail =>
      pure (detail.text, some detail.evidencePayload,
        (terminalFailureTuple (failuresValue detail.serializationFailures)).toOption.getD [])
    | detail => do
      let text ← terminalSafeDetailText detail
      pure (text, none, [])
  let safePayload ← (evidencePayload <|> inheritedPayload).mapM fun payload =>
    PyValue.dict <$> terminalPayloadDict payload
  let explicit ← terminalFailureTuple serializationFailures
  pure (safeCode, text, safePayload, if explicit = [] then inheritedFailures else explicit)

/-- The payload of an error whose arguments could not be taken. -/
def constructorFailure (error : Fault) : Try PyValue := do
  let text ← safeExceptionText error
  pure (.dict [(.str (ofString "terminal_error_constructor_failure"),
      .dict [(.str (ofString "exception_type"), .str error.typeName),
        (.str (ofString "detail"), .str text)]),
    (.str (ofString "terminal_error_constructor_contained"), .bool true)])

/-- mirrors src/adcp/production_schema10_operational.py:159-226 (`__init__`) -/
def OperationalError.new (code : PyValue) (detail : DetailArgument)
    (evidencePayload : Option PyValue) (serializationFailures : PyValue) :
    Try OperationalError := do
  let (code, text, payload, failures) ←
    match errorParts code detail evidencePayload serializationFailures with
    | .ok parts => pure parts
    | .error error => do
      let payload ← constructorFailure error
      pure (exactText code "SCHEMA10_TERMINAL_ERROR", match detail with
        | .text t => t
        | _ => ofString "<terminal-detail-unavailable>", some payload, [])
  match boundedErrorComponents (.str code) text with
  | .ok bounded => pure ⟨bounded.code, bounded.detail, payload, failures, bounded.message⟩
  | .error _ => pure ⟨ofString "SCHEMA10_TERMINAL_ERROR",
      ofString "<terminal-message-bounding-failed>", payload, failures,
      ofString "SCHEMA10_TERMINAL_ERROR: <terminal-message-bounding-failed>"⟩

/-! ## Surfacing a recovery -/

/-- An exception as far as its evidence is read: a `ProductionSchema10OperationalError` has a code
and takes new attributes, unless that raises. -/
structure RaisedError where
  operational : Option (Try PyValue)
  serializationFailures : Try PyValue

/-- mirrors src/adcp/production_schema10_operational.py:1444-1451
(`_safe_error_serialization_failures`) -/
def safeErrorSerializationFailures : Option RaisedError → Try (List Failure × List Failure)
  | none => pure ([], [])
  | some error =>
    match error.serializationFailures with
    | .ok raw => do
      let failures ← terminalFailureTuple raw
      pure (failures, [])
    | .error raised => do
      let failure ← safeFailurePayload (ofString "ATTRIBUTE_GET:serialization_failures") raised
      pure ([], [failure])

/-- mirrors src/adcp/production_schema10_operational.py:1454-1467
(`_collect_error_serialization_failures`) -/
def collectErrorSerializationFailures (errors : List (Option RaisedError)) :
    Try (List Failure × List Failure) :=
  errors.foldlM (fun (failures, accessFailures) error => do
    let (current, access) ← safeErrorSerializationFailures error
    pure (current.foldl addNew failures, access.foldl addNew accessFailures)) ([], [])

/-- mirrors src/adcp/production_schema10_operational.py:3377-3415
(`_attach_projection_recovery_evidence`) -/
def attachProjectionRecoveryEvidence (layers : Layers) (error : RaisedError) (payload : PyValue)
    (priorErrors : List (Option RaisedError)) : Try OperationalError := do
  let (priorFailures, attributeFailures) ←
    collectErrorSerializationFailures (priorErrors ++ [some error])
  let safePayload ← terminalPayloadDict payload
  let key := ofString "evidence_attribute_failures"
  let safePayload := if attributeFailures = [] then safePayload
    else match get? safePayload key with
      | some (.list existing) =>
        set safePayload key (.list (existing ++ attributeFailures.map Failure.toValue))
      | _ => set safePayload key (failuresValue attributeFailures)
  let detail ← serializeEvidencePayload layers (.dict safePayload)
    (.str (ofString "OUTER_RECOVERY_SERIALIZATION")) (!priorFailures.isEmpty)
    (failuresValue priorFailures)
  let constructed := OperationalError.new (.str (ofString "SCHEMA10_AUTHORIZED_RECOVERY_REQUIRED"))
    (.carried detail) none (.tuple [])
  match error.operational with
  | none => constructed
  | some code =>
    match (do boundedErrorComponents (← code) detail.text) with
    | .ok bounded => pure ⟨bounded.code, bounded.detail, some detail.evidencePayload,
        detail.serializationFailures, bounded.message⟩
    | .error _ => constructed

/-- What the recovery payload is built from, in the order in which the builders are tried; the last
surface needs none of it. -/
structure Recovery where
  genericPayload : Try PyValue
  payloadAfterBuilderFailure : Fault → Try PyValue
  fallbackPayload : Fault → Fault → Try PyValue
  independentSurface : Fault → String → Option PyValue → OperationalError

/-- The payload, or what the last builder raises. -/
def Recovery.payload (recovery : Recovery) : Try PyValue :=
  match recovery.genericPayload with
  | .ok payload => pure payload
  | .error builderError =>
    match recovery.payloadAfterBuilderFailure builderError with
    | .ok payload => pure payload
    | .error snapshotError => recovery.fallbackPayload builderError snapshotError

/-- mirrors src/adcp/production_schema10_operational.py:3746-3820
(`_surface_projection_recovery`) -/
def surfaceProjectionRecovery (layers : Layers) (recovery : Recovery)
    (originalOperationError : RaisedError) (compensationError : Option RaisedError) :
    OperationalError :=
  match recovery.payload with
  | .ok payload =>
    match attachProjectionRecoveryEvidence layers (compensationError.getD originalOperationError)
      payload [some originalOperationError, compensationError] with
    | .ok error => error
    | .error attachError =>
      recovery.independentSurface attachError "TERMINAL_ATTACH" (some payload)
  | .error payloadError =>
    recovery.independentSurface payloadError "TERMINAL_RECOVERY_FALLBACK" none

end Adcp.L5.Migration.TerminalEvidence
