import Adcp.L1Base.PyValue
import Adcp.L1Base.Sha256
/-!
# Evidence of a failed transition

When a transition fails its error carries evidence, put together from whatever values are at hand.
The evidence is brought down to built-in values, written as a text within a budget of bytes, and
carried by the error; each step of this has another one to fall back on.

* `terminalSnapshot`, `terminalIdentityReserve`, `terminalPayloadDict`: the values that are kept.
* `terminalFallbackText`, `terminalLastResortText`, `emergencyTerminalDetailText`: the writers
  behind canonical JSON.
* `serializeEvidencePayload`, `OperationalError.new`: the evidence and the error that carries it.
  `Layers` are the writers and the carriers, which may fail.
-/
namespace Adcp.L5.Migration.TerminalEvidence

open Adcp.L1 PyText
open PyValue (Items get? hasKey set)

/-! ## Limits -/

def terminalEvidenceMaxBytes : Nat := 32768
def terminalMaxDepth : Nat := 20
def terminalMaxNodes : Nat := 4096
def terminalMaxScalarBytes : Nat := 8192
def terminalMaxKeyBytes : Nat := 512
def terminalMaxContainerItems : Nat := 256
def identityMaxBytes : Nat := 768
def terminalTruncationMarker : PyText := ofString "<DL93_TRUNCATED>"
def terminalIdentityReserveKey : PyText := ofString "__terminal_identity_reserve__"

/-! ## Exceptions -/

/-- What `str(error)` gives: an exact text, something else, or another exception. -/
inductive Rendered where
  | text (t : PyText)
  | invalid
  | raises (typeName : PyText)

structure Fault where
  typeName : PyText
  rendered : Rendered

def builtinFault (name : String) (message : PyText) : Fault :=
  ⟨ofString "builtins." ++ ofString name, .text message⟩

abbrev Try : Type → Type := Except Fault

/-- How many surrogates a text begins with. -/
def surrogateRun : PyText → Nat
  | [] => 0
  | c :: t => if IsSurrogate c then surrogateRun t + 1 else 0

/-- `UnicodeEncodeError` for the first surrogates of a text, `n` code points before it. -/
def unicodeEncodeError : Nat → PyText → Fault
  | n, [] => builtinFault "UnicodeEncodeError" (ofString (toString n))
  | n, c :: t =>
    if IsSurrogate c then
      builtinFault "UnicodeEncodeError" (ofString (if surrogateRun t = 0 then
        "'utf-8' codec can't encode character '" ++ String.ofList (Json.unicodeEscaped c.val) ++
          "' in position " ++ toString n ++ ": surrogates not allowed"
      else "'utf-8' codec can't encode characters in position " ++ toString n ++ "-" ++
        toString (n + surrogateRun t) ++ ": surrogates not allowed"))
    else unicodeEncodeError (n + 1) t

/-- The decimal digits `int.__repr__` writes at most. -/
def intMaxStrDigits : Nat := 4300

/-- `int.__repr__(value)` -/
def intRepr (n : Int) : Try PyText :=
  if 10 ^ intMaxStrDigits ≤ n.natAbs then
    .error (builtinFault "ValueError" (ofString ("Exceeds the limit (4300 digits) for integer " ++
      "string conversion; use sys.set_int_max_str_digits() to increase the limit")))
  else .ok (ofString (toString n))

/-! ## Texts -/

/-- mirrors src/adcp/production_schema10_operational.py:795-803 (`_normalize_exact_string`) -/
def normalizeExactString (value : PyText) : PyText := backslashreplace value

/-- The UTF-8 form of a text, for which the text stands. mirrors
src/adcp/production_schema10_operational.py:806-809 (`_encoded_utf8`) -/
def encodedUtf8 (value : PyText) : Try PyText :=
  if Utf8 value then .ok value else .error (unicodeEncodeError 0 value)

/-- `while len(_encoded_utf8(result)) > max_bytes and prefix != ""`, which drops the last code point
of the prefix each time; `n` is the length of the prefix. -/
def contract (marker : PyText) (maxBytes : Nat) : Nat → PyText → Try PyText
  | 0, kept => do
    let _ ← encodedUtf8 (kept ++ marker)
    pure (kept ++ marker)
  | n + 1, kept => do
    let encoded ← encodedUtf8 (kept ++ marker)
    if maxBytes < utf8Length encoded then contract marker maxBytes n kept.dropLast
    else pure (kept ++ marker)

/-- mirrors src/adcp/production_schema10_operational.py:812-828 (`_truncate_exact_text`) -/
def truncateExactText (value : PyText) (maxBytes : Nat) : Try PyText := do
  let text := normalizeExactString value
  let encoded ← encodedUtf8 text
  if utf8Length encoded ≤ maxBytes then pure text
  else do
    let marker ← encodedUtf8 terminalTruncationMarker
    if maxBytes ≤ utf8Length marker then pure (takeBytes maxBytes marker)
    else
      let kept := takeBytes (maxBytes - utf8Length marker) encoded
      contract terminalTruncationMarker maxBytes kept.length kept

/-- mirrors src/adcp/production_schema10_operational.py:831-874 (`_terminal_safe_scalar`) -/
def terminalSafeScalar (value : PyValue) : PyText :=
  let unavailable := ofString "<scalar-unavailable:" ++ value.typeName ++ ofString ">"
  match value with
  | .none => ofString "null"
  | .bool true => ofString "true"
  | .bool false => ofString "false"
  | .str t => (truncateExactText t terminalMaxScalarBytes).toOption.getD unavailable
  | .int n =>
    match intRepr n with
    | .ok rendered =>
      (truncateExactText rendered terminalMaxScalarBytes).toOption.getD unavailable
    | .error _ => ofString "<int-unrenderable bits=" ++
      (intRepr (n.natAbs.log2 + 1)).toOption.getD (ofString "unknown") ++ ofString ">"
  | .float f =>
    (truncateExactText (ofString f.repr) terminalMaxScalarBytes).toOption.getD
      (ofString "<float-unrenderable>")
  | .bytes b => ofString "<bytes len=" ++ ofString (toString b.length) ++ ofString " sha256=" ++
      ofString (Sha256.hexdigest b) ++ ofString ">"
  | value => ofString "<" ++ value.typeName ++ ofString ">"

/-- mirrors src/adcp/production_schema10_operational.py:881-894 (`_safe_exception_text`) -/
def safeExceptionText (error : Fault) : Try PyText :=
  match error.rendered with
  | .raises typeName => pure (ofString "<exception-detail-unavailable; error_type=" ++
      error.typeName ++ ofString "; render_failure=" ++ typeName ++ ofString ">")
  | .invalid => pure (ofString "<exception-detail-invalid; error_type=" ++ error.typeName ++
      ofString ">")
  | .text t => truncateExactText t terminalMaxScalarBytes

/-! ## Serialization failures -/

structure Failure where
  operation : PyText
  exceptionType : PyText
  detail : PyText
  deriving DecidableEq

def Failure.toValue (f : Failure) : PyValue :=
  .dict [(.str (ofString "operation"), .str f.operation),
    (.str (ofString "exception_type"), .str f.exceptionType),
    (.str (ofString "detail"), .str f.detail)]

/-- mirrors src/adcp/production_schema10_operational.py:901-907 (`_safe_failure_payload`) -/
def safeFailurePayload (operation : PyText) (error : Fault) : Try Failure := do
  let detail ← safeExceptionText error
  pure ⟨operation, error.typeName, detail⟩

/-! ## The identity reserve -/

def errorFields : List String := ["exception_type", "code", "operation"]

def identityFields : List String :=
  ["critical_error_identity", "writer_id", "required_reconciliation_action", "exception_type",
    "code", "operation", "destination_replaced"]

def errorContainers : List String :=
  ["original_operation_error", "outer_compensation_error", "unexpected_compensation_error",
    "terminal_recovery_builder_failure", "terminal_snapshot_failure", "terminal_attach_failure",
    "serialization_failure", "serialization_fallback_failure"]

/-- The items of a dictionary under some names, each with its path. -/
def itemsAt (path : String) (value : Option PyValue) (fields : List String) :
    List (PyText × PyValue) :=
  match value with
  | some (.dict items) => fields.filterMap fun field =>
    (get? items (ofString field)).map fun item => (ofString path ++ ofString field, item)
  | _ => []

/-- The places where identity is looked for, in order. -/
def identityItems (items : Items) : List (PyText × PyValue) :=
  let restoration := get? items (ofString "compensation_restoration")
  let primary := match restoration with
    | some (.dict inner) => get? inner (ofString "restore_primary_failure")
    | _ => none
  itemsAt "$." (some (.dict items)) identityFields ++
    errorContainers.flatMap (fun container =>
      itemsAt ("$." ++ container ++ ".") (get? items (ofString container)) errorFields) ++
    itemsAt "$.destination_state." (get? items (ofString "destination_state")) ["replaced"] ++
    itemsAt "$.compensation_restoration." restoration
      ["restore_destination_replaced", "required_reconciliation_action"] ++
    itemsAt "$.compensation_restoration.restore_primary_failure." primary errorFields

/-- mirrors src/adcp/production_schema10_operational.py:910-972 (`_terminal_identity_reserve`) -/
def terminalIdentityReserve (value : PyValue) : Try (List (PyText × PyText)) :=
  match value with
  | .dict items => ((identityItems items).filter fun item => !item.2.isContainer).mapM
      fun (path, item) => do
        let text ← truncateExactText (terminalSafeScalar item) identityMaxBytes
        pure (path, text)
  | _ => pure []

/-! ## The snapshot -/

def terminalPriorityKeys : List String :=
  ["original_operation_error", "outer_compensation_error", "unexpected_compensation_error",
    "terminal_recovery_builder_failure", "terminal_snapshot_failure", "terminal_attach_failure",
    "critical_error_identity", "writer_id", "required_reconciliation_action", "destination_state",
    "destination_replaced", "compensation_restoration", "restore_primary_failure",
    "serialization_failure", "serialization_fallback_failure", "serialization_failures",
    "exception_type", "code", "operation", "critical"]

def isPriorityKey : PyValue → Bool
  | .str t => terminalPriorityKeys.any fun key => ofString key = t
  | _ => false

/-- The priority keys first, in their order. -/
def prioritized (items : Items) : Items :=
  (terminalPriorityKeys.filterMap fun key => items.find? fun item => item.1.isText
    (ofString key)) ++
    items.filter fun item => !isPriorityKey item.1

/-- `key#2`, `key#3` and so on, the first that is not taken; `n` of them are tried. -/
def freeKey (taken : Items) (key : PyText) : Nat → Nat → PyText
  | 0, suffix => key ++ ofString ("#" ++ toString suffix)
  | n + 1, suffix =>
    if hasKey taken (key ++ ofString ("#" ++ toString suffix)) then
      freeKey taken key n (suffix + 1)
    else key ++ ofString ("#" ++ toString suffix)

def safeKey (taken : Items) (key : PyValue) : Try PyText := do
  let safe ← match key with
    | .str t => truncateExactText t terminalMaxKeyBytes
    | key => pure (ofString "<key:" ++ terminalSafeScalar key ++ ofString ">")
  pure (if hasKey taken safe then freeKey taken safe taken.length 2 else safe)

def truncatedKey : PyText := ofString "__terminal_truncated__"

/-- The items one after the other; `count` of them have been taken, and `nodes` seen. -/
def snapshotItems (snapshot : PyValue → Nat → Try (PyValue × Nat)) :
    Items → Items → Nat → Nat → Try (Items × Nat)
  | [], result, _, nodes => pure (result, nodes)
  | (key, item) :: rest, result, count, nodes =>
    if terminalMaxContainerItems ≤ count then
      pure (set result truncatedKey (.bool true), nodes)
    else do
      let safe ← safeKey result key
      let (value, nodes) ← snapshot item nodes
      let result := set result safe value
      if terminalMaxNodes < nodes then pure (set result truncatedKey (.bool true), nodes)
      else snapshotItems snapshot rest result (count + 1) nodes

def truncated (what : String) : PyValue :=
  .str (terminalTruncationMarker ++ ofString (":" ++ what))

def snapshotElements (snapshot : PyValue → Nat → Try (PyValue × Nat)) :
    List PyValue → List PyValue → Nat → Try (List PyValue × Nat)
  | [], result, nodes => pure (result, nodes)
  | item :: rest, result, nodes => do
    let (value, nodes) ← snapshot item nodes
    if terminalMaxNodes < nodes then pure (result ++ [value, truncated "max-nodes"], nodes)
    else snapshotElements snapshot rest (result ++ [value]) nodes

/-- A list, of a list or a tuple. -/
def snapshotSequence (snapshot : PyValue → Nat → Try (PyValue × Nat)) (items : List PyValue)
    (nodes : Nat) : Try (PyValue × Nat) := do
  let (result, nodes) ←
    snapshotElements snapshot (items.take terminalMaxContainerItems) [] nodes
  pure (.list (if terminalMaxContainerItems < items.length then
    result ++ [truncated "max-items"] else result), nodes)

/-- The first argument is how many levels more there may be, the last one how many nodes there were.
mirrors src/adcp/production_schema10_operational.py:975-1075 (`_terminal_snapshot`) -/
def terminalSnapshot : Nat → PyValue → Nat → Try (PyValue × Nat)
  | 0, _, nodes =>
    pure (truncated (if terminalMaxNodes < nodes + 1 then "max-nodes" else "max-depth"), nodes + 1)
  | levels + 1, value, nodes =>
    if terminalMaxNodes < nodes + 1 then pure (truncated "max-nodes", nodes + 1)
    else match value with
      | .none | .bool _ | .int _ | .float _ => pure (value, nodes + 1)
      | .str t => do
        let text ← truncateExactText t terminalMaxScalarBytes
        pure (.str text, nodes + 1)
      | .bytes _ => pure (.str (terminalSafeScalar value), nodes + 1)
      | .dict items => do
        let (result, nodes) ←
          snapshotItems (terminalSnapshot levels) (prioritized items) [] 0 (nodes + 1)
        pure (.dict result, nodes)
      | .list items => snapshotSequence (terminalSnapshot levels) items (nodes + 1)
      | .tuple items => snapshotSequence (terminalSnapshot levels) items (nodes + 1)
      | .object name => pure (.str (ofString "<opaque:" ++ name ++ ofString ">"), nodes + 1)

def snapshotOf (value : PyValue) : Try PyValue := do
  let (snapshot, _) ← terminalSnapshot (terminalMaxDepth + 1) value 0
  pure snapshot

def reserveValue (reserve : List (PyText × PyText)) : PyValue :=
  .dict (reserve.map fun (path, text) => (.str path, .str text))

/-- mirrors src/adcp/production_schema10_operational.py:1077-1089 (`_terminal_payload_dict`) -/
def terminalPayloadDict (value : PyValue) : Try Items := do
  let reserve ← terminalIdentityReserve value
  let snapshot ← snapshotOf value
  let result := match snapshot with
    | .dict items => items
    | snapshot => [(.str (ofString "terminal_payload"), snapshot)]
  pure (if reserve = [] then result
    else set result terminalIdentityReserveKey (reserveValue reserve))

def textOr (value : Option PyValue) (default : String) : PyText :=
  match value with
  | some (.str t) => t
  | _ => ofString default

def failureOf (items : Items) : Failure where
  operation := textOr (get? items (ofString "operation")) "UNKNOWN"
  exceptionType := textOr (get? items (ofString "exception_type")) "UNKNOWN"
  detail := textOr (get? items (ofString "detail")) ""

/-- A failure as it is normalised, unless it is no dictionary. -/
def normalizedFailure (item : PyValue) : Try (Option Failure) := do
  match ← snapshotOf item with
  | .dict items => pure (some (failureOf items))
  | _ => pure none

/-- mirrors src/adcp/production_schema10_operational.py:1092-1115 (`_terminal_failure_tuple`) -/
def terminalFailureTuple (value : PyValue) : Try (List Failure) :=
  match value with
  | .list items | .tuple items => do
    let found ← items.mapM normalizedFailure
    pure (found.filterMap id)
  | _ => pure []

def failuresValue (failures : List Failure) : PyValue := .list (failures.map Failure.toValue)

end Adcp.L5.Migration.TerminalEvidence
