import Adcp.L2Domain.States

/-!
# Candidate verification payloads

`validate_candidate_verification_payload`: a command manifest in canonical form,
every command of it well formed, and a verdict that the required commands' exit
codes allow.
-/
namespace Adcp.L2

open Adcp.L1

def valueError (detail : String) : PyError := .raised "ValueError" detail
def typeError (detail : String) : PyError := .raised "TypeError" detail

/-- A guard of a pure function. -/
def guardPure (c : Prop) [Decidable c] (e : PyError) : Except PyError Unit :=
  if c then .ok () else .error e

def commandFields : List String :=
  ["name", "argv", "cwd", "env_names", "timeout_seconds", "required", "exit_code"]

def commandOptionalFields : List String :=
  ["stdout_artifact", "stdout_sha256", "stderr_artifact", "stderr_sha256"]

/-- `_ENV_NAME.fullmatch`.
mirrors src/adcp/verifier.py:15 -/
def isEnvName (s : String) : Bool :=
  match s.toList with
  | [] => false
  | c :: cs => (c.isAlpha || c = '_') && cs.all fun c => c.isAlphanum || c = '_'

/-- The texts of a list, if it holds nothing else. -/
def texts : List Json → Option (List String)
  | [] => some []
  | .str s :: rest => (texts rest).map (s :: ·)
  | _ :: _ => none

/-- A nullable hash.
mirrors src/adcp/domain.py:219-221 -/
def optionalSha256 (v : Json) (field : String) : Except PyError Unit :=
  match v with
  | .null => .ok ()
  | .str s => guardPure (isSha256 s) (.store "INVALID_INPUT" (field ++ " must be lowercase SHA-256"))
  | _ => .error (typeError "object of this type has no len()")

def insertText (s : String) : List String → List String
  | [] => [s]
  | t :: ts => if t < s then t :: insertText s ts else s :: t :: ts

def sortTexts (l : List String) : List String := l.foldr insertText []

/-- One command of a manifest; what it needs of its exit code is the answer's
`required` and `exitCode`. -/
structure VerificationCommand where
  materialized : Json
  required : Bool
  exitCode : Int

/-- `from_value(value).materialize()` of a decoded command.
mirrors src/adcp/verifier.py:34-90 -/
def VerificationCommand.fromValue (value : Json) : Except PyError VerificationCommand :=
  match value with
  | .obj fields => do
    guardPure (fields.all fun p => p.1 ∈ commandFields ++ commandOptionalFields)
      (typeError "unexpected keyword argument")
    guardPure (commandFields.all fun k => (Json.lookupKey k fields).isSome)
      (typeError "missing required argument")
    let get (k : String) : Json := (Json.lookupKey k fields).getD .null
    guardPure (truthy (get "name") ∧ truthy (get "cwd")) (valueError "VERIFICATION_COMMAND_INVALID")
    let argv ← match get "argv" with
      | .arr (a :: as) => .ok (a :: as)
      | _ => .error (valueError "VERIFICATION_ARGV_INVALID")
    guardPure (texts argv).isSome (valueError "VERIFICATION_ARGV_INVALID")
    let names ← match get "env_names" with
      | .arr items => match texts items with
        | some names => .ok names
        | none => .error (valueError "VERIFICATION_ENV_NAMES_INVALID")
      | _ => .error (valueError "VERIFICATION_ENV_NAMES_INVALID")
    guardPure (names.all isEnvName ∧ names.Nodup) (valueError "VERIFICATION_ENV_NAMES_INVALID")
    let timeout ← match get "timeout_seconds" with
      | .int n => .ok n
      | _ => .error (valueError "VERIFICATION_TIMEOUT_INVALID")
    guardPure (0 < timeout) (valueError "VERIFICATION_TIMEOUT_INVALID")
    let required ← match get "required" with
      | .bool b => .ok b
      | _ => .error (valueError "VERIFICATION_REQUIRED_INVALID")
    let exitCode ← match get "exit_code" with
      | .int n => .ok n
      | _ => .error (valueError "VERIFICATION_EXIT_CODE_INVALID")
    optionalSha256 (get "stdout_sha256") "stdout_sha256"
    optionalSha256 (get "stderr_sha256") "stderr_sha256"
    pure
      { materialized := .obj ([("name", get "name"), ("argv", .arr argv), ("cwd", get "cwd"),
          ("env_names", .arr ((sortTexts names).map .str)), ("timeout_seconds", .int timeout),
          ("required", .bool required), ("exit_code", .int exitCode)] ++
          commandOptionalFields.map fun k => (k, get k))
        required := required, exitCode := exitCode }
  | _ => .error (typeError "VerificationCommand or mapping required")

def commandsOf : List Json → Except PyError (List VerificationCommand)
  | [] => .ok []
  | v :: vs => do
    let command ← VerificationCommand.fromValue v
    let rest ← commandsOf vs
    pure (command :: rest)

/-- mirrors src/adcp/verifier.py:93-101 -/
def buildCommandManifest (commands : List VerificationCommand) : Json :=
  .obj [("manifest_version", .int 1), ("commands", .arr (commands.map (·.materialized)))]

/-- mirrors src/adcp/verifier.py:198-219 -/
def validateCandidateVerificationPayload (commandManifest commandManifestSha256 resultJson : String)
    (pass : Bool) : Except PyError (List VerificationCommand) := do
  let manifest ← jsonLoads commandManifest
  let result ← jsonLoads resultJson
  let text ← canonicalJson manifest
  let sha ← canonicalSha256 manifest
  guardPure (text = commandManifest ∧ sha = commandManifestSha256)
    (valueError "CANDIDATE_VERIFICATION_MANIFEST_MISMATCH")
  guardPure (manifest.isObj = true ∧
      (manifest.get? "manifest_version").any (·.pyEq (.int 1)) = true)
    (valueError "CANDIDATE_VERIFICATION_MANIFEST_INVALID")
  let items ← match (manifest.get? "commands").getD (.arr []) with
    | .arr items => .ok items
    | .obj [] => .ok []
    | .str "" => .ok []
    | _ => .error (typeError "VerificationCommand or mapping required")
  let commands ← commandsOf items
  guardPure (commands.any (·.required) = true) (valueError "CANDIDATE_REQUIRED_COMMANDS_EMPTY")
  guardPure ((buildCommandManifest commands).pyEq manifest = true)
    (valueError "CANDIDATE_VERIFICATION_MANIFEST_INVALID")
  guardPure (pass = true → commands.all fun c => !c.required || c.exitCode = 0)
    (valueError "CANDIDATE_VERIFICATION_FALSE_PASS")
  let resultText ← canonicalJson result
  guardPure (result.isObj = true ∧ truthy result = true ∧ resultText = resultJson)
    (valueError "CANDIDATE_VERIFICATION_RESULT_INVALID")
  pure commands

end Adcp.L2
