import Adcp.L3Store.ArtifactSeal

/-!
# What a durable Evaluator result claims

`validate_durable_evaluator_completion_binding`: a result that claims any
provenance (or whose context froze a contract) must repeat the execution, the
attempt, the verification, the context and the hashes of the sealed tree
exactly. Every check compares a member of the result, or of the context, with a
column or a sealed entry.
-/
namespace Adcp.L3

open Adcp.L1 Adcp.L2

/-- mirrors src/adcp/evaluator.py:101-108 -/
structure EvaluatorArtifactBinding where
  resultArtifact : String
  resultSha256 : String
  stdoutArtifact : String
  stdoutSha256 : String
  stderrArtifact : String
  stderrSha256 : String

/-- The member equals a nullable column: an absent member is `None`. -/
def isColumn (v : Option Json) : Option String → Bool
  | some s => Json.strIs v s
  | none => match v with
    | none | some .null => true
    | _ => false

/-- `_required_equal` for each pair, in order: the code of the first that fails. -/
def expectAll : List (String × Bool) → Except PyError Unit
  | [] => .ok ()
  | (code, c) :: rest => do
    expect (c = true) code ""
    expectAll rest

/-- mirrors src/adcp/evaluator.py:478-489 -/
def loadContextEnvelope (context : ContextSnapshot) : Except PyError Json := do
  let mismatch := "EVALUATOR_CONTEXT_BINDING_MISMATCH"
  let envelope ← match jsonLoads context.canonicalJson with
    | .ok v => .ok v
    | .error _ => boundaryError mismatch ""
  let text ← canonicalJson envelope
  let sha ← canonicalSha256 envelope
  expect (text = context.canonicalJson ∧ sha = context.fingerprint) mismatch ""
  if envelope.isObj then pure envelope else .error (.raised "AttributeError" "get")

def provenanceFields : List String :=
  ["schema", "execution_id", "result_head", "verification_id", "evaluator_attempt_id",
   "evaluator_context_snapshot_id", "evaluator_context_fingerprint", "contract_fingerprint",
   "authority_fingerprint", "artifacts"]

/-- The result claims provenance, or its context froze a contract.
mirrors src/adcp/evaluator.py:510-525 -/
def isStrict (frozen : Option Json) (result : Json) : Bool :=
  (frozen.any fun f => ["execution_id", "change_id", "result_commit"].any fun k =>
    (f.get? k).isSome) || provenanceFields.any fun k => (result.get? k).isSome

structure CompletionBinding where
  execution : SliceExecution
  attempt : AgentAttempt
  verification : Option VerificationResult
  context : ContextSnapshot
  bundle : Option EvaluatorArtifactBinding
  sealedArtifacts : VerifiedArtifactManifest
  result : Json
  allowedStatuses : List AgentAttemptStatus

namespace CompletionBinding

/-- mirrors src/adcp/evaluator.py:534-562 -/
def identityChecks (b : CompletionBinding) (git : Json) : List (String × Bool) :=
  let claims (k : String) := b.result.get? k
  let e := b.execution
  let t := b.attempt
  let c := b.context
  [("EVALUATOR_ATTEMPT_STATUS_BINDING_MISMATCH", t.status ∈ b.allowedStatuses),
   ("EVALUATOR_ATTEMPT_BINDING_MISMATCH", t.role = .EVALUATOR),
   ("EVALUATOR_ATTEMPT_BINDING_MISMATCH", t.executionId = e.executionId),
   ("EVALUATOR_RESULT_HEAD_BINDING_MISMATCH", t.resultCommit = e.resultCommit),
   ("EVALUATOR_CONTEXT_BINDING_MISMATCH", c.executionId = e.executionId),
   ("EVALUATOR_CONTEXT_BINDING_MISMATCH", c.role = .EVALUATOR),
   ("EVALUATOR_CONTEXT_BINDING_MISMATCH", c.contextSnapshotId = t.contextSnapshotId),
   ("EVALUATOR_EXECUTION_BINDING_MISMATCH", Json.strIs (claims "execution_id") e.executionId),
   ("EVALUATOR_CHANGE_BINDING_MISMATCH", Json.strIs (claims "change_id") e.sliceId),
   ("EVALUATOR_RESULT_HEAD_BINDING_MISMATCH", isColumn (claims "result_head") e.resultCommit),
   ("EVALUATOR_RESULT_PARENT_BINDING_MISMATCH",
     (claims "result_parent").isNone || Json.strIs (claims "result_parent") e.baseCommit),
   ("EVALUATOR_RESULT_HEAD_BINDING_MISMATCH", git.isObj),
   ("EVALUATOR_RESULT_HEAD_BINDING_MISMATCH", isColumn (git.get? "head") e.resultCommit),
   ("EVALUATOR_RESULT_PARENT_BINDING_MISMATCH", Json.strIs (git.get? "parent") e.baseCommit),
   ("EVALUATOR_ATTEMPT_BINDING_MISMATCH", Json.strIs (claims "evaluator_attempt_id") t.attemptId),
   ("EVALUATOR_ATTEMPT_BINDING_MISMATCH",
     (claims "evaluator_attempt_no").any (·.pyEq (.int t.attemptNo))),
   ("EVALUATOR_CONTEXT_BINDING_MISMATCH",
     Json.strIs (claims "evaluator_context_snapshot_id") c.contextSnapshotId),
   ("EVALUATOR_CONTEXT_BINDING_MISMATCH",
     Json.strIs (claims "evaluator_context_fingerprint") c.fingerprint),
   ("EVALUATOR_CONTEXT_BINDING_MISMATCH",
     Json.strIs (claims "evaluator_capsule_fingerprint") c.fingerprint),
   ("EVALUATOR_CONTRACT_BINDING_MISMATCH",
     Json.strIs (claims "contract_fingerprint") e.contractFingerprint),
   ("EVALUATOR_AUTHORITY_BINDING_MISMATCH",
     Json.strIs (claims "authority_fingerprint") e.authorityFingerprint)]

/-- mirrors src/adcp/evaluator.py:564-592 -/
def verificationChecks (b : CompletionBinding) (v : VerificationResult) (content deterministic : Json) :
    List (String × Bool) :=
  let e := b.execution
  let frozen (k : String) := (content.get? "frozen_contract").bind (·.get? k)
  [("EVALUATOR_VERIFICATION_BINDING_MISMATCH",
     Json.strIs (b.result.get? "verification_id") v.verificationId),
   ("EVALUATOR_VERIFICATION_BINDING_MISMATCH", v.executionId = e.executionId &&
     some v.resultCommit = e.resultCommit && v.contractFingerprint = e.contractFingerprint &&
     v.authorityFingerprint = e.authorityFingerprint && v.verdict = .PASS),
   ("EVALUATOR_VERIFICATION_BINDING_MISMATCH",
     Json.strIs (b.result.get? "verification_verdict") "PASS"),
   ("EVALUATOR_VERIFICATION_BINDING_MISMATCH", deterministic.isObj &&
     Json.strIs (deterministic.get? "verification_id") v.verificationId &&
     isColumn (deterministic.get? "result_commit") e.resultCommit &&
     Json.strIs (deterministic.get? "contract_fingerprint") e.contractFingerprint &&
     Json.strIs (deterministic.get? "authority_fingerprint") e.authorityFingerprint &&
     Json.strIs (deterministic.get? "verdict") "PASS"),
   ("EVALUATOR_FROZEN_CONTRACT_BINDING_MISMATCH", Json.strIs (frozen "execution_id") e.executionId &&
     Json.strIs (frozen "change_id") e.sliceId &&
     isColumn (frozen "result_commit") e.resultCommit &&
     Json.strIs (frozen "verification_id") v.verificationId &&
     Json.strIs (frozen "contract_fingerprint") e.contractFingerprint &&
     Json.strIs (frozen "authority_fingerprint") e.authorityFingerprint),
   ("EVALUATOR_CONTEXT_BINDING_MISMATCH",
     isColumn (content.get? "result_commit") e.resultCommit)]

/-- A path and a hash the caller claims for a sealed role.
mirrors src/adcp/evaluator.py:602-617 -/
def checkClaim (env : Env) (b : CompletionBinding) (role path sha : String)
    (entry : SealedArtifactEntry) : Except PyError Unit := do
  let relative ← relativeArtifactPath env path b.sealedArtifacts.evidenceRoot
  expect (relative = entry.relativePath ∧ sha = entry.sha256)
    "EVALUATOR_CALLER_ARTIFACT_CLAIM_MISMATCH" role

/-- mirrors src/adcp/evaluator.py:628-635 -/
def sealedEntryForClaim (env : Env) (b : CompletionBinding) (path : Option Json) (field : String) :
    Except PyError SealedArtifactEntry :=
  match path with
  | some (.str path) => do
    expect (path ≠ "") "EVALUATOR_ARTIFACT_BINDING_MISSING" field
    let found := do
      let relative ← relativeArtifactPath env path b.sealedArtifacts.evidenceRoot
      b.sealedArtifacts.entryForPath relative
    match found with
    | .error (.boundary code _) => boundaryError code field
    | r => r
  | _ => boundaryError "EVALUATOR_ARTIFACT_BINDING_MISSING" field

/-- mirrors src/adcp/evaluator.py:637-641 -/
def sealedNamed (b : CompletionBinding) (relative field : String) :
    Except PyError SealedArtifactEntry :=
  match b.sealedArtifacts.entryForPath relative with
  | .error (.boundary code _) => boundaryError code field
  | r => r

/-- The command results of the sealed tree, their timings normalized where they
can be.
mirrors src/adcp/evaluator.py:667-684 -/
def commandResults (env : Env) (b : CompletionBinding) (entry : SealedArtifactEntry) :
    Except PyError Json := do
  let raw ← b.sealedArtifacts.bytesAt entry.relativePath
  let parsed ← loadsBytes "EVALUATOR_REFERENCED_ARTIFACT_INVALID" "command_results_sha256" raw
  match parsed with
  | .obj fields =>
    match normalizeLegacyRegressionResults env.floatRepr "results" fields with
    | .error (.boundary _ _) => do
      rejectFloats "$" parsed
      pure parsed
    | r => r
  | _ => boundaryError "EVALUATOR_COMMAND_RESULTS_BINDING_MISMATCH" ""

/-- The streams of one regression are sealed under the hashes it names.
mirrors src/adcp/evaluator.py:710-722 -/
def checkRegressions (env : Env) (b : CompletionBinding) : Nat → List Json → Except PyError Unit
  | _, [] => .ok ()
  | n, item :: rest => do
    expect (item.isObj = true) "EVALUATOR_COMMAND_RESULTS_BINDING_MISMATCH" ""
    let path := "independent_regression_results[" ++ toString n ++ "]."
    let stdout ← sealedEntryForClaim env b (item.get? "stdout_path") (path ++ "stdout_path")
    expect (Json.strIs (item.get? "stdout_sha256") stdout.sha256) "EVALUATOR_ARTIFACT_HASH_MISMATCH" ""
    let stderr ← sealedEntryForClaim env b (item.get? "stderr_path") (path ++ "stderr_path")
    expect (Json.strIs (item.get? "stderr_sha256") stderr.sha256) "EVALUATOR_ARTIFACT_HASH_MISMATCH" ""
    checkRegressions env b (n + 1) rest

/-- The artifacts the result names are those of the sealed tree.
mirrors src/adcp/evaluator.py:619-722 -/
def checkArtifacts (env : Env) (b : CompletionBinding) (stdout stderr : SealedArtifactEntry) :
    Except PyError Unit := do
  let artifacts ← match b.result.get? "artifacts" with
    | some (.obj fields) => .ok (Json.obj fields)
    | _ => boundaryError "EVALUATOR_ARTIFACT_BINDING_MISSING" "artifacts"
  let directory ← match artifacts.get? "evidence_dir" with
    | some (.str s) => PosixPath.expanduser env s
    | none => .ok (PosixPath.parse "")
    | some _ => .error (.raised "TypeError" "evidence_dir")
  expect (directory.absolute = true ∧
      PosixPath.collapse [] directory.parts = b.sealedArtifacts.evidenceRoot)
    "EVALUATOR_ARTIFACT_PATH_BINDING_MISMATCH" "evidence_dir"
  let names (k sha : String) : Bool := Json.strIs (artifacts.get? k) sha
  let script ← sealedEntryForClaim env b (artifacts.get? "script_path") "script_path"
  expect (names "script_sha256_pre" script.sha256 ∧ names "script_sha256_post" script.sha256)
    "EVALUATOR_SCRIPT_HASH_BINDING_MISMATCH" ""
  let manifest ← sealedNamed b "evaluator-command-manifest.json" "command_manifest_sha256"
  expect (names "command_manifest_sha256" manifest.sha256) "EVALUATOR_ARTIFACT_HASH_MISMATCH" ""
  let command ← sealedNamed b "evaluator-command-results.json" "command_results_sha256"
  expect (names "command_results_sha256" command.sha256) "EVALUATOR_ARTIFACT_HASH_MISMATCH" ""
  let results ← commandResults env b command
  let regressions := b.result.get? "independent_regression_results"
  expect (((results.get? "results").getD .null).pyEq (regressions.getD .null) = true)
    "EVALUATOR_COMMAND_RESULTS_BINDING_MISMATCH" ""
  let reference ← sealedNamed b "evaluator-reference-attacks.json" "reference_attacks_sha256"
  expect (names "reference_attacks_sha256" reference.sha256) "EVALUATOR_ARTIFACT_HASH_MISMATCH" ""
  expect (names "successful_probe_stdout_sha256" stdout.sha256 ∧
      names "successful_probe_stderr_sha256" stderr.sha256)
    "EVALUATOR_PROBE_HASH_BINDING_MISMATCH" ""
  match regressions with
  | some (.arr items) => checkRegressions env b 0 items
  | _ => boundaryError "EVALUATOR_COMMAND_RESULTS_BINDING_MISMATCH" ""

/-- The checks of a result that claims provenance.
mirrors src/adcp/evaluator.py:526-722 -/
def checkStrict (env : Env) (b : CompletionBinding) (content : Json) : Except PyError Unit := do
  expect (Json.strIs (b.result.get? "schema") legacySchema)
    "EVALUATOR_EVIDENCE_SCHEMA_BINDING_MISMATCH" ""
  expect (content.isObj = true ∧ ((content.get? "frozen_contract").any Json.isObj) = true)
    "EVALUATOR_FROZEN_CONTRACT_MISSING" ""
  expectAll (b.identityChecks ((b.result.get? "git").getD .null))
  match b.verification with
  | none => boundaryError "EVALUATOR_VERIFICATION_BINDING_MISMATCH" ""
  | some v => do
    expectAll (b.verificationChecks v content
      ((content.get? "deterministic_verification_result").getD .null))
    let result ← b.sealedArtifacts.entryForRole "result"
    let stdout ← b.sealedArtifacts.entryForRole "stdout"
    let stderr ← b.sealedArtifacts.entryForRole "stderr"
    match b.bundle with
    | some bundle => do
      b.checkClaim env "result" bundle.resultArtifact bundle.resultSha256 result
      b.checkClaim env "stdout" bundle.stdoutArtifact bundle.stdoutSha256 stdout
      b.checkClaim env "stderr" bundle.stderrArtifact bundle.stderrSha256 stderr
      b.checkArtifacts env stdout stderr
    | none => b.checkArtifacts env stdout stderr

end CompletionBinding

/-- mirrors src/adcp/evaluator.py:499-722 -/
def validateDurableEvaluatorCompletionBinding (env : Env) (b : CompletionBinding) :
    Except PyError Unit := do
  let envelope ← loadContextEnvelope b.context
  let content := (envelope.get? "content").getD .null
  let frozen := (content.get? "frozen_contract").filter Json.isObj
  if isStrict frozen b.result then b.checkStrict env content else pure ()

end Adcp.L3
