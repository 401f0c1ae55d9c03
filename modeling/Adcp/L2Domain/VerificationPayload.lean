import Adcp.L1Base.Tx
import Adcp.L2Domain.CanonicalBytes
/-!
# The payload of a candidate verification, as texts

`CandidateVerification` has the check on decoded documents, as the transactions of the store use it.
Here it starts from the texts, and a command keeps whatever values it was given.

* `VerificationCommand.validate`, `materialize`: one command, checked and written.
* `fromValue`, `buildCommandManifest`: commands from values, and the manifest of commands.
* `validateCandidateVerificationPayload`: the gate in front of a recorded verification.
* `commandsOf_build`: parsing what was built gives the commands with their variables sorted.
* `candidate_payload_exact`: what the gate lets through as a pass.
-/
namespace Adcp.L2.Verification

open Adcp.L1 PyText Canonical
open PyValue (Items get? get?_mem isText_iff pyEq pyEqItems_iff pyEqFields_get)

/-- `value` is a `ValueError` with its text, `type` a `TypeError`. -/
inductive VerificationFault where
  | value (code : String)
  | type
  | store (code detail : String)
  | canonical (fault : CanonicalFault)
  | loads (fault : PyJson.LoadsFault)
  deriving DecidableEq

abbrev Verified : Type → Type := Except VerificationFault

def guarded (c : Bool) (fault : VerificationFault) : Verified Unit :=
  if c then pure () else throw fault

/-! ## One command -/

/-- mirrors src/adcp/verifier.py:19-31. The annotations are not enforced. -/
structure VerificationCommand where
  name : PyValue
  argv : PyValue
  cwd : PyValue
  envNames : PyValue
  timeoutSeconds : PyValue
  required : PyValue
  exitCode : PyValue
  stdoutArtifact : PyValue
  stdoutSha256 : PyValue
  stderrArtifact : PyValue
  stderrSha256 : PyValue

/-- The texts of a list that holds nothing else. -/
def textItems : List PyValue → Option (List PyText)
  | [] => some []
  | .str t :: rest => (textItems rest).map (t :: ·)
  | _ :: _ => none

def textsOf : PyValue → Option (List PyText)
  | .list items => textItems items
  | _ => none

def isWordStart (c : CodePoint) : Bool :=
  (65 ≤ c.val && c.val ≤ 90) || (97 ≤ c.val && c.val ≤ 122) || c.val = 95

/-- `_ENV_NAME.fullmatch(name)`; mirrors src/adcp/verifier.py:15 -/
def isEnvName : PyText → Bool
  | [] => false
  | c :: rest => isWordStart c && rest.all fun c => isWordStart c || (48 ≤ c.val && c.val ≤ 57)

def hexDigits : PyText := ofString "0123456789abcdef"

/-- `all(character in "0123456789abcdef" for character in value)` over a container. -/
def hexMembers : List PyValue → Verified Bool
  | [] => pure true
  | .str t :: rest => if Occurs t hexDigits then hexMembers rest else pure false
  | _ :: _ => throw .type

/-- mirrors src/adcp/domain.py:215-217, which asks the value for its length and its members. -/
def requireSha256 (value : PyValue) (field : String) : Verified Unit := do
  let fault := VerificationFault.store "INVALID_INPUT" (field ++ " must be lowercase SHA-256")
  match value with
  | .str t => guarded (t.length = 64 && t.all fun c => hexDigits.contains c) fault
  | .list items | .tuple items => do
    guarded (items.length = 64) fault
    guarded (← hexMembers items) fault
  | .dict items => do
    guarded (items.length = 64) fault
    guarded (← hexMembers (items.map Prod.fst)) fault
  | .bytes b => do
    guarded (b.length = 64) fault
    throw .type
  | _ => throw .type

/-- A nullable digest. -/
def optionalSha256 (value : PyValue) (field : String) : Verified Unit :=
  match value with
  | .none => pure ()
  | value => requireSha256 value field

def isPositive : PyValue → Bool
  | .int n => 0 < n
  | _ => false

def isBool : PyValue → Bool
  | .bool _ => true
  | _ => false

def isInt : PyValue → Bool
  | .int _ => true
  | _ => false

namespace VerificationCommand

/-- mirrors src/adcp/verifier.py:46-75 -/
def validate (c : VerificationCommand) : Verified Unit := do
  guarded (c.name.truth && c.cwd.truth) (.value "VERIFICATION_COMMAND_INVALID")
  guarded ((textsOf c.argv).any fun argv => !argv.isEmpty) (.value "VERIFICATION_ARGV_INVALID")
  guarded ((textsOf c.envNames).any fun names => names.all isEnvName)
    (.value "VERIFICATION_ENV_NAMES_INVALID")
  guarded ((textsOf c.envNames).any fun names => names.Nodup)
    (.value "VERIFICATION_ENV_NAMES_INVALID")
  guarded (isPositive c.timeoutSeconds) (.value "VERIFICATION_TIMEOUT_INVALID")
  guarded (isBool c.required) (.value "VERIFICATION_REQUIRED_INVALID")
  guarded (isInt c.exitCode) (.value "VERIFICATION_EXIT_CODE_INVALID")
  optionalSha256 c.stdoutSha256 "stdout_sha256"
  optionalSha256 c.stderrSha256 "stderr_sha256"

/-- `sorted(env_names)`, of a list of texts. -/
def sortedNames (envNames : PyValue) : PyValue :=
  match textsOf envNames with
  | some names => .list ((names.insertionSort (· ≤ ·)).map .str)
  | none => envNames

/-- The command with its variables sorted. -/
def sorted (c : VerificationCommand) : VerificationCommand :=
  { c with envNames := sortedNames c.envNames }

/-- The fields under their names. -/
def fields (c : VerificationCommand) : Items :=
  [(.str (ofString "name"), c.name), (.str (ofString "argv"), c.argv),
    (.str (ofString "cwd"), c.cwd), (.str (ofString "env_names"), c.envNames),
    (.str (ofString "timeout_seconds"), c.timeoutSeconds),
    (.str (ofString "required"), c.required), (.str (ofString "exit_code"), c.exitCode),
    (.str (ofString "stdout_artifact"), c.stdoutArtifact),
    (.str (ofString "stdout_sha256"), c.stdoutSha256),
    (.str (ofString "stderr_artifact"), c.stderrArtifact),
    (.str (ofString "stderr_sha256"), c.stderrSha256)]

/-- mirrors src/adcp/verifier.py:77-90 -/
def materialize (c : VerificationCommand) : PyValue := .dict c.sorted.fields

end VerificationCommand

/-! ## Commands from values -/

def requiredNames : List String :=
  ["name", "argv", "cwd", "env_names", "timeout_seconds", "required", "exit_code"]

def optionalNames : List String :=
  ["stdout_artifact", "stdout_sha256", "stderr_artifact", "stderr_sha256"]

def fieldNames : List String := requiredNames ++ optionalNames

/-- The argument of the constructor, or its default. -/
def field (items : Items) (name : String) : PyValue := (get? items (ofString name)).getD .none

/-- `cls(**value)` of accepted arguments. -/
def commandOf (items : Items) : VerificationCommand where
  name := field items "name"
  argv := field items "argv"
  cwd := field items "cwd"
  envNames := field items "env_names"
  timeoutSeconds := field items "timeout_seconds"
  required := field items "required"
  exitCode := field items "exit_code"
  stdoutArtifact := field items "stdout_artifact"
  stdoutSha256 := field items "stdout_sha256"
  stderrArtifact := field items "stderr_artifact"
  stderrSha256 := field items "stderr_sha256"

def isFieldName : PyValue → Bool
  | .str key => (fieldNames.map ofString).contains key
  | _ => false

/-- A command, or a value that may be a mapping. -/
inductive CommandSource where
  | command (c : VerificationCommand)
  | value (v : PyValue)

/-- mirrors src/adcp/verifier.py:33-44 -/
def fromValue : CommandSource → Verified VerificationCommand
  | .command c => do
    c.validate
    pure c
  | .value (.dict items) => do
    guarded (items.all fun item => isFieldName item.1) .type
    guarded (requiredNames.all fun name => (get? items (ofString name)).isSome) .type
    (commandOf items).validate
    pure (commandOf items)
  | .value _ => throw .type

def manifestVersionKey : PyText := ofString "manifest_version"
def commandsKey : PyText := ofString "commands"

/-- mirrors src/adcp/verifier.py:93-101 -/
def buildCommandManifest (commands : List CommandSource) : Verified PyValue := do
  let materialized ← commands.mapM fun source => do
    let command ← fromValue source
    pure command.materialize
  pure (.dict [(.str manifestVersionKey, .int 1), (.str commandsKey, .list materialized)])

/-- The values of `manifest.get("commands", [])`. What is no list yields no command that could be
parsed. -/
def commandValues (manifest : Items) : Verified (List PyValue) :=
  match get? manifest commandsKey with
  | none => pure []
  | some (.list values) => pure values
  | some (.dict []) => pure []
  | some (.str []) => pure []
  | some _ => throw .type

/-- The commands of the manifest; mirrors src/adcp/verifier.py:207 -/
def commandsOf (manifest : Items) : Verified (List VerificationCommand) := do
  let values ← commandValues manifest
  values.mapM fun v => fromValue (.value v)

/-! ## The gate -/

def verdicts : List PyText := ["PASS", "FAIL", "BLOCKED_ENVIRONMENT"].map ofString

def asItems : PyValue → Option Items
  | .dict items => some items
  | _ => none

/-- mirrors src/adcp/verifier.py:198-219 -/
def validateCandidateVerificationPayload
    (commandManifest commandManifestSha256 resultJson verdict : PyText) :
    Verified (List VerificationCommand) := do
  let manifest ← (Canonical.loads commandManifest).mapError .loads
  let result ← (Canonical.loads resultJson).mapError .loads
  let text ← (Canonical.canonicalJson manifest).mapError .canonical
  guarded (text = commandManifest) (.value "CANDIDATE_VERIFICATION_MANIFEST_MISMATCH")
  let digest ← (Canonical.canonicalSha256 manifest).mapError .canonical
  guarded (ofString digest = commandManifestSha256)
    (.value "CANDIDATE_VERIFICATION_MANIFEST_MISMATCH")
  let some items := asItems manifest
    | throw (.value "CANDIDATE_VERIFICATION_MANIFEST_INVALID")
  guarded ((get? items manifestVersionKey).any fun version => pyEq version (.int 1))
    (.value "CANDIDATE_VERIFICATION_MANIFEST_INVALID")
  let commands ← commandsOf items
  guarded (commands.any fun c => c.required.truth) (.value "CANDIDATE_REQUIRED_COMMANDS_EMPTY")
  let rebuilt ← buildCommandManifest (commands.map .command)
  guarded (pyEq rebuilt manifest) (.value "CANDIDATE_VERIFICATION_MANIFEST_INVALID")
  guarded (verdicts.contains verdict) (.value "VERIFICATION_VERDICT_INVALID")
  guarded (!(verdict = ofString "PASS" && commands.any fun c =>
    c.required.truth && !pyEq c.exitCode (.int 0))) (.value "CANDIDATE_VERIFICATION_FALSE_PASS")
  let some (_ :: _) := asItems result | throw (.value "CANDIDATE_VERIFICATION_RESULT_INVALID")
  let resultText ← (Canonical.canonicalJson result).mapError .canonical
  guarded (resultText = resultJson) (.value "CANDIDATE_VERIFICATION_RESULT_INVALID")
  pure commands

/-! ## What a valid command is -/

theorem guarded_bind {α : Type} {c : Bool} {fault : VerificationFault} {f : Unit → Verified α}
    {a : α} : (guarded c fault >>= f) = .ok a ↔ c = true ∧ f () = .ok a := by
  unfold guarded
  cases c with
  | true => exact ⟨fun h => ⟨rfl, h⟩, And.right⟩
  | false => exact iff_of_false (by intro h; cases h) (by rintro ⟨h, -⟩; cases h)

/-- What `validate` accepts. -/
structure IsValid (c : VerificationCommand) (names : List PyText) : Prop where
  named : c.name.truth = true ∧ c.cwd.truth = true
  argv : (textsOf c.argv).any (fun argv => !argv.isEmpty) = true
  env : textsOf c.envNames = some names
  wellNamed : names.all isEnvName = true
  distinct : names.Nodup
  timeout : isPositive c.timeoutSeconds = true
  required : isBool c.required = true
  exitCode : isInt c.exitCode = true
  stdout : optionalSha256 c.stdoutSha256 "stdout_sha256" = .ok ()
  stderr : optionalSha256 c.stderrSha256 "stderr_sha256" = .ok ()

theorem validate_ok {c : VerificationCommand} :
    c.validate = .ok () ↔ ∃ names, IsValid c names := by
  unfold VerificationCommand.validate
  simp only [guarded_bind, Bool.and_eq_true]
  simp only [except_bind_ok]
  constructor
  · rintro ⟨hnamed, hargv, henv, hnodup, htimeout, hrequired, hexit, _, hout, herr⟩
    cases hnames : textsOf c.envNames with
    | none =>
      rw [hnames] at henv
      cases henv
    | some names =>
      rw [hnames, Option.any_some] at henv hnodup
      exact ⟨names, hnamed, hargv, hnames, henv, of_decide_eq_true hnodup, htimeout, hrequired,
        hexit, hout, herr⟩
  · rintro ⟨names, h⟩
    refine ⟨h.named, h.argv, ?_, ?_, h.timeout, h.required, h.exitCode, (), h.stdout, h.stderr⟩
    · rw [h.env]
      exact h.wellNamed
    · rw [h.env]
      exact decide_eq_true h.distinct

theorem textItems_map (names : List PyText) : textItems (names.map .str) = some names := by
  induction names with
  | nil => rfl
  | cons t ts ih => rw [List.map_cons, textItems, ih, Option.map_some]

theorem textItems_eq {items : List PyValue} {names : List PyText}
    (h : textItems items = some names) : items = names.map .str := by
  induction items generalizing names with
  | nil =>
    cases h
    rfl
  | cons v vs ih =>
    cases v with
    | str t =>
      obtain ⟨rest, hrest, rfl⟩ := Option.map_eq_some_iff.mp h
      rw [List.map_cons, ih hrest]
    | _ => cases h

theorem textsOf_eq {v : PyValue} {names : List PyText} :
    textsOf v = some names ↔ v = .list (names.map .str) := by
  constructor
  · intro h
    cases v with
    | list items => rw [textItems_eq h]
    | _ => cases h
  · rintro rfl
    exact textItems_map names

/-- The variables in order. -/
abbrev ordered (names : List PyText) : List PyText := names.insertionSort (· ≤ ·)

theorem ordered_perm (names : List PyText) : (ordered names).Perm names :=
  List.perm_insertionSort _ names

theorem ordered_ordered (names : List PyText) : ordered (ordered names) = ordered names :=
  (List.pairwise_insertionSort _ names).insertionSort_eq

theorem sorted_envNames {c : VerificationCommand} {names : List PyText} (h : IsValid c names) :
    c.sorted.envNames = .list ((ordered names).map .str) := by
  unfold VerificationCommand.sorted VerificationCommand.sortedNames
  simp only [h.env]

/-- Sorting the variables keeps a command valid. -/
theorem IsValid.sorted {c : VerificationCommand} {names : List PyText} (h : IsValid c names) :
    IsValid c.sorted (ordered names) where
  named := h.named
  argv := h.argv
  env := textsOf_eq.mpr (sorted_envNames h)
  wellNamed := by
    rw [List.all_eq_true] at *
    have hall := List.all_eq_true.mp h.wellNamed
    exact fun name hname => hall name ((ordered_perm names).mem_iff.mp hname)
  distinct := (ordered_perm names).nodup_iff.mpr h.distinct
  timeout := h.timeout
  required := h.required
  exitCode := h.exitCode
  stdout := h.stdout
  stderr := h.stderr

theorem sorted_sorted {c : VerificationCommand} {names : List PyText} (h : IsValid c names) :
    c.sorted.sorted = c.sorted := by
  have henv := sorted_envNames h.sorted
  rw [ordered_ordered, ← sorted_envNames h] at henv
  unfold VerificationCommand.sorted at henv ⊢
  simp only at henv ⊢
  rw [henv]

/-- The variables are in order already. -/
theorem sorted_eq_self {c : VerificationCommand} {names : List PyText} (h : IsValid c names) :
    c.sorted = c ↔ names.Pairwise (· ≤ ·) := by
  constructor
  · intro heq
    have henv := sorted_envNames h
    rw [heq, textsOf_eq.mp h.env] at henv
    have hnames := List.map_injective_iff.mpr (fun a b h => PyValue.str.inj h)
      (PyValue.list.inj henv)
    rw [hnames]
    exact List.pairwise_insertionSort _ names
  · intro hsorted
    have henv := sorted_envNames h
    rw [ordered, hsorted.insertionSort_eq, ← textsOf_eq.mp h.env] at henv
    unfold VerificationCommand.sorted at henv ⊢
    simp only at henv
    rw [henv]

/-! ## Parsing what was built -/

theorem commandOf_fields (c : VerificationCommand) : commandOf c.fields = c := rfl

theorem fields_named (c : VerificationCommand) :
    (c.fields.all fun item => isFieldName item.1) = true := rfl

theorem fields_complete (c : VerificationCommand) :
    (requiredNames.all fun name => (get? c.fields (ofString name)).isSome) = true := rfl

theorem fromValue_command {c c' : VerificationCommand} :
    fromValue (.command c) = .ok c' ↔ c.validate = .ok () ∧ c = c' := by
  rw [fromValue, except_bind_ok]
  constructor
  · rintro ⟨_, hvalid, h⟩
    exact ⟨hvalid, Except.ok.inj h⟩
  · rintro ⟨hvalid, rfl⟩
    exact ⟨(), hvalid, rfl⟩

theorem fromValue_value {v : PyValue} {c : VerificationCommand} :
    fromValue (.value v) = .ok c ↔ ∃ items, v = .dict items ∧
      (items.all fun item => isFieldName item.1) = true ∧
      (requiredNames.all fun name => (get? items (ofString name)).isSome) = true ∧
      (commandOf items).validate = .ok () ∧ commandOf items = c := by
  cases v with
  | dict items =>
    rw [fromValue, guarded_bind, guarded_bind, except_bind_ok]
    constructor
    · rintro ⟨hnamed, hcomplete, _, hvalid, h⟩
      exact ⟨items, rfl, hnamed, hcomplete, hvalid, Except.ok.inj h⟩
    · rintro ⟨items, heq, hnamed, hcomplete, hvalid, rfl⟩
      cases heq
      exact ⟨hnamed, hcomplete, (), hvalid, rfl⟩
  | _ =>
    refine iff_of_false (by intro h; cases h) ?_
    rintro ⟨items, h, -⟩
    cases h

/-- A written command is read as the command with its variables sorted. -/
theorem fromValue_materialize {c : VerificationCommand} (h : c.validate = .ok ()) :
    fromValue (.value c.materialize) = .ok c.sorted := by
  obtain ⟨names, hvalid⟩ := validate_ok.mp h
  exact fromValue_value.mpr ⟨_, rfl, fields_named _, fields_complete _,
    validate_ok.mpr ⟨_, hvalid.sorted⟩, commandOf_fields _⟩

theorem buildCommandManifest_ok {commands : List CommandSource} {m : PyValue} :
    buildCommandManifest commands = .ok m ↔ ∃ parsed : List VerificationCommand,
      List.Forall₂ (fun source c => fromValue source = .ok c) commands parsed ∧
      m = .dict [(.str manifestVersionKey, .int 1),
        (.str commandsKey, .list (parsed.map VerificationCommand.materialize))] := by
  unfold buildCommandManifest
  rw [except_bind_ok]
  constructor
  · rintro ⟨materialized, hmap, h⟩
    have hall := except_mapM_ok.mp hmap
    have hparsed : ∃ parsed : List VerificationCommand,
        List.Forall₂ (fun source c => fromValue source = .ok c) commands parsed ∧
        parsed.map VerificationCommand.materialize = materialized := by
      clear hmap h
      induction hall with
      | nil => exact ⟨[], .nil, rfl⟩
      | cons hsource _ ih =>
        obtain ⟨c, hc, heq⟩ := except_bind_ok.mp hsource
        obtain ⟨parsed, hall, rfl⟩ := ih
        cases heq
        exact ⟨c :: parsed, .cons hc hall, rfl⟩
    obtain ⟨parsed, hsources, rfl⟩ := hparsed
    exact ⟨parsed, hsources, (Except.ok.inj h).symm⟩
  · rintro ⟨parsed, hall, rfl⟩
    refine ⟨parsed.map VerificationCommand.materialize, except_mapM_ok.mpr ?_, rfl⟩
    rw [List.forall₂_map_right_iff]
    refine hall.imp ?_
    intro source c hc
    exact except_bind_ok.mpr ⟨c, hc, rfl⟩

/-- Parsing a manifest of valid commands gives them with their variables sorted. -/
theorem commandsOf_build {commands : List VerificationCommand}
    (h : ∀ c ∈ commands, c.validate = .ok ()) : ∃ items,
    buildCommandManifest (commands.map .command) = .ok (.dict items) ∧
    commandsOf items = .ok (commands.map VerificationCommand.sorted) := by
  refine ⟨_, buildCommandManifest_ok.mpr ⟨commands, ?_, rfl⟩, ?_⟩
  · rw [List.forall₂_map_left_iff, List.forall₂_same]
    exact fun c hc => fromValue_command.mpr ⟨h c hc, rfl⟩
  · unfold commandsOf
    rw [except_bind_ok]
    refine ⟨commands.map VerificationCommand.materialize, rfl, except_mapM_ok.mpr ?_⟩
    rw [List.forall₂_map_left_iff, List.forall₂_map_right_iff, List.forall₂_same]
    exact fun c hc => fromValue_materialize (h c hc)

/-! ## What the gate lets through -/

/-- What has been found when the commands are returned. -/
structure Passed (commandManifest verdict : PyText) (items : Items) (version rebuilt : PyValue)
    (commands : List VerificationCommand) : Prop where
  loaded : Canonical.loads commandManifest = .ok (.dict items)
  written : Canonical.canonicalJson (.dict items) = .ok commandManifest
  versioned : get? items manifestVersionKey = some version
  one : pyEq version (.int 1) = true
  parsed : commandsOf items = .ok commands
  required : ∃ c ∈ commands, c.required.truth = true
  built : buildCommandManifest (commands.map .command) = .ok rebuilt
  same : pyEq rebuilt (.dict items) = true
  exits : verdict = ofString "PASS" → ∀ c ∈ commands, c.required.truth = true →
    pyEq c.exitCode (.int 0) = true

theorem asItems_eq {v : PyValue} {items : Items} : asItems v = some items ↔ v = .dict items := by
  cases v with
  | dict items' => exact ⟨fun h => congrArg _ (Option.some.inj h), fun h => by cases h; rfl⟩
  | _ => exact iff_of_false (by intro h; cases h) (by intro h; cases h)

theorem validate_passed {commandManifest commandManifestSha256 resultJson verdict : PyText}
    {commands : List VerificationCommand}
    (h : validateCandidateVerificationPayload commandManifest commandManifestSha256 resultJson
      verdict = .ok commands) :
    ∃ items version rebuilt, Passed commandManifest verdict items version rebuilt commands := by
  unfold validateCandidateVerificationPayload at h
  obtain ⟨manifest, hmanifest, h⟩ := except_bind_ok.mp h
  obtain ⟨result, -, h⟩ := except_bind_ok.mp h
  obtain ⟨text, htext, h⟩ := except_bind_ok.mp h
  obtain ⟨hsame, h⟩ := guarded_bind.mp h
  obtain ⟨digest, -, h⟩ := except_bind_ok.mp h
  obtain ⟨-, h⟩ := guarded_bind.mp h
  cases hitems : asItems manifest with
  | none =>
    rw [hitems] at h
    cases h
  | some items =>
    rw [hitems] at h
    obtain ⟨hversion, h⟩ := guarded_bind.mp h
    obtain ⟨parsed, hparsed, h⟩ := except_bind_ok.mp h
    obtain ⟨hrequired, h⟩ := guarded_bind.mp h
    obtain ⟨rebuilt, hbuilt, h⟩ := except_bind_ok.mp h
    obtain ⟨hequal, h⟩ := guarded_bind.mp h
    obtain ⟨-, h⟩ := guarded_bind.mp h
    obtain ⟨hexits, h⟩ := guarded_bind.mp h
    have hparsed_eq : parsed = commands := by
      split at h
      · obtain ⟨resultText, -, h⟩ := except_bind_ok.mp h
        obtain ⟨-, h⟩ := guarded_bind.mp h
        exact Except.ok.inj h
      · cases h
    clear h
    subst hparsed_eq
    rw [asItems_eq.mp hitems] at hmanifest htext hequal
    rw [of_decide_eq_true hsame] at htext
    cases hget : get? items manifestVersionKey with
    | none =>
      rw [hget] at hversion
      cases hversion
    | some version =>
      rw [hget] at hversion
      refine ⟨items, version, rebuilt, except_mapError_ok.mp hmanifest,
        except_mapError_ok.mp htext, hget, hversion, hparsed, List.any_eq_true.mp hrequired, hbuilt,
        hequal, fun hpass c hc hreq => ?_⟩
      rw [hpass, decide_eq_true rfl, Bool.true_and, Bool.not_eq_true', List.any_eq_false] at hexits
      simpa [hreq] using hexits c hc

theorem get?_named {names : List String} {f : String → PyValue} {key : PyText} {v : PyValue} :
    get? (names.map fun name => (.str (ofString name), f name)) key = some v ↔
      ∃ name ∈ names, ofString name = key ∧ f name = v := by
  induction names with
  | nil => simp [get?]
  | cons name names ih =>
    rw [List.map_cons]
    by_cases hkey : ofString name = key
    · have hget : get? ((.str (ofString name), f name) ::
          names.map fun name => (.str (ofString name), f name)) key = some (f name) := by
        simp [get?, PyValue.isText, hkey]
      rw [hget]
      constructor
      · intro h
        exact ⟨name, List.mem_cons_self, hkey, Option.some.inj h⟩
      · rintro ⟨other, -, hother, rfl⟩
        rw [ofString_injective (hkey.trans hother.symm)]
    · have hget : get? ((.str (ofString name), f name) ::
          names.map fun name => (.str (ofString name), f name)) key =
          get? (names.map fun name => (.str (ofString name), f name)) key := by
        simp [get?, PyValue.isText, hkey]
      rw [hget, ih]
      constructor
      · rintro ⟨other, hother, hrest⟩
        exact ⟨other, List.mem_cons_of_mem _ hother, hrest⟩
      · rintro ⟨other, hother, hsame, hv⟩
        rcases List.mem_cons.mp hother with rfl | hother
        · exact absurd hsame hkey
        · exact ⟨other, hother, hsame, hv⟩

theorem pyEq_texts {a b : List PyText}
    (h : pyEq (.list (a.map .str)) (.list (b.map .str)) = true) : a = b := by
  have hall := pyEqItems_iff.mp h
  rw [List.forall₂_map_left_iff, List.forall₂_map_right_iff] at hall
  clear h
  induction hall with
  | nil => rfl
  | cons hab _ ih => rw [of_decide_eq_true hab, ih]

theorem pyEq_dict {a b : Items} (h : pyEq (.dict a) (.dict b) = true) :
    a.length = b.length ∧ PyValue.pyEqFields a b = true := by
  obtain ⟨hlength, hfields⟩ := Bool.and_eq_true_iff.mp h
  exact ⟨of_decide_eq_true hlength, hfields⟩

theorem named_commandOf (items : Items) : (commandOf items).fields =
    fieldNames.map fun name => (.str (ofString name), field items name) := rfl

/-- A command equal to the mapping it was read from has its variables in order. -/
theorem sorted_of_pyEq {items : Items} {names : List PyText}
    (hvalid : IsValid (commandOf items) names)
    (h : pyEq (commandOf items).materialize (.dict items) = true) :
    (commandOf items).sorted = commandOf items := by
  have hmem : (PyValue.str (ofString "env_names"), (commandOf items).sorted.envNames) ∈
      (commandOf items).sorted.fields := by
    unfold VerificationCommand.fields
    simp
  obtain ⟨w, hget, heq⟩ := pyEqFields_get (pyEq_dict h).2 hmem
  have hw : (commandOf items).envNames = w := by
    show (get? items (ofString "env_names")).getD .none = w
    rw [hget]
    rfl
  rw [sorted_envNames hvalid, ← hw, textsOf_eq.mp hvalid.env] at heq
  refine (sorted_eq_self hvalid).mpr ?_
  rw [← pyEq_texts heq]
  exact List.pairwise_insertionSort _ names

/-- Such a mapping is what the command is written as. -/
theorem materialize_sameJson {items : Items} (hdoc : Documented (.dict items))
    (hnamed : (items.all fun item => isFieldName item.1) = true)
    (hvalid : (commandOf items).validate = .ok ())
    (h : pyEq (commandOf items).materialize (.dict items) = true) :
    Documented (commandOf items).materialize ∧
      SameJson (commandOf items).materialize (.dict items) := by
  obtain ⟨names, hvalid⟩ := validate_ok.mp hvalid
  have hsorted := sorted_of_pyEq hvalid h
  have hpresent : ∀ name ∈ fieldNames, get? items (ofString name) = some (field items name) := by
    intro name hname
    have hmem : (PyValue.str (ofString name), field items name) ∈ (commandOf items).fields := by
      rw [named_commandOf]
      exact List.mem_map_of_mem hname
    unfold VerificationCommand.materialize at h
    rw [hsorted] at h
    obtain ⟨w, hget, -⟩ := pyEqFields_get (pyEq_dict h).2 hmem
    unfold field
    rw [hget]
    rfl
  unfold VerificationCommand.materialize
  rw [hsorted, named_commandOf]
  refine ⟨documented_dict.mpr ⟨?_, fun item hitem => ?_⟩, .dict (fun key => ?_) ?_⟩
  · rw [List.map_map]
    refine List.Nodup.map (fun a b hab => ?_) (by decide : fieldNames.Nodup)
    exact ofString_injective (PyValue.str.inj hab)
  · obtain ⟨name, hname, rfl⟩ := List.mem_map.mp hitem
    exact ⟨⟨_, rfl⟩, hdoc.get (hpresent name hname)⟩
  · rw [Bool.eq_iff_iff, Option.isSome_iff_exists, Option.isSome_iff_exists]
    constructor
    · rintro ⟨v, hv⟩
      obtain ⟨name, hname, rfl, -⟩ := get?_named.mp hv
      exact ⟨_, hpresent name hname⟩
    · rintro ⟨w, hw⟩
      have hkey := List.all_eq_true.mp hnamed _ (get?_mem hw)
      obtain ⟨name, hname, hsame⟩ := List.mem_map.mp (List.contains_iff_mem.mp hkey)
      exact ⟨_, get?_named.mpr ⟨name, hname, hsame, rfl⟩⟩
  · intro key v w hv hw
    obtain ⟨name, hname, rfl, rfl⟩ := get?_named.mp hv
    cases hw.symm.trans (hpresent name hname)
    exact (hdoc.get hw).sameJson

theorem sameJson_list {a b : List PyValue} (h : List.Forall₂ SameJson a b) :
    SameJson (.list a) (.list b) := by
  obtain ⟨hlength, hget⟩ := List.forall₂_iff_get.mp h
  refine .list hlength fun i v w hv hw => ?_
  obtain ⟨hi, rfl⟩ := List.getElem?_eq_some_iff.mp hv
  obtain ⟨hi', rfl⟩ := List.getElem?_eq_some_iff.mp hw
  exact hget i hi hi'

/-- The commands of a list and what they are written as. -/
theorem materialized_sameJson {commands : List VerificationCommand} {ws : List PyValue}
    (hdoc : ∀ w ∈ ws, Documented w)
    (hparsed : List.Forall₂ (fun w c => fromValue (.value w) = .ok c) ws commands)
    (hequal : List.Forall₂ (fun v w => pyEq v w = true)
      (commands.map VerificationCommand.materialize) ws) :
    (∀ v ∈ commands.map VerificationCommand.materialize, Documented v) ∧
      List.Forall₂ SameJson (commands.map VerificationCommand.materialize) ws := by
  induction hparsed with
  | nil => exact ⟨fun v hv => absurd hv List.not_mem_nil, .nil⟩
  | @cons w c ws commands hc _ ih =>
    rw [List.map_cons, List.forall₂_cons] at hequal
    obtain ⟨hw, hws⟩ := List.forall_mem_cons.mp hdoc
    obtain ⟨items, rfl, hnamed, -, hvalid, rfl⟩ := fromValue_value.mp hc
    obtain ⟨hdocument, hsame⟩ := materialize_sameJson hw hnamed hvalid hequal.1
    obtain ⟨hdocuments, hall⟩ := ih hws hequal.2
    exact ⟨List.forall_mem_cons.mpr ⟨hdocument, hdocuments⟩, .cons hsame hall⟩

theorem intWritable_one : PyJson.IntWritable 1 :=
  Nat.lt_of_lt_of_le (by decide : 1 < 10 ^ 1) (PyJson.pow_le_intLimit (by decide))

/-- The version of a manifest is no boolean. -/
def VersionNotBool (commandManifest : PyText) : Prop :=
  ∀ items b, Canonical.loads commandManifest = .ok (.dict items) →
    get? items manifestVersionKey ≠ some (.bool b)

theorem fromValue_commands {commands parsed : List VerificationCommand}
    (h : List.Forall₂ (fun source c => fromValue source = .ok c) (commands.map .command) parsed) :
    parsed = commands := by
  rw [List.forall₂_map_left_iff] at h
  induction h with
  | nil => rfl
  | cons hc _ ih => rw [ih, (fromValue_command.mp hc).2]

theorem rebuilt_text {commandManifest verdict : PyText} {items : Items}
    {version rebuilt : PyValue} {commands : List VerificationCommand}
    (h : Passed commandManifest verdict items version rebuilt commands)
    (hversion : VersionNotBool commandManifest) :
    Canonical.canonicalJson rebuilt = .ok commandManifest := by
  have hdoc : Documented (.dict items) :=
    (settled_iff.mpr ⟨commandManifest, h.written, h.loaded⟩).documented
  obtain ⟨parsed, hsources, hrebuilt⟩ := buildCommandManifest_ok.mp h.built
  obtain rfl := fromValue_commands hsources
  have hsame := h.same
  rw [hrebuilt] at hsame ⊢
  obtain ⟨hlength, hfields⟩ := pyEq_dict hsame
  have hone : version = .int 1 := by
    have hpy := h.one
    cases hv : version with
    | int n =>
      rw [hv] at hpy
      rw [of_decide_eq_true hpy]
    | bool b => exact absurd (hv ▸ h.versioned) (hversion items b h.loaded)
    | _ =>
      rw [hv] at hpy
      cases hpy
  obtain ⟨y, hy, hequal⟩ := pyEqFields_get hfields
    (List.mem_cons_of_mem _ (List.mem_singleton_self _))
  cases y with
  | list ws =>
    have hparsed := h.parsed
    unfold commandsOf commandValues at hparsed
    rw [hy] at hparsed
    obtain ⟨_, hvalues, hparsed⟩ := except_bind_ok.mp hparsed
    cases hvalues
    obtain ⟨hdocuments, hall⟩ := materialized_sameJson (documented_list.mp (hdoc.get hy))
      (except_mapM_ok.mp hparsed) (pyEqItems_iff.mp hequal)
    have hkeys : ∀ key v, get? items key = some v → key = manifestVersionKey ∨ key =
      commandsKey := by
      intro key v hv
      by_contra hother
      obtain ⟨hother, hother'⟩ := not_or.mp hother
      have hnodup : [PyValue.str key, .str manifestVersionKey, .str commandsKey].Nodup := by
        refine List.Nodup.map (f := PyValue.str) (l := [key, manifestVersionKey, commandsKey])
          (fun a b h => PyValue.str.inj h) ?_
        have hdistinct : manifestVersionKey ≠ commandsKey := by decide
        simp [hother, hother', hdistinct]
      have hsubset : [PyValue.str key, .str manifestVersionKey, .str commandsKey] ⊆
          items.map Prod.fst := by
        intro k hk
        simp only [List.mem_cons, List.not_mem_nil, or_false] at hk
        rcases hk with rfl | rfl | rfl
        · exact List.mem_map_of_mem (get?_mem hv)
        · exact List.mem_map_of_mem (get?_mem h.versioned)
        · exact List.mem_map_of_mem (get?_mem hy)
      have hle := (List.subperm_of_subset hnodup hsubset).length_le
      rw [List.length_map, ← hlength] at hle
      exact absurd hle (by simp)
    have hrebuiltGet : ∀ key v, get? [(PyValue.str manifestVersionKey, PyValue.int 1),
        (.str commandsKey, .list (parsed.map VerificationCommand.materialize))] key = some v →
        key = manifestVersionKey ∧ v = .int 1 ∨
        key = commandsKey ∧ v = .list (parsed.map VerificationCommand.materialize) := by
      intro key v hv
      have hmem := get?_mem hv
      simp only [List.mem_cons, List.not_mem_nil, or_false, Prod.mk.injEq] at hmem
      exact hmem.imp (And.imp_left PyValue.str.inj) (And.imp_left PyValue.str.inj)
    rw [← h.written]
    refine canonicalJson_congr (documented_dict.mpr ⟨?_, ?_⟩) hdoc (.dict (fun key => ?_) ?_)
    · exact List.Nodup.map (f := PyValue.str) (l := [manifestVersionKey, commandsKey])
        (fun a b h => PyValue.str.inj h) (by decide)
    · refine List.forall_mem_cons.mpr ⟨⟨⟨_, rfl⟩, ?_⟩, List.forall_mem_singleton.mpr ⟨⟨_, rfl⟩, ?_⟩⟩
      · exact ⟨.int 1, .int intWritable_one, rfl⟩
      · exact documented_list.mpr hdocuments
    · rw [Bool.eq_iff_iff, Option.isSome_iff_exists, Option.isSome_iff_exists]
      constructor
      · rintro ⟨v, hv⟩
        rcases hrebuiltGet key v hv with ⟨rfl, -⟩ | ⟨rfl, -⟩
        · exact ⟨_, h.versioned⟩
        · exact ⟨_, hy⟩
      · rintro ⟨v, hv⟩
        rcases hkeys key v hv with rfl | rfl
        · exact ⟨_, rfl⟩
        · exact ⟨_, rfl⟩
    · intro key v w hv hw
      rcases hrebuiltGet key v hv with ⟨rfl, rfl⟩ | ⟨rfl, rfl⟩
      · cases hw.symm.trans h.versioned
        rw [hone]
        exact .int 1
      · cases hw.symm.trans hy
        exact sameJson_list hall
  | _ => cases hequal

theorem required_of_truth {c : VerificationCommand} (h : c.validate = .ok ())
    (htruth : c.required.truth = true) : c.required = .bool true := by
  obtain ⟨names, hvalid⟩ := validate_ok.mp h
  have hbool := hvalid.required
  cases hr : c.required with
  | bool b =>
    rw [hr] at htruth
    cases b with
    | true => rfl
    | false => cases htruth
  | _ =>
    rw [hr] at hbool
    cases hbool

theorem exitCode_of_pyEq {c : VerificationCommand} (h : c.validate = .ok ())
    (heq : pyEq c.exitCode (.int 0) = true) : c.exitCode = .int 0 := by
  obtain ⟨names, hvalid⟩ := validate_ok.mp h
  have hint := hvalid.exitCode
  cases he : c.exitCode with
  | int n =>
    rw [he] at heq
    rw [of_decide_eq_true heq]
  | _ =>
    rw [he] at hint
    cases hint

theorem commandsOf_valid {items : Items} {commands : List VerificationCommand}
    (h : commandsOf items = .ok commands) : ∀ c ∈ commands, c.validate = .ok () := by
  obtain ⟨values, -, hvalues⟩ := except_bind_ok.mp h
  intro c hc
  obtain ⟨v, -, hv⟩ := forall₂_mem_right (except_mapM_ok.mp hvalues) hc
  obtain ⟨items', -, -, -, hvalid, rfl⟩ := fromValue_value.mp hv
  exact hvalid

/-- The variables of a command are in order. -/
def InOrder (c : VerificationCommand) : Prop :=
  ∀ names, textsOf c.envNames = some names → names.Pairwise (· ≤ ·)

/-- **A candidate verification is validated exactly.** A payload that passes has a required command,
each of its required commands left with zero,
  and its text is the canonical text of the manifest that
its commands are built into. And commands that are built into a manifest are parsed
  from it with their
variables sorted, which are built into the same manifest; they are the same commands
  if the variables
were in order. -/
theorem candidate_payload_exact :
    (∀ (commandManifest commandManifestSha256 resultJson : PyText)
      (commands : List VerificationCommand), VersionNotBool commandManifest →
      validateCandidateVerificationPayload commandManifest commandManifestSha256 resultJson
        (ofString "PASS") = .ok commands →
      (∃ c ∈ commands, c.required = .bool true) ∧
      (∀ c ∈ commands, c.required = .bool true → c.exitCode = .int 0) ∧
      ∃ items rebuilt, Canonical.loads commandManifest = .ok (.dict items) ∧
        commandsOf items = .ok commands ∧
        buildCommandManifest (commands.map .command) = .ok rebuilt ∧
        Canonical.canonicalJson rebuilt = .ok commandManifest) ∧
    ∀ (commands : List VerificationCommand) (m : PyValue),
      buildCommandManifest (commands.map .command) = .ok m →
      ∃ items, m = .dict items ∧
        commandsOf items = .ok (commands.map VerificationCommand.sorted) ∧
        buildCommandManifest ((commands.map VerificationCommand.sorted).map .command) = .ok m ∧
        (commandsOf items = .ok commands ↔ ∀ c ∈ commands, InOrder c) := by
  refine ⟨fun commandManifest sha resultJson commands hversion h => ?_, fun commands m h => ?_⟩
  · obtain ⟨items, version, rebuilt, hpassed⟩ := validate_passed h
    have hvalid := commandsOf_valid hpassed.parsed
    obtain ⟨c, hc, hrequired⟩ := hpassed.required
    refine ⟨⟨c, hc, required_of_truth (hvalid c hc) hrequired⟩, fun c hc hreq => ?_, items, rebuilt,
      hpassed.loaded, hpassed.parsed, hpassed.built, rebuilt_text hpassed hversion⟩
    exact exitCode_of_pyEq (hvalid c hc) (hpassed.exits rfl c hc (by rw [hreq]; rfl))
  · obtain ⟨parsed, hsources, rfl⟩ := buildCommandManifest_ok.mp h
    obtain rfl := fromValue_commands hsources
    have hvalid : ∀ c ∈ parsed, c.validate = .ok () := by
      rw [List.forall₂_map_left_iff, List.forall₂_same] at hsources
      exact fun c hc => (fromValue_command.mp (hsources c hc)).1
    obtain ⟨items, hbuilt, hcommands⟩ := commandsOf_build hvalid
    have hitems := Except.ok.inj (hbuilt.symm.trans h)
    refine ⟨items, hitems.symm, hcommands, ?_, ?_⟩
    · refine buildCommandManifest_ok.mpr ⟨parsed.map VerificationCommand.sorted, ?_, ?_⟩
      · rw [List.map_map, List.forall₂_map_left_iff, List.forall₂_map_right_iff,
          List.forall₂_same]
        intro c hc
        obtain ⟨names, hnames⟩ := validate_ok.mp (hvalid c hc)
        exact fromValue_command.mpr ⟨validate_ok.mpr ⟨_, hnames.sorted⟩, rfl⟩
      · rw [List.map_map]
        congr 4
        refine congrArg PyValue.list (List.map_congr_left fun c hc => ?_)
        obtain ⟨names, hnames⟩ := validate_ok.mp (hvalid c hc)
        unfold VerificationCommand.materialize
        rw [Function.comp_apply, sorted_sorted hnames]
    · rw [hcommands]
      constructor
      · intro heq c hc names hnames
        have hmap : parsed.map VerificationCommand.sorted = parsed := Except.ok.inj heq
        have hsame : c.sorted = c :=
          List.map_inj_left.mp (hmap.trans (List.map_id parsed).symm) c hc
        obtain ⟨names', hvalid'⟩ := validate_ok.mp (hvalid c hc)
        cases hnames.symm.trans hvalid'.env
        exact (sorted_eq_self hvalid').mp hsame
      · intro horder
        refine congrArg Except.ok ((List.map_congr_left fun c hc => ?_).trans (List.map_id _))
        obtain ⟨names, hnames⟩ := validate_ok.mp (hvalid c hc)
        exact (sorted_eq_self hnames).mpr (horder c hc names hnames.env)

def sampleCommand (envNames : List String) : VerificationCommand where
  name := .str (ofString "test")
  argv := .list [.str (ofString "pytest")]
  cwd := .str (ofString ".")
  envNames := .list (envNames.map fun name => .str (ofString name))
  timeoutSeconds := .int 60
  required := .bool true
  exitCode := .int 0
  stdoutArtifact := .none
  stdoutSha256 := .none
  stderrArtifact := .none
  stderrSha256 := .none

def sampleManifest : PyText :=
  ofString "\x7b\"commands\":[\x7b\"argv\":[\"pytest\"],\"cwd\":\".\",\"env_names\":[\"A\"," ++
    ofString "\"B\"],\"exit_code\":0,\"name\":\"test\",\"required\":true," ++
    ofString "\"stderr_artifact\":null,\"stderr_sha256\":null,\"stdout_artifact\":null," ++
    ofString "\"stdout_sha256\":null,\"timeout_seconds\":60\x7d],\"manifest_version\":1\x7d"

def sampleDigest : PyText :=
  ofString "339c89039ebb84ec962b7694ab2bfcca1ee0d6c0aac0c8153178514f158e328f"

theorem sampleManifest_version : VersionNotBool sampleManifest := by
  intro items b hload hget
  have hversion : (Canonical.loads sampleManifest).toOption.any (fun v =>
      ((asItems v).bind fun items => get? items manifestVersionKey).any isInt) = true := by
    decide +kernel
  rw [hload] at hversion
  simp only [Except.toOption, Option.any_some, asItems, Option.bind_some, hget] at hversion
  cases hversion

/-- One required command that left with zero; and two variables in order. -/
theorem candidate_payload_sample :
    (∃ commands, validateCandidateVerificationPayload sampleManifest sampleDigest
      (ofString "\x7b\"ok\":true\x7d") (ofString "PASS") = .ok commands ∧
      ∃ c ∈ commands, c.required = .bool true) ∧
    ∃ items, buildCommandManifest [.command (sampleCommand ["A", "B"])] = .ok (.dict items) ∧
      commandsOf items = .ok ([sampleCommand ["A", "B"]].map VerificationCommand.sorted) := by
  constructor
  · have hpass : (validateCandidateVerificationPayload sampleManifest sampleDigest
        (ofString "\x7b\"ok\":true\x7d") (ofString "PASS")).isOk = true := by
      decide +kernel
    cases h : validateCandidateVerificationPayload sampleManifest sampleDigest
        (ofString "\x7b\"ok\":true\x7d") (ofString "PASS") with
    | error f =>
      rw [h] at hpass
      cases hpass
    | ok commands =>
      exact ⟨commands, rfl,
        (candidate_payload_exact.1 _ _ _ commands sampleManifest_version h).1⟩
  · obtain ⟨items, hbuilt, -⟩ := @commandsOf_build [sampleCommand ["A", "B"]]
      (List.forall_mem_singleton.mpr rfl)
    obtain ⟨items', heq, hparsed, -⟩ := candidate_payload_exact.2 _ _ hbuilt
    cases heq
    exact ⟨items, hbuilt, hparsed⟩

/-- Two variables out of order are parsed as two in order. -/
theorem unordered_not_inverse : ∃ items,
    buildCommandManifest [.command (sampleCommand ["B", "A"])] = .ok (.dict items) ∧
    commandsOf items ≠ .ok [sampleCommand ["B", "A"]] := by
  obtain ⟨items, hbuilt, hparsed⟩ := @commandsOf_build [sampleCommand ["B", "A"]]
    (List.forall_mem_singleton.mpr rfl)
  refine ⟨items, hbuilt, fun h => ?_⟩
  rw [hparsed] at h
  have hsame := (List.cons.inj (Except.ok.inj h)).1
  have hvalid : IsValid (sampleCommand ["B", "A"]) (["B", "A"].map ofString) := by
    obtain ⟨names, hnames⟩ := validate_ok.mp (rfl : (sampleCommand ["B", "A"]).validate = .ok ())
    cases hnames.env
    exact hnames
  exact absurd ((sorted_eq_self hvalid).mp hsame) (by decide)

end Adcp.L2.Verification
