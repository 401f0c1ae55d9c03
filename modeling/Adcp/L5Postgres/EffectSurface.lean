import Adcp.L1Base.PyJson
import Adcp.L1Base.TextLines
import Adcp.L5Postgres.Pgpass
/-!
# The protected read of the effect surface

One fixed query is put to `psql`, what it prints is decoded and checked, and a public line is
written: `READ` with the counts, or `UNKNOWN` with a code.

* `executeFixedSnapshot`, `parseSnapshot`, `validatedReadResult`, `main`: the program. What the
  credential, the process and the decoder of JSON do is its `Surroundings`.
* `Protected`: the line is fail-closed and keeps every text of the database and the secret back,
  apart from a timestamp and the identities that are expected.
* `protected_iff`: it is `Protected` exactly when the texts that are copied are such texts.
-/
namespace Adcp.L5.Postgres.EffectSurface

open Adcp.L1 PyText TextLines

/-! ## The protocol -/

def schemaVersion : Int := 1
def privilegeContractName : String := "W07_FROZEN_V221"
def expectedSessionUser : String := cleanerWorkerLoginRole
def expectedCurrentUser : String := "propertyai_async_worker"
def expectedDatabase : String := cleanerDatabase
def trustedChildPath : String := "/usr/bin:/bin:/usr/sbin:/sbin"
def maxStdoutBytes : Nat := 64 * 1024

/-- mirrors src/adcp/protected_pg_effect_surface.py:43-67 -/
def reasonCodes : List String :=
  ["OK", "COUNT_SHAPE_INVALID", "UNEXPECTED_STATUS", "OBSERVED_AT_INVALID", "IDENTITY_MISMATCH",
    "TRANSACTION_NOT_READ_ONLY", "PRIVILEGE_CONTRACT_MISMATCH", "COUNT_OVERLAP_INVARIANT_INVALID",
    "POSTGRES_TIMEOUT", "BINDING_VALIDATION_FAILED", "MALFORMED_SNAPSHOT", "POSTGRES_READ_FAILED",
    "OUTPUT_LIMIT", "SENSITIVE_OUTPUT_DETECTED", "INTERNAL_READ_FAILURE", "PUBLIC_INPUT_REJECTED",
    "SOURCE_ORIGIN_MISMATCH", "ENTRYPOINT_IDENTITY_MISMATCH", "CONTROLLER_ROOT_MISMATCH",
    "CONTROLLER_HEAD_MISMATCH", "CONTROLLER_DIRTY", "SOURCE_SHADOW_MISMATCH",
    "BOOTSTRAP_INTERNAL_FAILURE"]

/-- mirrors src/adcp/protected_pg_effect_surface.py:384-388 -/
structure ControllerSourceIdentity where
  commit : PyText
  tree : PyText
  sourceClean : Bool
  entrypoint : PyText := ofString "protected_pg_effect_surface_entrypoint.py"

/-- The texts a result takes from a snapshot. -/
structure SnapshotTexts where
  observedAt : Option PyText := none
  databaseName : Option PyText := none
  sessionUser : Option PyText := none
  currentUser : Option PyText := none
  transactionReadOnly : Option PyText := none
  deriving DecidableEq

structure PublicResult where
  readStatus : String
  reasonCode : String
  source : ControllerSourceIdentity
  texts : SnapshotTexts := {}
  claimedRunningCount : Option Int := none
  pendingOutboxEffectCount : Option Int := none
  reconciliationRequiredCount : Option Int := none
  resultUnknownEffectCount : Option Int := none
  otherActionableEffectCount : Option Int := none
  unexpectedStatusCount : Option Int := none
  privilegeContract : Option String := none

/-- mirrors src/adcp/protected_pg_effect_surface.py:418-442 (`_public_result`) -/
def PublicResult.document (r : PublicResult) : PyJson :=
  .obj <| [("schema_version", PyJson.int schemaVersion),
    ("read_status", .str (ofString r.readStatus)),
    ("reason_code", .str (ofString r.reasonCode)),
    ("observed_at", .ofText r.texts.observedAt),
    ("claimed_running_count", .ofInt r.claimedRunningCount),
    ("pending_outbox_effect_count", .ofInt r.pendingOutboxEffectCount),
    ("reconciliation_required_count", .ofInt r.reconciliationRequiredCount),
    ("result_unknown_effect_count", .ofInt r.resultUnknownEffectCount),
    ("other_actionable_effect_count", .ofInt r.otherActionableEffectCount),
    ("unexpected_status_count", .ofInt r.unexpectedStatusCount),
    ("database_name", .ofText r.texts.databaseName),
    ("session_user", .ofText r.texts.sessionUser),
    ("current_user", .ofText r.texts.currentUser),
    ("controller_source_identity", .obj <| [("commit", PyJson.str r.source.commit),
      ("tree", .str r.source.tree),
      ("source_clean", .bool r.source.sourceClean),
      ("entrypoint", .str r.source.entrypoint)].map fun (k, v) => (ofString k, v)),
    ("transaction_read_only", .ofText r.texts.transactionReadOnly),
    ("privilege_contract", .ofText (r.privilegeContract.map ofString)),
    ("sensitive_payload_output", .str (ofString "NO")),
    ("mutation_exercised", .str (ofString "NO"))].map fun (k, v) => (ofString k, v)

/-- mirrors src/adcp/protected_pg_effect_surface.py:445-452 (`_unknown`) -/
def unknown (reasonCode : String) (source : ControllerSourceIdentity) : PublicResult where
  readStatus := "UNKNOWN"
  reasonCode :=
    if reasonCode ∉ reasonCodes ∨ reasonCode = "OK" then "INTERNAL_READ_FAILURE" else reasonCode
  source := source

/-! ## The read -/

/-- Why a read fails: the classes of exceptions that are told apart. -/
inductive ReadError where
  | timeout
  | binding
  | malformed
  | runtime (text : String)

/-- mirrors src/adcp/protected_pg_effect_surface.py:391-401 (`_WorkerBinding`) -/
structure WorkerBinding where
  psqlPath : String
  host : String
  port : Nat
  database : String
  loginRole : String
  effectiveRole : String
  pgpassPath : String
  secretForRedaction : PyText

structure Command where
  argv : List String
  env : List (String × String)

/-- What becomes of the process: it runs out of time, cannot be started, or ends. -/
inductive ProcessOutcome where
  | timedOut
  | unstarted
  | exited (returncode : Int) (stdout : ByteArray)

/-- What the read works with: the binding of the credential, the check of its file, the process,
and the decoder of JSON. -/
structure Surroundings where
  resolveWorkerBinding : Except ReadError WorkerBinding
  revalidate : WorkerBinding → Except ReadError Unit
  psql : Command → ProcessOutcome
  loads : List Char → Except ReadError PyJson

/-- mirrors src/adcp/protected_pg_effect_surface.py:549-572 -/
def command (b : WorkerBinding) : Command where
  argv := [b.psqlPath, "-X", "--no-psqlrc", "--no-password", "--set=ON_ERROR_STOP=1",
    "--tuples-only", "--no-align", s!"--host={b.host}", s!"--port={b.port}",
    s!"--dbname={b.database}", s!"--username={b.loginRole}"]
  env := [("PATH", trustedChildPath), ("LC_ALL", "C"), ("PGREQUIREAUTH", "scram-sha-256"),
    ("PGCONNECT_TIMEOUT", "10"), ("PGPASSFILE", b.pgpassPath),
    ("PGOPTIONS", s!"-c default_transaction_read_only=on -c role={b.effectiveRole}")]

/-- mirrors src/adcp/protected_pg_effect_surface.py:543-591 -/
def executeFixedSnapshot (env : Surroundings) (b : WorkerBinding) :
    Except ReadError (List Char) := do
  env.revalidate b
  match env.psql (command b) with
  | .timedOut => throw .timeout
  | .unstarted => throw .binding
  | .exited returncode stdout =>
    if returncode ≠ 0 then throw (.runtime "P0A_POSTGRES_READ_FAILED")
    else if stdout.size > maxStdoutBytes then throw (.runtime "P0A_POSTGRES_OUTPUT_LIMIT")
    else match String.fromUTF8? stdout with
      | none => throw .malformed
      | some text =>
        if b.secretForRedaction ≠ [] ∧ Occurs b.secretForRedaction (ofString text) then
          throw (.runtime "P0A_SENSITIVE_OUTPUT_DETECTED")
        else pure text.toList

def expectedKeys : List String :=
  ["observed_at", "claimed_running_count", "pending_outbox_effect_count",
    "reconciliation_required_count", "result_unknown_effect_count",
    "other_actionable_effect_count", "unexpected_status_count", "database_name", "session_user",
    "current_user", "transaction_read_only", "privilege_contract_ok"]

local instance keyLawful : LawfulBEq PyText := inferInstance

/-- mirrors src/adcp/protected_pg_effect_surface.py:594-617 -/
def parseSnapshot (env : Surroundings) (stdout : List Char) : Except ReadError PyJson := do
  match (splitLines stdout).filter fun line => !isBlank line with
  | [line] =>
    match ← env.loads line with
    | .obj fields =>
      if (∀ p ∈ fields, p.1 ∈ expectedKeys.map ofString) ∧
          ∀ k ∈ expectedKeys.map ofString, k ∈ fields.map Prod.fst then pure (.obj fields)
      else throw .malformed
    | _ => throw .malformed
  | _ => throw .malformed

/-- The snapshot, when there is one. -/
def snapshot (env : Surroundings) : Except ReadError PyJson := do
  let b ← env.resolveWorkerBinding
  parseSnapshot env (← executeFixedSnapshot env b)

/-! ## The ladder -/

def countFields : List String :=
  ["claimed_running_count", "pending_outbox_effect_count", "reconciliation_required_count",
    "result_unknown_effect_count", "other_actionable_effect_count"]

/-- A count: an `int` that is not negative. -/
def count? (s : PyJson) (field : String) : Option Int :=
  match s.get? field with
  | some (.int n) => if n < 0 then none else some n
  | _ => none

def text? (s : PyJson) (field : String) : Option PyText :=
  match s.get? field with
  | some (.str t) => some t
  | _ => none

def isTrue (s : PyJson) (field : String) : Bool :=
  match s.get? field with
  | some (.bool b) => b
  | _ => false

/-- The texts of a snapshot that may be copied. -/
def textsOf (s : PyJson) : SnapshotTexts where
  observedAt := text? s "observed_at"
  databaseName := text? s "database_name"
  sessionUser := text? s "session_user"
  currentUser := text? s "current_user"
  transactionReadOnly := text? s "transaction_read_only"

/-- The identities that are expected, with the timestamp of the snapshot. -/
def expectedTexts (observedAt : PyText) : SnapshotTexts where
  observedAt := some observedAt
  databaseName := some (ofString expectedDatabase)
  sessionUser := some (ofString expectedSessionUser)
  currentUser := some (ofString expectedCurrentUser)
  transactionReadOnly := some (ofString "on")

/-- mirrors src/adcp/protected_pg_effect_surface.py:620-676 -/
def validatedReadResult (s : PyJson) (source : ControllerSourceIdentity) : PublicResult :=
  if ∃ field ∈ countFields, count? s field = none then unknown "COUNT_SHAPE_INVALID" source
  else match count? s "unexpected_status_count" with
    | none => unknown "COUNT_SHAPE_INVALID" source
    | some unexpected =>
      if unexpected ≠ 0 then
        { readStatus := "UNKNOWN"
          reasonCode := "UNEXPECTED_STATUS"
          source := source
          texts := textsOf s
          unexpectedStatusCount := some unexpected
          privilegeContract :=
            if isTrue s "privilege_contract_ok" then some privilegeContractName else none }
      else match text? s "observed_at" with
        | none | some [] => unknown "OBSERVED_AT_INVALID" source
        | some observedAt =>
          if text? s "database_name" ≠ some (ofString expectedDatabase) ∨
              text? s "session_user" ≠ some (ofString expectedSessionUser) ∨
              text? s "current_user" ≠ some (ofString expectedCurrentUser) then
            unknown "IDENTITY_MISMATCH" source
          else if text? s "transaction_read_only" ≠ some (ofString "on") then
            unknown "TRANSACTION_NOT_READ_ONLY" source
          else if isTrue s "privilege_contract_ok" = false then
            unknown "PRIVILEGE_CONTRACT_MISMATCH" source
          else if (count? s "result_unknown_effect_count").getD 0 >
              (count? s "reconciliation_required_count").getD 0 then
            unknown "COUNT_OVERLAP_INVARIANT_INVALID" source
          else
            { readStatus := "READ"
              reasonCode := "OK"
              source := source
              texts := expectedTexts observedAt
              claimedRunningCount := count? s "claimed_running_count"
              pendingOutboxEffectCount := count? s "pending_outbox_effect_count"
              reconciliationRequiredCount := count? s "reconciliation_required_count"
              resultUnknownEffectCount := count? s "result_unknown_effect_count"
              otherActionableEffectCount := count? s "other_actionable_effect_count"
              unexpectedStatusCount := some 0
              privilegeContract := some privilegeContractName }

/-- mirrors src/adcp/protected_pg_effect_surface.py:688-700 -/
def ReadError.reason : ReadError → String
  | .timeout => "POSTGRES_TIMEOUT"
  | .binding => "BINDING_VALIDATION_FAILED"
  | .malformed => "MALFORMED_SNAPSHOT"
  | .runtime text =>
    if text = "P0A_POSTGRES_READ_FAILED" then "POSTGRES_READ_FAILED"
    else if text = "P0A_POSTGRES_OUTPUT_LIMIT" then "OUTPUT_LIMIT"
    else if text = "P0A_SENSITIVE_OUTPUT_DETECTED" then "SENSITIVE_OUTPUT_DETECTED"
    else "INTERNAL_READ_FAILURE"

/-- mirrors src/adcp/protected_pg_effect_surface.py:679-700 -/
def readPropertyaiPgEffectSurface (env : Surroundings) (source : ControllerSourceIdentity) :
    PublicResult :=
  match snapshot env with
  | .ok s => validatedReadResult s source
  | .error e => unknown e.reason source

/-- What `main` reports. mirrors src/adcp/protected_pg_effect_surface.py:703-712 -/
def mainResult (env : Surroundings) (input : List Char) (source : ControllerSourceIdentity) :
    PublicResult :=
  if isBlank input then readPropertyaiPgEffectSurface env source
  else unknown "PUBLIC_INPUT_REJECTED" source

/-- The line that is written for a result. -/
def PublicResult.line (r : PublicResult) : PyText := ofChars (r.document.dumps ++ ['\n'])

/-- mirrors src/adcp/protected_pg_effect_surface.py:703-717 -/
def main (env : Surroundings) (input : List Char) (source : ControllerSourceIdentity) : PyText :=
  (mainResult env input source).line

/-! ## What may be said -/

section Disclosure

/-! Which texts are timestamps is left open, and so is the text that is the secret. -/
variable (timestamp : PyText → Prop) (secret : PyText)

/-- Every text is a timestamp without the secret, or the identity that is expected. -/
structure SnapshotTexts.Public (t : SnapshotTexts) : Prop where
  observedAt : ∀ x, t.observedAt = some x → timestamp x ∧ ¬ Occurs secret x
  databaseName : ∀ x, t.databaseName = some x → x = ofString expectedDatabase
  sessionUser : ∀ x, t.sessionUser = some x → x = ofString expectedSessionUser
  currentUser : ∀ x, t.currentUser = some x → x = ofString expectedCurrentUser
  transactionReadOnly : ∀ x, t.transactionReadOnly = some x → x = ofString "on"

/-- The result with the expected identities in place of the texts it has taken. -/
def PublicResult.plain (r : PublicResult) : PublicResult :=
  { r with
    texts :=
      { observedAt := r.texts.observedAt
        databaseName := r.texts.databaseName.map fun _ => ofString expectedDatabase
        sessionUser := r.texts.sessionUser.map fun _ => ofString expectedSessionUser
        currentUser := r.texts.currentUser.map fun _ => ofString expectedCurrentUser
        transactionReadOnly := r.texts.transactionReadOnly.map fun _ => ofString "on" } }

/-- Every field of the snapshot has passed its check. -/
structure Passed (s : PyJson) : Prop where
  counts : ∀ field ∈ countFields, ∃ n, s.get? field = some (.int n) ∧ 0 ≤ n
  unexpected : s.get? "unexpected_status_count" = some (.int 0)
  observedAt : ∃ t, s.get? "observed_at" = some (.str t) ∧ t ≠ []
  databaseName : s.get? "database_name" = some (.str (ofString expectedDatabase))
  sessionUser : s.get? "session_user" = some (.str (ofString expectedSessionUser))
  currentUser : s.get? "current_user" = some (.str (ofString expectedCurrentUser))
  transactionReadOnly : s.get? "transaction_read_only" = some (.str (ofString "on"))
  privilege : s.get? "privilege_contract_ok" = some (.bool true)
  overlap : ∀ m n, s.get? "result_unknown_effect_count" = some (.int m) →
    s.get? "reconciliation_required_count" = some (.int n) → m ≤ n

/-- **The result is fail-closed and leaks nothing**: it is `READ` with `OK` only for a snapshot
whose fields have all passed, else `UNKNOWN` with a code of the protocol; it says no text of the
snapshot but a timestamp and the expected identities; and in its line the secret is part of the
protocol's own words, if it is there at all. -/
structure Protected (read : Except ReadError PyJson) (r : PublicResult) : Prop where
  verdict : (r.readStatus = "READ" ∧ r.reasonCode = "OK" ∧ ∃ s, read = .ok s ∧ Passed s) ∨
    (r.readStatus = "UNKNOWN" ∧ r.reasonCode ∈ reasonCodes ∧ r.reasonCode ≠ "OK")
  texts : r.texts.Public timestamp secret
  line : Occurs secret r.line → Occurs secret r.plain.line

/-- The texts of the snapshot are copied: a row has a status that is not expected, or all fields
have passed. -/
def Copied (s : PyJson) : Prop :=
  ((∀ field ∈ countFields, ∃ n, s.get? field = some (.int n) ∧ 0 ≤ n) ∧
    ∃ n, s.get? "unexpected_status_count" = some (.int n) ∧ 0 < n) ∨ Passed s

variable {timestamp secret}

theorem SnapshotTexts.Public.plain {r : PublicResult} (h : r.texts.Public timestamp secret) :
    r.plain = r := by
  have htexts : r.plain.texts = r.texts := by
    unfold PublicResult.plain
    have hfixed : ∀ {o : Option PyText} {t : PyText}, (∀ x, o = some x → x = t) →
        o.map (fun _ => t) = o := by
      intro o t ho
      cases o with
      | none => rfl
      | some x => rw [Option.map_some, ho x rfl]
    simp only [hfixed h.databaseName, hfixed h.sessionUser, hfixed h.currentUser,
      hfixed h.transactionReadOnly]
  rw [show r.plain = { r with texts := r.plain.texts } from rfl, htexts]

theorem public_none : SnapshotTexts.Public timestamp secret {} :=
  ⟨fun _ h => (nomatch h), fun _ h => (nomatch h), fun _ h => (nomatch h), fun _ h => (nomatch h),
    fun _ h => (nomatch h)⟩

theorem unknown_reason (code : String) (source : ControllerSourceIdentity) :
    (unknown code source).reasonCode ∈ reasonCodes ∧ (unknown code source).reasonCode ≠ "OK" := by
  have hreason : (unknown code source).reasonCode =
      if code ∉ reasonCodes ∨ code = "OK" then "INTERNAL_READ_FAILURE" else code := rfl
  rw [hreason]
  by_cases h : code ∉ reasonCodes ∨ code = "OK"
  · rw [if_pos h]
    exact ⟨by decide, by decide⟩
  · rw [if_neg h]
    obtain ⟨hcode, hok⟩ := not_or.mp h
    exact ⟨not_not.mp hcode, hok⟩

/-- A code alone gives nothing away. -/
theorem unknown_protected (read : Except ReadError PyJson) (code : String)
    (source : ControllerSourceIdentity) :
    Protected timestamp secret read (unknown code source) :=
  ⟨Or.inr ⟨rfl, unknown_reason code source⟩, public_none, id⟩

/-! ## The rungs of the ladder -/

theorem count?_eq {s : PyJson} {field : String} {n : Int} :
    count? s field = some n ↔ s.get? field = some (.int n) ∧ 0 ≤ n := by
  unfold count?
  split
  · rename_i m hm
    rw [hm]
    by_cases h : m < 0
    · rw [if_pos h]
      constructor
      · exact fun h' => (nomatch h')
      · rintro ⟨hn, hnonneg⟩
        injection hn with hn
        injection hn with hn
        omega
    · rw [if_neg h]
      constructor
      · intro hn
        injection hn with hn
        exact ⟨by rw [hn], by omega⟩
      · rintro ⟨hn, -⟩
        injection hn with hn
        injection hn with hn
        rw [hn]
  · rename_i hnot
    constructor
    · exact fun h => (nomatch h)
    · exact fun h => absurd h.1 (hnot n)

theorem count?_missing {s : PyJson} {field : String} :
    count? s field = none ↔ ¬ ∃ n, s.get? field = some (.int n) ∧ 0 ≤ n := by
  rw [Option.eq_none_iff_forall_ne_some]
  simp only [ne_eq, count?_eq, not_exists]

theorem text?_eq {s : PyJson} {field : String} {t : PyText} :
    text? s field = some t ↔ s.get? field = some (.str t) := by
  unfold text?
  split
  · rename_i t' ht
    rw [ht]
    constructor
    · intro h
      rw [Option.some.inj h]
    · intro h
      injection h with h
      injection h with h
      rw [h]
  · rename_i hnot
    constructor
    · exact fun h => (nomatch h)
    · exact fun h => absurd h (hnot t)

theorem isTrue_eq {s : PyJson} {field : String} :
    isTrue s field = true ↔ s.get? field = some (.bool true) := by
  unfold isTrue
  split
  · rename_i b hb
    rw [hb]
    constructor
    · intro h
      rw [h]
    · intro h
      injection h with h
      injection h
  · rename_i hnot
    constructor
    · exact fun h => (nomatch h)
    · exact fun h => absurd h (hnot true)

/-- A snapshot ends in a code alone, in a status that is not expected, or in a read. -/
theorem validatedReadResult_cases (s : PyJson) (source : ControllerSourceIdentity) :
    (¬ Copied s ∧ ∃ code, validatedReadResult s source = unknown code source) ∨
    (Copied s ∧ (validatedReadResult s source).texts = textsOf s ∧
      (validatedReadResult s source).readStatus = "UNKNOWN" ∧
      (validatedReadResult s source).reasonCode = "UNEXPECTED_STATUS") ∨
    (Passed s ∧ (validatedReadResult s source).texts = textsOf s ∧
      (validatedReadResult s source).readStatus = "READ" ∧
      (validatedReadResult s source).reasonCode = "OK") := by
  unfold validatedReadResult
  by_cases hcounts : ∃ field ∈ countFields, count? s field = none
  · rw [if_pos hcounts]
    obtain ⟨field, hfield, hnone⟩ := hcounts
    refine Or.inl ⟨?_, _, rfl⟩
    rintro (⟨h, -⟩ | h)
    · exact count?_missing.mp hnone (h field hfield)
    · exact count?_missing.mp hnone (h.counts field hfield)
  rw [if_neg hcounts]
  have hvalid : ∀ field ∈ countFields, ∃ n, s.get? field = some (.int n) ∧ 0 ≤ n := by
    intro field hfield
    by_cases h : count? s field = none
    · exact absurd ⟨field, hfield, h⟩ hcounts
    · exact not_not.mp (fun hn => h (count?_missing.mpr hn))
  cases hunexpected : count? s "unexpected_status_count" with
  | none =>
    refine Or.inl ⟨?_, _, rfl⟩
    rintro (⟨-, n, hn, hpos⟩ | h)
    · exact count?_missing.mp hunexpected ⟨n, hn, hpos.le⟩
    · exact count?_missing.mp hunexpected ⟨0, h.unexpected, le_refl 0⟩
  | some unexpected =>
    obtain ⟨hget, hnonneg⟩ := count?_eq.mp hunexpected
    simp only
    by_cases hzero : unexpected ≠ 0
    · rw [if_pos hzero]
      refine Or.inr (Or.inl ⟨Or.inl ⟨hvalid, unexpected, hget, ?_⟩, rfl, rfl, rfl⟩)
      omega
    · rw [if_neg hzero]
      rw [not_not.mp hzero] at hget
      -- from here on the texts are copied only when all has passed
      have hcopied : Copied s → Passed s := by
        rintro (⟨-, n, hn, hpos⟩ | h)
        · rw [hget] at hn
          injection hn with hn
          injection hn with hn
          omega
        · exact h
      cases hobserved : text? s "observed_at" with
      | none =>
        refine Or.inl ⟨fun h => ?_, _, rfl⟩
        obtain ⟨t, ht, -⟩ := (hcopied h).observedAt
        rw [text?_eq.mpr ht] at hobserved
        exact nomatch hobserved
      | some observedAt =>
        cases observedAt with
        | nil =>
          refine Or.inl ⟨fun h => ?_, _, rfl⟩
          obtain ⟨t, ht, hne⟩ := (hcopied h).observedAt
          rw [text?_eq.mpr ht] at hobserved
          exact hne (Option.some.inj hobserved)
        | cons c cs =>
          simp only
          by_cases hidentity : text? s "database_name" ≠ some (ofString expectedDatabase) ∨
              text? s "session_user" ≠ some (ofString expectedSessionUser) ∨
              text? s "current_user" ≠ some (ofString expectedCurrentUser)
          · rw [if_pos hidentity]
            refine Or.inl ⟨fun h => ?_, _, rfl⟩
            rcases hidentity with h' | h' | h'
            · exact h' (text?_eq.mpr (hcopied h).databaseName)
            · exact h' (text?_eq.mpr (hcopied h).sessionUser)
            · exact h' (text?_eq.mpr (hcopied h).currentUser)
          rw [if_neg hidentity]
          simp only [not_or, not_not] at hidentity
          obtain ⟨hdatabase, hsession, hcurrent⟩ := hidentity
          by_cases hreadonly : text? s "transaction_read_only" ≠ some (ofString "on")
          · rw [if_pos hreadonly]
            exact Or.inl ⟨fun h => hreadonly (text?_eq.mpr (hcopied h).transactionReadOnly), _, rfl⟩
          rw [if_neg hreadonly]
          by_cases hprivilege : isTrue s "privilege_contract_ok" = false
          · rw [if_pos hprivilege]
            refine Or.inl ⟨fun h => ?_, _, rfl⟩
            rw [isTrue_eq.mpr (hcopied h).privilege] at hprivilege
            exact nomatch hprivilege
          rw [if_neg hprivilege]
          by_cases hoverlap : (count? s "result_unknown_effect_count").getD 0 >
              (count? s "reconciliation_required_count").getD 0
          · rw [if_pos hoverlap]
            refine Or.inl ⟨fun h => ?_, _, rfl⟩
            obtain ⟨m, hm, hm0⟩ := hvalid "result_unknown_effect_count" (by decide)
            obtain ⟨n, hn, hn0⟩ := hvalid "reconciliation_required_count" (by decide)
            rw [count?_eq.mpr ⟨hm, hm0⟩, count?_eq.mpr ⟨hn, hn0⟩] at hoverlap
            exact absurd ((hcopied h).overlap m n hm hn) (not_le.mpr hoverlap)
          rw [if_neg hoverlap]
          refine Or.inr (Or.inr ⟨?_, ?_, rfl, rfl⟩)
          · constructor
            · exact hvalid
            · exact hget
            · exact ⟨c :: cs, text?_eq.mp hobserved, List.cons_ne_nil c cs⟩
            · exact text?_eq.mp hdatabase
            · exact text?_eq.mp hsession
            · exact text?_eq.mp hcurrent
            · exact text?_eq.mp (not_not.mp hreadonly)
            · exact isTrue_eq.mp ((Bool.not_eq_false _).mp hprivilege)
            · intro m n hm hn
              obtain ⟨m', hm', hm0⟩ := hvalid "result_unknown_effect_count" (by decide)
              obtain ⟨n', hn', hn0⟩ := hvalid "reconciliation_required_count" (by decide)
              rw [count?_eq.mpr ⟨hm', hm0⟩, count?_eq.mpr ⟨hn', hn0⟩] at hoverlap
              rw [hm] at hm'
              rw [hn] at hn'
              obtain rfl := PyJson.int.inj (Option.some.inj hm')
              obtain rfl := PyJson.int.inj (Option.some.inj hn')
              exact not_lt.mp hoverlap
          · unfold expectedTexts textsOf
            rw [hobserved, hdatabase, hsession, hcurrent, not_not.mp hreadonly]

/-- A result that has taken the texts of the snapshot is protected as they are. -/
theorem copied_protected {s : PyJson} {r : PublicResult} (htexts : r.texts = textsOf s)
    (hverdict : (r.readStatus = "READ" ∧ r.reasonCode = "OK" ∧ Passed s) ∨
      (r.readStatus = "UNKNOWN" ∧ r.reasonCode = "UNEXPECTED_STATUS")) :
    Protected timestamp secret (.ok s) r ↔ (textsOf s).Public timestamp secret := by
  rw [← htexts]
  refine ⟨Protected.texts, fun h => ⟨?_, h, ?_⟩⟩
  · rcases hverdict with ⟨hread, hok, hpassed⟩ | ⟨hunknown, hcode⟩
    · exact Or.inl ⟨hread, hok, s, rfl, hpassed⟩
    · refine Or.inr ⟨hunknown, ?_, ?_⟩
      · rw [hcode]
        decide
      · rw [hcode]
        decide
  · rw [h.plain]
    exact id

/-- **The read is protected** exactly when the texts that it copies are a timestamp without the
secret and the identities that are expected. -/
theorem protected_iff (env : Surroundings) (input : List Char) (source : ControllerSourceIdentity) :
    Protected timestamp secret (snapshot env) (mainResult env input source) ↔
      (isBlank input = true → ∀ s, snapshot env = .ok s → Copied s →
        (textsOf s).Public timestamp secret) := by
  unfold mainResult
  cases hblank : isBlank input with
  | false =>
    rw [if_neg Bool.false_ne_true]
    exact ⟨fun _ h => (nomatch h), fun _ => unknown_protected _ _ _⟩
  | true =>
    rw [if_pos rfl]
    unfold readPropertyaiPgEffectSurface
    cases hread : snapshot env with
    | error e => exact ⟨fun _ _ s h => (nomatch h), fun _ => unknown_protected _ _ _⟩
    | ok s =>
      have hs : (true = true → ∀ s', Except.ok (ε := ReadError) s = .ok s' → Copied s' →
          (textsOf s').Public timestamp secret) ↔
          (Copied s → (textsOf s).Public timestamp secret) := by
        constructor
        · exact fun h => h rfl s rfl
        · intro h _ s' hs'
          obtain rfl := Except.ok.inj hs'
          exact h
      rw [hs]
      simp only
      rcases validatedReadResult_cases s source with ⟨hnot, code, hcode⟩ |
        ⟨hcopied, htexts, hstatus, hreason⟩ | ⟨hpassed, htexts, hstatus, hreason⟩
      · rw [hcode]
        exact ⟨fun _ h => absurd h hnot, fun _ => unknown_protected _ _ _⟩
      · rw [copied_protected htexts (Or.inr ⟨hstatus, hreason⟩)]
        exact ⟨fun h _ => h, fun h => h hcopied⟩
      · rw [copied_protected htexts (Or.inl ⟨hstatus, hreason, hpassed⟩)]
        exact ⟨fun h _ => h, fun h => h (Or.inr hpassed)⟩

end Disclosure

/-! ## A row with a status that is not expected -/

theorem fromUTF8?_toUTF8 (s : String) : String.fromUTF8? s.toUTF8 = some s :=
  dif_pos s.isValidUTF8

theorem utf8Encode_size_le (cs : List Char) : cs.utf8Encode.size ≤ 4 * cs.length := by
  induction cs with
  | nil => exact Nat.zero_le _
  | cons c cs ih =>
    have hone : [c].utf8Encode.size = c.utf8Size := by
      rw [List.utf8Encode_singleton, List.size_toByteArray, String.length_utf8EncodeChar]
    have hfour := c.utf8Size_le_four
    rw [List.utf8Encode_cons, ByteArray.size_append, List.length_cons]
    omega

theorem toUTF8_size_le (cs : List Char) : (String.ofList cs).toUTF8.size ≤ 4 * cs.length :=
  utf8Encode_size_le cs

/-- One line is decoded, and is a snapshot when it has the keys. -/
theorem parseSnapshot_line {env : Surroundings} {line : List Char}
    {fields : List (PyText × PyJson)} (hplain : Plain line) (hfilled : isBlank line = false)
    (hloads : env.loads line = .ok (.obj fields))
    (hkeys : fields.map Prod.fst = expectedKeys.map ofString) :
    parseSnapshot env line = .ok (.obj fields) := by
  have hexpected : (∀ p ∈ fields, p.1 ∈ expectedKeys.map ofString) ∧
      ∀ k ∈ expectedKeys.map ofString, k ∈ fields.map Prod.fst := by
    rw [← hkeys]
    exact ⟨fun p hp => List.mem_map_of_mem hp, fun k hk => hk⟩
  have hne : line ≠ [] := by
    rintro rfl
    exact nomatch hfilled
  unfold parseSnapshot
  rw [splitLines_plain hplain hne,
    show [line].filter (fun line => !isBlank line) = [line] by simp [hfilled]]
  simp only [hloads, bind, Except.bind]
  exact if_pos hexpected

/-- What `psql` prints is handed to the decoder when it is short and without the secret. -/
theorem snapshot_printed {env : Surroundings} {b : WorkerBinding} {text : String}
    (hresolve : env.resolveWorkerBinding = .ok b) (hfile : env.revalidate b = .ok ())
    (hpsql : env.psql (command b) = .exited 0 text.toUTF8)
    (hshort : text.toUTF8.size ≤ maxStdoutBytes)
    (hsecret : ¬ Occurs b.secretForRedaction (ofString text)) :
    snapshot env = parseSnapshot env text.toList := by
  have hexecute : executeFixedSnapshot env b = .ok text.toList := by
    unfold executeFixedSnapshot
    simp only [hfile, hpsql, bind, Except.bind]
    rw [if_neg (fun h => h rfl), if_neg (not_lt.mpr hshort), fromUTF8?_toUTF8]
    exact if_neg fun h => hsecret h.2
  unfold snapshot
  rw [hresolve]
  show (executeFixedSnapshot env b >>= parseSnapshot env) = _
  rw [hexecute]
  rfl

theorem mainResult_snapshot {env : Surroundings} {s : PyJson} (h : snapshot env = .ok s)
    (source : ControllerSourceIdentity) :
    mainResult env [] source = validatedReadResult s source := by
  show readPropertyaiPgEffectSurface env source = _
  unfold readPropertyaiPgEffectSurface
  rw [h]

def sampleSecret : PyText := ofString "pw-7f3a"

/-- The name of the database holds the secret, with its first letter escaped. -/
def sampleRow : List Char :=
  ["\x7b\"observed_at\":\"2026-01-01\",", "\"claimed_running_count\":0,",
    "\"pending_outbox_effect_count\":0,", "\"reconciliation_required_count\":0,",
    "\"result_unknown_effect_count\":0,", "\"other_actionable_effect_count\":0,",
    "\"unexpected_status_count\":1,", "\"database_name\":\"\\u0070w-7f3a\",",
    "\"session_user\":null,\"current_user\":null,", "\"transaction_read_only\":\"on\",",
    "\"privilege_contract_ok\":true\x7d"].flatMap String.toList

/-- A decoder that knows one line. -/
def decodesOnly (line : List Char) (v : PyJson) : List Char → Except ReadError PyJson :=
  fun line' => if line' = line then .ok v else .error .malformed

theorem decodesOnly_self (line : List Char) (v : PyJson) : decodesOnly line v line = .ok v :=
  if_pos rfl

/-- What the row decodes to. -/
def sampleFields : List (PyText × PyJson) :=
  [("observed_at", PyJson.str (ofString "2026-01-01")), ("claimed_running_count", .int 0),
    ("pending_outbox_effect_count", .int 0), ("reconciliation_required_count", .int 0),
    ("result_unknown_effect_count", .int 0), ("other_actionable_effect_count", .int 0),
    ("unexpected_status_count", .int 1), ("database_name", .str sampleSecret),
    ("session_user", .null), ("current_user", .null),
    ("transaction_read_only", .str (ofString "on")),
    ("privilege_contract_ok", .bool true)].map fun (k, v) => (ofString k, v)

def sampleDocument : PyJson := .obj sampleFields

def sampleBinding : WorkerBinding where
  psqlPath := "/usr/bin/psql"
  host := "127.0.0.1"
  port := 5432
  database := expectedDatabase
  loginRole := expectedSessionUser
  effectiveRole := expectedCurrentUser
  pgpassPath := "/pgpass"
  secretForRedaction := sampleSecret

def sampleSurroundings : Surroundings where
  resolveWorkerBinding := .ok sampleBinding
  revalidate := fun _ => .ok ()
  psql := fun _ => .exited 0 (String.ofList sampleRow).toUTF8
  loads := decodesOnly sampleRow sampleDocument

def sampleSource : ControllerSourceIdentity where
  commit := ofString "c"
  tree := ofString "t"
  sourceClean := true

theorem sampleRow_plain : Plain sampleRow := by
  have hall : sampleRow.all (fun c => !isBoundary c) = true := by decide +kernel
  intro c hc
  exact (Bool.not_eq_true' _).mp (List.all_eq_true.mp hall c hc)

theorem sampleRow_filled : isBlank sampleRow = false := by decide +kernel

theorem sampleFields_keys : sampleFields.map Prod.fst = expectedKeys.map ofString := rfl

theorem sampleRow_snapshot : snapshot sampleSurroundings = .ok sampleDocument := by
  have hsize : (String.ofList sampleRow).toUTF8.size ≤ maxStdoutBytes := by
    have hlength : sampleRow.length ≤ 1000 := by decide +kernel
    have hfour := toUTF8_size_le sampleRow
    unfold maxStdoutBytes
    omega
  have hscan : ¬ Occurs sampleSecret (ofString (String.ofList sampleRow)) := by
    unfold ofString
    rw [String.toList_ofList]
    decide +kernel
  have hloads : sampleSurroundings.loads sampleRow = .ok sampleDocument := by
    simp only [sampleSurroundings, decodesOnly_self]
  have hprinted := @snapshot_printed sampleSurroundings sampleBinding _ rfl rfl rfl hsize hscan
  rw [hprinted, String.toList_ofList]
  exact parseSnapshot_line sampleRow_plain sampleRow_filled hloads sampleFields_keys

/-- The line of an unexpected status spells the secret out. -/
theorem escapedSecret_emitted :
    Occurs sampleSecret (main sampleSurroundings [] sampleSource) ∧
    ¬ Protected (fun _ => True) sampleSecret (snapshot sampleSurroundings)
      (mainResult sampleSurroundings [] sampleSource) := by
  have hresult := mainResult_snapshot sampleRow_snapshot sampleSource
  have hline : Occurs sampleSecret (validatedReadResult sampleDocument sampleSource).line := by
    decide +kernel
  have hplain : ¬ Occurs sampleSecret
      (validatedReadResult sampleDocument sampleSource).plain.line := by
    decide +kernel
  unfold main
  rw [hresult]
  exact ⟨hline, fun h => hplain (h.line hline)⟩

end Adcp.L5.Postgres.EffectSurface
