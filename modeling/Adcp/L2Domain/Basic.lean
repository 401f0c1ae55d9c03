import Adcp.L1Base.Tx
import Adcp.L1Base.Json
import Adcp.L1Base.Sha256
import Adcp.L2Domain.CutoverEvidence

/-!
# Errors, clock readings, and the canonical text of a payload

* `PyError`: the exceptions a modelled call can end in. `store` is
  `StoreError(code, detail)`; `integrity` is the `sqlite3.IntegrityError` of a
  key or a trigger, with the message SQLite or the trigger gives, and `check`
  that of a CHECK, with its table and the column it is about; `boundary` is
  `EvaluatorBoundaryError(code, detail)` or `ArtifactSealError(code, detail)`, and
  `controller` is `ControllerError(code, detail)`. `reconciliation` is
  `CleanerCutoverReconciliationRequired(evidence)`, and `raised` one of any other class.
* `Timestamp`: a clock reading, in microseconds since `0001-01-01T00:00:00Z`.
  `timestamp(value)` writes every reading as a UTC text of one fixed width, so
  the rows are modelled with the reading itself and a comparison of two such
  texts is the comparison of the readings.
* `canonicalJson`, `canonicalSha256`: the payload texts and their hashes.
-/
namespace Adcp.L2

open Adcp.L1

inductive PyError where
  | store (code detail : String)
  | integrity (detail : String)
  | check (table constraint : String)
  | canonicalization (detail : String)
  | overflow
  | boundary (code detail : String)
  | controller (code detail : String)
  | reconciliation (evidence : CutoverReconciliation)
  | raised (name detail : String)
  deriving DecidableEq, Repr

/-- `datetime.max` plus one microsecond. -/
def maxMicros : Nat := 315537897600000000

/-- A UTC clock reading. -/
structure Timestamp where
  micros : Nat
  bound : micros < maxMicros
  deriving DecidableEq, Repr

namespace Timestamp

instance : LT Timestamp := ⟨fun a b => a.micros < b.micros⟩
instance : LE Timestamp := ⟨fun a b => a.micros ≤ b.micros⟩
instance (a b : Timestamp) : Decidable (a < b) := inferInstanceAs (Decidable (a.micros < b.micros))
instance (a b : Timestamp) : Decidable (a ≤ b) := inferInstanceAs (Decidable (a.micros ≤ b.micros))

theorem lt_def {a b : Timestamp} : a < b ↔ a.micros < b.micros := Iff.rfl
theorem le_def {a b : Timestamp} : a ≤ b ↔ a.micros ≤ b.micros := Iff.rfl

theorem not_le {a b : Timestamp} : ¬ a ≤ b ↔ b < a := by
  rw [le_def, lt_def]; omega

theorem not_lt {a b : Timestamp} : ¬ a < b ↔ b ≤ a := by
  rw [le_def, lt_def]; omega

/-- `1970-01-01T00:00:00.000000+00:00`. -/
def epoch : Timestamp := ⟨62135596800000000, by decide⟩

/-- `value + timedelta(seconds=n)`; `OverflowError` outside the years 1 to 9999. -/
def addSeconds (t : Timestamp) (n : Int) : Except PyError Timestamp :=
  let m : Int := t.micros + 1000000 * n
  if h : 0 ≤ m ∧ m.toNat < maxMicros then .ok ⟨m.toNat, h.2⟩ else .error .overflow

theorem addSeconds_micros {t u : Timestamp} {n : Int} (h : t.addSeconds n = .ok u) :
    (u.micros : Int) = t.micros + 1000000 * n := by
  unfold addSeconds at h
  simp only at h
  split at h
  · rename_i hm
    cases h
    simp only
    omega
  · cases h

def digits (width n : Nat) : List Char :=
  let cs := Nat.toDigits 10 n
  List.replicate (width - cs.length) '0' ++ cs

/-- Year, month and day of the day number `n`, day 0 being 0001-01-01. -/
def civil (n : Nat) : Nat × Nat × Nat :=
  let z := n + 306
  let era := z / 146097
  let doe := z % 146097
  let yoe := (doe - doe / 1460 + doe / 36524 - doe / 146096) / 365
  let doy := doe - (365 * yoe + yoe / 4 - yoe / 100)
  let mp := (5 * doy + 2) / 153
  let month := if mp < 10 then mp + 3 else mp - 9
  (yoe + 400 * era + (if month ≤ 2 then 1 else 0), month, doy - (153 * mp + 2) / 5 + 1)

/-- `timestamp(value)`: ISO 8601 in UTC with microseconds. -/
def text (t : Timestamp) : String :=
  let seconds := t.micros / 1000000
  let (year, month, day) := civil (seconds / 86400)
  String.ofList (digits 4 year ++ '-' :: digits 2 month ++ '-' :: digits 2 day ++ 'T' ::
    digits 2 (seconds / 3600 % 24) ++ ':' :: digits 2 (seconds / 60 % 60) ++ ':' ::
    digits 2 (seconds % 60) ++ '.' :: digits 6 (t.micros % 1000000) ++
    ['+', '0', '0', ':', '0', '0'])

end Timestamp

/-! ## Text checks -/

/-- SQLite's `length(text)`: the characters before the first NUL. -/
def sqliteLength (s : String) : Nat := (s.toList.takeWhile (· ≠ '\x00')).length

def isLowerHex (c : Char) : Bool := ('0' ≤ c && c ≤ '9') || ('a' ≤ c && c ≤ 'f')

/-- mirrors src/adcp/domain.py:219-221 (`require_sha256`), as the condition it
lets through -/
def isSha256 (value : String) : Bool :=
  value.toList.length = 64 && value.toList.all isLowerHex

/-- A digest is 64 hexadecimal digits. -/
theorem isSha256_hexdigest (msg : List UInt8) : isSha256 (Sha256.hexdigest msg) = true := by
  have hlen : ∀ n x, (Sha256.bytesOf n x).length = n := by
    intro n x
    induction n with
    | zero => rfl
    | succ n ih => rw [Sha256.bytesOf, List.length_cons, ih]
  have hbyte : ∀ n x, ∀ b ∈ Sha256.bytesOf n x, b < 256 := by
    intro n x b hb
    induction n with
    | zero => cases hb
    | succ n ih =>
      rcases List.mem_cons.mp hb with rfl | hb
      · exact Nat.mod_lt _ (by omega)
      · exact ih hb
  have hchar : ∀ n, n < 16 → isLowerHex (Sha256.hexChar n) = true := by
    have hall : ∀ i : Fin 16, isLowerHex (Sha256.hexChar i.val) = true := by decide
    exact fun n hn => hall ⟨n, hn⟩
  unfold isSha256 Sha256.hexdigest Sha256.digest
  rw [String.toList_ofList]
  simp only [Bool.and_eq_true, decide_eq_true_eq, List.all_eq_true]
  have hpair : ∀ bs : List Nat, (bs.flatMap fun b =>
      [Sha256.hexChar (b / 16), Sha256.hexChar (b % 16)]).length = 2 * bs.length := by
    intro bs
    induction bs with
    | nil => rfl
    | cons b bs ih =>
      rw [List.flatMap_cons, List.length_append, ih]
      simp only [List.length_cons, List.length_nil]
      omega
  refine ⟨by rw [hpair]; simp [hlen], fun c hc => ?_⟩
  obtain ⟨b, hb, hc⟩ := List.mem_flatMap.mp hc
  obtain ⟨w, -, hb⟩ := List.mem_flatMap.mp hb
  have hlt := hbyte 4 w b hb
  rcases List.mem_cons.mp hc with rfl | hc
  · exact hchar _ (by omega)
  · obtain rfl := List.mem_singleton.mp hc
    exact hchar _ (Nat.mod_lt _ (by omega))

/-- mirrors src/adcp/domain.py:224-228 (`require_commit`), as the condition it
lets through -/
def isCommit (value : String) : Bool :=
  (value.toList.length = 40 || value.toList.length = 64) && value.toList.all isLowerHex

/-- The characters `str.strip()` removes. -/
def isPySpace (c : Char) : Bool :=
  c.toNat ∈ [9, 10, 11, 12, 13, 28, 29, 30, 31, 32, 133, 160, 5760, 8192, 8193, 8194, 8195, 8196,
    8197, 8198, 8199, 8200, 8201, 8202, 8232, 8233, 8239, 8287, 12288]

/-- `length(trim(s))` of SQLite, which trims spaces only. -/
def sqliteTrimLength (s : String) : Nat :=
  sqliteLength (String.ofList (s.toList.dropWhile (· = ' ')))

/-- `bool(value.strip())`. -/
def hasText (s : String) : Bool := s.toList.any fun c => !isPySpace c

variable {σ : Type}

def requireSha256 (value field : String) : Tx PyError σ Unit :=
  Tx.require (isSha256 value) (.store "INVALID_INPUT" (field ++ " must be lowercase SHA-256"))

def requireCommit (value field : String) : Tx PyError σ Unit :=
  Tx.require (isCommit value)
    (.store "INVALID_INPUT" (field ++ " must be a 40- or 64-character hex id"))

/-- `StoreError(code)`. -/
def storeError (code : String) : PyError := .store code ""

/-! ## Canonical payloads -/

/-- mirrors src/adcp/canonical.py:22-54 (`canonical_json`); a number with a
fraction is the only value of the model that `_validate` refuses -/
def canonicalJson (v : Json) : Except PyError String :=
  if v.noFloat then .ok (String.ofList v.render) else .error (.canonicalization "float forbidden")

/-- mirrors src/adcp/canonical.py:57-62 (`canonical_sha256`) -/
def canonicalSha256 (v : Json) : Except PyError String :=
  if v.noFloat then .ok (Sha256.hexdigest (Sha256.utf8 v.render))
  else .error (.canonicalization "float forbidden")

/-- The text of an object has its opening brace. -/
@[simp]
theorem sqliteLength_render_obj (fields : List (String × Json)) :
    0 < sqliteLength (String.ofList (Json.obj fields).render) := by
  unfold sqliteLength
  rw [String.toList_ofList, Json.render, List.takeWhile_cons_of_pos (by decide), List.length_cons]
  omega

/-- `json.loads(text)`; `JSONDecodeError` is a `ValueError`. -/
def jsonLoads (text : String) : Except PyError Json :=
  match Json.loads text.toList with
  | some v => .ok v
  | none => .error (.raised "JSONDecodeError" "")

/-- Python's truth value of a decoded document. -/
def truthy : Json → Bool
  | .null => false
  | .bool b => b
  | .int n => n ≠ 0
  | .float text => text ≠ "0.0" && text ≠ "-0.0"
  | .str s => s ≠ ""
  | .arr items => !items.isEmpty
  | .obj fields => !fields.isEmpty

/-- A decoded value as SQL text; `none` is `NULL`. -/
def jsonText : Json → Option String
  | .null => none
  | .str s => some s
  | .int n => some (toString n)
  | .bool b => some (if b then "1" else "0")
  | .float text => some text
  | v => some (String.ofList v.render)

end Adcp.L2
