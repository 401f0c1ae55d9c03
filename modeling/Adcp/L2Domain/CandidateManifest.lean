import Adcp.L1Base.JsonRoundTrip
import Adcp.L2Domain.CandidateVerification
import Mathlib.Data.List.Forall2

/-!
# Entries of a candidate manifest

One entry names a path that a candidate adds, modifies or deletes, with the mode
and the hash of what it holds.

* `CandidateManifestEntry.validate`: the checks `validate` makes, in its order.
* `candidatePath`: a raw path as text.
* `json`, `ofJson`: an entry as a member of the manifest, and back;
  `ofJson_sorted` is the round trip.
-/
namespace Adcp.L2

open Adcp.L1

structure CandidateManifestEntry where
  operation : String
  path : String
  mode : String
  byteLength : Option Int
  contentSha256 : Option String
  baseObjectId : Option String
  deriving DecidableEq, Repr

namespace CandidateManifestEntry

/-- mirrors src/adcp/domain.py:94-118; a text of the model encodes to UTF-8 -/
def validate (e : CandidateManifestEntry) : Except PyError Unit := do
  let invalid := PyError.store "INVALID_CANDIDATE_MANIFEST"
  guardPure (e.operation ∈ ["A", "M", "D"]) (invalid "operation")
  guardPure (e.path ≠ "" ∧ e.path.toList.head? ≠ some '/' ∧ '\\' ∉ e.path.toList)
    (.store "INVALID_CANDIDATE_PATH" e.path)
  guardPure (∀ part ∈ e.path.toList.splitOn '/', part ∉ [[], ['.'], ['.', '.']])
    (.store "INVALID_CANDIDATE_PATH" e.path)
  guardPure (e.mode ∈ ["100644", "100755", "120000"]) (invalid "mode")
  if e.operation = "D" then do
    guardPure (e.byteLength = none ∧ e.contentSha256 = none ∧ e.baseObjectId.any (· ≠ "") = true)
      (invalid "deletion binding")
    guardPure (e.baseObjectId.all isCommit = true)
      (.store "INVALID_INPUT" "base_object_id must be a 40- or 64-character hex id")
  else do
    guardPure (e.byteLength.any (0 ≤ ·) = true) (invalid "byte_length")
    guardPure (e.contentSha256 ≠ none) (invalid "content_sha256")
    guardPure (e.contentSha256.all isSha256 = true)
      (.store "INVALID_INPUT" "content_sha256 must be lowercase SHA-256")

def jsonInt : Option Int → Json
  | some n => .int n
  | none => .null

/-- mirrors src/adcp/controller.py:243-247 -/
def json (e : CandidateManifestEntry) : Json := .obj
  [("operation", .str e.operation), ("path", .str e.path), ("mode", .str e.mode),
   ("byte_length", jsonInt e.byteLength), ("content_sha256", .ofOption e.contentSha256),
   ("base_object_id", .ofOption e.baseObjectId)]

def fields : List String :=
  ["operation", "path", "mode", "byte_length", "content_sha256", "base_object_id"]

def text? : Json → Option (Option String)
  | .str s => some (some s)
  | .null => some none
  | _ => none

def int? : Json → Option (Option Int)
  | .int n => some (some n)
  | .null => some none
  | _ => none

/-- `CandidateManifestEntry(**entry)`. A member of another type than the field's
fails in the call or in a later check; here it fails at once.
mirrors src/adcp/controller.py:288 -/
def ofJson (v : Json) : Except PyError CandidateManifestEntry :=
  match v with
  | .obj members =>
    if members.all fun p => p.1 ∈ fields then
      match (v.get? "operation").bind Json.asStr?, (v.get? "path").bind Json.asStr?,
        (v.get? "mode").bind Json.asStr?, (v.get? "byte_length").bind int?,
        (v.get? "content_sha256").bind text?, ((v.get? "base_object_id").getD .null |> text?) with
      | some operation, some path, some mode, some length, some sha, some base =>
        .ok ⟨operation, path, mode, length, sha, base⟩
      | _, _, _, _, _, _ => .error (typeError "CandidateManifestEntry")
    else .error (typeError "CandidateManifestEntry")
  | _ => .error (typeError "CandidateManifestEntry")

end CandidateManifestEntry

/-- A `StoreError` raised again as a `ControllerError`. -/
def asControllerError : PyError → PyError
  | .store code detail => .controller code detail
  | e => e

/-- `raw.decode("utf-8", "strict")`. -/
def decodeStrict (raw : List UInt8) : Except PyError String :=
  match Sha256.ofUtf8 raw with
  | some cs => .ok (String.ofList cs)
  | none => .error (.raised "UnicodeDecodeError" "")

/-- The text of a path that a candidate may hold; the entry it is put in is only
there for the checks on the path.
mirrors src/adcp/controller.py:168-180 -/
def candidatePath (raw : List UInt8) : Except PyError String := do
  let value ← (decodeStrict raw).mapError fun _ =>
    .controller "INVALID_CANDIDATE_PATH" "UTF-8 required"
  (CandidateManifestEntry.validate
    { operation := "A", path := value, mode := "100644", byteLength := some 0
      contentSha256 := some (String.ofList (List.replicate 64 '0')), baseObjectId := none }).mapError
    asControllerError
  guardPure (¬ (['.', 'g', 'i', 't', '/'] <+: value.toList ∨ value = ".git"))
    (.controller "INVALID_CANDIDATE_PATH" value)
  pure value

/-! ## What they do -/

theorem guardPure_ok {c : Prop} [Decidable c] {e : PyError} {u : Unit} :
    guardPure c e = .ok u ↔ c := by
  unfold guardPure
  split <;> simp_all

theorem guardPure_bind_ok {α : Type} {c : Prop} [Decidable c] {e : PyError}
    {f : Unit → Except PyError α} {a : α} : (guardPure c e >>= f) = .ok a ↔ c ∧ f () = .ok a := by
  rw [except_bind_ok]
  refine ⟨?_, fun h => ⟨(), guardPure_ok.mpr h.1, h.2⟩⟩
  rintro ⟨u, hc, h⟩
  exact ⟨guardPure_ok.mp hc, h⟩

theorem mapError_ok {α : Type} {x : Except PyError α} {f : PyError → PyError} {a : α} :
    x.mapError f = .ok a ↔ x = .ok a := by
  cases x <;> simp [Except.mapError]

theorem decodeStrict_ok {raw : List UInt8} {path : String} :
    decodeStrict raw = .ok path ↔ Sha256.utf8 path.toList = raw := by
  unfold decodeStrict
  refine ⟨fun h => ?_, fun h => ?_⟩
  · cases hraw : Sha256.ofUtf8 raw with
    | none =>
      rw [hraw] at h
      cases h
    | some cs =>
      rw [hraw] at h
      cases h
      rw [String.toList_ofList]
      exact Sha256.utf8_ofUtf8 hraw
  · rw [← h, Sha256.ofUtf8_utf8]
    simp only [String.ofList_toList]

/-- A path is the text of its bytes. -/
theorem candidatePath_ok {raw : List UInt8} {path : String} (h : candidatePath raw = .ok path) :
    Sha256.utf8 path.toList = raw := by
  unfold candidatePath at h
  obtain ⟨value, hvalue, h⟩ := except_bind_ok.mp h
  obtain ⟨_, -, h⟩ := except_bind_ok.mp h
  obtain ⟨-, h⟩ := guardPure_bind_ok.mp h
  obtain rfl : value = path := Except.ok.inj h
  exact decodeStrict_ok.mp (mapError_ok.mp hvalue)

namespace CandidateManifestEntry

theorem validate_mode {e : CandidateManifestEntry} (h : e.validate = .ok ()) :
    e.mode ∈ ["100644", "100755", "120000"] := by
  unfold validate at h
  obtain ⟨-, h⟩ := guardPure_bind_ok.mp h
  obtain ⟨-, h⟩ := guardPure_bind_ok.mp h
  obtain ⟨-, h⟩ := guardPure_bind_ok.mp h
  exact (guardPure_bind_ok.mp h).1

theorem json_noFloat (e : CandidateManifestEntry) : e.json.noFloat = true := by
  obtain ⟨operation, path, mode, length, sha, base⟩ := e
  cases length <;> cases sha <;> cases base <;> rfl

theorem json_distinctKeys (e : CandidateManifestEntry) : e.json.distinctKeys := by
  obtain ⟨operation, path, mode, length, sha, base⟩ := e
  refine ⟨by simp, ?_⟩
  cases length <;> cases sha <;> cases base <;>
    simp [Json.distinctKeysFields, Json.distinctKeys, jsonInt, Json.ofOption]

/-- An entry of a manifest that was written and read back. -/
theorem ofJson_sorted (e : CandidateManifestEntry) : ofJson e.json.sorted = .ok e := by
  have hget := Json.get?_sorted (json_distinctKeys e)
  have hobj : ∃ members, e.json.sorted = .obj members ∧
      (members.all fun p => p.1 ∈ fields) = true := by
    refine ⟨_, rfl, List.all_eq_true.mpr fun p hp => ?_⟩
    have hp := (Json.sortKeys_perm _).mem_iff.mp hp
    rw [Json.sortedFields_eq] at hp
    obtain ⟨q, hq, rfl⟩ := List.mem_map.mp hp
    simp only [List.mem_cons, List.not_mem_nil, or_false] at hq
    rcases hq with rfl | rfl | rfl | rfl | rfl | rfl <;> simp [fields]
  obtain ⟨members, hmembers, hall⟩ := hobj
  rw [hmembers] at hget ⊢
  simp only [ofJson, hall, if_true, hget]
  obtain ⟨operation, path, mode, length, sha, base⟩ := e
  cases length <;> cases sha <;> cases base <;>
    simp [json, Json.get?, Json.lookupKey, Json.sorted, Json.asStr?, jsonInt, Json.ofOption, text?,
      int?]

end CandidateManifestEntry

end Adcp.L2
