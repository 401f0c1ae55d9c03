import Adcp.L1Base.JsonRoundTrip
import Adcp.L2Domain.States

/-!
# Durable evaluator results

Decoding the bytes of a sealed Evaluator result: canonical JSON, or the one
historical profile whose timings are float seconds, which are turned into whole
milliseconds and nothing else.

* `decodeDurable_parsed`: what is decoded was parsed from the bytes as an
  object, and every member except the regression results is the parsed one.
-/
namespace Adcp.L2

open Adcp.L1

/-- `raise EvaluatorBoundaryError(code, detail)` -/
def boundaryError {α : Type} (code detail : String) : Except PyError α :=
  .error (.boundary code detail)

/-- A guard that raises `EvaluatorBoundaryError(code, detail)`. -/
def expect (c : Prop) [Decidable c] (code detail : String) : Except PyError Unit :=
  if c then .ok () else boundaryError code detail

/-- mirrors src/adcp/evaluator.py:32-40 -/
def evaluationVerdicts : List String :=
  ["PASS", "REWORK_REQUIRED", "DESIGN_REVIEW_REQUIRED", "BLOCKED_ENVIRONMENT", "BLOCKED_EVIDENCE"]

def isVerdict (v : Json) : Bool :=
  match v with
  | .str s => s ∈ evaluationVerdicts
  | _ => false

def legacySchema : String := "R4_EVAL01_DURABLE_EVIDENCE_V1"

/-! ## Timings -/

def isMillis : Json → Bool
  | .int n => 0 ≤ n
  | _ => false

mutual

/-- mirrors src/adcp/evaluator.py:140-161 -/
def validateEvaluationTiming (path : String) : Json → Except PyError Unit
  | .arr items => validateTimingItems path 0 items
  | .obj fields => validateTimingFields path fields
  | _ => .ok ()

def validateTimingItems (path : String) : Nat → List Json → Except PyError Unit
  | _, [] => .ok ()
  | n, v :: vs => do
    validateEvaluationTiming (path ++ "[" ++ toString n ++ "]") v
    validateTimingItems path (n + 1) vs

def validateTimingFields (path : String) : List (String × Json) → Except PyError Unit
  | [] => .ok ()
  | (k, v) :: rest => do
    expect (k ≠ "elapsed_seconds") "EVALUATION_TIMING_REPRESENTATION_INVALID"
      (path ++ "." ++ k ++ " must use integer elapsed_ms")
    expect (k = "elapsed_ms" → isMillis v = true) "EVALUATION_TIMING_REPRESENTATION_INVALID"
      (path ++ "." ++ k ++ " must be a non-negative integer")
    validateEvaluationTiming (path ++ "." ++ k) v
    validateTimingFields path rest

end

mutual

/-- mirrors src/adcp/evaluator.py:361-375 -/
def rejectFloats (path : String) : Json → Except PyError Unit
  | .float _ => boundaryError "EVALUATION_LEGACY_FLOAT_OUTSIDE_TIMING" path
  | .arr items => rejectFloatsItems path 0 items
  | .obj fields => rejectFloatsFields path fields
  | _ => .ok ()

def rejectFloatsItems (path : String) : Nat → List Json → Except PyError Unit
  | _, [] => .ok ()
  | n, v :: vs => do
    rejectFloats (path ++ "[" ++ toString n ++ "]") v
    rejectFloatsItems path (n + 1) vs

def rejectFloatsFields (path : String) : List (String × Json) → Except PyError Unit
  | [] => .ok ()
  | (k, v) :: rest => do
    expect (k ≠ "elapsed_seconds") "EVALUATION_LEGACY_TIMING_PATH_UNSUPPORTED" (path ++ "." ++ k)
    rejectFloats (path ++ "." ++ k) v
    rejectFloatsFields path rest

end

/-- The digits, the number of them behind the point, and the exponent of a
float's text. -/
def decimalParts (cs : List Char) : Nat × Nat × Int :=
  let (whole, rest) := Json.takeDigits cs
  let (frac, rest) := match rest with
    | '.' :: r => Json.takeDigits r
    | r => ([], r)
  let exponent : Int := match rest with
    | 'e' :: '-' :: r => -(Json.digitsVal 0 r : Int)
    | 'e' :: '+' :: r => Json.digitsVal 0 r
    | 'e' :: r => Json.digitsVal 0 r
    | _ => 0
  (Json.digitsVal 0 (whole ++ frac), frac.length, exponent)

/-- `Decimal(text) * 1000` when it is a whole number. -/
def wholeMilliseconds (text : String) : Option Nat :=
  let (digits, places, exponent) := decimalParts text.toList
  let shift : Int := exponent + 3 - places
  if 0 ≤ shift then some (digits * 10 ^ shift.toNat)
  else if digits % 10 ^ (-shift).toNat = 0 then some (digits / 10 ^ (-shift).toNat)
  else none

def isFinite (text : String) : Bool := !(text.toList.any fun c => c = 'n')

/-- `floatRepr` is `repr` of the float a literal denotes.
mirrors src/adcp/evaluator.py:337-358 -/
def legacySecondsToMilliseconds (floatRepr : String → String) (path : String) :
    Json → Except PyError Int
  | .float text =>
    let repr := floatRepr text
    if isFinite repr = false then
      boundaryError "EVALUATION_LEGACY_TIMING_INVALID" (path ++ " must be a finite float")
    else match repr.toList with
      | '-' :: digits =>
        if (decimalParts digits).1 = 0 then .ok 0
        else boundaryError "EVALUATION_LEGACY_TIMING_INVALID" (path ++ " must be non-negative")
      | _ => match wholeMilliseconds repr with
        | some n => .ok n
        | none => boundaryError "EVALUATION_LEGACY_TIMING_AMBIGUOUS"
            (path ++ " is not an exact whole millisecond")
  | _ => boundaryError "EVALUATION_LEGACY_TIMING_INVALID" (path ++ " must be a finite float")

/-- `fields` without the key `k`. -/
def dropKey (k : String) (fields : List (String × Json)) : List (String × Json) :=
  fields.filter fun p => p.1 ≠ k

/-- mirrors src/adcp/evaluator.py:390-409 -/
def normalizeRegression (floatRepr : String → String) (path : String) :
    Json → Except PyError Json
  | .obj fields => do
    match Json.lookupKey "elapsed_seconds" fields with
    | none => boundaryError "EVALUATION_LEGACY_TIMING_SURFACE_INVALID" (path ++ ".elapsed_seconds")
    | some seconds => do
      expect (Json.lookupKey "elapsed_ms" fields).isNone "EVALUATION_LEGACY_TIMING_AMBIGUOUS" path
      let ms ← legacySecondsToMilliseconds floatRepr (path ++ ".elapsed_seconds") seconds
      let item := Json.obj (dropKey "elapsed_seconds" fields ++ [("elapsed_ms", .int ms)])
      rejectFloats path item
      pure item
  | _ => boundaryError "EVALUATION_LEGACY_TIMING_SURFACE_INVALID" path

def normalizeRegressions (floatRepr : String → String) (field : String) :
    Nat → List Json → Except PyError (List Json)
  | _, [] => .ok []
  | n, v :: vs => do
    let item ← normalizeRegression floatRepr ("$." ++ field ++ "[" ++ toString n ++ "]") v
    let rest ← normalizeRegressions floatRepr field (n + 1) vs
    pure (item :: rest)

/-- mirrors src/adcp/evaluator.py:378-410 -/
def normalizeLegacyRegressionResults (floatRepr : String → String) (field : String)
    (fields : List (String × Json)) : Except PyError Json :=
  match Json.lookupKey field fields with
  | some (.arr regressions) => do
    rejectFloats "$" (.obj (dropKey field fields))
    let items ← normalizeRegressions floatRepr field 0 regressions
    pure (.obj (dropKey field fields ++ [(field, .arr items)]))
  | _ => boundaryError "EVALUATION_LEGACY_TIMING_SURFACE_INVALID" ("$." ++ field)

/-! ## Decoding -/

mutual

/-- The value with every float written as its `repr`. -/
def reprFloats (floatRepr : String → String) : Json → Json
  | .float text => .float (floatRepr text)
  | .arr items => .arr (reprFloatsItems floatRepr items)
  | .obj fields => .obj (reprFloatsFields floatRepr fields)
  | v => v

def reprFloatsItems (floatRepr : String → String) : List Json → List Json
  | [] => []
  | v :: vs => reprFloats floatRepr v :: reprFloatsItems floatRepr vs

def reprFloatsFields (floatRepr : String → String) : List (String × Json) → List (String × Json)
  | [] => []
  | (k, v) :: rest => (k, reprFloats floatRepr v) :: reprFloatsFields floatRepr rest

end

mutual

/-- Every float of the value satisfies `p`. -/
def allFloats (p : String → Bool) : Json → Bool
  | .float text => p text
  | .arr items => allFloatsItems p items
  | .obj fields => allFloatsFields p fields
  | _ => true

def allFloatsItems (p : String → Bool) : List Json → Bool
  | [] => true
  | v :: vs => allFloats p v && allFloatsItems p vs

def allFloatsFields (p : String → Bool) : List (String × Json) → Bool
  | [] => true
  | (_, v) :: rest => allFloats p v && allFloatsFields p rest

end

def isConstant (text : String) : Bool := text ∈ ["NaN", "Infinity", "-Infinity"]

/-- `json.loads(raw, parse_constant=_reject_json_constant)` of UTF-8 bytes. -/
def loadsBytes (code detail : String) (raw : List UInt8) : Except PyError Json :=
  match (Sha256.ofUtf8 raw).bind Json.loads with
  | some v =>
    if allFloats (fun text => !isConstant text) v then .ok v
    else boundaryError "EVALUATOR_RESULT_ARTIFACT_INVALID" "non-finite number"
  | none => boundaryError code detail

/-- `v in EVALUATION_VERDICTS`, which needs a hashable `v`. -/
def requireVerdict (v : Json) : Except PyError Unit :=
  match v with
  | .arr _ | .obj _ => .error (.raised "TypeError" "unhashable type")
  | v => if isVerdict v then .ok () else boundaryError "EVALUATOR_RESULT_ARTIFACT_VERDICT_INVALID" ""

/-- The result is canonical JSON.
mirrors src/adcp/evaluator.py:426-430 -/
def checkCanonical (fields : List (String × Json)) : Except PyError Json := do
  validateEvaluationTiming "$" (.obj fields)
  match Json.lookupKey "verdict" fields with
  | some v => do
    requireVerdict v
    pure (.obj fields)
  | none => pure (.obj fields)

/-- The result is the historical profile, or nothing.
mirrors src/adcp/evaluator.py:431-452 -/
def checkLegacy (floatRepr : String → String) (raw : List UInt8) (fields : List (String × Json)) :
    Except PyError Json := do
  expect (Json.strIs (Json.lookupKey "schema" fields) legacySchema)
    "EVALUATOR_RESULT_ARTIFACT_NOT_CANONICAL" ""
  let historical := reprFloats floatRepr (.obj fields)
  expect (allFloats isFinite historical) "EVALUATOR_RESULT_ARTIFACT_INVALID" ""
  expect (Sha256.utf8 historical.render = raw) "EVALUATOR_RESULT_ARTIFACT_NOT_CANONICAL" ""
  let normalized ← normalizeLegacyRegressionResults floatRepr "independent_regression_results" fields
  validateEvaluationTiming "$" normalized
  requireVerdict ((normalized.get? "verdict").getD .null)
  let _ ← canonicalJson normalized
  pure normalized

/-- `decode_durable_evaluator_result_bytes_for_recovery`
mirrors src/adcp/evaluator.py:413-452 -/
def decodeDurableEvaluatorResultBytes (floatRepr : String → String) (raw : List UInt8) :
    Except PyError Json := do
  let parsed ← loadsBytes "EVALUATOR_RESULT_ARTIFACT_INVALID" "" raw
  match parsed with
  | .obj fields =>
    if (Json.obj fields).noFloat ∧ Sha256.utf8 (Json.obj fields).render = raw then
      checkCanonical fields
    else checkLegacy floatRepr raw fields
  | _ => boundaryError "EVALUATOR_RESULT_ARTIFACT_INVALID" "object required"

/-! ## What decoding keeps -/

theorem lookupKey_dropKey {k k' : String} (h : k ≠ k') (fields : List (String × Json)) :
    Json.lookupKey k (dropKey k' fields) = Json.lookupKey k fields := by
  induction fields with
  | nil => rfl
  | cons p rest ih =>
    obtain ⟨q, v⟩ := p
    simp only [dropKey, ne_eq, decide_not] at ih
    by_cases hq : q = k'
    · subst hq
      have hne : ¬ q = k := fun he => h he.symm
      simpa [Json.lookupKey, dropKey, hne] using ih
    · simp [Json.lookupKey, dropKey, hq, ih]

theorem lookupKey_append {k k' : String} (h : k ≠ k') (fields : List (String × Json)) (v : Json) :
    Json.lookupKey k (fields ++ [(k', v)]) = Json.lookupKey k fields := by
  induction fields with
  | nil =>
    have hne : ¬ k' = k := fun he => h he.symm
    simp [Json.lookupKey, hne]
  | cons p rest ih =>
    obtain ⟨q, w⟩ := p
    simp [Json.lookupKey, ih]

/-- Normalizing touches the one member it is about. -/
theorem normalizeLegacy_get {floatRepr : String → String} {field k : String}
    {fields : List (String × Json)} {v : Json} (hk : k ≠ field)
    (h : normalizeLegacyRegressionResults floatRepr field fields = .ok v) :
    v.get? k = Json.lookupKey k fields := by
  unfold normalizeLegacyRegressionResults at h
  split at h
  · obtain ⟨-, -, h⟩ := except_bind_ok.mp h
    obtain ⟨items, -, h⟩ := except_bind_ok.mp h
    cases h
    show Json.lookupKey k _ = _
    rw [lookupKey_append hk, lookupKey_dropKey hk]
  · cases h

/-- What is decoded was parsed from the bytes as an object, and keeps every
member of it but the regression results. -/
theorem decodeDurable_parsed {floatRepr : String → String} {raw : List UInt8} {v : Json}
    (h : decodeDurableEvaluatorResultBytes floatRepr raw = .ok v) :
    ∃ fields, (Sha256.ofUtf8 raw).bind Json.loads = some (.obj fields) ∧
      ∀ k, k ≠ "independent_regression_results" → v.get? k = Json.lookupKey k fields := by
  unfold decodeDurableEvaluatorResultBytes at h
  obtain ⟨parsed, hp, h⟩ := except_bind_ok.mp h
  have hloads : (Sha256.ofUtf8 raw).bind Json.loads = some parsed := by
    unfold loadsBytes at hp
    split at hp
    · split at hp <;> cases hp
      assumption
    · cases hp
  split at h
  · rename_i fields
    refine ⟨fields, hloads, fun k hk => ?_⟩
    split at h
    · unfold checkCanonical at h
      obtain ⟨-, -, h⟩ := except_bind_ok.mp h
      split at h
      · obtain ⟨-, -, h⟩ := except_bind_ok.mp h
        cases h
        rfl
      · cases h
        rfl
    · unfold checkLegacy at h
      obtain ⟨-, -, h⟩ := except_bind_ok.mp h
      obtain ⟨-, -, h⟩ := except_bind_ok.mp h
      obtain ⟨-, -, h⟩ := except_bind_ok.mp h
      obtain ⟨normalized, hn, h⟩ := except_bind_ok.mp h
      obtain ⟨-, -, h⟩ := except_bind_ok.mp h
      obtain ⟨-, -, h⟩ := except_bind_ok.mp h
      obtain ⟨-, -, h⟩ := except_bind_ok.mp h
      cases h
      exact normalizeLegacy_get hk hn
  · cases h

/-! ## No key twice -/

theorem dropKey_members {k : String} {fields : List (String × Json)} (h : Json.Members fields) :
    Json.Members (dropKey k fields) := by
  refine ⟨h.1.sublist (List.filter_sublist.map _), fun p hp => ?_⟩
  exact h.2 p (List.mem_of_mem_filter hp)

theorem append_members {k : String} {v : Json} {fields : List (String × Json)}
    (h : Json.Members fields) (hfree : Json.lookupKey k fields = none) (hv : v.distinctKeys) :
    Json.Members (fields ++ [(k, v)]) := by
  have hnew : k ∉ fields.map Prod.fst := by
    intro hmem
    obtain ⟨⟨k', w⟩, hp, rfl⟩ := List.mem_map.mp hmem
    rw [(Json.lookupKey_eq_some h.1).mpr hp] at hfree
    cases hfree
  refine ⟨?_, fun p hp => ?_⟩
  · rw [List.map_append, List.nodup_append]
    refine ⟨h.1, by simp, fun a ha b hb => ?_⟩
    rw [List.map_singleton, List.mem_singleton] at hb
    subst hb
    rintro rfl
    exact hnew ha
  · rcases List.mem_append.mp hp with hp | hp
    · exact h.2 p hp
    · rw [List.mem_singleton.mp hp]
      exact hv

theorem lookupKey_dropped (k : String) (fields : List (String × Json)) :
    Json.lookupKey k (dropKey k fields) = none := by
  induction fields with
  | nil => rfl
  | cons p rest ih =>
    obtain ⟨q, w⟩ := p
    by_cases hq : q = k
    · simpa [dropKey, hq] using ih
    · simp only [dropKey, ne_eq, decide_not] at ih
      simp [dropKey, Json.lookupKey, hq, ih]

theorem normalizeRegression_distinctKeys {floatRepr : String → String} {path : String}
    {item out : Json} (hd : item.distinctKeys) (h : normalizeRegression floatRepr path item = .ok out) :
    out.distinctKeys := by
  unfold normalizeRegression at h
  split at h
  · rename_i fields
    have hm : Json.Members fields := ⟨hd.1, Json.distinctKeysFields_iff.mp hd.2⟩
    split at h
    · cases h
    · obtain ⟨_, hfree, h⟩ := except_bind_ok.mp h
      obtain ⟨ms, -, h⟩ := except_bind_ok.mp h
      obtain ⟨-, -, h⟩ := except_bind_ok.mp h
      cases h
      have hd : (Json.int ms).distinctKeys := trivial
      refine (append_members (dropKey_members hm) ?_ hd).obj
      rw [lookupKey_dropKey (by simp)]
      unfold expect at hfree
      split at hfree
      · rename_i hnone
        simpa using hnone
      · cases hfree
  · cases h

theorem normalizeRegressions_distinctKeys {floatRepr : String → String} {field : String} {n : Nat}
    {items out : List Json} (hd : ∀ v ∈ items, v.distinctKeys)
    (h : normalizeRegressions floatRepr field n items = .ok out) : ∀ v ∈ out, v.distinctKeys := by
  induction items generalizing n out with
  | nil =>
    cases h
    simp
  | cons v vs ih =>
    obtain ⟨item, hitem, h⟩ := except_bind_ok.mp h
    obtain ⟨rest, hrest, h⟩ := except_bind_ok.mp h
    cases h
    intro w hw
    rcases List.mem_cons.mp hw with rfl | hw
    · exact normalizeRegression_distinctKeys (hd v (List.mem_cons_self ..)) hitem
    · exact ih (fun x hx => hd x (List.mem_cons_of_mem _ hx)) hrest w hw

theorem normalizeLegacy_distinctKeys {floatRepr : String → String} {field : String}
    {fields : List (String × Json)} {v : Json} (hm : Json.Members fields)
    (h : normalizeLegacyRegressionResults floatRepr field fields = .ok v) : v.distinctKeys := by
  unfold normalizeLegacyRegressionResults at h
  split at h
  · rename_i regressions hfound
    obtain ⟨-, -, h⟩ := except_bind_ok.mp h
    obtain ⟨items, hitems, h⟩ := except_bind_ok.mp h
    cases h
    have hin := hm.2 _ ((Json.lookupKey_eq_some hm.1).mp hfound)
    have hitem : (Json.arr items).distinctKeys := Json.distinctKeysItems_iff.mpr
      (normalizeRegressions_distinctKeys (Json.distinctKeysItems_iff.mp hin) hitems)
    exact (append_members (dropKey_members hm) (lookupKey_dropped _ _) hitem).obj
  · cases h

/-- A decoded result has no key twice. -/
theorem decodeDurable_distinctKeys {floatRepr : String → String} {raw : List UInt8} {v : Json}
    (h : decodeDurableEvaluatorResultBytes floatRepr raw = .ok v) : v.distinctKeys := by
  unfold decodeDurableEvaluatorResultBytes at h
  obtain ⟨parsed, hp, h⟩ := except_bind_ok.mp h
  have hd : parsed.distinctKeys := by
    unfold loadsBytes at hp
    split at hp
    · rename_i w hw
      split at hp <;> cases hp
      obtain ⟨cs, -, hcs⟩ := Option.bind_eq_some_iff.mp hw
      exact Json.loads_distinctKeys hcs
    · cases hp
  split at h
  · rename_i fields
    have hm : Json.Members fields := ⟨hd.1, Json.distinctKeysFields_iff.mp hd.2⟩
    split at h
    · unfold checkCanonical at h
      obtain ⟨-, -, h⟩ := except_bind_ok.mp h
      split at h
      · obtain ⟨-, -, h⟩ := except_bind_ok.mp h
        cases h
        exact hd
      · cases h
        exact hd
    · unfold checkLegacy at h
      obtain ⟨-, -, h⟩ := except_bind_ok.mp h
      obtain ⟨-, -, h⟩ := except_bind_ok.mp h
      obtain ⟨-, -, h⟩ := except_bind_ok.mp h
      obtain ⟨normalized, hn, h⟩ := except_bind_ok.mp h
      obtain ⟨-, -, h⟩ := except_bind_ok.mp h
      obtain ⟨-, -, h⟩ := except_bind_ok.mp h
      obtain ⟨-, -, h⟩ := except_bind_ok.mp h
      cases h
      exact normalizeLegacy_distinctKeys hm hn
  · cases h

/-- Canonical bytes are decoded as the object they are the text of. -/
theorem decodeDurable_canonical {floatRepr : String → String} {raw : List UInt8}
    {fields : List (String × Json)}
    (hl : loadsBytes "EVALUATOR_RESULT_ARTIFACT_INVALID" "" raw = .ok (.obj fields))
    (hf : (Json.obj fields).noFloat = true) (hr : Sha256.utf8 (Json.obj fields).render = raw) :
    decodeDurableEvaluatorResultBytes floatRepr raw = checkCanonical fields :=
  (congrArg (fun x => x >>= _) hl).trans (if_pos ⟨hf, hr⟩)

end Adcp.L2
