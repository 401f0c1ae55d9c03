import Adcp.L1Base.SortedBy
import Adcp.L2Domain.CanonicalBytes
/-!
# The evidence manifest

The manifest of an accepted execution holds three lists that are collected in any order. Its payload
puts each of them in an order of its own and writes the whole in canonical JSON.

* `reload`: a value as its canonical text is read back. What is read back is `Settled`: it is read
  back as it is.
* `Normalizes`: what a normalisation needs in order not to depend on the order of its items.
* `sortedCanonical`, `normalizeContext`, `normalizeTransitions`: the three normalisations.
* `evidence_order_independent`: the payload depends on the three lists as multisets, and on nothing
  less.
-/
namespace Adcp.L2.Evidence

open Adcp.L1 PyText Canonical
open PyValue (Items get? set get?_mem get?_set_self get?_set_ne mem_set isText_iff)

/-- `value` is a `ValueError` with its text, `type` a `TypeError`. -/
inductive EvidenceFault where
  | canonical (fault : CanonicalFault)
  | loads (fault : PyJson.LoadsFault)
  | value (code : String)
  | type
  | store (code detail : String)
  deriving DecidableEq

abbrev Evidenced : Type → Type := Except EvidenceFault

/-- `canonical_json(value)` -/
def canonicalText (v : PyValue) : Evidenced PyText :=
  (Canonical.canonicalJson v).mapError .canonical

/-- `json.loads(canonical_json(value))` -/
def reload (v : PyValue) : Evidenced PyValue := do
  let text ← canonicalText v
  (Canonical.loads text).mapError .loads

/-! ## The three lists -/

/-- The steps the three have in common: each value is read back and checked, then all are sorted. -/
def normalized {κ : Type} [LinearOrder κ] (materialize : PyValue → Evidenced PyValue)
    (key : PyValue → Evidenced κ) (values : List PyValue) : Evidenced (List PyValue) := do
  let materialized ← values.mapM materialize
  sortedBy key materialized

/-- mirrors src/adcp/evidence.py:13-15 (`_sorted_canonical`) -/
def sortedCanonical (values : List PyValue) : Evidenced (List PyValue) :=
  normalized reload canonicalText values

/-- `dict(value)`, of a mapping. -/
def asDict : PyValue → Evidenced PyValue
  | .dict items => pure (.dict items)
  | _ => throw .type

/-- `item.get(key)`, where it is a text. -/
def textOf? (key : String) : PyValue → Option PyText
  | .dict items => match get? items (ofString key) with
    | some (.str t) => some t
    | _ => none
  | _ => none

/-- `item.get(key)`, where it is an integer and no boolean. -/
def intOf? (key : String) : PyValue → Option Int
  | .dict items => match get? items (ofString key) with
    | some (.int n) => some n
    | _ => none
  | _ => none

/-- `json.loads(canonical_json(dict(value)))`, and the check of what it is. -/
def materialized (accepts : PyValue → Bool) (code : String) (value : PyValue) :
    Evidenced PyValue := do
  let item ← reload (← asDict value)
  if accepts item then pure item else throw (.value code)

/-- mirrors src/adcp/evidence.py:21-25 -/
def materializeContext : PyValue → Evidenced PyValue :=
  materialized (fun item => (textOf? "role" item).isSome &&
    (textOf? "context_snapshot_id" item).isSome) "CONTEXT_FINGERPRINT_EVIDENCE_INVALID"

/-- mirrors src/adcp/evidence.py:29-33. An item without its texts has been refused. -/
def contextKey (item : PyValue) : Evidenced (PyText ×ₗ PyText ×ₗ PyText) := do
  let text ← canonicalText item
  match textOf? "role" item, textOf? "context_snapshot_id" item with
  | some role, some snapshot => pure (toLex (role, toLex (snapshot, text)))
  | _, _ => throw .type

/-- mirrors src/adcp/evidence.py:18-34 (`_normalize_context`) -/
def normalizeContext (values : List PyValue) : Evidenced (List PyValue) :=
  normalized materializeContext contextKey values

/-- mirrors src/adcp/evidence.py:40-43 -/
def materializeTransition : PyValue → Evidenced PyValue :=
  materialized (fun item => (intOf? "to_state_version" item).isSome) "TRANSITION_EVIDENCE_INVALID"

/-- mirrors src/adcp/evidence.py:47. An item without its version has been refused. -/
def transitionKey (item : PyValue) : Evidenced (Int ×ₗ PyText) := do
  let text ← canonicalText item
  match intOf? "to_state_version" item with
  | some version => pure (toLex (version, text))
  | none => throw .type

/-- mirrors src/adcp/evidence.py:37-48 (`_normalize_transitions`) -/
def normalizeTransitions (values : List PyValue) : Evidenced (List PyValue) :=
  normalized materializeTransition transitionKey values

/-! ## The payload -/

/-- `payload.pop(key, None)` -/
def withoutKey (items : Items) (key : PyText) : Items := items.filter fun item => !item.1.isText key

/-- The items of `payload.get(key, [])`. The callers hand over lists. -/
def sequenceAt (items : Items) (key : PyText) : Evidenced (List PyValue) :=
  match get? items key with
  | none => pure []
  | some (.list values) => pure values
  | some (.tuple values) => pure values
  | some _ => throw .type

def manifestSha256Key : PyText := ofString "manifest_sha256"
def canonicalJsonKey : PyText := ofString "canonical_json"
def approvalRefsKey : PyText := ofString "approval_refs"
def contextFingerprintsKey : PyText := ofString "context_fingerprints"
def transitionEvidenceKey : PyText := ofString "transition_evidence"

/-- mirrors src/adcp/evidence.py:51-64 -/
def canonicalEvidencePayload (fields : Items) : Evidenced PyValue := do
  let payload := withoutKey (withoutKey fields manifestSha256Key) canonicalJsonKey
  let approvals ← sortedCanonical (← sequenceAt payload approvalRefsKey)
  let payload := set payload approvalRefsKey (.list approvals)
  let contexts ← normalizeContext (← sequenceAt payload contextFingerprintsKey)
  let payload := set payload contextFingerprintsKey (.list contexts)
  let transitions ← normalizeTransitions (← sequenceAt payload transitionEvidenceKey)
  let payload := set payload transitionEvidenceKey (.list transitions)
  reload (.dict payload)

/-! ## The manifest -/

/-- The arguments of `build_evidence_manifest`. -/
structure EvidenceArguments where
  manifestId : PyText
  executionId : PyText
  sliceId : PyText
  contractFingerprint : PyText
  authorityFingerprint : PyText
  baseCommit : PyText
  resultCommit : PyText
  makerAttemptEvidence : PyValue
  verificationEvidence : PyValue
  evaluatorAttemptEvidence : PyValue
  evaluationEvidence : PyValue
  approvalRefs : List PyValue
  contextFingerprints : List PyValue
  transitionEvidence : List PyValue
  createdAt : PyText

/-- mirrors src/adcp/evidence.py:106-122 -/
def EvidenceArguments.fields (e : EvidenceArguments) : Items :=
  [(.str (ofString "manifest_id"), .str e.manifestId),
    (.str (ofString "execution_id"), .str e.executionId),
    (.str (ofString "slice_id"), .str e.sliceId),
    (.str (ofString "contract_fingerprint"), .str e.contractFingerprint),
    (.str (ofString "authority_fingerprint"), .str e.authorityFingerprint),
    (.str (ofString "base_commit"), .str e.baseCommit),
    (.str (ofString "result_commit"), .str e.resultCommit),
    (.str (ofString "maker_attempt_evidence"), e.makerAttemptEvidence),
    (.str (ofString "verification_evidence"), e.verificationEvidence),
    (.str (ofString "evaluator_attempt_evidence"), e.evaluatorAttemptEvidence),
    (.str (ofString "evaluation_evidence"), e.evaluationEvidence),
    (.str approvalRefsKey, .list e.approvalRefs),
    (.str contextFingerprintsKey, .list e.contextFingerprints),
    (.str transitionEvidenceKey, .list e.transitionEvidence),
    (.str (ofString "created_at"), .str e.createdAt)]

structure EvidenceManifest where
  materializedFields : PyValue
  canonicalJson : PyText
  manifestSha256 : String

def isLowerHex (t : PyText) : Bool := t.all fun c => (ofString "0123456789abcdef").contains c

/-- mirrors src/adcp/domain.py:215-217 -/
def requireSha256 (value : PyText) (field : String) : Evidenced Unit :=
  if value.length ≠ 64 || !isLowerHex value then
    throw (.store "INVALID_INPUT" (field ++ " must be lowercase SHA-256"))
  else pure ()

/-- mirrors src/adcp/domain.py:220-224 -/
def requireCommit (value : PyText) (field : String) : Evidenced Unit :=
  if (value.length ≠ 40 && value.length ≠ 64) || !isLowerHex value then
    throw (.store "INVALID_INPUT" (field ++ " must be a 40- or 64-character hex id"))
  else pure ()

/-- mirrors src/adcp/evidence.py:99-104 -/
def EvidenceArguments.check (e : EvidenceArguments) : Evidenced Unit := do
  if e.manifestId.isEmpty || e.executionId.isEmpty || e.sliceId.isEmpty || e.createdAt.isEmpty then
    throw (.value "EVIDENCE_MANIFEST_INVALID")
  requireSha256 e.contractFingerprint "contract_fingerprint"
  requireSha256 e.authorityFingerprint "authority_fingerprint"
  requireCommit e.baseCommit "base_commit"
  requireCommit e.resultCommit "result_commit"

/-- mirrors src/adcp/evidence.py:81-129 -/
def buildEvidenceManifest (e : EvidenceArguments) : Evidenced EvidenceManifest := do
  e.check
  let fields ← canonicalEvidencePayload e.fields
  let serialized ← canonicalText fields
  let digest ← (Canonical.canonicalSha256 fields).mapError .canonical
  pure {
    materializedFields := fields
    canonicalJson := serialized
    manifestSha256 := digest }

/-! ## What is read back -/

theorem reload_ok {v w : PyValue} : reload v = .ok w ↔
    ∃ t, canonicalText v = .ok t ∧ Canonical.loads t = .ok w := by
  unfold reload
  rw [except_bind_ok]
  exact exists_congr fun t => and_congr_right fun _ => except_mapError_ok

theorem canonicalText_toValue {j : PyJson} (h : j.Canonical) :
    canonicalText (toValue j) = .ok j.render :=
  except_mapError_ok.mpr (canonicalJson_toValue h)

theorem reload_toValue {j : PyJson} (h : j.Canonical) :
    reload (toValue j) = .ok (toValue j.sorted) :=
  reload_ok.mpr ⟨j.render, canonicalText_toValue h, loads_toValue h⟩

/-- The document behind a value that is read back. -/
theorem reload_document {v w : PyValue} (hd : DistinctKeys v) (h : reload v = .ok w) :
    ∃ j : PyJson, j.Canonical ∧ toValue j = v ∧ toValue j.sorted = w := by
  obtain ⟨t, ht, -⟩ := reload_ok.mp h
  obtain ⟨j, hj, rfl, -⟩ := canonicalJson_document hd (except_mapError_ok.mp ht)
  rw [reload_toValue hj] at h
  exact ⟨j, hj, rfl, Except.ok.inj h⟩

theorem reload_self {w : PyValue} (h : Settled w) : reload w = .ok w := by
  obtain ⟨t, ht, hw⟩ := settled_iff.mp h
  exact reload_ok.mpr ⟨t, except_mapError_ok.mpr ht, hw⟩

theorem reload_settled {v w : PyValue} (hd : DistinctKeys v) (h : reload v = .ok w) :
    Settled w := by
  obtain ⟨j, hj, -, rfl⟩ := reload_document hd h
  exact ⟨j.sorted, hj.sorted, sorted_sorted hj, rfl⟩

theorem reload_sameJson {v w : PyValue} (hd : DistinctKeys v) (h : reload v = .ok w) :
    SameJson v w := by
  obtain ⟨j, hj, rfl, rfl⟩ := reload_document hd h
  exact sameJson_sorted hj

/-- Settled values of one text are one value. -/
theorem settled_eq_of_text {w w' : PyValue} {t : PyText} (h : Settled w) (h' : Settled w')
    (ht : canonicalText w = .ok t) (ht' : canonicalText w' = .ok t) : w = w' := by
  obtain ⟨u, hu, hw⟩ := reload_ok.mp (reload_self h)
  obtain ⟨u', hu', hw'⟩ := reload_ok.mp (reload_self h')
  cases ht.symm.trans hu
  cases ht'.symm.trans hu'
  exact Except.ok.inj (hw.symm.trans hw')

theorem settled_list {ws : List PyValue} (h : ∀ w ∈ ws, Settled w) : Settled (.list ws) := by
  have hdocuments : ∃ js : List PyJson, (∀ j ∈ js, j.Canonical) ∧ (∀ j ∈ js, j.sorted = j) ∧
      js.map toValue = ws := by
    induction ws with
    | nil => exact ⟨[], fun j hj => absurd hj List.not_mem_nil,
        fun j hj => absurd hj List.not_mem_nil, rfl⟩
    | cons w ws ih =>
      obtain ⟨⟨j, hj, hsorted, rfl⟩, hws⟩ := List.forall_mem_cons.mp h
      obtain ⟨js, hjs, hsorteds, rfl⟩ := ih hws
      exact ⟨j :: js, List.forall_mem_cons.mpr ⟨hj, hjs⟩,
        List.forall_mem_cons.mpr ⟨hsorted, hsorteds⟩, rfl⟩
  obtain ⟨js, hjs, hsorteds, rfl⟩ := hdocuments
  refine ⟨.arr js, .arr hjs, ?_, by rw [toValue, toValues_eq]⟩
  rw [PyJson.sorted, PyJson.sortedItems_eq, List.map_congr_left hsorteds, List.map_id']

/-- A dictionary is read back item by item. -/
theorem reload_dict {items : Items} {q : PyValue} (hd : DistinctKeys (.dict items))
    (h : reload (.dict items) = .ok q) : ∃ items', q = .dict items' ∧ ∀ key,
      (get? items key = none → get? items' key = none) ∧
      ∀ v, get? items key = some v → ∃ w, reload v = .ok w ∧ get? items' key = some w := by
  obtain ⟨j, hj, hdict, rfl⟩ := reload_document hd h
  cases hj with
  | @obj fields keys each =>
    cases hdict
    rw [PyJson.sorted, PyJson.sortedFields_eq]
    have hkeys := sortFields_nodup keys
    refine ⟨_, rfl, fun key => ⟨fun hnone => ?_, fun v hv => ?_⟩⟩
    · refine Option.eq_none_iff_forall_ne_some.mpr fun w hw => ?_
      obtain ⟨j', hj', -⟩ := (get?_toItems hkeys).mp hw
      obtain ⟨j, hj, -⟩ := mem_sortFields_sorted.mp hj'
      have hsome := (get?_toItems keys).mpr ⟨j, hj, rfl⟩
      rw [hnone] at hsome
      cases hsome
    · obtain ⟨j, hj, rfl⟩ := (get?_toItems keys).mp hv
      refine ⟨_, reload_toValue (each _ hj), (get?_toItems hkeys).mpr ⟨_, ?_, rfl⟩⟩
      exact mem_sortFields_sorted.mpr ⟨j, hj, rfl⟩
  | _ => cases hdict

/-! ## One normalisation -/

/-- What a normalisation needs: what it reads is settled, it reads that again as it is, and its key
holds the text of the item. -/
structure Normalizes {κ : Type} (materialize : PyValue → Evidenced PyValue)
    (key : PyValue → Evidenced κ) : Prop where
  read : ∀ {v w}, DistinctKeys v → materialize v = .ok w → Settled w ∧ SameJson v w
  again : ∀ {v w}, DistinctKeys v → materialize v = .ok w → materialize w = .ok w
  text : ∀ {w w' k}, key w = .ok k → key w' = .ok k →
    ∃ t, canonicalText w = .ok t ∧ canonicalText w' = .ok t

/-- The same values, in any order, and each with its keys in any order. -/
def SameMultiset (vs vs' : List PyValue) : Prop :=
  ∃ us, us.Perm vs' ∧ List.Forall₂ SameJson vs us

section Normalized

variable {κ : Type} [LinearOrder κ] {materialize : PyValue → Evidenced PyValue}
  {key : PyValue → Evidenced κ} {vs vs' s : List PyValue}

theorem normalized_ok : normalized materialize key vs = .ok s ↔
    ∃ ws, List.Forall₂ (fun v w => materialize v = .ok w) vs ws ∧ sortedBy key ws = .ok s := by
  unfold normalized
  rw [except_bind_ok]
  exact exists_congr fun ws => and_congr_left fun _ => except_mapM_ok

theorem normalized_mem (h : normalized materialize key vs = .ok s) {w : PyValue} (hw : w ∈ s) :
    ∃ v ∈ vs, materialize v = .ok w := by
  obtain ⟨ws, hws, hs⟩ := normalized_ok.mp h
  exact forall₂_mem_right hws ((sortedBy_perm hs).mem_iff.mp hw)

variable (hn : Normalizes materialize key) (hd : ∀ v ∈ vs, DistinctKeys v)
include hn hd

/-- The order of the values does not matter. -/
theorem normalized_perm (hperm : vs.Perm vs') (h : normalized materialize key vs = .ok s) :
    normalized materialize key vs' = .ok s := by
  obtain ⟨ws, hws, hs⟩ := normalized_ok.mp h
  obtain ⟨ws', hws', hp⟩ := List.perm_comp_forall₂ hperm.symm hws
  refine normalized_ok.mpr ⟨ws', hws', sortedBy_of_perm hp.symm (fun w hw w' hw' k hk hk' => ?_) hs⟩
  obtain ⟨v, hv, hread⟩ := forall₂_mem_right hws hw
  obtain ⟨v', hv', hread'⟩ := forall₂_mem_right hws hw'
  obtain ⟨t, ht, ht'⟩ := hn.text hk hk'
  exact settled_eq_of_text (hn.read (hd v hv) hread).1 (hn.read (hd v' hv') hread').1 ht ht'

theorem normalized_settled (h : normalized materialize key vs = .ok s) : ∀ w ∈ s, Settled w := by
  intro w hw
  obtain ⟨v, hv, hread⟩ := normalized_mem h hw
  exact (hn.read (hd v hv) hread).1

/-- What is normal is normalised as it is. -/
theorem normalized_self (h : normalized materialize key vs = .ok s) :
    normalized materialize key s = .ok s := by
  obtain ⟨ws, hws, hs⟩ := normalized_ok.mp h
  refine normalized_ok.mpr ⟨s, List.forall₂_same.mpr fun w hw => ?_, sortedBy_self hs⟩
  obtain ⟨v, hv, hread⟩ := normalized_mem h hw
  exact hn.again (hd v hv) hread

/-- The normal form determines the values. -/
theorem normalized_sameMultiset (hd' : ∀ v ∈ vs', DistinctKeys v)
    (h : normalized materialize key vs = .ok s) (h' : normalized materialize key vs' = .ok s) :
    SameMultiset vs vs' := by
  have hsame : ∀ {us ws : List PyValue}, (∀ v ∈ us, DistinctKeys v) →
      List.Forall₂ (fun v w => materialize v = .ok w) us ws → List.Forall₂ SameJson us ws := by
    intro us ws hd h
    induction h with
    | nil => exact .nil
    | cons hread _ ih =>
      obtain ⟨hv, hvs⟩ := List.forall_mem_cons.mp hd
      exact .cons (hn.read hv hread).2 (ih hvs)
  obtain ⟨ws, hws, hs⟩ := normalized_ok.mp h
  obtain ⟨ws', hws', hs'⟩ := normalized_ok.mp h'
  have hperm : ws.Perm ws' := (sortedBy_perm hs).symm.trans (sortedBy_perm hs')
  obtain ⟨us, hus, hp⟩ := List.perm_comp_forall₂ hperm (hsame hd' hws').flip
  refine ⟨us, hp, ?_⟩
  have hjoin : ∀ {as bs cs : List PyValue}, List.Forall₂ SameJson as bs →
      List.Forall₂ (flip SameJson) bs cs → List.Forall₂ SameJson as cs := by
    intro as bs cs h
    induction h generalizing cs with
    | nil => intro h; cases h; exact .nil
    | cons hab _ ih =>
      intro h
      cases h with
      | cons hbc h => exact .cons (hab.trans hbc.symm) (ih h)
  exact hjoin (hsame hd hws) hus

end Normalized

/-! ## The three normalisations -/

theorem normalizes_reload : Normalizes reload canonicalText where
  read hd h := ⟨reload_settled hd h, reload_sameJson hd h⟩
  again hd h := reload_self (reload_settled hd h)
  text h h' := ⟨_, h, h'⟩

theorem asDict_ok {v w : PyValue} : asDict v = .ok w ↔ v = w ∧ ∃ items, v = .dict items := by
  cases v with
  | dict items =>
    constructor
    · intro h
      exact ⟨Except.ok.inj h, items, rfl⟩
    · rintro ⟨rfl, -⟩
      rfl
  | _ =>
    refine iff_of_false (by intro h; cases h) ?_
    rintro ⟨-, items, h⟩
    cases h

theorem materialized_ok {accepts : PyValue → Bool} {code : String} {v w : PyValue} :
    materialized accepts code v = .ok w ↔
      (∃ items, v = .dict items) ∧ reload v = .ok w ∧ accepts w = true := by
  unfold materialized
  rw [except_bind_ok]
  simp only [except_bind_ok, asDict_ok]
  constructor
  · rintro ⟨_, ⟨rfl, hdict⟩, w', hread, h⟩
    split_ifs at h with haccepts
    cases h
    exact ⟨hdict, hread, haccepts⟩
  · rintro ⟨hdict, hread, haccepts⟩
    exact ⟨v, ⟨rfl, hdict⟩, w, hread, if_pos haccepts⟩

theorem normalizes_materialized {κ : Type} {accepts : PyValue → Bool} {code : String}
    {key : PyValue → Evidenced κ}
    (text : ∀ {w w' k}, key w = .ok k → key w' = .ok k →
      ∃ t, canonicalText w = .ok t ∧ canonicalText w' = .ok t) :
    Normalizes (materialized accepts code) key where
  read hd h := by
    obtain ⟨-, hread, -⟩ := materialized_ok.mp h
    exact ⟨reload_settled hd hread, reload_sameJson hd hread⟩
  again hd h := by
    obtain ⟨⟨items, rfl⟩, hread, haccepts⟩ := materialized_ok.mp h
    obtain ⟨items', rfl, -⟩ := reload_dict hd hread
    exact materialized_ok.mpr ⟨⟨items', rfl⟩, reload_self (reload_settled hd hread), haccepts⟩
  text := text

theorem contextKey_ok {w : PyValue} {k : PyText ×ₗ PyText ×ₗ PyText} (h : contextKey w = .ok k) :
    canonicalText w = .ok (ofLex (ofLex k).2).2 := by
  unfold contextKey at h
  obtain ⟨t, ht, h⟩ := except_bind_ok.mp h
  split at h
  · cases h
    exact ht
  · cases h

theorem normalizes_context : Normalizes materializeContext contextKey :=
  normalizes_materialized fun h h' => ⟨_, contextKey_ok h, contextKey_ok h'⟩

theorem transitionKey_ok {w : PyValue} {k : Int ×ₗ PyText} (h : transitionKey w = .ok k) :
    canonicalText w = .ok (ofLex k).2 := by
  unfold transitionKey at h
  obtain ⟨t, ht, h⟩ := except_bind_ok.mp h
  split at h
  · cases h
    exact ht
  · cases h

theorem normalizes_transitions : Normalizes materializeTransition transitionKey :=
  normalizes_materialized fun h h' => ⟨_, transitionKey_ok h, transitionKey_ok h'⟩

/-! ## The payload -/

theorem get?_withoutKey_self (items : Items) (key : PyText) :
    get? (withoutKey items key) key = none := by
  refine Option.eq_none_iff_forall_ne_some.mpr fun v hv => ?_
  have hmem := List.mem_filter.mp (get?_mem hv)
  rw [isText_iff.mpr rfl] at hmem
  cases hmem.2

theorem get?_withoutKey_ne {items : Items} {key other : PyText} (h : other ≠ key) :
    get? (withoutKey items key) other = get? items other := by
  unfold get? withoutKey
  congr 1
  induction items with
  | nil => rfl
  | cons item rest ih =>
    rw [List.filter_cons]
    by_cases hkey : item.1.isText key = true
    · have hother : item.1.isText other = false := by
        refine eq_false_of_ne_true fun hother => h ?_
        exact PyValue.str.inj ((isText_iff.mp hother).symm.trans (isText_iff.mp hkey))
      simp [hkey, hother, ih]
    · simp [hkey, List.find?_cons, ih]

theorem withoutKey_self {items : Items} {key : PyText} (h : get? items key = none) :
    withoutKey items key = items := by
  refine List.filter_eq_self.mpr fun item hitem => ?_
  have hfind := Option.map_eq_none_iff.mp h
  simpa using List.find?_eq_none.mp hfind item hitem

theorem set_self {items : Items} {key : PyText} {value : PyValue}
    (h : get? items key = some value) : set items key value = items := by
  induction items with
  | nil => cases h
  | cons item rest ih =>
    unfold get? at h ih
    rw [List.find?_cons] at h
    unfold PyValue.set
    by_cases hkey : item.1.isText key = true
    · rw [hkey] at h
      rw [if_pos hkey, ← Option.some.inj h]
    · rw [eq_false_of_ne_true hkey] at h
      rw [if_neg hkey, ih h]

theorem sequenceAt_congr {items items' : Items} {key : PyText}
    (h : get? items key = get? items' key) : sequenceAt items key = sequenceAt items' key := by
  unfold sequenceAt
  rw [h]

theorem sequenceAt_list {items : Items} {key : PyText} {vs : List PyValue}
    (h : get? items key = some (.list vs)) : sequenceAt items key = .ok vs := by
  unfold sequenceAt
  rw [h]
  rfl

theorem distinctKeys_get {items : Items} {key : PyText} {v : PyValue}
    (hd : DistinctKeys (.dict items)) (h : get? items key = some v) : DistinctKeys v := by
  cases hd with
  | dict keys each => exact each _ (get?_mem h)

theorem sequenceAt_distinctKeys {items : Items} {key : PyText} {vs : List PyValue}
    (hd : DistinctKeys (.dict items)) (h : sequenceAt items key = .ok vs) :
    ∀ v ∈ vs, DistinctKeys v := by
  unfold sequenceAt at h
  split at h
  · cases h
    exact fun v hv => absurd hv List.not_mem_nil
  · rename_i values hget
    cases h
    cases distinctKeys_get hd hget with
    | list each => exact each
  · rename_i values hget
    cases h
    cases distinctKeys_get hd hget with
    | tuple each => exact each
  · cases h

theorem distinctKeys_withoutKey {items : Items} (key : PyText) (hd : DistinctKeys (.dict items)) :
    DistinctKeys (.dict (withoutKey items key)) := by
  cases hd with
  | dict keys each =>
    refine .dict (keys.sublist (List.filter_sublist.map _)) fun item hitem => ?_
    exact each item (List.mem_of_mem_filter hitem)

theorem keys_set (items : Items) (key : PyText) (value : PyValue) :
    (set items key value).map Prod.fst = if get? items key = none then
      items.map Prod.fst ++ [.str key] else items.map Prod.fst := by
  induction items with
  | nil => rfl
  | cons item rest ih =>
    unfold PyValue.set
    by_cases hkey : item.1.isText key = true
    · simp [hkey, get?]
    · have hrest : get? (item :: rest) key = get? rest key := by
        simp [get?, hkey]
      rw [if_neg hkey, List.map_cons, ih, hrest]
      split_ifs <;> rfl

theorem distinctKeys_set {items : Items} (key : PyText) {value : PyValue}
    (hd : DistinctKeys (.dict items)) (hvalue : DistinctKeys value) :
    DistinctKeys (.dict (set items key value)) := by
  cases hd with
  | dict keys each =>
    refine .dict ?_ fun item hitem => ?_
    · rw [keys_set]
      split_ifs with hget
      · refine List.nodup_append.mpr ⟨keys, List.nodup_singleton _, fun k hk k' hk' heq => ?_⟩
        obtain ⟨item, hitem, rfl⟩ := List.mem_map.mp hk
        have hfind := List.find?_eq_none.mp (Option.map_eq_none_iff.mp hget) item hitem
        exact hfind (isText_iff.mpr (heq.trans (List.mem_singleton.mp hk')))
      · exact keys
    · rcases mem_set hitem with hitem | rfl
      · exact each item hitem
      · exact hvalue

theorem distinctKeys_list {vs : List PyValue} (h : ∀ v ∈ vs, Settled v) :
    DistinctKeys (.list vs) :=
  .list fun v hv => (h v hv).distinctKeys

/-- A payload with its three lists. -/
structure Payload (items : Items) (approvals contexts transitions : List PyValue) : Prop where
  settled : Settled (.dict items)
  hash : get? items manifestSha256Key = none
  text : get? items canonicalJsonKey = none
  approvals : get? items approvalRefsKey = some (.list approvals)
  contexts : get? items contextFingerprintsKey = some (.list contexts)
  transitions : get? items transitionEvidenceKey = some (.list transitions)

/-- What the payload of some fields is made of. -/
structure PayloadFrom (fields items : Items)
    (vs cs ts approvals contexts transitions : List PyValue) :
    Prop where
  approvalsAt : sequenceAt fields approvalRefsKey = .ok vs
  contextsAt : sequenceAt fields contextFingerprintsKey = .ok cs
  transitionsAt : sequenceAt fields transitionEvidenceKey = .ok ts
  payload : Payload items approvals contexts transitions
  approvals : sortedCanonical vs = .ok approvals
  contexts : normalizeContext cs = .ok contexts
  transitions : normalizeTransitions ts = .ok transitions

theorem canonicalEvidencePayload_ok {fields : Items} {q : PyValue}
    (hd : DistinctKeys (.dict fields)) (h : canonicalEvidencePayload fields = .ok q) :
    ∃ items vs cs ts approvals contexts transitions, q = .dict items ∧
      PayloadFrom fields items vs cs ts approvals contexts transitions := by
  unfold canonicalEvidencePayload at h
  simp only [except_bind_ok] at h
  obtain ⟨vs, hvs, approvals, happrovals, cs, hcs, contexts, hcontexts, ts, hts, transitions,
    htransitions, hread⟩ := h
  have hd₀ := distinctKeys_withoutKey canonicalJsonKey
    (distinctKeys_withoutKey manifestSha256Key hd)
  generalize hpayload : withoutKey (withoutKey fields manifestSha256Key) canonicalJsonKey = payload
    at *
  have hget : ∀ key, key ≠ manifestSha256Key → key ≠ canonicalJsonKey →
      get? payload key = get? fields key := by
    intro key hhash htext
    rw [← hpayload, get?_withoutKey_ne htext, get?_withoutKey_ne hhash]
  have hsettled := normalized_settled normalizes_reload (sequenceAt_distinctKeys hd₀ hvs) happrovals
  have hd₁ := distinctKeys_set approvalRefsKey hd₀ (distinctKeys_list hsettled)
  have hsettled₂ := normalized_settled normalizes_context
    (sequenceAt_distinctKeys hd₁ hcs) hcontexts
  have hd₂ := distinctKeys_set contextFingerprintsKey hd₁ (distinctKeys_list hsettled₂)
  have hsettled₃ := normalized_settled normalizes_transitions (sequenceAt_distinctKeys hd₂ hts)
    htransitions
  have hd₃ := distinctKeys_set transitionEvidenceKey hd₂ (distinctKeys_list hsettled₃)
  obtain ⟨items, rfl, hitems⟩ := reload_dict hd₃ hread
  have hlist : ∀ {key : PyText} {ws : List PyValue}, (∀ w ∈ ws, Settled w) →
      get? (set (set (set payload approvalRefsKey (.list approvals)) contextFingerprintsKey
        (.list contexts)) transitionEvidenceKey (.list transitions)) key = some (.list ws) →
      get? items key = some (.list ws) := by
    intro key ws hws hkey
    obtain ⟨w, hw, hitem⟩ := (hitems key).2 _ hkey
    rw [reload_self (settled_list hws)] at hw
    cases hw
    exact hitem
  have hnone : ∀ key, key ≠ approvalRefsKey → key ≠ contextFingerprintsKey →
      key ≠ transitionEvidenceKey → get? payload key = none → get? items key = none := by
    intro key h₁ h₂ h₃ hkey
    refine (hitems key).1 ?_
    rw [get?_set_ne h₃, get?_set_ne h₂, get?_set_ne h₁, hkey]
  refine ⟨items, vs, cs, ts, approvals, contexts, transitions, rfl, ?_, ?_, ?_,
    ⟨reload_settled hd₃ hread, ?_, ?_, ?_, ?_, ?_⟩, happrovals, hcontexts, htransitions⟩
  · rw [← hvs]
    exact sequenceAt_congr (hget _ (by decide) (by decide)).symm
  · rw [← hcs]
    refine sequenceAt_congr ?_
    rw [get?_set_ne (by decide), hget _ (by decide) (by decide)]
  · rw [← hts]
    refine sequenceAt_congr ?_
    rw [get?_set_ne (by decide), get?_set_ne (by decide), hget _ (by decide) (by decide)]
  · refine hnone _ (by decide) (by decide) (by decide) ?_
    rw [← hpayload, get?_withoutKey_ne (by decide), get?_withoutKey_self]
  · refine hnone _ (by decide) (by decide) (by decide) ?_
    rw [← hpayload, get?_withoutKey_self]
  · refine hlist hsettled ?_
    rw [get?_set_ne (by decide), get?_set_ne (by decide), get?_set_self]
  · refine hlist hsettled₂ ?_
    rw [get?_set_ne (by decide), get?_set_self]
  · exact hlist hsettled₃ (get?_set_self ..)

/-- A payload is its own payload. -/
theorem canonicalEvidencePayload_self {items : Items}
    {approvals contexts transitions : List PyValue}
    (h : Payload items approvals contexts transitions)
    (happrovals : sortedCanonical approvals = .ok approvals)
    (hcontexts : normalizeContext contexts = .ok contexts)
    (htransitions : normalizeTransitions transitions = .ok transitions) :
    canonicalEvidencePayload items = .ok (.dict items) := by
  unfold canonicalEvidencePayload
  rw [withoutKey_self h.hash, withoutKey_self h.text]
  simp only [except_bind_ok]
  refine ⟨approvals, sequenceAt_list h.approvals, approvals, happrovals, ?_⟩
  rw [set_self h.approvals]
  refine ⟨contexts, sequenceAt_list h.contexts, contexts, hcontexts, ?_⟩
  rw [set_self h.contexts]
  refine ⟨transitions, sequenceAt_list h.transitions, transitions, htransitions, ?_⟩
  rw [set_self h.transitions]
  exact reload_self h.settled

/-- The arguments with other lists. -/
def EvidenceArguments.withLists (e : EvidenceArguments) (vs cs ts : List PyValue) :
    EvidenceArguments :=
  { e with approvalRefs := vs, contextFingerprints := cs, transitionEvidence := ts }

theorem canonicalEvidencePayload_fields (e : EvidenceArguments) :
    canonicalEvidencePayload e.fields = (do
      let approvals ← sortedCanonical e.approvalRefs
      let contexts ← normalizeContext e.contextFingerprints
      let transitions ← normalizeTransitions e.transitionEvidence
      reload (.dict (e.withLists approvals contexts transitions).fields)) := by
  rfl

/-- The values among the arguments, none of them with a dictionary that has a key twice. -/
structure EvidenceArguments.Distinct (e : EvidenceArguments) : Prop where
  maker : DistinctKeys e.makerAttemptEvidence
  verification : DistinctKeys e.verificationEvidence
  evaluator : DistinctKeys e.evaluatorAttemptEvidence
  evaluation : DistinctKeys e.evaluationEvidence
  approvals : ∀ v ∈ e.approvalRefs, DistinctKeys v
  contexts : ∀ v ∈ e.contextFingerprints, DistinctKeys v
  transitions : ∀ v ∈ e.transitionEvidence, DistinctKeys v

theorem fieldNames_nodup (e : EvidenceArguments) : (e.fields.map Prod.fst).Nodup := by
  have hnames : e.fields.map Prod.fst = (["manifest_id", "execution_id", "slice_id",
      "contract_fingerprint", "authority_fingerprint", "base_commit", "result_commit",
      "maker_attempt_evidence", "verification_evidence", "evaluator_attempt_evidence",
      "evaluation_evidence", "approval_refs", "context_fingerprints", "transition_evidence",
      "created_at"].map ofString).map PyValue.str := rfl
  rw [hnames]
  exact List.Nodup.map (fun a b h => PyValue.str.inj h)
    (List.Nodup.map ofString_injective (by decide))

theorem EvidenceArguments.Distinct.fields {e : EvidenceArguments} (h : e.Distinct) :
    DistinctKeys (.dict e.fields) := by
  refine .dict (fieldNames_nodup e) ?_
  simp only [EvidenceArguments.fields, List.forall_mem_cons]
  exact ⟨.str _, .str _, .str _, .str _, .str _, .str _, .str _, h.maker, h.verification,
    h.evaluator, h.evaluation, .list h.approvals, .list h.contexts, .list h.transitions, .str _,
    fun item hitem => absurd hitem List.not_mem_nil⟩

theorem buildEvidenceManifest_ok {e : EvidenceArguments} {m : EvidenceManifest} :
    buildEvidenceManifest e = .ok m ↔ e.check = .ok () ∧
      canonicalEvidencePayload e.fields = .ok m.materializedFields ∧
      canonicalText m.materializedFields = .ok m.canonicalJson ∧
      Canonical.canonicalSha256 m.materializedFields = .ok m.manifestSha256 := by
  unfold buildEvidenceManifest
  simp only [except_bind_ok, except_mapError_ok]
  constructor
  · rintro ⟨_, hcheck, fields, hfields, text, htext, digest, hdigest, h⟩
    cases h
    exact ⟨hcheck, hfields, htext, hdigest⟩
  · rintro ⟨hcheck, hfields, htext, hdigest⟩
    exact ⟨(), hcheck, _, hfields, _, htext, _, hdigest, rfl⟩

/-- The three lists in another order give the same manifest. -/
theorem buildEvidenceManifest_perm {e : EvidenceArguments} {m : EvidenceManifest}
    {vs cs ts : List PyValue} (hd : e.Distinct) (hvs : e.approvalRefs.Perm vs)
    (hcs : e.contextFingerprints.Perm cs) (hts : e.transitionEvidence.Perm ts)
    (h : buildEvidenceManifest e = .ok m) : buildEvidenceManifest
    (e.withLists vs cs ts) = .ok m := by
  obtain ⟨hcheck, hfields, hrest⟩ := buildEvidenceManifest_ok.mp h
  refine buildEvidenceManifest_ok.mpr ⟨hcheck, ?_, hrest⟩
  rw [canonicalEvidencePayload_fields] at hfields ⊢
  simp only [except_bind_ok] at hfields ⊢
  obtain ⟨approvals, happrovals, contexts, hcontexts, transitions, htransitions, hread⟩ := hfields
  exact ⟨approvals, normalized_perm normalizes_reload hd.approvals hvs happrovals,
    contexts, normalized_perm normalizes_context hd.contexts hcs hcontexts,
    transitions, normalized_perm normalizes_transitions hd.transitions hts htransitions, hread⟩

/-- **Evidence manifests do not depend on the order of collection.** A manifest that is built is
built with the same payload and the same fingerprint from every order of its three lists; a payload
is its own payload; and manifests of one payload were built from the same approvals, contexts and
transitions. -/
theorem evidence_order_independent :
    (∀ (e : EvidenceArguments) (m : EvidenceManifest) (vs cs ts : List PyValue), e.Distinct →
      e.approvalRefs.Perm vs → e.contextFingerprints.Perm cs → e.transitionEvidence.Perm ts →
      buildEvidenceManifest e = .ok m → buildEvidenceManifest (e.withLists vs cs ts) = .ok m) ∧
    (∀ (fields : Items) (q : PyValue), DistinctKeys (.dict fields) →
      canonicalEvidencePayload fields = .ok q →
      ∃ items, q = .dict items ∧ canonicalEvidencePayload items = .ok q) ∧
    ∀ (e e' : EvidenceArguments) (m m' : EvidenceManifest), e.Distinct → e'.Distinct →
      buildEvidenceManifest e = .ok m → buildEvidenceManifest e' = .ok m' →
      m.materializedFields = m'.materializedFields →
      SameMultiset e.approvalRefs e'.approvalRefs ∧
      SameMultiset e.contextFingerprints e'.contextFingerprints ∧
      SameMultiset e.transitionEvidence e'.transitionEvidence := by
  refine ⟨fun e m vs cs ts hd hvs hcs hts h => buildEvidenceManifest_perm hd hvs hcs hts h,
    fun fields q hd h => ?_, fun e e' m m' hd hd' h h' hsame => ?_⟩
  · obtain ⟨items, vs, cs, ts, approvals, contexts, transitions, rfl, hn⟩ :=
      canonicalEvidencePayload_ok hd h
    refine ⟨items, rfl, canonicalEvidencePayload_self hn.payload ?_ ?_ ?_⟩
    · exact normalized_self normalizes_reload (sequenceAt_distinctKeys hd hn.approvalsAt)
        hn.approvals
    · exact normalized_self normalizes_context
        (sequenceAt_distinctKeys hd hn.contextsAt) hn.contexts
    · exact normalized_self normalizes_transitions (sequenceAt_distinctKeys hd hn.transitionsAt)
        hn.transitions
  · have hfields := (buildEvidenceManifest_ok.mp h).2.1
    have hfields' := (buildEvidenceManifest_ok.mp h').2.1
    rw [← hsame] at hfields'
    obtain ⟨items, vs, cs, ts, approvals, contexts, transitions, hitems, hn⟩ :=
      canonicalEvidencePayload_ok hd.fields hfields
    obtain ⟨items', vs', cs', ts', approvals', contexts', transitions', hitems', hn'⟩ :=
      canonicalEvidencePayload_ok hd'.fields hfields'
    cases hitems.symm.trans hitems'
    cases hn.payload.approvals.symm.trans hn'.payload.approvals
    cases hn.payload.contexts.symm.trans hn'.payload.contexts
    cases hn.payload.transitions.symm.trans hn'.payload.transitions
    cases hn.approvalsAt
    cases hn.contextsAt
    cases hn.transitionsAt
    cases hn'.approvalsAt
    cases hn'.contextsAt
    cases hn'.transitionsAt
    exact ⟨normalized_sameMultiset normalizes_reload hd.approvals hd'.approvals hn.approvals
        hn'.approvals,
      normalized_sameMultiset normalizes_context hd.contexts hd'.contexts hn.contexts hn'.contexts,
      normalized_sameMultiset normalizes_transitions hd.transitions hd'.transitions hn.transitions
        hn'.transitions⟩

def sampleRecord (fields : List (String × PyValue)) : PyValue :=
  .dict (fields.map fun p => (.str (ofString p.1), p.2))

def sampleText (s : String) : PyValue := .str (ofString s)

/-- Two approvals, two contexts and two transitions, each of them in the wrong order. -/
def sampleArguments : EvidenceArguments where
  manifestId := ofString "manifest-1"
  executionId := ofString "execution-1"
  sliceId := ofString "slice-1"
  contractFingerprint := List.replicate 64 (ofChar 'a')
  authorityFingerprint := List.replicate 64 (ofChar 'b')
  baseCommit := List.replicate 40 (ofChar 'c')
  resultCommit := List.replicate 40 (ofChar 'd')
  makerAttemptEvidence := sampleRecord [("status", sampleText "SUCCEEDED")]
  verificationEvidence := sampleRecord [("verdict", sampleText "PASS")]
  evaluatorAttemptEvidence := sampleRecord [("status", sampleText "SUCCEEDED")]
  evaluationEvidence := sampleRecord [("verdict", sampleText "PASS")]
  approvalRefs := [sampleRecord [("approval_id", sampleText "b")],
    sampleRecord [("approval_id", sampleText "a")]]
  contextFingerprints := [
    sampleRecord [("role", sampleText "MAKER"), ("context_snapshot_id", sampleText "c")],
    sampleRecord [("role", sampleText "EVALUATOR"), ("context_snapshot_id", sampleText "c")]]
  transitionEvidence := [sampleRecord [("to_state_version", .int 10)],
    sampleRecord [("to_state_version", .int 9)]]
  createdAt := ofString "2026-01-01T00:00:00Z"

theorem sampleRecord_distinctKeys {fields : List (String × PyValue)}
    (hkeys : (fields.map Prod.fst).Nodup) (h : ∀ p ∈ fields, DistinctKeys p.2) :
    DistinctKeys (sampleRecord fields) := by
  refine .dict ?_ fun item hitem => ?_
  · rw [List.map_map]
    have hmap := (hkeys.map ofString_injective).map fun a b h => PyValue.str.inj h
    rwa [List.map_map, List.map_map] at hmap
  · obtain ⟨p, hp, rfl⟩ := List.mem_map.mp hitem
    exact h p hp

theorem sampleRecord_text (key text : String) :
    DistinctKeys (sampleRecord [(key, sampleText text)]) :=
  sampleRecord_distinctKeys (List.nodup_singleton _)
    (List.forall_mem_singleton.mpr (.str (ofString text)))

theorem sampleRecord_int (key : String) (n : Int) :
    DistinctKeys (sampleRecord [(key, .int n)]) :=
  sampleRecord_distinctKeys (List.nodup_singleton _) (List.forall_mem_singleton.mpr (.int n))

theorem sampleRecord_context (role snapshot : String) : DistinctKeys (sampleRecord
    [("role", sampleText role), ("context_snapshot_id", sampleText snapshot)]) :=
  sampleRecord_distinctKeys (by simp) (List.forall_mem_cons.mpr
    ⟨.str (ofString role), List.forall_mem_singleton.mpr (.str (ofString snapshot))⟩)

theorem sampleArguments_distinct : sampleArguments.Distinct where
  maker := sampleRecord_text ..
  verification := sampleRecord_text ..
  evaluator := sampleRecord_text ..
  evaluation := sampleRecord_text ..
  approvals := List.forall_mem_cons.mpr
    ⟨sampleRecord_text .., List.forall_mem_singleton.mpr (sampleRecord_text ..)⟩
  contexts := List.forall_mem_cons.mpr
    ⟨sampleRecord_context .., List.forall_mem_singleton.mpr (sampleRecord_context ..)⟩
  transitions := List.forall_mem_cons.mpr
    ⟨sampleRecord_int .., List.forall_mem_singleton.mpr (sampleRecord_int ..)⟩

theorem sampleArguments_built : ∃ m, buildEvidenceManifest sampleArguments = .ok m := by
  have hrun : (canonicalEvidencePayload sampleArguments.fields).toOption.any (fun q =>
      (canonicalText q).isOk && (canonicalBytes q).isOk) = true := by
    decide +kernel
  cases hq : canonicalEvidencePayload sampleArguments.fields with
  | error f =>
    rw [hq] at hrun
    cases hrun
  | ok q =>
    rw [hq] at hrun
    obtain ⟨htext, hbytes⟩ := Bool.and_eq_true_iff.mp hrun
    cases ht : canonicalText q with
    | error f =>
      rw [ht] at htext
      cases htext
    | ok t =>
      cases hb : canonicalBytes q with
      | error f =>
        rw [hb] at hbytes
        cases hbytes
      | ok bytes =>
        have hdigest : ∃ digest, Canonical.canonicalSha256 q = .ok digest := by
          unfold Canonical.canonicalSha256
          rw [hb]
          exact ⟨_, rfl⟩
        obtain ⟨digest, hdigest⟩ := hdigest
        exact ⟨⟨q, t, digest⟩, buildEvidenceManifest_ok.mpr ⟨by decide, hq, ht, hdigest⟩⟩

/-- The three lists the other way round give the same manifest, the payload is its own payload,
and both were built from the same lists. -/
theorem evidence_sample : ∃ m items,
    buildEvidenceManifest sampleArguments = .ok m ∧
    buildEvidenceManifest (sampleArguments.withLists sampleArguments.approvalRefs.reverse
      sampleArguments.contextFingerprints.reverse sampleArguments.transitionEvidence.reverse) =
        .ok m ∧
    canonicalEvidencePayload items = .ok m.materializedFields ∧
    SameMultiset sampleArguments.approvalRefs sampleArguments.approvalRefs := by
  obtain ⟨m, hm⟩ := sampleArguments_built
  have hd := sampleArguments_distinct
  obtain ⟨hperm, hself, hsame⟩ := evidence_order_independent
  obtain ⟨items, -, hitems⟩ := hself _ _ hd.fields (buildEvidenceManifest_ok.mp hm).2.1
  exact ⟨m, items, hm, hperm _ m _ _ _ hd (List.reverse_perm _).symm (List.reverse_perm _).symm
    (List.reverse_perm _).symm hm, hitems, (hsame _ _ m m hd hd hm hm rfl).1⟩

end Adcp.L2.Evidence
