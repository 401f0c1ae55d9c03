import Adcp.L1Base.Yields
import Adcp.L5Migration.TerminalSerializer
/-!
# Evidence that is always written

Whatever the values at hand are and whichever writers and carriers fail, a detail is made and an
error is made of it; the message of the error is UTF-8 within its budget, and what the two carry is
plain.

* `cut`: what both ways of cutting a text come to; `truncateExactText_eq`,
  `boundedTerminalText_eq`: neither raises.
* `terminalSnapshot_yields`, `terminalPayloadDict_yields`: a snapshot is plain.
* `serializeEvidencePayload_yields`, `OperationalError.new_yields`: a detail and an error are made.
* `evidence_total`: the two together.
-/
namespace Adcp.L5.Migration.TerminalEvidence

open Adcp.L1 PyText
open PyValue (Items get? hasKey set)

/-! ## Cut texts -/

/-- UTF-8 of at most so many bytes. -/
structure Bounded (max : Nat) (t : PyText) : Prop where
  utf8 : Utf8 t
  bytes : utf8Length t ≤ max

theorem Bounded.mono {m n : Nat} {t : PyText} (h : Bounded m t) (hle : m ≤ n) : Bounded n t :=
  ⟨h.utf8, h.bytes.trans hle⟩

theorem Bounded.append {m n : Nat} {t u : PyText} (ht : Bounded m t) (hu : Bounded n u) :
    Bounded (m + n) (t ++ u) := by
  refine ⟨ht.utf8.append hu.utf8, ?_⟩
  rw [utf8Length_append]
  exact Nat.add_le_add ht.bytes hu.bytes

theorem bounded_takeBytes {t : PyText} (h : Utf8 t) (n : Nat) : Bounded n (takeBytes n t) :=
  ⟨h.takeBytes n, takeBytes_length_le n t⟩

/-- The text as it is if it fits, else as much of it as leaves room for the marker. -/
def cut (marker : PyText) (max : Nat) (value : PyText) : PyText :=
  if utf8Length (backslashreplace value) ≤ max then backslashreplace value
  else if max ≤ utf8Length marker then takeBytes max marker
  else takeBytes (max - utf8Length marker) (backslashreplace value) ++ marker

theorem kept_bounded {marker text : PyText} {max : Nat} (hmarker : Utf8 marker) (htext : Utf8 text)
    (hroom : utf8Length marker ≤ max) :
    Bounded max (takeBytes (max - utf8Length marker) text ++ marker) := by
  apply Bounded.mono ((bounded_takeBytes htext _).append ⟨hmarker, Nat.le_refl _⟩)
  omega

theorem cut_bounded {marker : PyText} (hmarker : Utf8 marker) (max : Nat) (value : PyText) :
    Bounded max (cut marker max value) := by
  have hutf8 := utf8_backslashreplace value
  unfold cut
  split_ifs with hfits hroom
  · exact ⟨hutf8, hfits⟩
  · exact bounded_takeBytes hmarker max
  · exact kept_bounded hmarker hutf8 (Nat.le_of_not_le hroom)

theorem cut_of_bounded {marker t : PyText} {max : Nat} (h : Bounded max t) :
    cut marker max t = t := by
  unfold cut
  rw [backslashreplace_eq h.utf8]
  exact if_pos h.bytes

theorem encodedUtf8_ok {t : PyText} (h : Utf8 t) : encodedUtf8 t = .ok t := if_pos h

theorem encodedUtf8_eq_ok {t u : PyText} (h : encodedUtf8 t = .ok u) : u = t ∧ Utf8 t := by
  unfold encodedUtf8 at h
  split_ifs at h with hutf8
  cases h
  exact ⟨rfl, hutf8⟩

/-- What fits is not contracted any more. -/
theorem contract_fits {marker kept : PyText} {max : Nat} (h : Bounded max (kept ++ marker))
    (n : Nat) : contract marker max n kept = .ok (kept ++ marker) := by
  cases n with
  | zero =>
    rw [contract, encodedUtf8_ok h.utf8]
    rfl
  | succ n =>
    rw [contract, encodedUtf8_ok h.utf8]
    exact if_neg (Nat.not_lt.mpr h.bytes)

theorem truncateExactText_eq (value : PyText) (max : Nat) :
    truncateExactText value max = .ok (cut terminalTruncationMarker max value) := by
  have hmarker : Utf8 terminalTruncationMarker := utf8_ofString _
  have hutf8 : Utf8 (normalizeExactString value) := utf8_backslashreplace value
  unfold truncateExactText
  simp only [encodedUtf8_ok hutf8, encodedUtf8_ok hmarker]
  change (if utf8Length (backslashreplace value) ≤ max then _ else if _ then _ else _) = _
  unfold cut
  split_ifs with hfits hroom
  · rfl
  · rfl
  · exact contract_fits (kept_bounded hmarker hutf8 (Nat.le_of_not_le hroom)) _

theorem boundedTerminalText_eq (text : PyText) :
    boundedTerminalText text = .ok (cut textTruncationMarker terminalEvidenceMaxBytes text) := by
  have hmarker : Utf8 textTruncationMarker := utf8_ofString _
  have hutf8 : Utf8 (normalizeExactString text) := utf8_backslashreplace text
  have hroom : utf8Length textTruncationMarker < terminalEvidenceMaxBytes := by
    rw [textTruncationMarker, utf8Length_ofString]
    decide
  unfold boundedTerminalText
  simp only [encodedUtf8_ok hutf8, encodedUtf8_ok hmarker]
  change (if utf8Length (backslashreplace text) ≤ _ then _ else _) = _
  unfold cut
  rw [if_neg (Nat.not_le.mpr hroom)]
  split_ifs with hfits
  · rfl
  · exact contract_fits (kept_bounded hmarker hutf8 hroom.le) _

/-- What `truncateExactText` gives. -/
def cutText (max : Nat) (value : PyText) : PyText := cut terminalTruncationMarker max value

theorem cutText_bounded (max : Nat) (value : PyText) : Bounded max (cutText max value) :=
  cut_bounded (utf8_ofString _) max value

theorem truncateExactText_yields {P : PyText → Prop} (value : PyText) (max : Nat)
    (h : ∀ t, Bounded max t → P t) : Yields (truncateExactText value max) P :=
  ⟨_, truncateExactText_eq value max, h _ (cutText_bounded max value)⟩

theorem emergencyExactText_bounded (text : PyText) (max : Nat) :
    Bounded max (emergencyExactText text max) := by
  have hutf8 := utf8_backslashreplace text
  unfold emergencyExactText
  dsimp only
  split_ifs with hlong
  · apply Bounded.mono
      ((bounded_takeBytes hutf8 _).append (bounded_takeBytes (utf8_ofString _) _))
    omega
  · exact ⟨hutf8, Nat.not_lt.mp hlong⟩


/-! ## Scalars and exceptions -/

theorem safeExceptionText_yields (error : Fault) :
    Yields (safeExceptionText error) fun _ => True := by
  unfold safeExceptionText
  cases error.rendered with
  | raises _ => exact .pure trivial
  | invalid => exact .pure trivial
  | text t => exact truncateExactText_yields t _ fun _ _ => trivial

theorem safeFailurePayload_yields (operation : PyText) (error : Fault) :
    Yields (safeFailurePayload operation error) fun _ => True :=
  (safeExceptionText_yields error).bind fun _ _ => .pure trivial

theorem Failure.toValue_plain (f : Failure) : PyValue.Plain f.toValue := by
  apply PyValue.Plain.dict
  · intro item hitem
    rcases List.mem_cons.mp hitem with rfl | hitem
    · exact ⟨_, rfl⟩
    · rcases List.mem_cons.mp hitem with rfl | hitem
      · exact ⟨_, rfl⟩
      · rw [List.mem_singleton.mp hitem]
        exact ⟨_, rfl⟩
  · intro item hitem
    rcases List.mem_cons.mp hitem with rfl | hitem
    · exact .str _
    · rcases List.mem_cons.mp hitem with rfl | hitem
      · exact .str _
      · rw [List.mem_singleton.mp hitem]
        exact .str _

theorem failuresValue_plain (failures : List Failure) : PyValue.Plain (failuresValue failures) := by
  apply PyValue.Plain.list
  intro v hv
  obtain ⟨f, -, rfl⟩ := List.mem_map.mp hv
  exact f.toValue_plain

/-! ## Snapshots -/

section Snapshot

variable {snapshot : PyValue → Nat → Try (PyValue × Nat)}

theorem safeKey_yields (taken : Items) (key : PyValue) :
    Yields (safeKey taken key) fun _ => True := by
  unfold safeKey
  extract_lets rest
  have hrest (safe : PyText) : Yields (rest safe) fun _ => True := .pure trivial
  cases key with
  | str t => exact (truncateExactText_yields t _ fun _ _ => trivial).bind fun safe _ => hrest safe
  | _ => exact hrest _

theorem snapshotItems_yields (hsnapshot : ∀ v n, Yields (snapshot v n) fun r => PyValue.Plain r.1)
    (items result : Items) (count nodes : Nat) (h : PyValue.Plain (.dict result)) :
    Yields (snapshotItems snapshot items result count nodes) fun r =>
      PyValue.Plain (.dict r.1) := by
  induction items generalizing result count nodes with
  | nil => exact .pure h
  | cons item rest ih =>
    obtain ⟨key, value⟩ := item
    unfold snapshotItems
    split_ifs with hfull
    · exact .pure (h.set (.bool true))
    · refine (safeKey_yields result key).bind fun safe _ => ?_
      refine (hsnapshot value nodes).bind fun r hr => ?_
      have hset : PyValue.Plain (.dict (set result safe r.1)) := h.set hr
      dsimp only
      split_ifs with hnodes
      · exact .pure (hset.set (.bool true))
      · exact ih _ _ _ hset

theorem snapshotElements_yields
    (hsnapshot : ∀ v n, Yields (snapshot v n) fun r => PyValue.Plain r.1)
    (items result : List PyValue) (nodes : Nat) (h : ∀ v ∈ result, PyValue.Plain v) :
    Yields (snapshotElements snapshot items result nodes) fun r => ∀ v ∈ r.1, PyValue.Plain v := by
  induction items generalizing result nodes with
  | nil => exact .pure h
  | cons item rest ih =>
    unfold snapshotElements
    refine (hsnapshot item nodes).bind fun r hr => ?_
    dsimp only
    split_ifs with hnodes
    · refine .pure fun v hv => ?_
      rcases List.mem_append.mp hv with hv | hv
      · exact h v hv
      · rcases List.mem_cons.mp hv with rfl | hv
        · exact hr
        · rw [List.mem_singleton.mp hv]
          exact .str _
    · refine ih _ _ fun v hv => ?_
      rcases List.mem_append.mp hv with hv | hv
      · exact h v hv
      · rw [List.mem_singleton.mp hv]
        exact hr

theorem snapshotSequence_yields
    (hsnapshot : ∀ v n, Yields (snapshot v n) fun r => PyValue.Plain r.1)
    (items : List PyValue) (nodes : Nat) :
    Yields (snapshotSequence snapshot items nodes) fun r => PyValue.Plain r.1 := by
  refine (snapshotElements_yields hsnapshot _ [] nodes (by simp)).bind fun r hr => ?_
  apply Yields.pure
  apply PyValue.Plain.list
  split_ifs with hlong
  · intro v hv
    rcases List.mem_append.mp hv with hv | hv
    · exact hr v hv
    · rw [List.mem_singleton.mp hv]
      exact .str _
  · exact hr

end Snapshot

/-- Of any value, however deep and wide. -/
theorem terminalSnapshot_yields (levels : Nat) (value : PyValue) (nodes : Nat) :
    Yields (terminalSnapshot levels value nodes) fun r => PyValue.Plain r.1 := by
  induction levels generalizing value nodes with
  | zero => exact .pure (.str _)
  | succ levels ih =>
    unfold terminalSnapshot
    split_ifs with hnodes
    · exact .pure (.str _)
    · cases value with
      | none => exact .pure .none
      | bool b => exact .pure (.bool b)
      | int n => exact .pure (.int n)
      | float f => exact .pure (.float f)
      | str t =>
        refine (truncateExactText_yields t _ fun _ _ => trivial).bind fun text _ => ?_
        exact .pure (.str text)
      | bytes b => exact .pure (.str _)
      | dict items =>
        have hempty : PyValue.Plain (.dict []) := .dict (by simp) (by simp)
        refine (snapshotItems_yields ih _ [] 0 _ hempty).bind fun r hr => ?_
        exact .pure hr
      | list items => exact snapshotSequence_yields ih items _
      | tuple items => exact snapshotSequence_yields ih items _
      | object name => exact .pure (.str _)

theorem snapshotOf_yields (value : PyValue) : Yields (snapshotOf value) PyValue.Plain :=
  (terminalSnapshot_yields _ value 0).bind fun _ hr => .pure hr

/-! ## Payloads -/

/-- Where identity is found, with its text. -/
def reserveOf (items : Items) : List (PyText × PyText) :=
  ((identityItems items).filter fun item => !item.2.isContainer).map fun item =>
    (item.1, cutText identityMaxBytes (terminalSafeScalar item.2))

theorem terminalIdentityReserve_dict (items : Items) :
    terminalIdentityReserve (.dict items) = .ok (reserveOf items) := by
  have heach : (fun item : PyText × PyValue => do
      let text ← truncateExactText (terminalSafeScalar item.2) identityMaxBytes
      pure (item.1, text)) = fun item => (Except.ok (item.1,
        cutText identityMaxBytes (terminalSafeScalar item.2)) : Try (PyText × PyText)) := by
    funext item
    rw [truncateExactText_eq]
    rfl
  unfold terminalIdentityReserve
  exact (congrArg (List.mapM · _) heach).trans (List.mapM_pure ..)

theorem terminalIdentityReserve_yields (value : PyValue) :
    Yields (terminalIdentityReserve value) fun _ => True := by
  cases value with
  | dict items => exact ⟨_, terminalIdentityReserve_dict items, trivial⟩
  | _ => exact .pure trivial

theorem reserveValue_plain (reserve : List (PyText × PyText)) :
    PyValue.Plain (reserveValue reserve) := by
  apply PyValue.Plain.dict
  · intro item hitem
    obtain ⟨r, -, rfl⟩ := List.mem_map.mp hitem
    exact ⟨_, rfl⟩
  · intro item hitem
    obtain ⟨r, -, rfl⟩ := List.mem_map.mp hitem
    exact .str _

theorem terminalPayloadDict_yields (value : PyValue) :
    Yields (terminalPayloadDict value) fun items => PyValue.Plain (.dict items) := by
  refine (terminalIdentityReserve_yields value).bind fun reserve _ => ?_
  refine (snapshotOf_yields value).bind fun snapshot hsnapshot => ?_
  have reserved {items : Items} (hitems : PyValue.Plain (.dict items)) :
      Yields (pure (if reserve = [] then items
        else set items terminalIdentityReserveKey (reserveValue reserve)) : Try Items)
      fun items => PyValue.Plain (.dict items) := by
    apply Yields.pure
    split_ifs with hreserve
    · exact hitems
    · exact hitems.set (reserveValue_plain reserve)
  have hempty : PyValue.Plain (.dict []) := .dict (by simp) (by simp)
  cases snapshot with
  | dict items => exact reserved hsnapshot
  | _ => exact reserved (hempty.set hsnapshot)

theorem normalizedFailure_yields (item : PyValue) :
    Yields (normalizedFailure item) fun _ => True := by
  refine (snapshotOf_yields item).bind fun snapshot _ => ?_
  cases snapshot with
  | dict items => exact .pure trivial
  | _ => exact .pure trivial

theorem terminalFailureTuple_yields (value : PyValue) :
    Yields (terminalFailureTuple value) fun _ => True := by
  cases value with
  | list items =>
    exact (Yields.mapM fun item _ => normalizedFailure_yields item).bind fun _ _ => .pure trivial
  | tuple items =>
    exact (Yields.mapM fun item _ => normalizedFailure_yields item).bind fun _ _ => .pure trivial
  | _ => exact .pure trivial

/-! ## The working payload -/

variable {layers : Layers} {working : Items} {failures : List Failure}

theorem setFirst_plain (h : PyValue.Plain (.dict working)) (key : String) (failure : Failure) :
    PyValue.Plain (.dict (setFirst working key failure)) := by
  unfold setFirst
  split_ifs with hkey
  · exact h
  · exact h.set failure.toValue_plain

theorem appendFailure_plain (h : PyValue.Plain (.dict working)) (failure : Failure)
    (instead : List Failure) : PyValue.Plain (.dict (appendFailure working failure instead)) := by
  unfold appendFailure
  apply h.set
  split
  · next existing hexisting =>
    obtain _ | _ | _ | _ | _ | heach := h.get hexisting
    refine .list fun v hv => ?_
    rcases List.mem_append.mp hv with hv | hv
    · exact heach v hv
    · rw [List.mem_singleton.mp hv]
      exact failure.toValue_plain
  · exact failuresValue_plain instead

theorem recordSerializationFailure_yields (h : PyValue.Plain (.dict working))
    (failures : List Failure) (failure : Failure) (fallback : Bool) :
    Yields (recordSerializationFailure working failures failure fallback) fun r =>
      PyValue.Plain (.dict r.1) := by
  refine (terminalPayloadDict_yields failure.toValue).bind fun safe _ => ?_
  have hfirst := setFirst_plain (appendFailure_plain h (failureOf safe) [failureOf safe])
    firstFailureKey (failureOf safe)
  cases fallback with
  | false => exact .pure hfirst
  | true => exact .pure (setFirst_plain hfirst _ _)

theorem emergencyAppendFailure_yields (h : PyValue.Plain (.dict working)) (failures : List Failure)
    (operation : PyText) (error : Fault) :
    Yields (emergencyAppendFailure working failures operation error) fun r =>
      PyValue.Plain (.dict r.1) := by
  refine (safeExceptionText_yields error).bind fun text _ => ?_
  exact .pure (setFirst_plain (appendFailure_plain h _ _) _ _)

/-! ## Details -/

/-- A detail that carries a plain payload and, unless the fallback carrier took the text as the
last writer gave it, a text within the budget. -/
structure Contained (d : Detail) : Prop where
  plain : PyValue.Plain d.evidencePayload
  text : d.carrier = .terminalEvidenceFallback ∨ Bounded terminalEvidenceMaxBytes d.text

theorem emergency_contained (h : PyValue.Plain (.dict working)) (text : PyText)
    (failures : List Failure) :
    Contained (makeTerminalEmergencyDetail text working failures) :=
  ⟨h, Or.inr (emergencyExactText_bounded _ _)⟩

/-- Whatever the carriers and the last writer do. -/
theorem buildEvidenceDetail_yields (layers : Layers) (text : PyValue)
    (h : PyValue.Plain (.dict working)) (failures : List Failure) :
    Yields (buildEvidenceDetail layers text working failures) Contained := by
  unfold buildEvidenceDetail
  rw [boundedTerminalText_eq]
  refine (terminalFailureTuple_yields _).bind fun safeFailures _ => ?_
  cases layers.evidenceDetail with
  | ok _ => exact .pure ⟨h, Or.inr (cut_bounded (utf8_ofString _) _ _)⟩
  | error constructorError =>
    refine (safeFailurePayload_yields _ constructorError).bind fun failure _ => ?_
    have hworking := appendFailure_plain (setFirst_plain h firstFailureKey failure) failure
      (safeFailures ++ [failure])
    dsimp only
    cases layers.terminalEvidenceFallback with
    | ok _ => exact .pure ⟨hworking, Or.inl rfl⟩
    | error carrierError =>
      apply Yields.pure
      apply emergency_contained
      exact setFirst_plain (hworking.set (failuresValue_plain _)) _ _

theorem lastResort_yields (layers : Layers) (operation : PyText) (h : PyValue.Plain (.dict working))
    (failures : List Failure) :
    Yields (lastResort layers operation working failures) Contained := by
  unfold lastResort
  split
  · next text _ => exact buildEvidenceDetail_yields layers text h failures
  · next error _ =>
    refine (emergencyAppendFailure_yields h failures _ error).bind fun r hr => ?_
    exact .pure (emergency_contained hr _ _)

/-- What a computation returns, if it does. -/
def Gives {α : Type} (x : Try α) (P : α → Prop) : Prop := ∀ a, x = .ok a → P a

theorem Gives.bind {α β : Type} {x : Try α} {f : α → Try β} {P : β → Prop}
    (h : ∀ a, x = .ok a → Gives (f a) P) : Gives (x >>= f) P := by
  intro b hb
  cases x with
  | error e => cases hb
  | ok a => exact h a rfl b hb

theorem Gives.error {α : Type} {P : α → Prop} (e : Fault) : Gives (.error e) P := by
  intro a ha
  cases ha

theorem Gives.of_yields {α : Type} {x : Try α} {P : α → Prop} (h : Yields x P) : Gives x P := by
  obtain ⟨a, rfl, ha⟩ := h
  intro b hb
  cases hb
  exact ha

theorem tryFallback_gives (layers : Layers) (h : PyValue.Plain (.dict working))
    (failures : List Failure) :
    Gives (tryFallback layers working failures) Contained := by
  refine .bind fun written _ => ?_
  cases written with
  | str text =>
    refine .bind fun bounded _ => .bind fun encoded _ => ?_
    split_ifs with hlong
    · exact .error _
    · exact .of_yields (buildEvidenceDetail_yields layers _ h failures)
  | _ => exact .error _

theorem serializeFallback_yields (layers : Layers) (operation : PyText)
    (h : PyValue.Plain (.dict working)) (failures : List Failure) :
    Yields (serializeFallback layers operation working failures) Contained := by
  unfold serializeFallback
  split
  · next detail hdetail => exact .pure (tryFallback_gives layers h failures detail hdetail)
  · next error _ =>
    refine (safeFailurePayload_yields _ error).bind fun failure _ => ?_
    refine (recordSerializationFailure_yields h failures failure true).bind fun r hr => ?_
    exact lastResort_yields layers operation hr r.2

/-- A detail, or the payload with a note that it was too long. -/
theorem tryCanonical_gives (layers : Layers) (h : PyValue.Plain (.dict working))
    (failures : List Failure) : Gives (tryCanonical layers working failures)
      (Sum.elim Contained fun w => PyValue.Plain (.dict w)) := by
  refine .bind fun written _ => ?_
  cases written with
  | str text =>
    refine .bind fun encoded _ => ?_
    split_ifs with hfits
    · apply Gives.of_yields
      exact (buildEvidenceDetail_yields layers _ h failures).bind fun d hd => .pure hd
    · apply Gives.of_yields
      apply Yields.pure
      refine h.set (.dict ?_ ?_)
      · simp
      · simp only [List.mem_cons, List.not_mem_nil, or_false, forall_eq_or_imp, forall_eq]
        exact ⟨.str _, .int _, .int _⟩
  | _ => exact .error _

theorem priorFailures_yields (working : Items) (prior : PyValue) :
    Yields (priorFailures working prior) fun _ => True := by
  refine (terminalFailureTuple_yields prior).bind fun failures _ => ?_
  refine (terminalFailureTuple_yields _).bind fun existing _ => ?_
  dsimp only
  split
  · exact (terminalFailureTuple_yields _).bind fun _ _ => .pure trivial
  · exact .pure trivial

theorem startSerialization_yields (payload prior : PyValue) :
    Yields (startSerialization payload prior) fun r => PyValue.Plain (.dict r.1) := by
  refine (terminalPayloadDict_yields payload).bind fun working h => ?_
  refine (priorFailures_yields working prior).bind fun failures _ => ?_
  cases failures with
  | nil => exact .pure h
  | cons first rest => exact .pure (setFirst_plain (h.set (failuresValue_plain _)) _ _)

/-- The serializer returns, whichever of its writers and carriers fail. -/
theorem serializeEvidencePayload_yields (layers : Layers) (payload operation : PyValue)
    (forceFailsafe : Bool) (prior : PyValue) :
    Yields (serializeEvidencePayload layers payload operation forceFailsafe prior) Contained := by
  refine (startSerialization_yields payload prior).bind fun r h => ?_
  obtain ⟨working, failures⟩ := r
  dsimp only
  split_ifs with hforce
  · exact serializeFallback_yields layers _ h failures
  · have hgives := tryCanonical_gives layers h failures
    split
    · next detail hdetail => exact .pure (hgives _ hdetail)
    · next kept hkept => exact serializeFallback_yields layers _ (hgives _ hkept) failures
    · next error _ =>
      refine (safeFailurePayload_yields _ error).bind fun failure _ => ?_
      refine (recordSerializationFailure_yields h failures failure false).bind fun r hr => ?_
      exact serializeFallback_yields layers _ hr r.2

/-! ## Errors -/

theorem terminalSafeDetailText_yields (detail : DetailArgument) :
    Yields (terminalSafeDetailText detail) fun _ => True := by
  cases detail with
  | carried d => exact truncateExactText_yields _ _ fun _ _ => trivial
  | text t => exact truncateExactText_yields _ _ fun _ _ => trivial
  | absent => exact .pure trivial
  | object name rendered =>
    cases rendered with
    | text t => exact truncateExactText_yields _ _ fun _ _ => trivial
    | invalid => exact .pure trivial
    | raises failure => exact .pure trivial

/-- The message of an error, whatever its code is made of. -/
theorem boundedErrorComponents_gives (code : PyValue) (detail : PyText) :
    Gives (boundedErrorComponents code detail) fun c =>
      Bounded terminalEvidenceMaxBytes c.message := by
  unfold boundedErrorComponents
  extract_lets rest
  have hrest (safeCode : PyText) : Gives (rest safeCode) fun c =>
      Bounded terminalEvidenceMaxBytes c.message := by
    refine .bind fun safeDetail _ => ?_
    split_ifs with hempty
    · apply Gives.of_yields
      exact (truncateExactText_yields _ _ fun t ht => ht).bind fun _ hmessage => .pure hmessage
    · refine .bind fun encoded hencoded => ?_
      obtain ⟨rfl, hstart⟩ := encodedUtf8_eq_ok hencoded
      split_ifs with hfull
      · apply Gives.of_yields
        exact (truncateExactText_yields _ _ fun t ht => ht).bind fun _ hmessage => .pure hmessage
      · apply Gives.of_yields
        refine (truncateExactText_yields _ _ fun t ht => ht).bind fun bounded hbounded => ?_
        have hmessage : Bounded terminalEvidenceMaxBytes (safeCode ++ ofString ": " ++ bounded) :=
          (Bounded.append ⟨hstart, Nat.le_refl _⟩ hbounded).mono (by omega)
        dsimp only
        rw [encodedUtf8_ok hmessage.utf8]
        change Yields (if _ < _ then _ else _) _
        rw [if_neg (Nat.not_lt.mpr hmessage.bytes)]
        exact .pure hmessage
  cases code with
  | str t => exact .bind fun safeCode _ => hrest safeCode
  | _ => exact hrest _

/-- An exact text as a code raises nothing. -/
theorem boundedErrorComponents_yields (code detail : PyText) :
    Yields (boundedErrorComponents (.str code) detail) fun c =>
      Bounded terminalEvidenceMaxBytes c.message := by
  suffices hreturns : Yields (boundedErrorComponents (.str code) detail) fun _ => True by
    obtain ⟨c, hc, -⟩ := hreturns
    exact ⟨c, hc, boundedErrorComponents_gives _ _ c hc⟩
  refine (truncateExactText_yields _ _ fun t ht => ht).bind fun safeCode hcode => ?_
  refine (terminalSafeDetailText_yields _).bind fun safeDetail _ => ?_
  split_ifs with hempty
  · exact (truncateExactText_yields _ _ fun _ _ => trivial).bind fun _ _ => .pure trivial
  · dsimp only
    rw [encodedUtf8_ok (hcode.utf8.append (utf8_ofString _))]
    change Yields (if _ then _ else _) _
    split_ifs with hfull
    · exact (truncateExactText_yields _ _ fun _ _ => trivial).bind fun _ _ => .pure trivial
    · refine (truncateExactText_yields _ _ fun t ht => ht).bind fun bounded hbounded => ?_
      rw [encodedUtf8_ok ((hcode.utf8.append (utf8_ofString _)).append hbounded.utf8)]
      change Yields (if _ < _ then _ else _) _
      rw [boundedTerminalText_eq]
      split_ifs with hlong
      · change Yields (if _ then _ else _) _
        split_ifs with hprefix
        · exact .pure trivial
        · exact .pure trivial
      · exact .pure trivial

/-- An error whose message is within the budget and whose payload, if it has one, is plain. -/
structure Surfaced (e : OperationalError) : Prop where
  message : Bounded terminalEvidenceMaxBytes e.message
  plain : ∀ payload, e.evidencePayload = some payload → PyValue.Plain payload

theorem errorParts_yields (code : PyValue) (detail : DetailArgument) (payload : Option PyValue)
    (failures : PyValue) : Yields (errorParts code detail payload failures) fun r =>
      ∀ p, r.2.2.1 = some p → PyValue.Plain p := by
  have hpayload (inherited : Option PyValue) : Yields ((payload <|> inherited).mapM fun payload =>
      PyValue.dict <$> terminalPayloadDict payload) fun safe =>
        ∀ p, safe = some p → PyValue.Plain p := by
    cases payload <|> inherited with
    | none => exact .pure fun p hp => by cases hp
    | some value =>
      obtain ⟨items, hitems, hplain⟩ := terminalPayloadDict_yields value
      refine ⟨some (.dict items), ?_, fun p hp => by cases hp; exact hplain⟩
      simp only [Option.mapM, hitems]
      rfl
  unfold errorParts
  extract_lets safeCode rest
  have hrest (r : PyText × Option PyValue × List Failure) : Yields (rest r) fun r =>
      ∀ p, r.2.2.1 = some p → PyValue.Plain p := by
    refine (hpayload r.2.1).bind fun safe hsafe => ?_
    refine (terminalFailureTuple_yields failures).bind fun explicit _ => ?_
    exact .pure hsafe
  cases detail with
  | carried d => exact hrest (d.text, some d.evidencePayload, _)
  | _ => exact (terminalSafeDetailText_yields _).bind fun text _ => hrest (text, none, [])

theorem OperationalError.new_yields (code : PyValue) (detail : DetailArgument)
    (payload : Option PyValue) (failures : PyValue) :
    Yields (OperationalError.new code detail payload failures) Surfaced := by
  obtain ⟨⟨safeCode, text, safePayload, safeFailures⟩, hparts, hplain⟩ :=
    errorParts_yields code detail payload failures
  obtain ⟨c, hc, hmessage⟩ := boundedErrorComponents_yields safeCode text
  refine ⟨⟨c.code, c.detail, safePayload, safeFailures, c.message⟩, ?_, hmessage, hplain⟩
  unfold OperationalError.new
  rw [hparts]
  dsimp only [bind, Except.bind, pure, Except.pure]
  rw [hc]

/-- **Evidence is always written.** For every payload and operation, all prior failures, and
whichever writers and carriers raise or return anything but a text: a detail is made, which carries
a plain payload, and for every code an error is made of it, whose message is UTF-8 of at most
`terminalEvidenceMaxBytes` bytes and which carries a plain payload too. An error made of anything
else has such a message as well. -/
theorem evidence_total (layers : Layers) (payload operation : PyValue) (forceFailsafe : Bool)
    (prior code : PyValue) :
    (∃ detail, serializeEvidencePayload layers payload operation forceFailsafe prior = .ok detail ∧
      Contained detail ∧
      ∃ error, OperationalError.new code (.carried detail) none (.tuple []) = .ok error ∧
        Surfaced error) ∧
    ∀ argument explicit failures,
      ∃ error, OperationalError.new code argument explicit failures = .ok error ∧
        Surfaced error := by
  constructor
  · obtain ⟨detail, hdetail, hcontained⟩ :=
      serializeEvidencePayload_yields layers payload operation forceFailsafe prior
    exact ⟨detail, hdetail, hcontained, OperationalError.new_yields _ _ _ _⟩
  · intro argument explicit failures
    exact OperationalError.new_yields code argument explicit failures

end Adcp.L5.Migration.TerminalEvidence
