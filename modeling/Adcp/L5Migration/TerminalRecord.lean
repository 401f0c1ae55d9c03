import Adcp.L5Migration.TerminalBounds
/-!
# What a detail keeps

A detail is cut to its budget, but two things stay.

* `failures_accumulate`: the failures that were known before are the first ones of the detail, in
  their order, as they were or cut once more; the error of a failed recovery has those of the errors
  behind it.
* `identity_survives`: the text is the canonical form of a payload with the identity reserve, or
  shows the lines of that reserve, the first `maxIdentityLines` of them by path.
-/
namespace Adcp.L5.Migration.TerminalEvidence

open Adcp.L1 PyText
open PyValue (Items get? hasKey set)

variable {layers : Layers} {working : Items} {failures known : List Failure}

/-! ## A failure as a snapshot has it -/

def Failure.cut (f : Failure) : Failure where
  operation := cutText terminalMaxScalarBytes f.operation
  exceptionType := cutText terminalMaxScalarBytes f.exceptionType
  detail := cutText terminalMaxScalarBytes f.detail

theorem cutText_cutText (max : Nat) (t : PyText) : cutText max (cutText max t) = cutText max t :=
  cut_of_bounded (cutText_bounded max t)

@[simp] theorem Failure.cut_cut (f : Failure) : f.cut.cut = f.cut := by
  simp [Failure.cut, cutText_cutText]

theorem map_cut_cut (failures : List Failure) :
    (failures.map Failure.cut).map Failure.cut = failures.map Failure.cut := by
  simp [Function.comp_def]

theorem ofString_eq_iff {s t : String} : ofString s = ofString t ↔ s = t :=
  ofString_injective.eq_iff

theorem bounded_ofString {s : String} {max : Nat} (h : s.utf8ByteSize ≤ max) :
    Bounded max (ofString s) :=
  ⟨utf8_ofString s, (utf8Length_ofString s).trans_le h⟩

/-- A short key that is not taken stays as it is. -/
theorem safeKey_free {taken : Items} {key : PyText} (hkey : Bounded terminalMaxKeyBytes key)
    (hfree : hasKey taken key = false) : safeKey taken (.str key) = .ok key := by
  unfold safeKey
  dsimp only
  rw [truncateExactText_eq, cut_of_bounded hkey]
  change (Except.ok (if hasKey taken key then _ else key) : Try PyText) = _
  rw [hfree]
  rfl

theorem snapshot_str (levels : Nat) (t : PyText) {nodes : Nat} (h : nodes < terminalMaxNodes) :
    terminalSnapshot (levels + 1) (.str t) nodes =
      .ok (.str (cutText terminalMaxScalarBytes t), nodes + 1) := by
  unfold terminalSnapshot
  rw [if_neg (by omega)]
  dsimp only
  rw [truncateExactText_eq]
  rfl

/-- One item with a text under a short key that is not taken. -/
theorem snapshotItems_str (levels : Nat) {key text : PyText} {rest result : Items}
    {count nodes : Nat} (hkey : Bounded terminalMaxKeyBytes key)
    (hfree : hasKey result key = false) (hcount : count < terminalMaxContainerItems)
    (hnodes : nodes < terminalMaxNodes) :
    snapshotItems (terminalSnapshot (levels + 1)) ((.str key, .str text) :: rest) result count
        nodes =
      snapshotItems (terminalSnapshot (levels + 1)) rest
        (set result key (.str (cutText terminalMaxScalarBytes text))) (count + 1) (nodes + 1) := by
  rw [snapshotItems, if_neg (by omega), safeKey_free hkey hfree]
  change (terminalSnapshot (levels + 1) (.str text) nodes >>= _) = _
  rw [snapshot_str levels text hnodes]
  change (if terminalMaxNodes < nodes + 1 then _ else _) = _
  rw [if_neg (by omega)]

/-- The error type comes first, as it is a priority key. -/
theorem prioritized_failure (f : Failure) :
    prioritized [(.str (ofString "operation"), .str f.operation),
      (.str (ofString "exception_type"), .str f.exceptionType),
      (.str (ofString "detail"), .str f.detail)] =
    [(.str (ofString "exception_type"), .str f.exceptionType),
      (.str (ofString "operation"), .str f.operation),
      (.str (ofString "detail"), .str f.detail)] := by
  simp [prioritized, terminalPriorityKeys, isPriorityKey, PyValue.isText, ofString_eq_iff]

theorem normalizedFailure_toValue (f : Failure) :
    normalizedFailure f.toValue = .ok (some f.cut) := by
  have hitems : snapshotItems (terminalSnapshot terminalMaxDepth)
      [(.str (ofString "exception_type"), .str f.exceptionType),
        (.str (ofString "operation"), .str f.operation),
        (.str (ofString "detail"), .str f.detail)] [] 0 1 =
      .ok ([(.str (ofString "exception_type"), .str f.cut.exceptionType),
        (.str (ofString "operation"), .str f.cut.operation),
        (.str (ofString "detail"), .str f.cut.detail)], 4) := by
    have hoperation (t : PyText) : hasKey (PyValue.set [] (ofString "exception_type") (.str t))
        (ofString "operation") = false := by
      simp [PyValue.set, hasKey, PyValue.isText, ofString_eq_iff]
    have hdetail (t u : PyText) : hasKey (PyValue.set (PyValue.set [] (ofString "exception_type")
        (.str t)) (ofString "operation") (.str u)) (ofString "detail") = false := by
      simp [PyValue.set, hasKey, PyValue.isText, ofString_eq_iff]
    rw [show terminalMaxDepth = 19 + 1 from rfl,
      snapshotItems_str 19 (bounded_ofString (by decide)) rfl (by decide) (by decide),
      snapshotItems_str 19 (bounded_ofString (by decide)) (hoperation _) (by decide) (by decide),
      snapshotItems_str 19 (bounded_ofString (by decide)) (hdetail _ _) (by decide) (by decide)]
    simp [snapshotItems, PyValue.set, PyValue.isText, ofString_eq_iff, Failure.cut]
    rfl
  unfold normalizedFailure snapshotOf Failure.toValue
  rw [terminalSnapshot, if_neg (by decide), prioritized_failure, hitems]
  simp [failureOf, get?, PyValue.isText, textOr, Failure.cut]
  rfl

theorem mapM_ok {α β γ : Type} {f : β → Try γ} {g : α → β} {r : α → γ}
    (h : ∀ a, f (g a) = .ok (r a)) (l : List α) : (l.map g).mapM f = .ok (l.map r) := by
  induction l with
  | nil => rfl
  | cons a l ih =>
    rw [List.map_cons, List.mapM_cons, h, ih]
    rfl

/-- Failures read back from a payload are cut. -/
theorem terminalFailureTuple_failuresValue (failures : List Failure) :
    terminalFailureTuple (failuresValue failures) = .ok (failures.map Failure.cut) := by
  unfold terminalFailureTuple failuresValue
  dsimp only
  rw [mapM_ok normalizedFailure_toValue]
  change (Except.ok ((failures.map fun f => some f.cut).filterMap id) : Try (List Failure)) = _
  rw [List.filterMap_map]
  exact congrArg Except.ok (by simp)

/-! ## Failures accumulate -/

/-- The failures begin with the known ones, as they were or cut. -/
def Keeps (known failures : List Failure) : Prop :=
  known <+: failures ∨ known.map Failure.cut <+: failures

theorem Keeps.append (h : Keeps known failures) (more : List Failure) :
    Keeps known (failures ++ more) :=
  h.imp (·.trans (List.prefix_append _ _)) (·.trans (List.prefix_append _ _))

theorem Keeps.cut (h : Keeps known failures) :
    known.map Failure.cut <+: failures.map Failure.cut := by
  rcases h with h | h
  · exact h.map _
  · rw [← map_cut_cut]
    exact h.map _

theorem foldl_prefix {α β : Type} {step : List α → β → List α} (h : ∀ all b, all <+: step all b)
    (all : List α) (items : List β) : all <+: items.foldl step all := by
  induction items generalizing all with
  | nil => exact List.prefix_rfl
  | cons item items ih =>
    rw [List.foldl_cons]
    exact (h all item).trans (ih _)

theorem addNew_starts {α : Type} [DecidableEq α] (all items : List α) :
    all <+: items.foldl addNew all := by
  refine foldl_prefix (fun all item => ?_) all items
  unfold addNew
  split_ifs with hmem
  · exact List.prefix_rfl
  · exact List.prefix_append _ _

theorem mem_addNew {α : Type} [DecidableEq α] {all items : List α} {item : α}
    (h : item ∈ items) : item ∈ items.foldl addNew all := by
  induction items generalizing all with
  | nil => cases h
  | cons first items ih =>
    rw [List.foldl_cons]
    rcases List.mem_cons.mp h with rfl | h
    · apply (addNew_starts _ items).subset
      unfold addNew
      split_ifs with hmem
      · exact hmem
      · exact List.mem_append_right _ (List.mem_singleton_self _)
    · exact ih h

theorem buildEvidenceDetail_keeps (layers : Layers) (text : PyValue) (working : Items)
    (h : Keeps known failures) : Gives (buildEvidenceDetail layers text working failures)
      fun d => Keeps known d.serializationFailures := by
  unfold buildEvidenceDetail
  rw [boundedTerminalText_eq, terminalFailureTuple_failuresValue]
  have hcut : Keeps known (failures.map Failure.cut) := Or.inr h.cut
  apply Gives.of_yields
  cases layers.evidenceDetail with
  | ok _ => exact .pure hcut
  | error constructorError =>
    refine (safeFailurePayload_yields _ constructorError).bind fun failure _ => ?_
    dsimp only
    cases layers.terminalEvidenceFallback with
    | ok _ => exact .pure (hcut.append [failure])
    | error carrierError =>
      apply Yields.pure
      exact (hcut.append [failure]).append _

theorem recordSerializationFailure_keeps (h : Keeps known failures) (working : Items)
    (failure : Failure) (fallback : Bool) :
    Gives (recordSerializationFailure working failures failure fallback) fun r =>
      Keeps known r.2 := by
  refine .bind fun safe _ => ?_
  exact .of_yields (.pure (h.append _))

theorem lastResort_keeps (layers : Layers) (operation : PyText) (working : Items)
    (h : Keeps known failures) : Gives (lastResort layers operation working failures) fun d =>
      Keeps known d.serializationFailures := by
  unfold lastResort
  split
  · next text _ => exact buildEvidenceDetail_keeps layers text working h
  · next error _ =>
    refine .bind fun r hr => ?_
    refine .of_yields (.pure ?_)
    have happended : Gives (emergencyAppendFailure working failures
        (operation ++ ofString "_TERMINAL_LAST_RESORT") error) fun r => Keeps known r.2 :=
      .bind fun text _ => .of_yields (.pure (h.append _))
    exact happended r hr

theorem serializeFallback_keeps (layers : Layers) (operation : PyText) (working : Items)
    (h : Keeps known failures) : Gives (serializeFallback layers operation working failures)
      fun d => Keeps known d.serializationFailures := by
  unfold serializeFallback
  split
  · next detail hdetail =>
    refine .of_yields (.pure ?_)
    have hfallback : Gives (tryFallback layers working failures) fun d =>
        Keeps known d.serializationFailures := by
      refine .bind fun written _ => ?_
      cases written with
      | str text =>
        refine .bind fun bounded _ => .bind fun encoded _ => ?_
        split_ifs with hlong
        · exact .error _
        · exact buildEvidenceDetail_keeps layers _ working h
      | _ => exact .error _
    exact hfallback detail hdetail
  · next error _ =>
    refine .bind fun failure _ => .bind fun r hr => ?_
    exact lastResort_keeps layers operation r.1
      (recordSerializationFailure_keeps h working failure true r hr)

theorem tryCanonical_keeps (layers : Layers) (working : Items) (h : Keeps known failures) :
    Gives (tryCanonical layers working failures)
      (Sum.elim (fun d => Keeps known d.serializationFailures) fun _ => True) := by
  refine .bind fun written _ => ?_
  cases written with
  | str text =>
    refine .bind fun encoded _ => ?_
    split_ifs with hfits
    · refine .bind fun d hd => .of_yields (.pure ?_)
      exact buildEvidenceDetail_keeps layers _ working h d hd
    · exact .of_yields (.pure trivial)
  | _ => exact .error _

/-- The caller's failures come first. -/
theorem startSerialization_keeps (payload : PyValue) {prior : PyValue}
    (hprior : terminalFailureTuple prior = .ok known) :
    Gives (startSerialization payload prior) fun r => Keeps known r.2 := by
  refine .bind fun working _ => .bind fun failures hfailures => ?_
  have hkeeps : Gives (priorFailures working prior) fun failures => Keeps known failures := by
    unfold priorFailures
    rw [hprior]
    refine .bind fun first hfirst => .bind fun existing _ => ?_
    cases hfirst
    have hexisting := addNew_starts known existing
    dsimp only
    split
    · refine .bind fun found _ => .of_yields (.pure ?_)
      exact Or.inl (hexisting.trans (addNew_starts _ found))
    · exact .of_yields (.pure (Or.inl hexisting))
  have hknown := hkeeps failures hfailures
  cases failures with
  | nil => exact .of_yields (.pure hknown)
  | cons first rest => exact .of_yields (.pure hknown)

theorem serializeEvidencePayload_keeps (layers : Layers) (payload operation : PyValue)
    (forceFailsafe : Bool) {prior : PyValue} (hprior : terminalFailureTuple prior = .ok known) :
    Gives (serializeEvidencePayload layers payload operation forceFailsafe prior) fun d =>
      Keeps known d.serializationFailures := by
  refine .bind fun r hr => ?_
  have h := startSerialization_keeps payload hprior r hr
  obtain ⟨working, failures⟩ := r
  dsimp only
  split_ifs with hforce
  · exact serializeFallback_keeps layers _ working h
  · have hcanonical := tryCanonical_keeps layers working h
    split
    · next detail hdetail => exact .of_yields (.pure (hcanonical _ hdetail))
    · exact serializeFallback_keeps layers _ _ h
    · next error _ =>
      refine .bind fun failure _ => .bind fun r hr => ?_
      exact serializeFallback_keeps layers _ r.1
        (recordSerializationFailure_keeps h working failure false r hr)

/-! ## The error of a failed recovery -/

/-- The failures that can be read off an error. -/
def Attached (error : Option RaisedError) (failures : List Failure) : Prop :=
  ∃ e raw, error = some e ∧ e.serializationFailures = .ok raw ∧
    terminalFailureTuple raw = .ok failures

theorem safeErrorSerializationFailures_yields (error : Option RaisedError) :
    Yields (safeErrorSerializationFailures error) fun r => ∀ known, Attached error known →
      r.1 = known := by
  unfold safeErrorSerializationFailures
  cases error with
  | none =>
    refine .pure fun known hknown => ?_
    obtain ⟨_, _, hnone, -⟩ := hknown
    cases hnone
  | some e =>
    dsimp only
    cases hraw : e.serializationFailures with
    | ok raw =>
      obtain ⟨failures, hfailures, -⟩ := terminalFailureTuple_yields raw
      refine ⟨(failures, []), by simp only [hfailures]; rfl, ?_⟩
      intro known hknown
      obtain ⟨e', raw', hsome, hraw', hknown⟩ := hknown
      cases hsome
      cases hraw.symm.trans hraw'
      exact Except.ok.inj (hfailures.symm.trans hknown)
    | error raised =>
      refine (safeFailurePayload_yields _ raised).bind fun failure _ => .pure ?_
      intro known hknown
      obtain ⟨e', raw', hsome, hraw', -⟩ := hknown
      cases hsome
      cases hraw.symm.trans hraw'

/-- What each of the errors carries is collected. -/
theorem collectErrorSerializationFailures_yields (errors : List (Option RaisedError)) :
    Yields (collectErrorSerializationFailures errors) fun r => ∀ error ∈ errors,
      ∀ known, Attached error known → ∀ f ∈ known, f ∈ r.1 := by
  suffices h : ∀ (failures access : List Failure), Yields (errors.foldlM (fun s error => do
      let r ← safeErrorSerializationFailures error
      pure (r.1.foldl addNew s.1, r.2.foldl addNew s.2)) (failures, access)) fun r =>
        failures <+: r.1 ∧ ∀ error ∈ errors, ∀ known, Attached error known → ∀ f ∈ known,
          f ∈ r.1 from
    (h [] []).mono fun r hr => hr.2
  induction errors with
  | nil => exact fun failures access => .pure ⟨List.prefix_rfl, by simp⟩
  | cons error errors ih =>
    intro failures access
    rw [List.foldlM_cons]
    have hstep : Yields (do
        let r ← safeErrorSerializationFailures error
        pure (r.1.foldl addNew failures, r.2.foldl addNew access) : Try _) fun s =>
          failures <+: s.1 ∧ ∀ known, Attached error known → ∀ f ∈ known, f ∈ s.1 := by
      refine (safeErrorSerializationFailures_yields error).bind fun r hr => .pure ?_
      refine ⟨addNew_starts failures r.1, fun known hknown f hf => ?_⟩
      rw [← hr known hknown] at hf
      exact mem_addNew hf
    refine hstep.bind fun s hs => ?_
    refine (ih s.1 s.2).mono fun r hr => ⟨hs.1.trans hr.1, ?_⟩
    intro e he known hknown f hf
    rcases List.mem_cons.mp he with rfl | he
    · exact hr.1.subset (hs.2 known hknown f hf)
    · exact hr.2 e he known hknown f hf

/-- An error made of a detail has its failures, cut. -/
theorem OperationalError.new_carried (code : PyValue) (detail : Detail) :
    Yields (OperationalError.new code (.carried detail) none (.tuple [])) fun e =>
      Surfaced e ∧ e.serializationFailures = detail.serializationFailures.map Failure.cut := by
  obtain ⟨items, hitems, hplain⟩ := terminalPayloadDict_yields detail.evidencePayload
  obtain ⟨c, hc, hmessage⟩ := boundedErrorComponents_yields (safeOperation code) detail.text
  have hparts : errorParts code (.carried detail) none (.tuple []) =
      .ok (safeOperation code, detail.text, some (.dict items),
        detail.serializationFailures.map Failure.cut) := by
    unfold errorParts
    simp only [terminalFailureTuple_failuresValue]
    change (do
      let safePayload ← (some detail.evidencePayload).mapM fun payload =>
        PyValue.dict <$> terminalPayloadDict payload
      _ : Try _) = _
    simp only [Option.mapM, hitems]
    rfl
  refine ⟨⟨c.code, c.detail, some (.dict items),
    detail.serializationFailures.map Failure.cut, c.message⟩, ?_, ⟨hmessage, ?_⟩, rfl⟩
  · unfold OperationalError.new
    rw [hparts]
    dsimp only [bind, Except.bind, pure, Except.pure]
    rw [hc]
  · intro payload hpayload
    cases hpayload
    exact hplain

theorem attachProjectionRecoveryEvidence_yields (layers : Layers) (error : RaisedError)
    (payload : PyValue) (priorErrors : List (Option RaisedError)) :
    Yields (attachProjectionRecoveryEvidence layers error payload priorErrors) fun e =>
      Surfaced e ∧ ∀ prior ∈ priorErrors ++ [some error], ∀ known, Attached prior known →
        ∀ f ∈ known, f.cut ∈ e.serializationFailures := by
  refine (collectErrorSerializationFailures_yields _).bind fun collected hcollected => ?_
  refine (terminalPayloadDict_yields payload).bind fun safe _ => ?_
  obtain ⟨priorFailures, attributeFailures⟩ := collected
  dsimp only at hcollected ⊢
  have hserialized (attached operation : PyValue) (forceFailsafe : Bool) :
      Yields (serializeEvidencePayload layers attached operation forceFailsafe
        (failuresValue priorFailures)) fun d =>
          Contained d ∧ Keeps (priorFailures.map Failure.cut) d.serializationFailures := by
    obtain ⟨d, hd, hcontained⟩ := serializeEvidencePayload_yields layers attached operation
      forceFailsafe (failuresValue priorFailures)
    exact ⟨d, hd, hcontained, serializeEvidencePayload_keeps layers attached operation forceFailsafe
      (terminalFailureTuple_failuresValue priorFailures) d hd⟩
  refine (hserialized _ _ _).bind fun detail hdetail => ?_
  obtain ⟨hcontained, hkeeps⟩ := hdetail
  -- the failures of the errors were read back once, which has cut them
  have hheld (prior : Option RaisedError) (hprior : prior ∈ priorErrors ++ [some error])
      (known : List Failure) (hknown : Attached prior known) (f : Failure) (hf : f ∈ known) :
      f.cut ∈ detail.serializationFailures := by
    have hmem := List.mem_map_of_mem (f := Failure.cut) (hcollected prior hprior known hknown f hf)
    rcases hkeeps with hkept | hkept
    · exact hkept.subset hmem
    · rw [map_cut_cut] at hkept
      exact hkept.subset hmem
  have hconstructed := (OperationalError.new_carried
    (.str (ofString "SCHEMA10_AUTHORIZED_RECOVERY_REQUIRED")) detail).mono fun e he =>
      show Surfaced e ∧ ∀ prior ∈ priorErrors ++ [some error], ∀ known, Attached prior known →
        ∀ f ∈ known, f.cut ∈ e.serializationFailures from
      ⟨he.1, fun prior hprior known hknown f hf => by
        rw [he.2, ← f.cut_cut]
        exact List.mem_map_of_mem (hheld prior hprior known hknown f hf)⟩
  cases error.operational with
  | none => exact hconstructed
  | some code =>
    dsimp only
    split
    · next bounded hbounded =>
      apply Yields.pure
      refine ⟨⟨?_, ?_⟩, hheld⟩
      · have hmessage : Gives (do boundedErrorComponents (← code) detail.text) fun c =>
            Bounded terminalEvidenceMaxBytes c.message :=
          .bind fun value _ => boundedErrorComponents_gives value detail.text
        exact hmessage bounded hbounded
      · intro p hp
        cases hp
        exact hcontained.plain
    · exact hconstructed

/-- **Failures accumulate.** Whichever writers and carriers fail: the failures that the caller of
the serializer had are the first ones of the detail, in their order, as they were or cut; and when a
recovery has a payload to show, the error it ends with has the failures of the operation's error and
of the compensation's, each cut, a message within the budget and a plain payload. -/
theorem failures_accumulate (layers : Layers) :
    (∀ payload operation forceFailsafe prior, ∃ known detail,
      terminalFailureTuple prior = .ok known ∧
      serializeEvidencePayload layers payload operation forceFailsafe prior = .ok detail ∧
      Keeps known detail.serializationFailures) ∧
    ∀ (recovery : Recovery) payload original compensation, recovery.payload = .ok payload →
      Surfaced (surfaceProjectionRecovery layers recovery original compensation) ∧
      ∀ error, error = some original ∨ error = compensation → ∀ known, Attached error known →
        ∀ f ∈ known, f.cut ∈ (surfaceProjectionRecovery layers recovery original
          compensation).serializationFailures := by
  constructor
  · intro payload operation forceFailsafe prior
    obtain ⟨known, hknown, -⟩ := terminalFailureTuple_yields prior
    obtain ⟨detail, hdetail, -⟩ :=
      serializeEvidencePayload_yields layers payload operation forceFailsafe prior
    exact ⟨known, detail, hknown, hdetail, serializeEvidencePayload_keeps layers payload operation
      forceFailsafe hknown detail hdetail⟩
  · intro recovery payload original compensation hpayload
    obtain ⟨e, he, hsurfaced, hheld⟩ := attachProjectionRecoveryEvidence_yields layers
      (compensation.getD original) payload [some original, compensation]
    have hsurface : surfaceProjectionRecovery layers recovery original compensation = e := by
      unfold surfaceProjectionRecovery
      rw [hpayload]
      dsimp only
      rw [he]
    rw [hsurface]
    refine ⟨hsurfaced, fun error herror => hheld error ?_⟩
    rcases herror with rfl | rfl
    · simp
    · simp

/-- A failure that the error of an operation carries. -/
def sampleFailure : Failure :=
  ⟨ofString "RESTORE", ofString "builtins.OSError", ofString "no space left"⟩

def sampleRaised : RaisedError := ⟨none, .ok (failuresValue [sampleFailure])⟩

/-- A recovery whose first builder has a payload. -/
def sampleRecovery : Recovery where
  genericPayload := .ok (.dict [(.str (ofString "writer_id"), .str (ofString "w"))])
  payloadAfterBuilderFailure _ := .ok .none
  fallbackPayload _ _ := .ok .none
  independentSurface _ _ _ := ⟨[], [], none, [], []⟩

/-- The failure of the sample error is in the error that the recovery ends with. -/
theorem failures_accumulate_sample : sampleFailure ∈
    (surfaceProjectionRecovery .source sampleRecovery sampleRaised none).serializationFailures := by
  have hcut : sampleFailure.cut = sampleFailure := by
    have hshort {s : String} (h : s.utf8ByteSize ≤ terminalMaxScalarBytes) :
        cutText terminalMaxScalarBytes (ofString s) = ofString s :=
      cut_of_bounded (bounded_ofString h)
    unfold Failure.cut sampleFailure
    rw [hshort (by decide), hshort (by decide), hshort (by decide)]
  have hattached : Attached (some sampleRaised) [sampleFailure.cut] :=
    ⟨sampleRaised, _, rfl, rfl, terminalFailureTuple_failuresValue [sampleFailure]⟩
  have hheld := ((failures_accumulate .source).2 sampleRecovery _ sampleRaised none rfl).2
    (some sampleRaised) (Or.inl rfl) _ hattached _ (List.mem_singleton_self _)
  rw [Failure.cut_cut, hcut] at hheld
  exact hheld

/-! ## The identity reserve -/

theorem itemsAt_bounded {path : String} {value : Option PyValue} {fields : List String} {max : Nat}
    (hfields : ∀ field ∈ fields, path.utf8ByteSize + field.utf8ByteSize ≤ max) :
    ∀ item ∈ itemsAt path value fields, Bounded max item.1 := by
  intro item hitem
  unfold itemsAt at hitem
  split at hitem
  · obtain ⟨field, hfield, hfound⟩ := List.mem_filterMap.mp hitem
    obtain ⟨_, -, rfl⟩ := Option.map_eq_some_iff.mp hfound
    exact ((bounded_ofString le_rfl).append (bounded_ofString le_rfl)).mono (hfields field hfield)
  · cases hitem

/-- The bytes of a path of the reserve. -/
def maxPathBytes : Nat := 65

theorem identityItems_bounded (items : Items) :
    ∀ item ∈ identityItems items, Bounded maxPathBytes item.1 := by
  intro item hitem
  unfold identityItems at hitem
  simp only [List.mem_append, List.mem_flatMap] at hitem
  obtain (((hitem | ⟨container, hcontainer, hitem⟩) | hitem) | hitem) | hitem := hitem
  · exact itemsAt_bounded (by decide) item hitem
  · revert container
    exact fun container hcontainer => itemsAt_bounded
      ((by decide : ∀ container ∈ errorContainers, ∀ field ∈ errorFields,
        ("$." ++ container ++ ".").utf8ByteSize + field.utf8ByteSize ≤ maxPathBytes)
          container hcontainer) item
  · exact itemsAt_bounded (by decide) item hitem
  · exact itemsAt_bounded (by decide) item hitem
  · exact itemsAt_bounded (by decide) item hitem

/-- The reserve by path. -/
def sortedReserve (items : Items) : List (PyText × PyText) :=
  (reserveOf items).insertionSort fun a b => a.1 ≤ b.1

/-- The lines that the reserve is shown as. -/
def identityShown (items : Items) : List PyText :=
  ((sortedReserve items).map fun r => line r.1 r.2).take maxIdentityLines

def maxLineBytes : Nat := maxPathBytes + 1 + identityMaxBytes

theorem identityShown_bounded (items : Items) :
    ∀ l ∈ identityShown items, Bounded maxLineBytes l := by
  intro l hl
  obtain ⟨r, hr, rfl⟩ := List.mem_map.mp (List.mem_of_mem_take hl)
  obtain ⟨item, hitem, rfl⟩ := List.mem_map.mp ((List.mem_insertionSort _).mp hr)
  have hpath := identityItems_bounded items item (List.mem_filter.mp hitem).1
  exact (hpath.append (bounded_ofString (by decide))).append (cutText_bounded _ _)

/-- The payload has the reserve. -/
def Reserved (items working : Items) : Prop :=
  get? working terminalIdentityReserveKey = some (reserveValue (reserveOf items))

theorem Reserved.set {items : Items} (h : Reserved items working) {key : String}
    (hkey : key ≠ "__terminal_identity_reserve__") (value : PyValue) :
    Reserved items (PyValue.set working (ofString key) value) := by
  unfold Reserved at h ⊢
  rw [PyValue.get?_set_ne, h]
  intro hsame
  exact hkey (ofString_injective hsame).symm

theorem Reserved.setFirst {items : Items} (h : Reserved items working) {key : String}
    (hkey : key ≠ "__terminal_identity_reserve__") (failure : Failure) :
    Reserved items (setFirst working key failure) := by
  unfold TerminalEvidence.setFirst
  split_ifs with hfound
  · exact h
  · exact h.set hkey _

theorem Reserved.append {items : Items} (h : Reserved items working) (failure : Failure)
    (instead : List Failure) : Reserved items (appendFailure working failure instead) :=
  h.set (by decide) _

theorem terminalPayloadDict_reserved {items : Items} (hreserve : reserveOf items ≠ []) :
    Gives (terminalPayloadDict (.dict items)) (Reserved items) := by
  refine .bind fun reserve hfound => .bind fun snapshot _ => ?_
  cases (terminalIdentityReserve_dict items).symm.trans hfound
  refine .of_yields (.pure ?_)
  rw [if_neg hreserve]
  exact PyValue.get?_set_self _ _ _

theorem startSerialization_reserved {items : Items} (hreserve : reserveOf items ≠ [])
    (prior : PyValue) : Gives (startSerialization (.dict items) prior) fun r =>
      Reserved items r.1 := by
  refine .bind fun working hworking => .bind fun failures _ => ?_
  have h := terminalPayloadDict_reserved hreserve working hworking
  cases failures with
  | nil => exact .of_yields (.pure h)
  | cons first rest => exact .of_yields (.pure ((h.set (by decide) _).setFirst (by decide) _))

theorem recordSerializationFailure_reserved {items : Items} (h : Reserved items working)
    (failures : List Failure) (failure : Failure) (fallback : Bool) :
    Gives (recordSerializationFailure working failures failure fallback) fun r =>
      Reserved items r.1 := by
  refine .bind fun safe _ => ?_
  have hkey : firstFailureKey ≠ "__terminal_identity_reserve__" := by decide
  have hfirst := (h.append (failureOf safe) [failureOf safe]).setFirst hkey (failureOf safe)
  cases fallback with
  | false => exact .of_yields (.pure hfirst)
  | true => exact .of_yields (.pure (hfirst.setFirst (by decide) _))

/-! ## The fallback writer -/

theorem sortedItems_yields {items : Items} (h : PyValue.Plain (.dict items)) :
    Yields (sortedItems items) fun sorted => ∀ r ∈ sorted, PyValue.Plain r.2 := by
  obtain _ | _ | _ | _ | _ | _ | ⟨hkeys, heach⟩ := h
  have hkeyed {f : PyValue × PyValue → Try (PyText × PyValue)}
      (hf : ∀ t v, f (.str t, v) = .ok (t, v)) :
      Yields (items.mapM f) (List.Forall₂ (fun _ r => PyValue.Plain r.2) items) := by
    refine Yields.mapM fun item hitem => ?_
    obtain ⟨key, value⟩ := item
    obtain ⟨t, rfl⟩ := hkeys _ hitem
    exact ⟨_, hf t value, heach _ hitem⟩
  unfold sortedItems
  refine (hkeyed fun t v => rfl).bind fun keyed hplain => .pure fun r hr => ?_
  obtain ⟨i, hi⟩ := List.mem_iff_getElem?.mp ((List.mem_insertionSort _).mp hr)
  obtain ⟨hlt, rfl⟩ := List.getElem?_eq_some_iff.mp hi
  exact (List.forall₂_iff_get.mp hplain).2 i (hplain.length_eq ▸ hlt) hlt

theorem reserveLines_reserved {items : Items} (h : Reserved items working) :
    reserveLines working = .ok ((sortedReserve items).map fun r => line r.1 r.2) := by
  unfold Reserved at h
  unfold reserveLines
  rw [h]
  have hsorted : sortedItems ((reserveOf items).map fun r => (PyValue.str r.1, PyValue.str r.2)) =
      .ok ((sortedReserve items).map fun r => (r.1, PyValue.str r.2)) := by
    have hkeyed {f : PyValue × PyValue → Try (PyText × PyValue)}
        (hf : ∀ r : PyText × PyText, f (.str r.1, .str r.2) = .ok (r.1, .str r.2)) :
        ((reserveOf items).map fun r => (PyValue.str r.1, PyValue.str r.2)).mapM f =
          .ok ((reserveOf items).map fun r => (r.1, PyValue.str r.2)) := mapM_ok hf _
    have hmap := List.map_insertionSort (fun a b : PyText × PyText => a.1 ≤ b.1)
      (fun a b : PyText × PyValue => a.1 ≤ b.1) (fun r => (r.1, PyValue.str r.2))
      (reserveOf items) fun _ _ _ _ => Iff.rfl
    unfold sortedItems
    rw [hkeyed fun r => rfl]
    exact congrArg Except.ok hmap.symm
  have hlines {f : PyText × PyValue → Try (List PyText)}
      (hf : ∀ r : PyText × PyText, f (r.1, .str r.2) = (do
        let text ← truncateExactText r.2 identityMaxBytes
        pure [line r.1 text])) :
      ((sortedReserve items).map fun r => (r.1, PyValue.str r.2)).mapM f =
        .ok ((sortedReserve items).map fun r => [line r.1 (cutText identityMaxBytes r.2)]) := by
    refine mapM_ok (fun r => ?_) _
    rw [hf, truncateExactText_eq]
    rfl
  change (do
    let sorted ← sortedItems ((reserveOf items).map fun r => (PyValue.str r.1, PyValue.str r.2))
    _ : Try _) = _
  rw [hsorted]
  dsimp only [bind, Except.bind]
  rw [hlines fun r => rfl]
  refine congrArg Except.ok ?_
  rw [← List.flatMap_def, ← List.map_eq_flatMap]
  refine List.map_congr_left fun r hr => ?_
  -- the texts of the reserve are cut already
  obtain ⟨item, -, rfl⟩ := List.mem_map.mp ((List.mem_insertionSort _).mp hr)
  dsimp only
  rw [cutText_cutText]

theorem identityText_yields (value : PyValue) : Yields (identityText value) fun _ => True :=
  truncateExactText_yields _ _ fun _ _ => trivial

theorem terminalIdentityLines_yields {items : Items} (h : Reserved items working) :
    Yields (terminalIdentityLines working) fun lines => identityShown items <+: lines := by
  unfold terminalIdentityLines
  rw [reserveLines_reserved h]
  have hshown : Yields ((shownIdentity working).mapM fun (item : PyText × PyValue) => do
      let text ← identityText item.2
      pure (line item.1 text)) fun _ => True :=
    (Yields.mapM (R := fun _ _ => True) fun item _ =>
      (identityText_yields item.2).bind fun _ _ => .pure trivial).mono fun _ _ => trivial
  refine hshown.bind fun shown _ => .pure ?_
  rw [List.take_append]
  exact List.prefix_append _ _

theorem criticalWalk_yields (levels : Nat) {node : PyValue} (h : PyValue.Plain node) (path : PyText)
    (lines : List PyText) : Yields (criticalWalk levels node path lines) fun _ => True := by
  induction levels generalizing node path lines with
  | zero => exact .pure trivial
  | succ levels ih =>
    unfold criticalWalk
    split_ifs with hfull
    · exact .pure trivial
    · cases node with
      | dict items =>
        refine (sortedItems_yields h).bind fun sorted hsorted => ?_
        refine Yields.foldlM (P := fun _ => True) (fun lines _ r hr => ?_) trivial
        dsimp only
        split_ifs with hcritical
        · refine ((identityText_yields r.2).bind fun text _ => ?_)
          exact ih (hsorted r hr) _ _
        · exact ih (hsorted r hr) _ _
      | list items =>
        obtain _ | _ | _ | _ | _ | heach := h
        refine Yields.foldlM (P := fun _ => True) (fun lines _ r hr => ?_) trivial
        have hmem : r.1 ∈ items := List.mem_of_mem_take (List.fst_mem_of_mem_zipIdx hr)
        exact ih (heach _ hmem) _ _
      | _ => exact .pure trivial

theorem fallbackWalk_yields (levels : Nat) {node : PyValue} (h : PyValue.Plain node) (path : PyText)
    (lines : List PyText) (budget : Nat) :
    Yields (fallbackWalk levels node path (lines, budget)) fun r => lines <+: r.1 := by
  induction levels generalizing node path lines budget with
  | zero =>
    unfold fallbackWalk
    split_ifs with hbudget
    · exact .pure List.prefix_rfl
    · exact .pure (List.prefix_append _ _)
  | succ levels ih =>
    unfold fallbackWalk
    split_ifs with hbudget
    · exact .pure List.prefix_rfl
    · cases node with
      | dict items =>
        refine (sortedItems_yields h).bind fun sorted hsorted => ?_
        refine Yields.foldlM (P := fun s : List PyText × Nat => lines <+: s.1)
          (fun s hs r hr => ?_) List.prefix_rfl
        exact (ih (hsorted r hr) _ s.1 s.2).mono fun t ht => hs.trans ht
      | list items =>
        obtain _ | _ | _ | _ | _ | heach := h
        refine Yields.foldlM (P := fun s : List PyText × Nat => lines <+: s.1)
          (fun s hs r hr => ?_) List.prefix_rfl
        have hmem : r.1 ∈ items := List.fst_mem_of_mem_zipIdx hr
        exact (ih (heach _ hmem) _ s.1 s.2).mono fun t ht => hs.trans ht
      | _ => exact .pure (List.prefix_append _ _)

theorem joinLines_cons (l : PyText) {rest : List PyText} (h : rest ≠ []) :
    joinLines (l :: rest) = l ++ ofString "\n" ++ joinLines rest := by
  cases rest with
  | nil => exact (h rfl).elim
  | cons _ _ => rfl

theorem joinLines_starts {lines more : List PyText} (h : lines <+: more) :
    joinLines lines <+: joinLines more := by
  induction lines generalizing more with
  | nil => exact List.nil_prefix
  | cons l lines ih =>
    obtain ⟨rest, rfl⟩ := h
    by_cases hlines : lines = []
    · subst hlines
      cases rest with
      | nil => exact List.prefix_rfl
      | cons next rest =>
        rw [List.singleton_append, joinLines_cons l (List.cons_ne_nil _ _), List.append_assoc]
        exact List.prefix_append _ _
    · rw [List.cons_append, joinLines_cons l hlines, joinLines_cons l (by simp [hlines])]
      exact (List.prefix_append_right_inj _).mpr (ih (List.prefix_append _ _))

theorem occurs_joinLines {l : PyText} {lines : List PyText} (h : l ∈ lines) :
    Occurs l (joinLines lines) := by
  induction lines with
  | nil => cases h
  | cons first rest ih =>
    rcases List.mem_cons.mp h with rfl | h
    · have hfirst : [l] <+: l :: rest := ⟨rest, rfl⟩
      exact (joinLines_starts hfirst).isInfix
    · rw [joinLines_cons first (List.ne_nil_of_mem h)]
      exact (ih h).trans (List.suffix_append _ _).isInfix

theorem joinLines_bounded {max : Nat} {lines : List PyText} (h : ∀ l ∈ lines, Bounded max l) :
    Bounded (lines.length * (max + 1)) (joinLines lines) := by
  induction lines with
  | nil => exact ⟨utf8_nil, Nat.zero_le _⟩
  | cons first rest ih =>
    have hfirst := h first List.mem_cons_self
    have hrest := ih fun l hl => h l (List.mem_cons_of_mem _ hl)
    by_cases hempty : rest = []
    · subst hempty
      exact hfirst.mono (by simp)
    · rw [joinLines_cons first hempty]
      have hbreak : Bounded 1 (PyText.ofString "\n") := bounded_ofString (by decide)
      refine ((hfirst.append hbreak).append hrest).mono ?_
      rw [List.length_cons, Nat.succ_mul]
      omega

/-- What fits beside the marker is not cut. -/
theorem cut_starts {marker start t : PyText} {max : Nat} (hroom : utf8Length marker < max)
    (hstart : Bounded (max - utf8Length marker) start) (h : start <+: t) :
    start <+: cut marker max t := by
  obtain ⟨rest, rfl⟩ := h
  have happend : backslashreplace (start ++ rest) = start ++ backslashreplace rest := by
    conv_rhs => rw [← backslashreplace_eq hstart.utf8]
    exact List.flatMap_append
  unfold cut
  rw [happend, if_neg (Nat.not_le.mpr hroom)]
  split_ifs with hfits
  · exact List.prefix_append _ _
  · rw [takeBytes_append hstart.bytes, List.append_assoc]
    exact List.prefix_append _ _

/-- The lines of the reserve stand at the beginning of the text. -/
theorem terminalFallbackText_yields {items : Items} (hplain : PyValue.Plain (.dict working))
    (hreserved : Reserved items working) : Yields (terminalFallbackText working) fun t =>
      Bounded terminalEvidenceMaxBytes t ∧ ∀ l ∈ identityShown items, Occurs l t := by
  refine (terminalIdentityLines_yields hreserved).bind fun identity hidentity => ?_
  refine (criticalWalk_yields _ hplain _ _).bind fun critical _ => ?_
  dsimp only
  refine (fallbackWalk_yields _ hplain _ _ _).bind fun walked hwalked => ?_
  obtain ⟨lines, budget⟩ := walked
  dsimp only at hwalked ⊢
  rw [boundedTerminalText_eq]
  refine .pure ⟨cut_bounded (utf8_ofString _) _ _, fun l hl => ?_⟩
  have hseen (seen more : List PyText) : seen <+:
      more.foldl (fun seen l => if l ∈ seen then seen else seen ++ [l]) seen := by
    refine foldl_prefix (fun seen l => ?_) seen more
    split_ifs with hmem
    · exact List.prefix_rfl
    · exact List.prefix_append _ _
  have hstart : ofString "DL93_TERMINAL_EVIDENCE_V1" :: identityShown items <+:
      if budget = 0 then lines ++ [ofString "$.__truncated_nodes__=true"] else lines := by
    have hlines := ((List.prefix_cons_inj _).mpr (hidentity.trans (hseen identity critical))).trans
      hwalked
    split_ifs with hbudget
    · exact hlines.trans (List.prefix_append _ _)
    · exact hlines
  have hshort : ∀ l ∈ ofString "DL93_TERMINAL_EVIDENCE_V1" :: identityShown items,
      Bounded maxLineBytes l := by
    intro l hl
    rcases List.mem_cons.mp hl with rfl | hl
    · exact bounded_ofString (by decide)
    · exact identityShown_bounded items l hl
  have hcount : (identityShown items).length ≤ maxIdentityLines := List.length_take_le _ _
  have hmarker : utf8Length textTruncationMarker = 21 := by
    rw [textTruncationMarker, utf8Length_ofString]
    decide
  -- a heading and thirty-two lines of at most 834 bytes leave room for the marker
  have hfits : Bounded (terminalEvidenceMaxBytes - utf8Length textTruncationMarker)
      (joinLines (ofString "DL93_TERMINAL_EVIDENCE_V1" :: identityShown items)) := by
    apply (joinLines_bounded hshort).mono
    rw [hmarker, List.length_cons]
    calc ((identityShown items).length + 1) * (maxLineBytes + 1)
        ≤ (maxIdentityLines + 1) * (maxLineBytes + 1) :=
          Nat.mul_le_mul_right _ (Nat.succ_le_succ hcount)
      _ ≤ terminalEvidenceMaxBytes - 21 := by decide
  have hroom : utf8Length textTruncationMarker < terminalEvidenceMaxBytes := by
    rw [hmarker]
    decide
  exact (occurs_joinLines (List.mem_cons_of_mem _ hl)).trans
    (cut_starts hroom hfits (joinLines_starts hstart)).isInfix

/-! ## The program's own writers -/

/-- An exact text within the budget is the detail's. -/
theorem buildEvidenceDetail_source {t : PyText} (h : Bounded terminalEvidenceMaxBytes t)
    (working : Items) (failures : List Failure) :
    Yields (buildEvidenceDetail .source (.str t) working failures) fun d =>
      d.text = t ∧ d.evidencePayload = .dict working := by
  unfold buildEvidenceDetail
  rw [boundedTerminalText_eq, terminalFailureTuple_failuresValue]
  exact .pure ⟨cut_of_bounded h, rfl⟩

theorem serializeFallback_source {items : Items} (hplain : PyValue.Plain (.dict working))
    (hreserved : Reserved items working) (operation : PyText) (failures : List Failure) :
    Yields (serializeFallback .source operation working failures) fun d =>
      ∀ l ∈ identityShown items, Occurs l d.text := by
  obtain ⟨t, ht, hbounded, hshown⟩ := terminalFallbackText_yields hplain hreserved
  obtain ⟨d, hd, htext, -⟩ := buildEvidenceDetail_source hbounded working failures
  have htry : tryFallback .source working failures = .ok d := by
    unfold tryFallback Layers.source
    dsimp only
    rw [ht]
    change (do
      let bounded ← boundedTerminalText t
      _ : Try Detail) = _
    rw [boundedTerminalText_eq, cut_of_bounded hbounded]
    change (do
      let encoded ← encodedUtf8 t
      _ : Try Detail) = _
    rw [encodedUtf8_ok hbounded.utf8]
    change (if _ < _ then _ else _) = _
    rw [if_neg (Nat.not_lt.mpr hbounded.bytes)]
    exact hd
  unfold serializeFallback
  rw [htry]
  refine .pure ?_
  rw [htext]
  exact hshown

/-- A text of the canonical writer is UTF-8. -/
theorem canonicalJson_utf8 {value : PyValue} {t : PyText} (h : canonicalJson value = .ok t) :
    Utf8 t := by
  have hgives : Gives (canonicalJson value) Utf8 :=
    .bind fun json _ => .of_yields (.pure (utf8_ofChars _))
  exact hgives t h

/-- The detail is the canonical form of what it carries, or its text was too long. -/
theorem tryCanonical_source {items : Items} (hplain : PyValue.Plain (.dict working))
    (hreserved : Reserved items working) (failures : List Failure) :
    Gives (tryCanonical .source working failures) (Sum.elim
      (fun d => d.evidencePayload = .dict working ∧ canonicalJson (.dict working) = .ok d.text)
      fun w => PyValue.Plain (.dict w) ∧ Reserved items w) := by
  refine .bind fun written hwritten => ?_
  cases hjson : canonicalJson (.dict working) with
  | error e =>
    rw [show Layers.source.canonicalJson (.dict working) =
      PyValue.str <$> canonicalJson (.dict working) from rfl, hjson] at hwritten
    cases hwritten
  | ok t =>
    rw [show Layers.source.canonicalJson (.dict working) =
      PyValue.str <$> canonicalJson (.dict working) from rfl, hjson] at hwritten
    cases hwritten
    have hutf8 := canonicalJson_utf8 hjson
    dsimp only
    rw [encodedUtf8_ok hutf8]
    change Gives (if _ ≤ _ then _ else _) _
    split_ifs with hfits
    · obtain ⟨d, hd, htext, hpayload⟩ := buildEvidenceDetail_source ⟨hutf8, hfits⟩ working failures
      rw [hd]
      refine .of_yields (.pure ⟨hpayload, ?_⟩)
      rw [htext]
    · refine .of_yields (.pure ⟨?_, hreserved.set (by decide) _⟩)
      apply hplain.set
      apply PyValue.Plain.dict
      · simp
      · simp only [List.mem_cons, List.not_mem_nil, or_false, forall_eq_or_imp, forall_eq]
        exact ⟨.str _, .int _, .int _⟩

/-- **Identity survives.** For every payload, however large, and every prior failure: the
program's serializer returns a detail whose text is the canonical form of a payload that has the
whole identity reserve, or shows each line of the reserve, the first `maxIdentityLines` by path. -/
theorem identity_survives (items : Items) (operation : PyValue) (forceFailsafe : Bool)
    (prior : PyValue) :
    ∃ detail, serializeEvidencePayload .source (.dict items) operation forceFailsafe prior =
        .ok detail ∧
      ((∃ working, detail.evidencePayload = .dict working ∧
          (reserveOf items ≠ [] → Reserved items working) ∧
          canonicalJson (.dict working) = .ok detail.text) ∨
        ∀ l ∈ identityShown items, Occurs l detail.text) := by
  by_cases hreserve : reserveOf items = []
  · obtain ⟨detail, hdetail, -⟩ :=
      serializeEvidencePayload_yields .source (.dict items) operation forceFailsafe prior
    refine ⟨detail, hdetail, Or.inr fun l hl => ?_⟩
    unfold identityShown sortedReserve at hl
    rw [hreserve] at hl
    cases hl
  · refine Yields.bind (P := fun r => PyValue.Plain (.dict r.1) ∧ Reserved items r.1) ?_
      fun r hr => ?_
    · obtain ⟨r, hr, hplain⟩ := startSerialization_yields (.dict items) prior
      exact ⟨r, hr, hplain, startSerialization_reserved hreserve prior r hr⟩
    · obtain ⟨working, failures⟩ := r
      obtain ⟨hplain, hreserved⟩ := hr
      dsimp only at hplain hreserved ⊢
      split_ifs with hforce
      · exact (serializeFallback_source hplain hreserved _ failures).mono fun d hd => Or.inr hd
      · have hcanonical := tryCanonical_source hplain hreserved failures
        split
        · next detail hdetail =>
          obtain ⟨hpayload, htext⟩ := hcanonical _ hdetail
          exact .pure (Or.inl ⟨working, hpayload, fun _ => hreserved, htext⟩)
        · next kept hkept =>
          obtain ⟨hkeptPlain, hkeptReserved⟩ := hcanonical _ hkept
          exact (serializeFallback_source hkeptPlain hkeptReserved _ failures).mono
            fun d hd => Or.inr hd
        · next error _ =>
          refine (safeFailurePayload_yields _ error).bind fun failure _ => ?_
          obtain ⟨r, hr, hplain'⟩ := recordSerializationFailure_yields hplain failures failure false
          rw [hr]
          have hreserved' := recordSerializationFailure_reserved hreserved failures failure false
            r hr
          exact (serializeFallback_source hplain' hreserved' _ r.2).mono fun d hd => Or.inr hd

end Adcp.L5.Migration.TerminalEvidence
