import Adcp.L5Runner.RunCodex
/-!
# What a failed Codex run leaves

* `validateSchema_iff`: what the validator accepts satisfies the schema.
* `runCodex_evidenced_iff`: a run is evidenced exactly if what `json.loads`, the canonical encoding
  and the capture raise on its output is among what `run_codex` catches.
* `uncanonicalResult_escapes`: a result with a float passes the schema and leaves two files.
-/
namespace Adcp.L5.Runner

open Adcp.L1 Adcp.L2 PyText Canonical

variable (i : Interpreter)

/-! ## The validator -/

theorem raiseRunner_ne_ok {α : Type} {code : String} {detail : PyText} {a : α} :
    raiseRunner code detail ≠ .ok a := fun h => nomatch h

theorem forM_ok_iff {α : Type} {f : α → Run Unit} {l : List α} :
    l.forM f = .ok () ↔ ∀ a ∈ l, f a = .ok () := by
  induction l with
  | nil => exact iff_of_true rfl fun a ha => (nomatch ha)
  | cons a l ih =>
    have hcons : (a :: l).forM f = (f a >>= fun _ => l.forM f) := rfl
    rw [hcons, bind_ok_iff, List.forall_mem_cons, ih]

theorem test_iff_hasType : ∀ p ∈ typeNames, ∀ v, p.2 v = true ↔ HasType (ofString p.1) v := by
  simp only [typeNames, List.forall_mem_cons]
  refine ⟨fun v => ?_, fun v => ?_, fun v => ?_, fun v => ?_, fun v => ?_, fun v => ?_,
    by intro p hp; cases hp⟩ <;>
  cases v <;> simp only [HasType] <;> decide

theorem HasType.named {t : PyText} {v : PyValue} (h : HasType t v) :
    ∃ p ∈ typeNames, ofString p.1 = t := by
  cases v with
  | dict => exact ⟨_, .head _, h.symm⟩
  | list => exact ⟨_, .tail _ (.head _), h.symm⟩
  | str => exact ⟨_, .tail _ (.tail _ (.head _)), h.symm⟩
  | int => exact ⟨_, .tail _ (.tail _ (.tail _ (.head _))), h.symm⟩
  | bool => exact ⟨_, .tail _ (.tail _ (.tail _ (.tail _ (.head _)))), h.symm⟩
  | none => exact ⟨_, .tail _ (.tail _ (.tail _ (.tail _ (.tail _ (.head _))))), h.symm⟩
  | _ => exact h.elim

theorem checkType_iff {schema : Schema} {value : PyValue} {path : PyText} :
    checkType schema value path = .ok () ↔ ∀ t, schema.type = some t → HasType t value := by
  unfold checkType
  cases schema.type with
  | none => exact iff_of_true rfl fun t ht => (nomatch ht)
  | some type =>
    simp only [Option.some.injEq, forall_eq']
    cases hfind : typeNames.find? fun p => ofString p.1 = type with
    | none =>
      refine iff_of_false raiseRunner_ne_ok fun h => ?_
      obtain ⟨p, hp, hname⟩ := h.named
      exact absurd hname (of_decide_eq_false
        (eq_false_of_ne_true (List.find?_eq_none.mp hfind p hp)))
    | some p =>
      have hname : ofString p.1 = type := by simpa using List.find?_some hfind
      have htest := test_iff_hasType p (List.mem_of_find?_eq_some hfind) value
      rw [hname] at htest
      simp only
      split_ifs with h
      · exact iff_of_true rfl (htest.mp h)
      · exact iff_of_false raiseRunner_ne_ok fun h' => h (htest.mpr h')

theorem unexpectedKeys_nil {schema : Schema} {fields : PyValue.Items} :
    unexpectedKeys schema fields = [] ↔
      ∀ name item, (.str name, item) ∈ fields → (schema.property name).isSome = true := by
  rw [unexpectedKeys, List.filterMap_eq_nil_iff]
  constructor
  · intro h name item hitem
    have hkey := h _ hitem
    cases hp : schema.property name with
    | none => simp [hp] at hkey
    | some p => rfl
  · rintro h ⟨k, item⟩ hitem
    cases k with
    | str name =>
      obtain ⟨p, hp⟩ := Option.isSome_iff_exists.mp (h name item hitem)
      simp [hp]
    | _ => rfl

theorem checkKeys_iff {schema : Schema} {fields : PyValue.Items} {path : PyText} :
    checkKeys i schema fields path = .ok () ↔
      (∀ name ∈ schema.required, PyValue.hasKey fields name = true) ∧
      (schema.additionalProperties = false → ∀ name item, (.str name, item) ∈ fields →
        (schema.property name).isSome = true) := by
  unfold checkKeys
  rw [bind_ok_iff, forM_ok_iff]
  refine and_congr (forall₂_congr fun name _ => ?_) ?_
  · split_ifs with h
    · exact iff_of_true rfl h
    · exact iff_of_false raiseRunner_ne_ok h
  · rw [← unexpectedKeys_nil]
    split_ifs with h
    · exact iff_of_false raiseRunner_ne_ok fun h' => h.2 (h' h.1)
    · exact iff_of_true rfl fun hclosed => of_not_not fun hne => h ⟨hclosed, hne⟩

theorem checkEnum_iff {schema : Schema} {value : PyValue} {path : PyText} :
    checkEnum i schema value path = .ok () ↔
      ∀ members, schema.enum = some members → ∃ m ∈ members, i.equal value m = true := by
  unfold checkEnum
  cases schema.enum with
  | none => exact iff_of_true rfl fun t ht => (nomatch ht)
  | some members =>
    simp only [Option.some.injEq, forall_eq']
    rw [← List.any_eq_true]
    split_ifs with h
    · exact iff_of_true rfl h
    · exact iff_of_false raiseRunner_ne_ok h

theorem hasType_dict {fields : PyValue.Items} {t : PyText} :
    HasType t (.dict fields) ↔ t = ofString "object" := Iff.rfl

/-- Of a dictionary, only the keywords for objects are read. -/
theorem satisfies_dict {fields : PyValue.Items} {s : Schema} : Satisfies i (.dict fields) s ↔
    (∀ t, s.type = some t → HasType t (.dict fields)) ∧
    (s.hasType "object" = true →
      ((∀ name ∈ s.required, PyValue.hasKey fields name = true) ∧
        (s.additionalProperties = false → ∀ name item, (.str name, item) ∈ fields →
          (s.property name).isSome = true)) ∧
      ∀ field ∈ fields, ∀ name p, field.1 = .str name → s.property name = some p →
        Satisfies i field.2 p) ∧
    ∀ members, s.enum = some members → ∃ m ∈ members, i.equal (.dict fields) m = true := by
  constructor
  · rintro ⟨type, required, closed, properties, -, enum⟩
    refine ⟨type, fun hobject =>
      ⟨⟨required fields rfl hobject, closed fields rfl hobject⟩, ?_⟩, enum⟩
    rintro ⟨k, item⟩ hitem name p rfl hp
    exact properties fields name item p rfl hobject hitem hp
  · rintro ⟨type, hobject, enum⟩
    refine .intro type ?_ ?_ ?_ (fun vs item p h => (nomatch h)) enum
    · rintro fields' ⟨⟩ h
      exact (hobject h).1.1
    · rintro fields' ⟨⟩ h
      exact (hobject h).1.2
    · rintro fields' name item p ⟨⟩ h hitem hp
      exact (hobject h).2 _ hitem name p rfl hp

theorem satisfies_list {items : List PyValue} {s : Schema} : Satisfies i (.list items) s ↔
    (∀ t, s.type = some t → HasType t (.list items)) ∧
    (s.hasType "array" = true → ∀ item ∈ items, ∀ p, s.items = some p → Satisfies i item p) ∧
    ∀ members, s.enum = some members → ∃ m ∈ members, i.equal (.list items) m = true := by
  constructor
  · rintro ⟨type, -, -, -, each, enum⟩
    exact ⟨type, fun harray item hitem p hp => each items item p rfl harray hitem hp, enum⟩
  · rintro ⟨type, harray, enum⟩
    refine .intro type (fun fields h => (nomatch h)) (fun fields h => (nomatch h))
      (fun fields name item p h => (nomatch h)) ?_ enum
    rintro vs item p ⟨⟩ h hitem hp
    exact harray h item hitem p hp

theorem satisfies_scalar {v : PyValue} {s : Schema} (hdict : ∀ fields, v ≠ .dict fields)
    (hlist : ∀ items, v ≠ .list items) : Satisfies i v s ↔
    (∀ t, s.type = some t → HasType t v) ∧
    ∀ members, s.enum = some members → ∃ m ∈ members, i.equal v m = true := by
  constructor
  · rintro ⟨type, -, -, -, -, enum⟩
    exact ⟨type, enum⟩
  · rintro ⟨type, enum⟩
    exact .intro type (fun fields h => absurd h (hdict fields))
      (fun fields h => absurd h (hdict fields))
      (fun fields _ _ _ h => absurd h (hdict fields)) (fun vs _ _ h => absurd h (hlist vs)) enum

theorem guarded_ok_iff {c : Prop} [Decidable c] {x : Run Unit} :
    (if c then x else pure ()) = .ok () ↔ (c → x = .ok ()) := by
  split_ifs with h
  · exact ⟨fun hx _ => hx, fun hx => hx h⟩
  · exact iff_of_true rfl fun hc => absurd hc h

theorem scalar_iff {v : PyValue} {s : Schema} {path : PyText} (hdict : ∀ fields, v ≠ .dict fields)
    (hlist : ∀ items, v ≠ .list items) :
    (do checkType s v path; checkEnum i s v path) = .ok () ↔ Satisfies i v s := by
  rw [bind_ok_iff, checkType_iff, checkEnum_iff, satisfies_scalar i hdict hlist]

mutual

/-- **The validator accepts what the schema describes.** -/
theorem validateSchema_iff : ∀ (v : PyValue) (s : Schema) (path : PyText),
    validateSchema i v s path = .ok () ↔ Satisfies i v s
  | .none, _, _ | .bool _, _, _ | .int _, _, _ | .float _, _, _ | .str _, _, _ | .bytes _, _, _
  | .tuple _, _, _ | .object _, _, _ => scalar_iff i (fun _ h => (nomatch h)) fun _ h => (nomatch h)
  | .dict fields, s, path => by
    rw [validateSchema, bind_ok_iff, bind_ok_iff, guarded_ok_iff, bind_ok_iff, checkType_iff,
      checkKeys_iff, checkEnum_iff, validateProperties_iff fields, satisfies_dict]
  | .list items, s, path => by
    rw [validateSchema, bind_ok_iff, bind_ok_iff, guarded_ok_iff, checkType_iff, checkEnum_iff,
      validateItems_iff items, satisfies_list]

theorem validateProperties_iff : ∀ (fields : List (PyValue × PyValue)) (s : Schema) (path : PyText),
    validateProperties i fields s path = .ok () ↔ ∀ field ∈ fields, ∀ name p,
      field.1 = .str name → s.property name = some p → Satisfies i field.2 p
  | [], _, _ => iff_of_true rfl fun _ h => (nomatch h)
  | (k, item) :: rest, s, path => by
    unfold validateProperties
    rw [bind_ok_iff, validateProperties_iff rest, List.forall_mem_cons]
    refine and_congr_left fun _ => ?_
    cases k with
    | str name =>
      cases hp : s.property name with
      | none =>
        simp only [hp]
        refine iff_of_true rfl fun name' p hname hp' => ?_
        cases hname
        exact nomatch hp.symm.trans hp'
      | some p =>
        simp only [hp, validateSchema_iff item p]
        constructor
        · intro h name' p' hname hp'
          cases hname
          exact Option.some.inj (hp.symm.trans hp') ▸ h
        · exact fun h => h name p rfl hp
    | _ => exact iff_of_true rfl fun name' p hname => (nomatch hname)

theorem validateItems_iff : ∀ (items : List PyValue) (s : Option Schema) (path : PyText) (n : Nat),
    validateItems i items s path n = .ok () ↔ ∀ item ∈ items, ∀ p, s = some p → Satisfies i item p
  | [], _, _, _ => iff_of_true rfl fun _ h => (nomatch h)
  | item :: rest, s, path, n => by
    unfold validateItems
    rw [bind_ok_iff, validateItems_iff rest, List.forall_mem_cons]
    refine and_congr_left fun _ => ?_
    cases s with
    | none => exact iff_of_true rfl fun p hp => (nomatch hp)
    | some p =>
      simp only [validateSchema_iff item p]
      exact ⟨fun h p' hp' => Option.some.inj hp' ▸ h, fun h => h p rfl⟩

end

/-! ## What is caught -/

/-- Whatever is raised is of this kind. -/
def Raises (P : RunFault → Prop) {α : Type} (x : Run α) : Prop := ∀ f, x = .error f → P f

/-- The fault is a `RunnerError`. -/
def IsRunner (f : RunFault) : Prop := ∃ e, f = .runner e

section Raises

variable {P : RunFault → Prop} {α β : Type}

theorem raises_ok (a : α) : Raises P (.ok a : Run α) := fun _ h => nomatch h

theorem raises_error {f : RunFault} : Raises P (.error f : Run α) ↔ P f := by
  constructor
  · exact fun h => h f rfl
  · intro h f' hf'
    cases hf'
    exact h

theorem raises_bind {x : Run α} {k : α → Run β} :
    Raises P (x >>= k) ↔ Raises P x ∧ ∀ a, x = .ok a → Raises P (k a) := by
  cases x with
  | error f =>
    have hfail : (Except.error f >>= k) = (.error f : Run β) := rfl
    rw [hfail, raises_error, raises_error]
    exact (and_iff_left fun a ha => (nomatch ha)).symm
  | ok a => exact ⟨fun h => ⟨raises_ok a, fun a' ha => Except.ok.inj ha ▸ h⟩, fun h => h.2 a rfl⟩

theorem Raises.bind {x : Run α} {k : α → Run β} (hx : Raises P x) (hk : ∀ a, Raises P (k a)) :
    Raises P (x >>= k) := raises_bind.mpr ⟨hx, fun a _ => hk a⟩

theorem raises_map {x : Run α} {f : α → β} : Raises P (do let a ← x; pure (f a)) ↔ Raises P x := by
  rw [raises_bind]
  exact and_iff_left fun a _ => raises_ok (f a)

theorem Raises.mapM {f : α → Run β} {l : List α} (h : ∀ a, Raises P (f a)) :
    Raises P (l.mapM f) := by
  induction l with
  | nil => exact raises_ok []
  | cons a l ih =>
    rw [List.mapM_cons]
    exact (h a).bind fun b => raises_map.mpr ih

theorem Raises.guarded {c : Prop} [Decidable c] {x : Run Unit} (hx : Raises P x) :
    Raises P (if c then x else pure ()) := by
  split_ifs
  · exact hx
  · exact raises_ok ()

theorem Raises.forM {f : α → Run Unit} {l : List α} (h : ∀ a ∈ l, Raises P (f a)) :
    Raises P (l.forM f) := by
  induction l with
  | nil => exact raises_ok ()
  | cons a l ih =>
    obtain ⟨ha, hl⟩ := List.forall_mem_cons.mp h
    exact ha.bind fun _ => ih hl

end Raises

theorem onlyRunner_raise {α : Type} (code : String) (detail : PyText) :
    Raises IsRunner (raiseRunner code detail : Run α) := raises_error.mpr ⟨_, rfl⟩

theorem not_onlyRunner_read {α : Type} (f : ReadFault) :
    ¬ Raises IsRunner (.error (.read f) : Run α) := by
  intro h
  obtain ⟨e, he⟩ := h _ rfl
  exact nomatch he

/-- One line of the stream. -/
theorem parseEvent_onlyRunner (n : Nat) (line : Bytes) :
    Raises IsRunner (parseEvent i n line) ↔ Caught (i.loads line) := by
  unfold parseEvent Caught
  cases i.loads line with
  | error f =>
    cases f with
    | unicodeDecode => exact iff_of_true (onlyRunner_raise _ _) (by simp)
    | jsonDecode => exact iff_of_true (onlyRunner_raise _ _) (by simp)
    | value => exact iff_of_false (not_onlyRunner_read _) (by simp)
    | recursion => exact iff_of_false (not_onlyRunner_read _) (by simp)
  | ok v =>
    cases v with
    | dict items => exact iff_of_true (raises_ok _) (by simp)
    | _ => exact iff_of_true (onlyRunner_raise _ _) (by simp)

theorem parseEvent_ok (n : Nat) (line : Bytes) :
    (∃ event, parseEvent i n line = .ok event) ↔ IsEvent i line := by
  unfold parseEvent IsEvent
  cases i.loads line with
  | error f => cases f <;> exact iff_of_false (fun ⟨_, h⟩ => (nomatch h)) fun ⟨_, h⟩ => (nomatch h)
  | ok v =>
    cases v with
    | dict items => exact iff_of_true ⟨_, rfl⟩ ⟨items, rfl⟩
    | _ => exact iff_of_false (fun ⟨_, h⟩ => (nomatch h)) fun ⟨_, h⟩ => (nomatch h)

/-- By induction on the lines: those after a line that is no event are not read. -/
theorem mapM_onlyRunner (lines : List (Nat × Bytes)) :
    Raises IsRunner (lines.mapM fun line => parseEvent i line.1 line.2) ↔
    LinesContained i lines := by
  induction lines with
  | nil => exact iff_of_true (raises_ok []) trivial
  | cons first rest ih =>
    rw [List.mapM_cons, raises_bind, parseEvent_onlyRunner, LinesContained,
      ← parseEvent_ok i first.1, forall_exists_index]
    simp only [raises_map, ih]

theorem parseEvents_onlyRunner (stdout : Bytes) :
    Raises IsRunner (parseEvents i stdout) ↔ LinesContained i (eventLines stdout) := by
  rw [← mapM_onlyRunner, parseEvents, raises_bind]
  refine and_iff_left fun events _ => ?_
  split_ifs with hnone
  · exact onlyRunner_raise _ _
  · exact raises_ok _

theorem threadIdFromEvents_onlyRunner (events : List PyValue) (required : Bool) :
    Raises IsRunner (threadIdFromEvents events required) := by
  unfold threadIdFromEvents
  rcases (events.filterMap startedThread).dedup with _ | ⟨thread, _ | ⟨other, rest⟩⟩
  · cases required
    · exact raises_ok _
    · exact onlyRunner_raise _ _
  · exact raises_ok _
  · cases required
    · exact raises_ok _
    · exact onlyRunner_raise _ _

/-- One of the `except` clauses is for it. -/
def Catchable : RunFault → Prop
  | .runner _ | .read .unicodeDecode | .read .jsonDecode => True
  | _ => False

/-- The `except` clauses of the events leave to the caller none that the caller catches, but for
`RunnerError`. -/
theorem parseEvents_raises (stdout : Bytes) :
    Raises (fun f => IsRunner f ∨ ¬ Catchable f) (parseEvents i stdout) := by
  have hrunner : ∀ {α : Type} (code : String) (detail : PyText),
      Raises (fun f => IsRunner f ∨ ¬ Catchable f) (raiseRunner code detail : Run α) :=
    fun code detail => raises_error.mpr (Or.inl ⟨_, rfl⟩)
  refine (Raises.mapM fun line => ?_).bind fun events => ?_
  · unfold parseEvent
    cases i.loads line.2 with
    | error f =>
      cases f with
      | unicodeDecode | jsonDecode => exact hrunner _ _
      | value | recursion => exact raises_error.mpr (Or.inr id)
    | ok v =>
      cases v with
      | dict items => exact raises_ok _
      | _ => exact hrunner _ _
  · split_ifs
    · exact hrunner _ _
    · exact raises_ok _

theorem catchFault_ok (rawFinal : Bytes) (thread : Option PyText) {f : RunFault}
    (h : Catchable f) :
    ∃ e, catchFault rawFinal thread f = .ok ⟨[], rawFinal, none, some e, thread⟩ := by
  cases f with
  | runner e => exact ⟨e, rfl⟩
  | read f =>
    cases f with
    | unicodeDecode | jsonDecode => exact ⟨_, rfl⟩
    | value | recursion => exact h.elim
  | _ => exact h.elim

theorem catchFault_error {rawFinal : Bytes} {thread : Option PyText} {f : RunFault}
    (h : ¬ Catchable f) : catchFault rawFinal thread f = .error f := by
  cases f with
  | runner e => exact absurd trivial h
  | read f =>
    cases f with
    | unicodeDecode | jsonDecode => exact absurd trivial h
    | value | recursion => rfl
  | _ => rfl

theorem canonicalBytes_iff {v : PyValue} : (∃ bytes, canonicalBytes i v = .ok bytes) ↔
    Encodable v ∧ i.exhausts v = false := by
  rw [← canonicalBytes_ok_iff, canonicalBytes]
  split_ifs with h
  · exact iff_of_false (by rintro ⟨_, h⟩; cases h) fun h' => Bool.noConfusion (h.symm.trans h'.2)
  · have hroom : i.exhausts v = false := eq_false_of_ne_true h
    cases Canonical.canonicalBytes v with
    | error f => exact iff_of_false (by rintro ⟨_, h⟩; cases h) (by rintro ⟨⟨_, h⟩, _⟩; cases h)
    | ok bytes => exact iff_of_true ⟨bytes, rfl⟩ ⟨⟨bytes, rfl⟩, hroom⟩

theorem canonicalBytes_not_catchable {v : PyValue} {f : RunFault}
    (h : canonicalBytes i v = .error f) : ¬ Catchable f := by
  unfold canonicalBytes at h
  split_ifs at h
  · cases h
    exact id
  · cases hbytes : Canonical.canonicalBytes v with
    | error e =>
      rw [hbytes] at h
      cases h
      exact id
    | ok bytes =>
      rw [hbytes] at h
      exact nomatch h

/-! ## The result -/

theorem checkType_onlyRunner (s : Schema) (v : PyValue) (path : PyText) :
    Raises IsRunner (checkType s v path) := by
  unfold checkType
  split
  · exact raises_ok ()
  · split
    · split_ifs
      · exact raises_ok ()
      · exact onlyRunner_raise _ _
    · exact onlyRunner_raise _ _

theorem checkKeys_onlyRunner (s : Schema) (fields : PyValue.Items) (path : PyText) :
    Raises IsRunner (checkKeys i s fields path) := by
  refine Raises.bind (Raises.forM fun name _ => ?_) fun _ =>
    (onlyRunner_raise _ _).guarded
  split_ifs
  · exact raises_ok ()
  · exact onlyRunner_raise _ _

theorem checkEnum_onlyRunner (s : Schema) (v : PyValue) (path : PyText) :
    Raises IsRunner (checkEnum i s v path) := by
  unfold checkEnum
  split
  · exact raises_ok ()
  · split_ifs
    · exact raises_ok ()
    · exact onlyRunner_raise _ _

mutual

theorem validateSchema_onlyRunner : ∀ (v : PyValue) (s : Schema) (path : PyText),
    Raises IsRunner (validateSchema i v s path)
  | .none, s, path | .bool _, s, path | .int _, s, path | .float _, s, path | .str _, s, path
  | .bytes _, s, path | .tuple _, s, path | .object _, s, path =>
    (checkType_onlyRunner s _ path).bind fun _ => checkEnum_onlyRunner i s _ path
  | .dict fields, s, path => by
    unfold validateSchema
    exact (checkType_onlyRunner s _ path).bind fun _ => (Raises.guarded
      ((checkKeys_onlyRunner i s fields path).bind fun _ =>
        validateProperties_onlyRunner fields s path)).bind fun _ => checkEnum_onlyRunner i s _ path
  | .list items, s, path => by
    unfold validateSchema
    exact (checkType_onlyRunner s _ path).bind fun _ =>
      (Raises.guarded (validateItems_onlyRunner items s.items path 0)).bind fun _ =>
        checkEnum_onlyRunner i s _ path

theorem validateProperties_onlyRunner : ∀ (fields : List (PyValue × PyValue)) (s : Schema)
    (path : PyText), Raises IsRunner (validateProperties i fields s path)
  | [], _, _ => raises_ok ()
  | (k, item) :: rest, s, path => by
    unfold validateProperties
    refine Raises.bind ?_ fun _ => validateProperties_onlyRunner rest s path
    cases k with
    | str name =>
      cases hp : s.property name with
      | none =>
        simp only [hp]
        exact raises_ok ()
      | some p =>
        simp only [hp]
        exact validateSchema_onlyRunner item p _
    | _ => exact raises_ok ()

theorem validateItems_onlyRunner : ∀ (items : List PyValue) (s : Option Schema) (path : PyText)
    (n : Nat), Raises IsRunner (validateItems i items s path n)
  | [], _, _, _ => raises_ok ()
  | item :: rest, s, path, n => by
    unfold validateItems
    refine Raises.bind ?_ fun _ => validateItems_onlyRunner rest s path (n + 1)
    cases s with
    | none => exact raises_ok ()
    | some p => exact validateSchema_onlyRunner item p _

end

/-- A result is sealed, or the validator has refused it, if it is canonical as soon as it satisfies
the schema. -/
theorem sealResult_catchable {schema : Schema} {v : PyValue} :
    (∀ f, sealResult i schema v = .error f → Catchable f) ↔
      (Satisfies i v schema → Encodable v ∧ i.exhausts v = false) := by
  rw [← validateSchema_iff i v schema (ofString "$"), ← canonicalBytes_iff, sealResult]
  cases hschema : validateSchema i v schema (ofString "$") with
  | error f =>
    refine iff_of_true (fun f' hf' => ?_) fun h => (nomatch h)
    obtain ⟨e, rfl⟩ := validateSchema_onlyRunner i v schema (ofString "$") f hschema
    cases hf'
    trivial
  | ok u =>
    cases hbytes : canonicalBytes i v with
    | error f =>
      refine iff_of_false (fun h => canonicalBytes_not_catchable i hbytes (h f rfl)) fun h => ?_
      obtain ⟨bytes, h⟩ := h rfl
      exact nomatch h
    | ok bytes => exact iff_of_true (fun f hf => (nomatch hf)) fun _ => ⟨bytes, rfl⟩

theorem sealResult_ok {schema : Schema} {v w : PyValue} {bytes : Bytes}
    (h : sealResult i schema v = .ok (w, bytes)) :
    Satisfies i w schema ∧ canonicalBytes i w = .ok bytes := by
  rw [sealResult] at h
  cases hschema : validateSchema i v schema (ofString "$") with
  | error f =>
    rw [hschema] at h
    exact nomatch h
  | ok u =>
    cases hbytes : canonicalBytes i v with
    | error f =>
      rw [hschema, hbytes] at h
      exact nomatch h
    | ok bytes' =>
      rw [hschema, hbytes] at h
      cases h
      exact ⟨(validateSchema_iff i v schema _).mp hschema, hbytes⟩

/-- What is raised for the final output is caught, if the output is contained. -/
theorem readFinal_catchable {schema : Schema} {rawFinal : Bytes} :
    (∀ f, readFinal i schema rawFinal = .error f → Catchable f) ↔
      FinalContained i schema rawFinal := by
  unfold readFinal FinalContained
  split_ifs with hraw
  · exact iff_of_true (fun f hf => by cases hf; trivial) (Or.inl hraw)
  rw [or_iff_right hraw]
  unfold Caught
  cases i.loads rawFinal with
  | error f =>
    cases f with
    | unicodeDecode | jsonDecode =>
      exact iff_of_true (fun f hf => by cases hf; trivial) (by simp)
    | value | recursion => exact iff_of_false (fun h => h _ rfl) (by simp)
  | ok parsed =>
    cases parsed with
    | dict items =>
      simp only [ne_eq, reduceCtorEq, not_false_eq_true, and_self, true_and, Except.ok.injEq,
        PyValue.dict.injEq, forall_eq']
      exact sealResult_catchable i
    | _ => exact iff_of_true (fun f hf => by cases hf; trivial) (by simp)

theorem readFinal_ok {schema : Schema} {rawFinal bytes : Bytes} {v : PyValue}
    (h : readFinal i schema rawFinal = .ok (v, bytes)) :
    Satisfies i v schema ∧ canonicalBytes i v = .ok bytes := by
  unfold readFinal at h
  split_ifs at h
  · exact nomatch h
  · split at h
    · exact nomatch h
    · exact sealResult_ok i h
    · exact nomatch h

/-! ## The metadata -/

theorem encodable_object {fields : List (String × PyValue)} :
    Encodable (object fields) ↔ ∀ p ∈ fields, Encodable p.2 := by
  rw [object, encodable_dict, List.forall_mem_map]
  exact forall₂_congr fun p _ => and_iff_right ⟨_, rfl, utf8_ofString p.1⟩

theorem encodable_texts {ts : List PyText} : Encodable (texts ts) ↔ ∀ t ∈ ts, Utf8 t := by
  rw [texts, encodable_list, List.forall_mem_map]
  exact forall₂_congr fun t _ => encodable_str

theorem encodable_optional {o : Option PyText} :
    Encodable (optional o) ↔ ∀ t ∈ o.toList, Utf8 t := by
  cases o with
  | none => exact iff_of_true .none fun t ht => (nomatch ht)
  | some t => exact encodable_str.trans List.forall_mem_singleton.symm

theorem encodable_word {n : Int} (h : n.natAbs ≤ 2 ^ 64) : Encodable (.int n) := by
  have hlimit : 10 ^ 20 ≤ PyJson.intLimit := PyJson.pow_le_intLimit (by omega)
  exact .int (Nat.lt_of_lt_of_le (Nat.lt_of_le_of_lt h (by omega)) hlimit)

theorem encodable_string (s : String) : Encodable (.str (ofString s)) := .str (utf8_ofString s)

theorem encodable_int64 (n : Int64) : Encodable (.int n.toInt) := by
  have hlow := n.le_toInt
  have hhigh := n.toInt_lt
  exact encodable_word (by omega)

theorem encodable_int32 (n : Int32) : Encodable (.int n.toInt) := by
  have hlow := n.le_toInt
  have hhigh := n.toInt_lt
  exact encodable_word (by omega)

theorem encodable_uint64 (n : UInt64) : Encodable (.int n.toNat) := by
  have hhigh := n.toNat_lt
  exact encodable_word (by omega)

theorem encodable_rolloutValue {thread : Option PyText} {rollout : Option Rollout}
    (hthread : ∀ t ∈ thread.toList, Utf8 t) : Encodable (rolloutValue thread rollout) ↔
    ∀ r ∈ rollout.toList, Utf8 r.sourcePath ∧ Utf8 r.capturedPath := by
  cases rollout with
  | none => exact iff_of_true .none (by intro r hr; cases hr)
  | some r =>
    have hoptional := encodable_optional.mpr hthread
    rw [rolloutValue, encodable_object, Option.toList_some, List.forall_mem_singleton]
    simp only [List.forall_mem_cons, encodable_str, encodable_uint64,
      encodable_int64, hoptional, utf8_ofString, true_and]
    exact ⟨fun h => ⟨h.1, h.2.1⟩, fun h => ⟨h.1, h.2, by intro p hp; cases hp⟩⟩

theorem encodable_executionConfig {inv : Invocation} : Encodable (executionConfig inv) ↔
    (∀ t ∈ inv.model.toList, Utf8 t) ∧ ∀ t ∈ inv.reasoningEffort.toList, Utf8 t := by
  rw [executionConfig, encodable_object]
  simp only [List.forall_mem_cons, encodable_string, Encodable.bool, Encodable.none,
    encodable_optional, true_and]
  exact ⟨fun h => ⟨h.1, h.2.1⟩, fun h => ⟨h.1, h.2, by intro p hp; cases hp⟩⟩

theorem encodable_metadataValue {inv : Invocation} {child : Child} {thread : Option PyText}
    {result : Bytes} {rollout : Option Rollout} :
    Encodable (metadataValue inv child thread result rollout) ↔ (∀ t ∈ inv.texts, Utf8 t) ∧
      (∀ t ∈ thread.toList, Utf8 t) ∧
      ∀ r ∈ rollout.toList, Utf8 r.sourcePath ∧ Utf8 r.capturedPath := by
  have hversion : Encodable (optional (inv.binaryVersion.map ofString)) := by
    cases inv.binaryVersion with
    | none => exact .none
    | some version => exact encodable_string version
  rw [metadataValue, encodable_object, Invocation.texts]
  simp only [List.forall_mem_cons, List.forall_mem_append, encodable_texts, encodable_str,
    hversion, encodable_int32, encodable_int64, Encodable.bool, encodable_optional,
    encodable_executionConfig, utf8_ofString, true_and]
  constructor
  · rintro ⟨hcommand, hcwd, hbinary, hthread, hremoved, ⟨hmodel, heffort⟩, hrollout, -⟩
    exact ⟨⟨⟨⟨⟨hcommand, hremoved⟩, hcwd, hbinary, by intro t ht; cases ht⟩, hmodel⟩, heffort⟩,
      hthread, (encodable_rolloutValue hthread).mp hrollout⟩
  · rintro ⟨⟨⟨⟨⟨hcommand, hremoved⟩, hcwd, hbinary, -⟩, hmodel⟩, heffort⟩, hthread, hrollout⟩
    exact ⟨hcommand, hcwd, hbinary, hthread, hremoved, ⟨hmodel, heffort⟩,
      (encodable_rolloutValue hthread).mpr hrollout, by intro p hp; cases hp⟩

theorem fieldsDepth_le {fields : List (PyValue × PyValue)} {n : Nat} :
    fieldsDepth fields ≤ n ↔ ∀ item ∈ fields, depth item.2 ≤ n := by
  induction fields with
  | nil => exact iff_of_true (Nat.zero_le n) fun item h => (nomatch h)
  | cons item rest ih => rw [fieldsDepth, max_le_iff, ih, List.forall_mem_cons]

theorem depth_object {fields : List (String × PyValue)} {n : Nat}
    (h : ∀ p ∈ fields, depth p.2 ≤ n) : depth (object fields) ≤ n + 1 := by
  rw [object, depth]
  exact Nat.succ_le_succ (fieldsDepth_le.mpr (List.forall_mem_map.mpr h))

theorem depth_optional (o : Option PyText) : depth (optional o) = 0 := by
  cases o with
  | none => rfl
  | some t => rfl

theorem depth_texts (ts : List PyText) : depth (texts ts) = 1 := by
  have hitems : itemsDepth (ts.map .str) = 0 := by
    induction ts with
    | nil => rfl
    | cons t ts ih =>
      have hitem : depth (.str t) = 0 := rfl
      rw [List.map_cons, itemsDepth, ih, hitem, max_self]
  rw [texts, depth, hitems]

theorem depth_metadataValue (inv : Invocation) (child : Child) (thread : Option PyText)
    (result : Bytes) (rollout : Option Rollout) :
    depth (metadataValue inv child thread result rollout) ≤ 4 := by
  have hrollout : depth (rolloutValue thread rollout) ≤ 3 := by
    cases rollout with
    | none => exact Nat.zero_le 3
    | some r =>
      refine depth_object ?_
      simp [depth, depth_optional]
  have hconfig : depth (executionConfig inv) ≤ 3 := by
    refine depth_object ?_
    simp [depth, depth_optional]
  refine depth_object ?_
  simp [depth, depth_optional, depth_texts, hrollout, hconfig]

/-- The metadata can be written if its texts can. -/
theorem metadataValue_iff {inv : Invocation} {child : Child} {thread : Option PyText}
    {result : Bytes} {rollout : Option Rollout} :
    (∃ bytes, canonicalBytes i (metadataValue inv child thread result rollout) = .ok bytes) ↔
      (∀ t ∈ inv.texts, Utf8 t) ∧ (∀ t ∈ thread.toList, Utf8 t) ∧
      ∀ r ∈ rollout.toList, Utf8 r.sourcePath ∧ Utf8 r.capturedPath := by
  rw [canonicalBytes_iff, encodable_metadataValue]
  exact and_iff_left (i.shallow _ (depth_metadataValue ..))

/-! ## The run -/

/-- The thread that is known when the `try` block ends. -/
def knownThread (inv : Invocation) (child : Child) : Option PyText :=
  match parseEvents i child.stdout with
  | .error _ => none
  | .ok events =>
    match threadIdFromEvents events inv.capture.isSome with
    | .error _ => none
    | .ok thread => thread

/-- The events are read and the thread is not in doubt, so that the final output is read. -/
def Reached (inv : Invocation) (child : Child) : Prop :=
  ∃ events thread, parseEvents i child.stdout = .ok events ∧
    threadIdFromEvents events inv.capture.isSome = .ok thread

/-- What the `try` block leaves: the result in its canonical form, or an error. -/
structure Read (inv : Invocation) (child : Child) (r : Reading) : Prop where
  thread : r.threadId = knownThread i inv child
  result : r.parseError = none → ∃ v, r.structured = some v ∧ Satisfies i v inv.outputSchema ∧
    canonicalBytes i v = .ok r.canonicalResult

theorem read_catch {inv : Invocation} {child : Child} {thread : Option PyText} {f : RunFault}
    (hf : Catchable f) (hthread : thread = knownThread i inv child) :
    ∃ r, catchFault child.rawFinal thread f = .ok r ∧ Read i inv child r := by
  obtain ⟨e, he⟩ := catchFault_ok child.rawFinal thread hf
  exact ⟨_, he, hthread, fun h => (nomatch h)⟩

/-- The block ends, or it raises what is not caught. -/
theorem readResult_spec (inv : Invocation) (child : Child) :
    (LinesContained i (eventLines child.stdout) ∧
      (Reached i inv child → FinalContained i inv.outputSchema child.rawFinal) ∧
      ∃ r, readResult i inv child = .ok r ∧ Read i inv child r) ∨
    (¬ (LinesContained i (eventLines child.stdout) ∧
      (Reached i inv child → FinalContained i inv.outputSchema child.rawFinal)) ∧
      ∃ f, readResult i inv child = .error f ∧ ¬ Catchable f) := by
  rw [← parseEvents_onlyRunner, ← readFinal_catchable]
  unfold readResult Reached
  have hknown : knownThread i inv child = knownThread i inv child := rfl
  conv_rhs at hknown => unfold knownThread
  cases hevents : parseEvents i child.stdout with
  | error f =>
    rw [hevents] at hknown
    rcases parseEvents_raises i child.stdout f hevents with ⟨e, rfl⟩ | hf
    · exact Or.inl ⟨raises_error.mpr ⟨e, rfl⟩, (by rintro ⟨_, _, h, _⟩; cases h),
        read_catch i (f := .runner e) trivial hknown.symm⟩
    · refine Or.inr ⟨fun h => ?_, f, catchFault_error hf, hf⟩
      obtain ⟨e, rfl⟩ := raises_error.mp h.1
      exact hf trivial
  | ok events =>
    rw [hevents] at hknown
    simp only at hknown ⊢
    cases hthread : threadIdFromEvents events inv.capture.isSome with
    | error f =>
      rw [hthread] at hknown
      obtain ⟨e, rfl⟩ := threadIdFromEvents_onlyRunner events _ f hthread
      refine Or.inl ⟨raises_ok events, ?_, read_catch i (f := .runner e) trivial hknown.symm⟩
      rintro ⟨events', thread, h, h'⟩
      cases h
      cases hthread.symm.trans h'
    | ok thread =>
      rw [hthread] at hknown
      cases hfinal : readFinal i inv.outputSchema child.rawFinal with
      | error f =>
        by_cases hf : Catchable f
        · refine Or.inl ⟨raises_ok events, fun _ f' hf' => ?_, read_catch i hf hknown.symm⟩
          exact Except.error.inj hf' ▸ hf
        · refine Or.inr ⟨fun h => hf (h.2 ⟨events, thread, rfl, hthread⟩ f rfl), f,
            catchFault_error hf, hf⟩
      | ok sealed =>
        obtain ⟨v, bytes⟩ := sealed
        exact Or.inl ⟨raises_ok events, (by intro _ f hf; cases hf), _, rfl, hknown.symm,
          fun _ => ⟨v, rfl, readFinal_ok i hfinal⟩⟩

/-- What the capture gives for the thread, and its texts, can be written. -/
def Captured (inv : Invocation) (thread : Option PyText) : Prop :=
  ∃ rollout e, captureRollout inv thread = .ok (rollout, e) ∧ (∀ t ∈ thread.toList, Utf8 t) ∧
    ∀ r ∈ rollout.toList, Utf8 r.sourcePath ∧ Utf8 r.capturedPath

theorem captured_iff {inv : Invocation} {thread : Option PyText} :
    Captured inv thread ↔ ∀ t, thread = some t → ThreadContained inv t := by
  unfold Captured ThreadContained captureRollout
  cases thread with
  | none =>
    refine iff_of_true ⟨none, none, ?_, fun t ht => (nomatch ht), fun r hr => (nomatch hr)⟩
      fun t ht => (nomatch ht)
    cases inv.capture <;> rfl
  | some t =>
    simp only [Option.some.injEq, forall_eq', Option.toList_some, List.forall_mem_singleton]
    cases inv.capture with
    | none =>
      constructor
      · rintro ⟨rollout, e, -, ht, -⟩
        exact ⟨ht, fun capture h => (nomatch h)⟩
      · rintro ⟨ht, -⟩
        exact ⟨none, none, rfl, ht, fun r hr => (nomatch hr)⟩
    | some capture =>
      simp only [Option.some.injEq, forall_eq']
      cases capture t with
      | ok rollout =>
        constructor
        · rintro ⟨rollout', e, h, ht, hpaths⟩
          cases h
          exact ⟨ht, hpaths rollout (List.mem_singleton_self _)⟩
        · rintro ⟨ht, hpaths⟩
          exact ⟨some rollout, none, rfl, ht, List.forall_mem_singleton.mpr hpaths⟩
      | error f =>
        cases f with
        | runner e =>
          constructor
          · rintro ⟨rollout, e, -, ht, -⟩
            exact ⟨ht, trivial⟩
          · rintro ⟨ht, -⟩
            exact ⟨none, some e, rfl, ht, fun r hr => (nomatch hr)⟩
        | other => exact iff_of_false (fun ⟨_, _, h, _⟩ => (nomatch h)) fun h => h.2

/-- What the capture raises is no `RunnerError`. -/
theorem captureRollout_error {inv : Invocation} {thread : Option PyText} {f : RunFault}
    (h : captureRollout inv thread = .error f) : f = .other := by
  unfold captureRollout at h
  split at h
  · split at h
    · exact nomatch h
    · exact nomatch h
    · exact (Except.error.inj h).symm
  · exact nomatch h

theorem forall_knownThread {inv : Invocation} {child : Child} {P : PyText → Prop} :
    (∀ t, knownThread i inv child = some t → P t) ↔ ∀ events thread,
      parseEvents i child.stdout = .ok events →
      threadIdFromEvents events inv.capture.isSome = .ok thread → ∀ t, thread = some t → P t := by
  unfold knownThread
  cases parseEvents i child.stdout with
  | error f => exact iff_of_true (fun t ht => (nomatch ht)) fun events thread h => (nomatch h)
  | ok events =>
    simp only [Except.ok.injEq]
    cases hthread : threadIdFromEvents events inv.capture.isSome with
    | error f =>
      refine iff_of_true (fun t ht => (nomatch ht)) fun events' thread h h' => ?_
      cases h
      exact nomatch hthread.symm.trans h'
    | ok thread =>
      constructor
      · intro h events' thread' heq h' t ht
        cases heq
        cases hthread.symm.trans h'
        exact h t ht
      · exact fun h t ht => h events thread rfl hthread t ht

theorem contained_iff {inv : Invocation} {child : Child} : Contained i inv child ↔
    (LinesContained i (eventLines child.stdout) ∧
      (Reached i inv child → FinalContained i inv.outputSchema child.rawFinal)) ∧
    (∀ t ∈ inv.texts, Utf8 t) ∧ Captured inv (knownThread i inv child) := by
  rw [captured_iff, forall_knownThread]
  constructor
  · rintro ⟨htexts, hlines, hevents⟩
    refine ⟨⟨hlines, ?_⟩, htexts, fun events thread h h' => (hevents events thread h h').1⟩
    rintro ⟨events, thread, h, h'⟩
    exact (hevents events thread h h').2
  · rintro ⟨⟨hlines, hfinal⟩, htexts, hthread⟩
    exact ⟨htexts, hlines, fun events thread h h' =>
      ⟨hthread events thread h h', hfinal ⟨events, thread, h, h'⟩⟩⟩

/-- With all four files written, the run ends as it should. -/
theorem conclude_leaves {inv : Invocation} {child : Child} {r : Reading}
    (hread : Read i inv child r) (rollout : Option Rollout) (e : Option RunnerError)
    {files : Files} {artifacts : ArtifactSet} (hresult : files.result = some r.canonicalResult)
    (hcomplete : Complete files child artifacts) :
    Leaves i inv.outputSchema child (files, conclude inv child r rollout e artifacts) := by
  unfold conclude
  split_ifs
  · exact ⟨artifacts, rfl, hcomplete⟩
  · exact ⟨artifacts, rfl, hcomplete⟩
  · cases hparse : r.parseError with
    | some e => exact ⟨artifacts, rfl, hcomplete⟩
    | none =>
      obtain ⟨v, hv, hsatisfies, hbytes⟩ := hread.result hparse
      rw [hv]
      cases e with
      | some e => exact ⟨artifacts, rfl, hcomplete⟩
      | none => exact ⟨hsatisfies, ⟨_, hbytes, hresult⟩, hcomplete⟩

/-- **When a run leaves its evidence.** Exactly if what `json.loads`, the canonical encoding and the
capture raise on what the process has left is among what `run_codex` catches. -/
theorem runCodex_evidenced_iff (inv : Invocation) (child : Child) :
    Evidenced i inv child ↔ Contained i inv child := by
  rw [contained_iff, Evidenced, runCodex]
  rcases readResult_spec i inv child with ⟨hlines, hfinal, r, hr, hread⟩ | ⟨hnot, f, hf, hcatch⟩
  · have hread' : readResult i inv child = .ok r := hr
    rw [hread', and_iff_right ⟨hlines, hfinal⟩, ← hread.thread]
    simp only
    cases hcapture : captureRollout inv r.threadId with
    | error f =>
      obtain rfl := captureRollout_error hcapture
      refine iff_of_false id ?_
      rintro ⟨-, rollout, e, h, -⟩
      exact nomatch hcapture.symm.trans h
    | ok captured =>
      obtain ⟨rollout, e⟩ := captured
      have hmetadata : (∃ bytes, canonicalBytes i
          (metadataValue inv child r.threadId r.canonicalResult rollout) = .ok bytes) ↔ _ :=
        metadataValue_iff i
      have hcaptured : Captured inv r.threadId ↔ (∀ t ∈ r.threadId.toList, Utf8 t) ∧
          ∀ r ∈ rollout.toList, Utf8 r.sourcePath ∧ Utf8 r.capturedPath := by
        constructor
        · rintro ⟨rollout', e', h, h'⟩
          cases hcapture.symm.trans h
          exact h'
        · exact fun h => ⟨rollout, e, hcapture, h⟩
      rw [hcaptured, ← hmetadata]
      simp only
      cases hbytes : canonicalBytes i
        (metadataValue inv child r.threadId r.canonicalResult rollout) with
      | error f =>
        refine iff_of_false (fun h => ?_) fun ⟨_, h⟩ => (nomatch h)
        have hcatch := canonicalBytes_not_catchable i hbytes
        cases f with
        | runner e => exact hcatch trivial
        | _ => exact h
      | ok bytes =>
        refine iff_of_true (conclude_leaves i hread rollout e rfl ?_) ⟨bytes, rfl⟩
        exact ⟨⟨rfl, rfl⟩, ⟨rfl, rfl⟩, ⟨_, rfl, rfl⟩, bytes, rfl, rfl⟩
  · rw [hf]
    refine iff_of_false (fun h => ?_) fun h => hnot h.1
    cases f with
    | runner e => exact hcatch trivial
    | _ => exact h

/-! ## A result that is not canonical -/

def ascii (s : String) : Bytes := s.toList.map fun c => UInt8.ofNat c.toNat

/-- `json.loads` of bytes in ASCII. -/
def loadsAscii (bytes : Bytes) : Except ReadFault PyValue :=
  if bytes.all (· < 128) then
    match Canonical.loads (bytes.map fun b => ofChar (Char.ofNat b.toNat)) with
    | .ok v => .ok v
    | .error .invalid => .error .jsonDecode
    | .error .digits => .error .value
  else .error .unicodeDecode

/-- Two texts or two truth values are compared. -/
def equalScalars : PyValue → PyValue → Bool
  | .str a, .str b => a = b
  | .bool a, .bool b => a = b
  | _, _ => false

def sampleInterpreter : Interpreter where
  loads := loadsAscii
  equal := equalScalars
  reprTexts := fun ts => ofString "['" ++ List.intercalate (ofString "', '") ts ++ ofString "']"
  exhausts := fun v => 900 < depth v
  shallow := fun v hv => decide_eq_false (by omega)

def sampleInvocation : Invocation where
  command := [ofString "/usr/local/bin/codex", ofString "exec"]
  cwd := ofString "/work"
  binary := ofString "/usr/local/bin/codex"
  binaryVersion := none
  removedNames := []
  sandbox := "read-only"
  ephemeral := true
  ignoreUserConfig := false
  ignoreRules := false
  model := none
  reasoningEffort := none
  startedAtNs := 1
  endedAtNs := 2
  outputSchema := .mk (some (ofString "object")) [] [] true none none
  capture := none

/-- The process ends well and writes a result with a float. -/
def floatChild : Child where
  stdout := ascii "\x7b\"type\":\"x\"\x7d"
  stderr := []
  rawFinal := ascii "\x7b\"x\":1.5\x7d"
  exitCode := 0
  timedOut := false

def faultOf {α : Type} : Run α → Option RunFault
  | .error f => some f
  | .ok _ => none

theorem not_leaves_of_fault {schema : Schema} {child : Child} {out : Files × Run RunResult}
    {f : RunFault} (hfault : faultOf out.2 = some f) (hrunner : ∀ e, f ≠ .runner e) :
    ¬ Leaves i schema child out := by
  obtain ⟨files, r | r⟩ := out
  · cases hfault
    cases f with
    | runner e => exact absurd rfl (hrunner e)
    | _ => exact id
  · exact nomatch hfault

/-- The result satisfies the schema, `CanonicalizationError` escapes, and two files of the four are
left. -/
theorem uncanonicalResult_escapes :
    ¬ Evidenced sampleInterpreter sampleInvocation floatChild ∧
    (runCodex sampleInterpreter sampleInvocation floatChild).1 =
      { stdout := some floatChild.stdout, stderr := some floatChild.stderr } ∧
    faultOf (runCodex sampleInterpreter sampleInvocation floatChild).2 =
      some (.canonical (.invalid (ofString "float forbidden at $.x"))) := by
  have hfault : faultOf (runCodex sampleInterpreter sampleInvocation floatChild).2 =
      some (.canonical (.invalid (ofString "float forbidden at $.x"))) := by
    decide +kernel
  exact ⟨not_leaves_of_fault sampleInterpreter hfault nofun, by decide +kernel, hfault⟩

end Adcp.L5.Runner
