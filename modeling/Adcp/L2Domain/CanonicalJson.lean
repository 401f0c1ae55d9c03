import Adcp.L1Base.PyJsonText
import Adcp.L1Base.PyValue
/-!
# Canonical JSON

`canonical_json` validates a value and writes it with `json.dumps`; the standalone client has a copy
of both.

* `validate`, `canonicalJson`: the encoder of the control store.
* `Client.validateJson`, `Client.canonicalJson`: the copy.
* `SameJson`: two values are equal as JSON values.
* `canonicalJson_faithful`: the text of a value determines it, and both encoders write the same.
-/
namespace Adcp.L2.Canonical

open Adcp.L1 PyText

/-! ## The standard library -/

/-- `type(value).__name__` -/
def className (v : PyValue) : PyText := (v.typeName.reverse.takeWhile (· ≠ ofChar '.')).reverse

/-- What `json.dumps` raises. -/
inductive DumpsFault where
  | valueError
  | typeError
  deriving DecidableEq

mutual

/-- The document of a value, as far as `json.dumps` writes it. It would coerce a key that is no
text, which no value has that gets here. -/
def document : PyValue → Except DumpsFault PyJson
  | .none => .ok .null
  | .bool b => .ok (.bool b)
  | .int n => if PyJson.IntWritable n then .ok (.int n) else .error .valueError
  | .float (.finite text) => .ok (.float (ofString text))
  | .float _ => .error .valueError
  | .str t => .ok (.str t)
  | .list items | .tuple items => do
    let items ← documentItems items
    pure (.arr items)
  | .dict items => do
    let fields ← documentFields items
    pure (.obj fields)
  | .bytes _ | .object _ => .error .typeError

def documentItems : List PyValue → Except DumpsFault (List PyJson)
  | [] => pure []
  | v :: vs => do
    let v ← document v
    let vs ← documentItems vs
    pure (v :: vs)

def documentFields : List (PyValue × PyValue) → Except DumpsFault (List (PyText × PyJson))
  | [] => pure []
  | (k, v) :: rest =>
    match k with
    | .str key => do
      let v ← document v
      let rest ← documentFields rest
      pure ((key, v) :: rest)
    | _ => .error .typeError

end

/-- `json.dumps(value, ensure_ascii=False, sort_keys=True, separators=(",", ":"),
allow_nan=False)` -/
def dumps (v : PyValue) : Except DumpsFault PyText := PyJson.render <$> document v

def floatOf (t : PyText) : PyFloat :=
  if t = ofString "NaN" then .nan
  else if t = ofString "Infinity" then .inf
  else if t = ofString "-Infinity" then .negInf
  else .finite (String.ofList (t.map PyJson.asChar))

mutual

/-- A document as a Python value; a float keeps the text that it was read from. -/
def toValue : PyJson → PyValue
  | .null => .none
  | .bool b => .bool b
  | .int n => .int n
  | .float t => .float (floatOf t)
  | .str t => .str t
  | .arr items => .list (toValues items)
  | .obj fields => .dict (toItems fields)

def toValues : List PyJson → List PyValue
  | [] => []
  | v :: vs => toValue v :: toValues vs

def toItems : List (PyText × PyJson) → List (PyValue × PyValue)
  | [] => []
  | (k, v) :: rest => (.str k, toValue v) :: toItems rest

end

/-- `json.loads(text)` -/
def loads (t : PyText) : Except PyJson.LoadsFault PyValue := toValue <$> PyJson.loads t

/-! ## The encoder of the control store -/

/-- `invalid` is `CanonicalizationError`, `encode` is `UnicodeEncodeError`. -/
inductive CanonicalFault where
  | invalid (detail : PyText)
  | dumps (fault : DumpsFault)
  | encode
  deriving DecidableEq

def indexPath (path : PyText) (index : Nat) : PyText :=
  path ++ ofString "[" ++ ofString (toString index) ++ ofString "]"

def keyPath (path key : PyText) : PyText := path ++ ofString "." ++ key

mutual

/-- mirrors src/adcp/canonical.py:22-42 (`_validate`) -/
def validate : PyValue → PyText → Except CanonicalFault Unit
  | .none, _ | .str _, _ | .bool _, _ | .int _, _ => .ok ()
  | .float _, path => .error (.invalid (ofString "float forbidden at " ++ path))
  | .list items, path => validateItems items path 0
  | .dict items, path => validateFields items path
  | v, path => .error (.invalid
      (ofString "unsupported type " ++ className v ++ ofString " at " ++ path))

def validateItems : List PyValue → PyText → Nat → Except CanonicalFault Unit
  | [], _, _ => .ok ()
  | v :: vs, path, index => do
    validate v (indexPath path index)
    validateItems vs path (index + 1)

def validateFields : List (PyValue × PyValue) → PyText → Except CanonicalFault Unit
  | [], _ => .ok ()
  | (k, v) :: rest, path =>
    match k with
    | .str key => do
      validate v (keyPath path key)
      validateFields rest path
    | _ => .error (.invalid (ofString "non-string key forbidden at " ++ path))

end

/-- mirrors src/adcp/canonical.py:45-56 -/
def canonicalJson (v : PyValue) : Except CanonicalFault PyText := do
  validate v (ofString "$")
  (dumps v).mapError .dumps

/-- One code point in UTF-8. -/
def utf8Bytes (c : CodePoint) : List UInt8 :=
  let n := c.val
  if n < 0x80 then [.ofNat n]
  else if n < 0x800 then [.ofNat (0xC0 + n / 0x40), .ofNat (0x80 + n % 0x40)]
  else if n < 0x10000 then
    [.ofNat (0xE0 + n / 0x1000), .ofNat (0x80 + n / 0x40 % 0x40), .ofNat (0x80 + n % 0x40)]
  else [.ofNat (0xF0 + n / 0x40000), .ofNat (0x80 + n / 0x1000 % 0x40),
    .ofNat (0x80 + n / 0x40 % 0x40), .ofNat (0x80 + n % 0x40)]

/-- mirrors src/adcp/canonical.py:57-58 -/
def canonicalBytes (v : PyValue) : Except CanonicalFault (List UInt8) := do
  let text ← canonicalJson v
  if Utf8 text then pure (text.flatMap utf8Bytes) else .error .encode

/-! ## The copy in the client -/

namespace Client

/-- `client` is `GlobalWriterClientError`. -/
inductive ClientFault where
  | client (code : String) (detail : PyText)
  | dumps (fault : DumpsFault)
  deriving DecidableEq

def invalid (detail : PyText) : ClientFault := .client "CANONICAL_JSON_INVALID" detail

mutual

/-- mirrors adcp_global_writer_client/canonical.py:10-25 (`_validate_json`) -/
def validateJson : PyValue → PyText → Except ClientFault Unit
  | .none, _ | .str _, _ | .bool _, _ | .int _, _ => .ok ()
  | .float _, path => .error (invalid (ofString "float forbidden at " ++ path))
  | .list items, path => validateItems items path 0
  | .dict items, path => validateFields items path
  | _, path => .error (invalid (ofString "unsupported type at " ++ path))

def validateItems : List PyValue → PyText → Nat → Except ClientFault Unit
  | [], _, _ => .ok ()
  | v :: vs, path, index => do
    validateJson v (indexPath path index)
    validateItems vs path (index + 1)

def validateFields : List (PyValue × PyValue) → PyText → Except ClientFault Unit
  | [], _ => .ok ()
  | (k, v) :: rest, path =>
    match k with
    | .str key => do
      validateJson v (keyPath path key)
      validateFields rest path
    | _ => .error (invalid (ofString "non-string key at " ++ path))

end

/-- mirrors adcp_global_writer_client/canonical.py:28-36 -/
def canonicalJson (v : PyValue) : Except ClientFault PyText := do
  validateJson v (ofString "$")
  (dumps v).mapError .dumps

end Client

/-! ## What is accepted -/

/-- The values that pass the validation. -/
inductive Valid : PyValue → Prop
  | none : Valid .none
  | bool (b : Bool) : Valid (.bool b)
  | int (n : Int) : Valid (.int n)
  | str (t : PyText) : Valid (.str t)
  | list {items : List PyValue} (each : ∀ v ∈ items, Valid v) : Valid (.list items)
  | dict {items : List (PyValue × PyValue)} (keys : ∀ item ∈ items, ∃ key, item.1 = .str key)
      (each : ∀ item ∈ items, Valid item.2) : Valid (.dict items)

theorem bind_ok_iff {ε : Type} {x : Except ε Unit} {y : Unit → Except ε Unit} :
    (x >>= y) = .ok () ↔ x = .ok () ∧ y () = .ok () := by
  cases x with
  | error e => exact ⟨fun h => (nomatch h), fun h => (nomatch h.1)⟩
  | ok u => exact ⟨fun h => ⟨rfl, h⟩, fun h => h.2⟩

theorem valid_list {items : List PyValue} : Valid (.list items) ↔ ∀ v ∈ items, Valid v := by
  constructor
  · rintro (_ | _ | _ | _ | each)
    exact each
  · exact .list

theorem valid_dict {items : List (PyValue × PyValue)} :
    Valid (.dict items) ↔ ∀ item ∈ items, (∃ key, item.1 = .str key) ∧ Valid item.2 := by
  constructor
  · rintro (_ | _ | _ | _ | _ | ⟨keys, each⟩)
    exact fun item hitem => ⟨keys item hitem, each item hitem⟩
  · exact fun h => .dict (fun item hitem => (h item hitem).1) fun item hitem => (h item hitem).2

mutual

theorem validate_iff : ∀ (v : PyValue) (path : PyText), validate v path = .ok () ↔ Valid v
  | .none, _ => ⟨fun _ => .none, fun _ => rfl⟩
  | .bool b, _ => ⟨fun _ => .bool b, fun _ => rfl⟩
  | .int n, _ => ⟨fun _ => .int n, fun _ => rfl⟩
  | .str t, _ => ⟨fun _ => .str t, fun _ => rfl⟩
  | .float _, _ | .bytes _, _ | .tuple _, _ | .object _, _ =>
    ⟨fun h => (nomatch h), fun h => (nomatch h)⟩
  | .list items, path => (validateItems_iff items path 0).trans valid_list.symm
  | .dict items, path => (validateFields_iff items path).trans valid_dict.symm

theorem validateItems_iff : ∀ (vs : List PyValue) (path : PyText) (index : Nat),
    validateItems vs path index = .ok () ↔ ∀ v ∈ vs, Valid v
  | [], _, _ => ⟨fun _ _ h => (nomatch h), fun _ => rfl⟩
  | v :: vs, path, index => by
    rw [validateItems, bind_ok_iff, validate_iff v, validateItems_iff vs, List.forall_mem_cons]

theorem validateFields_iff : ∀ (items : List (PyValue × PyValue)) (path : PyText),
    validateFields items path = .ok () ↔ ∀ item ∈ items, (∃ key, item.1 = .str key) ∧ Valid item.2
  | [], _ => ⟨fun _ _ h => (nomatch h), fun _ => rfl⟩
  | (k, v) :: rest, path => by
    rw [List.forall_mem_cons]
    cases k with
    | str key =>
      rw [validateFields, bind_ok_iff, validate_iff v, validateFields_iff rest]
      exact and_congr_left fun _ => ⟨fun h => ⟨⟨key, rfl⟩, h⟩, And.right⟩
    | _ => exact ⟨fun h => (nomatch h), fun h => by obtain ⟨⟨⟨key, hkey⟩, -⟩, -⟩ := h; cases hkey⟩

end

namespace Client

mutual

theorem validateJson_iff : ∀ (v : PyValue) (path : PyText), validateJson v path = .ok () ↔ Valid v
  | .none, _ => ⟨fun _ => .none, fun _ => rfl⟩
  | .bool b, _ => ⟨fun _ => .bool b, fun _ => rfl⟩
  | .int n, _ => ⟨fun _ => .int n, fun _ => rfl⟩
  | .str t, _ => ⟨fun _ => .str t, fun _ => rfl⟩
  | .float _, _ | .bytes _, _ | .tuple _, _ | .object _, _ =>
    ⟨fun h => (nomatch h), fun h => (nomatch h)⟩
  | .list items, path => (validateItems_iff items path 0).trans valid_list.symm
  | .dict items, path => (validateFields_iff items path).trans valid_dict.symm

theorem validateItems_iff : ∀ (vs : List PyValue) (path : PyText) (index : Nat),
    validateItems vs path index = .ok () ↔ ∀ v ∈ vs, Valid v
  | [], _, _ => ⟨fun _ _ h => (nomatch h), fun _ => rfl⟩
  | v :: vs, path, index => by
    rw [validateItems, bind_ok_iff, validateJson_iff v, validateItems_iff vs, List.forall_mem_cons]

theorem validateFields_iff : ∀ (items : List (PyValue × PyValue)) (path : PyText),
    validateFields items path = .ok () ↔ ∀ item ∈ items, (∃ key, item.1 = .str key) ∧ Valid item.2
  | [], _ => ⟨fun _ _ h => (nomatch h), fun _ => rfl⟩
  | (k, v) :: rest, path => by
    rw [List.forall_mem_cons]
    cases k with
    | str key =>
      rw [validateFields, bind_ok_iff, validateJson_iff v, validateFields_iff rest]
      exact and_congr_left fun _ => ⟨fun h => ⟨⟨key, rfl⟩, h⟩, And.right⟩
    | _ => exact ⟨fun h => (nomatch h), fun h => by obtain ⟨⟨⟨key, hkey⟩, -⟩, -⟩ := h; cases hkey⟩

end

end Client

/-- No dictionary of the value has a key twice, as no Python value does. -/
inductive DistinctKeys : PyValue → Prop
  | none : DistinctKeys .none
  | bool (b : Bool) : DistinctKeys (.bool b)
  | int (n : Int) : DistinctKeys (.int n)
  | float (f : PyFloat) : DistinctKeys (.float f)
  | str (t : PyText) : DistinctKeys (.str t)
  | bytes (b : List UInt8) : DistinctKeys (.bytes b)
  | object (name : PyText) : DistinctKeys (.object name)
  | list {items : List PyValue} (each : ∀ v ∈ items, DistinctKeys v) : DistinctKeys (.list items)
  | tuple {items : List PyValue} (each : ∀ v ∈ items, DistinctKeys v) : DistinctKeys (.tuple items)
  | dict {items : List (PyValue × PyValue)} (keys : (items.map Prod.fst).Nodup)
      (each : ∀ item ∈ items, DistinctKeys item.2) : DistinctKeys (.dict items)

theorem toValues_eq (vs : List PyJson) : toValues vs = vs.map toValue := by
  induction vs with
  | nil => rfl
  | cons v vs ih => rw [toValues, ih, List.map_cons]

theorem toItems_eq (fields : List (PyText × PyJson)) :
    toItems fields = fields.map fun p => (.str p.1, toValue p.2) := by
  induction fields with
  | nil => rfl
  | cons p ps ih => rw [toItems, ih, List.map_cons]

theorem bind_pure_ok {ε α β γ : Type} {x : Except ε α} {y : Except ε β} {f : α → β → γ} {c : γ}
    (h : (do let a ← x; let b ← y; pure (f a b)) = .ok c) : ∃ a b, x = .ok a ∧ y = .ok b ∧
    c = f a b := by
  cases x with
  | error e => exact nomatch h
  | ok a =>
    cases y with
    | error e => exact nomatch h
    | ok b =>
      cases h
      exact ⟨a, b, rfl, rfl, rfl⟩

mutual

/-- A valid value is the value of its document. -/
theorem document_toValue : ∀ (v : PyValue) (j : PyJson), Valid v → document v = .ok j →
    toValue j = v ∧ (DistinctKeys v → j.Canonical)
  | .none, j, _, h => by
    cases h
    exact ⟨rfl, fun _ => .null⟩
  | .bool b, j, _, h => by
    cases h
    exact ⟨rfl, fun _ => .bool b⟩
  | .int n, j, _, h => by
    rw [document] at h
    split_ifs at h with hn
    cases h
    exact ⟨rfl, fun _ => .int hn⟩
  | .str t, j, _, h => by
    cases h
    exact ⟨rfl, fun _ => .str t⟩
  | .list items, j, hv, h => by
    rw [document] at h
    cases hitems : documentItems items with
    | error e =>
      rw [hitems] at h
      exact nomatch h
    | ok js =>
      rw [hitems] at h
      cases h
      obtain ⟨hvalues, hcanonical⟩ := documentItems_toValues items js (valid_list.mp hv) hitems
      refine ⟨congrArg PyValue.list hvalues, fun hd => .arr ?_⟩
      cases hd with
      | list each => exact hcanonical each
  | .dict items, j, hv, h => by
    rw [document] at h
    cases hfields : documentFields items with
    | error e =>
      rw [hfields] at h
      exact nomatch h
    | ok fields =>
      rw [hfields] at h
      cases h
      obtain ⟨hitems, hcanonical⟩ := documentFields_toItems items fields (valid_dict.mp hv) hfields
      refine ⟨congrArg PyValue.dict hitems, fun hd => ?_⟩
      cases hd with
      | dict keys each =>
        refine .obj ?_ (hcanonical each)
        have hkeys : items.map Prod.fst = (fields.map Prod.fst).map PyValue.str := by
          rw [← hitems, toItems_eq, List.map_map, List.map_map]
          rfl
        rw [hkeys] at keys
        exact keys.of_map _

theorem documentItems_toValues : ∀ (vs : List PyValue) (js : List PyJson), (∀ v ∈ vs, Valid v) →
    documentItems vs = .ok js →
    toValues js = vs ∧ ((∀ v ∈ vs, DistinctKeys v) → ∀ j ∈ js, j.Canonical)
  | [], js, _, h => by
    cases h
    exact ⟨rfl, fun _ _ hj => (nomatch hj)⟩
  | v :: vs, js, hv, h => by
    obtain ⟨hfirst, hrest⟩ := List.forall_mem_cons.mp hv
    obtain ⟨j, js, hj, hjs, rfl⟩ := bind_pure_ok h
    obtain ⟨hvalue, hcanonical⟩ := document_toValue v j hfirst hj
    obtain ⟨hvalues, hcanonicals⟩ := documentItems_toValues vs js hrest hjs
    refine ⟨by rw [toValues, hvalue, hvalues], fun hd => ?_⟩
    obtain ⟨hd, hds⟩ := List.forall_mem_cons.mp hd
    exact List.forall_mem_cons.mpr ⟨hcanonical hd, hcanonicals hds⟩

theorem documentFields_toItems : ∀ (items : List (PyValue × PyValue))
    (fields : List (PyText × PyJson)),
    (∀ item ∈ items, (∃ key, item.1 = .str key) ∧ Valid item.2) →
    documentFields items = .ok fields →
    toItems fields = items ∧ ((∀ item ∈ items, DistinctKeys item.2) → ∀ p ∈ fields, p.2.Canonical)
  | [], fields, _, h => by
    cases h
    exact ⟨rfl, fun _ _ hp => (nomatch hp)⟩
  | (k, v) :: rest, fields, hv, h => by
    obtain ⟨⟨⟨key, hkey⟩, hfirst⟩, hrest⟩ := List.forall_mem_cons.mp hv
    replace hkey : k = .str key := hkey
    subst hkey
    obtain ⟨j, js, hj, hjs, rfl⟩ := bind_pure_ok h
    obtain ⟨hvalue, hcanonical⟩ := document_toValue v j hfirst hj
    obtain ⟨hvalues, hcanonicals⟩ := documentFields_toItems rest js hrest hjs
    refine ⟨by rw [toItems, hvalue, hvalues], fun hd => ?_⟩
    obtain ⟨hd, hds⟩ := List.forall_mem_cons.mp hd
    exact List.forall_mem_cons.mpr ⟨hcanonical hd, hcanonicals hds⟩

end

theorem documentItems_of {vs : List PyJson} (h : ∀ v ∈ vs, document (toValue v) = .ok v) :
    documentItems (toValues vs) = .ok vs := by
  induction vs with
  | nil => rfl
  | cons v vs ih =>
    obtain ⟨hv, hvs⟩ := List.forall_mem_cons.mp h
    rw [toValues, documentItems, hv, ih hvs]
    rfl

theorem documentFields_of {fields : List (PyText × PyJson)}
    (h : ∀ p ∈ fields, document (toValue p.2) = .ok p.2) :
    documentFields (toItems fields) = .ok fields := by
  induction fields with
  | nil => rfl
  | cons p ps ih =>
    obtain ⟨hp, hps⟩ := List.forall_mem_cons.mp h
    rw [toItems, documentFields]
    simp only [hp, ih hps]
    rfl

/-- A canonical document is accepted, as the value it is. -/
theorem toValue_accepted {j : PyJson} (h : j.Canonical) :
    Valid (toValue j) ∧ document (toValue j) = .ok j := by
  induction h with
  | null => exact ⟨.none, rfl⟩
  | bool b => exact ⟨.bool b, rfl⟩
  | @int n writable => exact ⟨.int n, by rw [toValue, document, if_pos writable]⟩
  | str t => exact ⟨.str t, rfl⟩
  | @arr items _ ih =>
    rw [toValue]
    refine ⟨.list fun v hv => ?_, ?_⟩
    · rw [toValues_eq] at hv
      obtain ⟨j, hj, rfl⟩ := List.mem_map.mp hv
      exact (ih j hj).1
    · rw [document, documentItems_of fun j hj => (ih j hj).2]
      rfl
  | @obj fields _ _ ih =>
    rw [toValue]
    refine ⟨valid_dict.mpr fun item hitem => ?_, ?_⟩
    · rw [toItems_eq] at hitem
      obtain ⟨p, hp, rfl⟩ := List.mem_map.mp hitem
      exact ⟨⟨p.1, rfl⟩, (ih p hp).1⟩
    · rw [document, documentFields_of fun p hp => (ih p hp).2]
      rfl

theorem canonicalJson_ok {v : PyValue} {t : PyText} :
    canonicalJson v = .ok t ↔ Valid v ∧ ∃ j, document v = .ok j ∧ j.render = t := by
  unfold canonicalJson dumps
  rw [← validate_iff v (ofString "$")]
  cases validate v (ofString "$") with
  | error e => exact ⟨fun h => (nomatch h), fun h => (nomatch h.1)⟩
  | ok u =>
    cases document v with
    | error e => exact ⟨fun h => (nomatch h), fun ⟨_, j, h, _⟩ => (nomatch h)⟩
    | ok j =>
      constructor
      · intro h
        exact ⟨rfl, j, rfl, Except.ok.inj h⟩
      · rintro ⟨-, j', hj, rfl⟩
        cases hj
        rfl

theorem Client.canonicalJson_ok {v : PyValue} {t : PyText} :
    Client.canonicalJson v = .ok t ↔ Valid v ∧ ∃ j, document v = .ok j ∧ j.render = t := by
  unfold Client.canonicalJson dumps
  rw [← Client.validateJson_iff v (ofString "$")]
  cases Client.validateJson v (ofString "$") with
  | error e => exact ⟨fun h => (nomatch h), fun h => (nomatch h.1)⟩
  | ok u =>
    cases document v with
    | error e => exact ⟨fun h => (nomatch h), fun ⟨_, j, h, _⟩ => (nomatch h)⟩
    | ok j =>
      constructor
      · intro h
        exact ⟨rfl, j, rfl, Except.ok.inj h⟩
      · rintro ⟨-, j', hj, rfl⟩
        cases hj
        rfl

/-! ## Equality -/

/-- Equal as JSON values: the order of the keys does not matter, and `1` is not `true`. -/
inductive SameJson : PyValue → PyValue → Prop
  | none : SameJson .none .none
  | bool (b : Bool) : SameJson (.bool b) (.bool b)
  | int (n : Int) : SameJson (.int n) (.int n)
  | str (t : PyText) : SameJson (.str t) (.str t)
  | list {a b : List PyValue} (length : a.length = b.length)
      (each : ∀ (i : Nat) v w, a[i]? = some v → b[i]? = some w → SameJson v w) :
      SameJson (.list a) (.list b)
  | dict {a b : List (PyValue × PyValue)}
      (keys : ∀ key, (PyValue.get? a key).isSome = (PyValue.get? b key).isSome)
      (each : ∀ key v w, PyValue.get? a key = some v → PyValue.get? b key = some w → SameJson v w) :
      SameJson (.dict a) (.dict b)

theorem SameJson.symm {v w : PyValue} (h : SameJson v w) : SameJson w v := by
  induction h with
  | none => exact .none
  | bool b => exact .bool b
  | int n => exact .int n
  | str t => exact .str t
  | list length _ ih => exact .list length.symm fun i v w hv hw => ih i w v hw hv
  | dict keys _ ih => exact .dict (fun key => (keys key).symm) fun key v w hv hw => ih key w v hw hv

theorem SameJson.trans {u v w : PyValue} (h : SameJson u v) (h' : SameJson v w) : SameJson u w := by
  induction h generalizing w with
  | none => exact h'
  | bool => exact h'
  | int => exact h'
  | str => exact h'
  | @list a b length _ ih =>
    cases h' with
    | @list _ c length' each' =>
      refine .list (length.trans length') fun i x z hx hz => ?_
      have hi : i < b.length := length ▸ (List.getElem?_eq_some_iff.mp hx).1
      have hy := List.getElem?_eq_getElem hi
      exact ih i x _ hx hy (each' i _ z hy hz)
  | @dict a b keys _ ih =>
    cases h' with
    | @dict _ c keys' each' =>
      refine .dict (fun key => (keys key).trans (keys' key)) fun key x z hx hz => ?_
      have hsome : (PyValue.get? b key).isSome = true := by
        rw [← keys key, hx]
        rfl
      obtain ⟨y, hy⟩ := Option.isSome_iff_exists.mp hsome
      exact ih key x y hx hy (each' key y z hy hz)

/-- Of a dictionary with distinct keys, the item with a key is the one that is there. -/
theorem get?_toItems {fields : List (PyText × PyJson)} (hkeys : (fields.map Prod.fst).Nodup)
    {key : PyText} {v : PyValue} :
    PyValue.get? (toItems fields) key = some v ↔ ∃ j, (key, j) ∈ fields ∧ toValue j = v := by
  induction fields with
  | nil => simp [toItems, PyValue.get?]
  | cons p ps ih =>
    obtain ⟨k, j⟩ := p
    obtain ⟨hk, hps⟩ := List.nodup_cons.mp hkeys
    rw [toItems]
    by_cases hkey : k = key
    · subst hkey
      have hget : PyValue.get? ((.str k, toValue j) :: toItems ps) k = some (toValue j) := by
        simp [PyValue.get?, PyValue.isText]
      rw [hget]
      constructor
      · intro h
        exact ⟨j, List.mem_cons_self .., Option.some.inj h⟩
      · rintro ⟨j', hj', rfl⟩
        rcases List.mem_cons.mp hj' with heq | hmem
        · rw [(Prod.mk.inj heq).2]
        · exact absurd (List.mem_map_of_mem hmem) hk
    · have hget : PyValue.get? ((.str k, toValue j) :: toItems ps) key =
          PyValue.get? (toItems ps) key := by
        simp [PyValue.get?, PyValue.isText, hkey]
      rw [hget, ih hps]
      constructor
      · rintro ⟨j', hj', rfl⟩
        exact ⟨j', List.mem_cons_of_mem _ hj', rfl⟩
      · rintro ⟨j', hj', rfl⟩
        rcases List.mem_cons.mp hj' with heq | hmem
        · exact absurd (Prod.mk.inj heq).1.symm hkey
        · exact ⟨j', hmem, rfl⟩

theorem mem_sortFields_sorted {fields : List (PyText × PyJson)} {key : PyText} {j' : PyJson} :
    (key, j') ∈ PyJson.sortFields (fields.map fun p => (p.1, p.2.sorted)) ↔
      ∃ j, (key, j) ∈ fields ∧ j.sorted = j' := by
  rw [(PyJson.sortFields_perm _).mem_iff, List.mem_map]
  constructor
  · rintro ⟨⟨k, j⟩, hp, heq⟩
    cases heq
    exact ⟨j, hp, rfl⟩
  · rintro ⟨j, hj, rfl⟩
    exact ⟨(key, j), hj, rfl⟩

theorem sortFields_nodup {fields : List (PyText × PyJson)} (h : (fields.map Prod.fst).Nodup) :
    ((PyJson.sortFields (fields.map fun p => (p.1, p.2.sorted))).map Prod.fst).Nodup := by
  rw [((PyJson.sortFields_perm _).map Prod.fst).nodup_iff, List.map_map]
  exact h

/-- The order of the keys is all that sorting changes. -/
theorem sameJson_sorted {j : PyJson} (h : j.Canonical) : SameJson (toValue j)
    (toValue j.sorted) := by
  induction h with
  | null => exact .none
  | bool b => exact .bool b
  | int => exact .int _
  | str t => exact .str t
  | @arr items _ ih =>
    rw [PyJson.sorted, PyJson.sortedItems_eq, toValue, toValue, toValues_eq, toValues_eq]
    refine .list (by simp) fun i v w hv hw => ?_
    rw [List.map_map, List.getElem?_map] at hw
    rw [List.getElem?_map] at hv
    obtain ⟨j, hj, rfl⟩ := Option.map_eq_some_iff.mp hv
    rw [hj] at hw
    cases hw
    exact ih j (List.mem_of_getElem? hj)
  | @obj fields keys _ ih =>
    rw [PyJson.sorted, PyJson.sortedFields_eq, toValue, toValue]
    have hsorted := sortFields_nodup keys
    refine .dict (fun key => ?_) fun key v w hv hw => ?_
    · rw [Bool.eq_iff_iff, Option.isSome_iff_exists, Option.isSome_iff_exists]
      simp only [get?_toItems keys, get?_toItems hsorted, mem_sortFields_sorted]
      constructor
      · rintro ⟨v, j, hj, rfl⟩
        exact ⟨_, _, ⟨j, hj, rfl⟩, rfl⟩
      · rintro ⟨v, _, ⟨j, hj, rfl⟩, rfl⟩
        exact ⟨_, j, hj, rfl⟩
    · obtain ⟨j, hj, rfl⟩ := (get?_toItems keys).mp hv
      obtain ⟨j', hj', rfl⟩ := (get?_toItems hsorted).mp hw
      obtain ⟨i, hi, rfl⟩ := mem_sortFields_sorted.mp hj'
      have hsame : (key, i) = (key, j) := List.inj_on_of_nodup_map keys hi hj rfl
      cases hsame
      exact ih (key, j) hj

/-! ## What is read back -/

/-- What is read has no key twice. -/
theorem toValue_distinctKeys {j : PyJson} (h : j.Loaded) : DistinctKeys (toValue j) := by
  induction h with
  | null => exact .none
  | bool b => exact .bool b
  | int => exact .int _
  | float t => exact .float _
  | str t => exact .str t
  | @arr items _ ih =>
    rw [toValue, toValues_eq]
    refine .list fun v hv => ?_
    obtain ⟨j, hj, rfl⟩ := List.mem_map.mp hv
    exact ih j hj
  | @obj fields keys _ ih =>
    rw [toValue, toItems_eq]
    refine .dict ?_ fun item hitem => ?_
    · have hkeys : (fields.map fun p => (PyValue.str p.1, toValue p.2)).map Prod.fst =
          (fields.map Prod.fst).map PyValue.str := by
        rw [List.map_map, List.map_map]
        rfl
      rw [hkeys]
      exact keys.map fun a b h => PyValue.str.inj h
    · obtain ⟨p, hp, rfl⟩ := List.mem_map.mp hitem
      exact ih p hp

theorem loads_distinctKeys {t : PyText} {v : PyValue} (h : loads t = .ok v) : DistinctKeys v := by
  unfold loads at h
  cases hj : PyJson.loads t with
  | error e =>
    rw [hj] at h
    cases h
  | ok j =>
    rw [hj] at h
    cases h
    exact toValue_distinctKeys (PyJson.loads_loaded hj)

/-- A value that is read back as it is. -/
def Settled (w : PyValue) : Prop := ∃ j : PyJson, j.Canonical ∧ j.sorted = j ∧ toValue j = w

theorem sorted_sorted {j : PyJson} (h : j.Canonical) : j.sorted.sorted = j.sorted :=
  PyJson.sorted_of_render h.sorted h (PyJson.render_sorted h)

theorem canonicalJson_toValue {j : PyJson} (h : j.Canonical) :
    canonicalJson (toValue j) = .ok j.render :=
  canonicalJson_ok.mpr ⟨(toValue_accepted h).1, j, (toValue_accepted h).2, rfl⟩

theorem loads_toValue {j : PyJson} (h : j.Canonical) :
    loads j.render = .ok (toValue j.sorted) := by
  rw [loads, PyJson.loads_render h]
  rfl

/-- The document behind a value that is written. -/
theorem canonicalJson_document {v : PyValue} {t : PyText} (hd : DistinctKeys v)
    (h : canonicalJson v = .ok t) :
    ∃ j : PyJson, j.Canonical ∧ toValue j = v ∧ j.render = t := by
  obtain ⟨hvalid, j, hj, rfl⟩ := canonicalJson_ok.mp h
  obtain ⟨rfl, hcanonical⟩ := document_toValue v j hvalid hj
  exact ⟨j, hcanonical hd, rfl, rfl⟩

theorem settled_iff {w : PyValue} :
    Settled w ↔ ∃ t, canonicalJson w = .ok t ∧ loads t = .ok w := by
  constructor
  · rintro ⟨j, hj, hsorted, rfl⟩
    refine ⟨j.render, canonicalJson_toValue hj, ?_⟩
    rw [loads_toValue hj, hsorted]
  · rintro ⟨t, ht, hw⟩
    obtain ⟨j, hj, rfl, rfl⟩ := canonicalJson_document (loads_distinctKeys hw) ht
    rw [loads_toValue hj] at hw
    exact ⟨j.sorted, hj.sorted, sorted_sorted hj, Except.ok.inj hw⟩

theorem Settled.distinctKeys {w : PyValue} (h : Settled w) : DistinctKeys w := by
  obtain ⟨j, hj, -, rfl⟩ := h
  exact toValue_distinctKeys hj.loaded

theorem sortFields_of_perm {fields fields' : List (PyText × PyJson)}
    (keys : (fields.map Prod.fst).Nodup) (h : fields.Perm fields') :
    PyJson.sortFields fields = PyJson.sortFields fields' := by
  have : Std.Total fun p q : PyText × PyJson => p.1 ≤ q.1 := ⟨fun p q => le_total p.1 q.1⟩
  have : IsTrans (PyText × PyJson) fun p q => p.1 ≤ q.1 := ⟨fun p q r h h' => le_trans h h'⟩
  have hperm := PyJson.sortFields_perm fields
  refine List.Perm.eq_of_pairwise (fun p q hp hq hle hge => ?_)
    (List.pairwise_insertionSort _ fields) (List.pairwise_insertionSort _ fields')
    (hperm.trans (h.trans (PyJson.sortFields_perm fields').symm))
  have hq : q ∈ fields := h.mem_iff.mpr ((PyJson.sortFields_perm fields').mem_iff.mp hq)
  exact List.inj_on_of_nodup_map keys (hperm.mem_iff.mp hp) hq (le_antisymm hle hge)

/-- Equal values have one document, up to the order of the keys. -/
theorem sorted_of_sameJson {j j' : PyJson} (h : j.Canonical) (h' : j'.Canonical)
    (hsame : SameJson (toValue j) (toValue j')) : j.sorted = j'.sorted := by
  induction h generalizing j' with
  | null => cases h' <;> first | rfl | cases hsame
  | bool b => cases h' <;> cases hsame; rfl
  | int => cases h' <;> cases hsame; rfl
  | str t => cases h' <;> cases hsame; rfl
  | @arr items _ ih =>
    cases h' with
    | @arr items' each' =>
      rw [toValue, toValue, toValues_eq, toValues_eq] at hsame
      cases hsame with
      | list length each =>
        rw [PyJson.sorted, PyJson.sorted, PyJson.sortedItems_eq, PyJson.sortedItems_eq]
        congr 1
        refine List.ext_getElem? fun i => ?_
        rw [List.length_map, List.length_map] at length
        simp only [List.getElem?_map] at each ⊢
        cases hv : items[i]? with
        | none =>
          have hw : items'[i]? = none := by
            rw [List.getElem?_eq_none_iff] at hv ⊢
            omega
          rw [hw]
        | some v =>
          have hi := (List.getElem?_eq_some_iff.mp hv).1
          have hw := List.getElem?_eq_getElem (l := items') (i := i) (by omega)
          rw [hw]
          have heq := ih v (List.mem_of_getElem? hv) (each' _ (List.mem_of_getElem? hw))
            (each i _ _ (by rw [hv]; rfl) (by rw [hw]; rfl))
          exact congrArg some heq
    | _ => cases hsame
  | @obj fields keys each ih =>
    cases h' with
    | @obj fields' keys' each' =>
      cases hsame with
      | dict same values =>
        rw [PyJson.sorted, PyJson.sorted, PyJson.sortedFields_eq, PyJson.sortedFields_eq]
        congr 1
        have hfst : ∀ l : List (PyText × PyJson),
            (l.map fun p => (p.1, p.2.sorted)).map Prod.fst = l.map Prod.fst := by
          intro l
          rw [List.map_map]
          rfl
        refine sortFields_of_perm (by rw [hfst]; exact keys) ?_
        have hpair : ∀ {key v w}, (key, v) ∈ fields → (key, w) ∈ fields' →
            v.sorted = w.sorted := fun hv hw =>
          ih _ hv (each' _ hw) (values _ _ _ ((get?_toItems keys).mpr ⟨_, hv, rfl⟩)
            ((get?_toItems keys').mpr ⟨_, hw, rfl⟩))
        refine (List.perm_ext_iff_of_nodup (List.Nodup.of_map _ (by rw [hfst]; exact keys))
          (List.Nodup.of_map _ (by rw [hfst]; exact keys'))).mpr fun p => ?_
        obtain ⟨key, s⟩ := p
        simp only [List.mem_map, Prod.mk.injEq, Prod.exists]
        constructor
        · rintro ⟨k, v, hv, rfl, rfl⟩
          have hsome := same k
          rw [(get?_toItems keys).mpr ⟨v, hv, rfl⟩] at hsome
          obtain ⟨w, hw⟩ := Option.isSome_iff_exists.mp hsome.symm
          obtain ⟨j, hj, -⟩ := (get?_toItems keys').mp hw
          exact ⟨k, j, hj, rfl, (hpair hv hj).symm⟩
        · rintro ⟨k, w, hw, rfl, rfl⟩
          have hsome := same k
          rw [(get?_toItems keys').mpr ⟨w, hw, rfl⟩] at hsome
          obtain ⟨v, hv⟩ := Option.isSome_iff_exists.mp hsome
          obtain ⟨j, hj, -⟩ := (get?_toItems keys).mp hv
          exact ⟨k, j, hj, rfl, hpair hj hw⟩
    | _ => cases hsame

/-- A value that can be written. -/
def Documented (v : PyValue) : Prop := ∃ j : PyJson, j.Canonical ∧ toValue j = v

theorem Settled.documented {w : PyValue} (h : Settled w) : Documented w := by
  obtain ⟨j, hj, -, rfl⟩ := h
  exact ⟨j, hj, rfl⟩

theorem documented_list {vs : List PyValue} :
    Documented (.list vs) ↔ ∀ v ∈ vs, Documented v := by
  constructor
  · rintro ⟨j, hj, hlist⟩
    cases hj with
    | arr each =>
      rw [toValue, toValues_eq] at hlist
      cases hlist
      intro v hv
      obtain ⟨j, hj, rfl⟩ := List.mem_map.mp hv
      exact ⟨j, each j hj, rfl⟩
    | _ => cases hlist
  · intro h
    have hdocuments : ∃ js : List PyJson, (∀ j ∈ js, j.Canonical) ∧ js.map toValue = vs := by
      induction vs with
      | nil => exact ⟨[], fun j hj => absurd hj List.not_mem_nil, rfl⟩
      | cons v vs ih =>
        obtain ⟨⟨j, hj, rfl⟩, hvs⟩ := List.forall_mem_cons.mp h
        obtain ⟨js, hjs, rfl⟩ := ih hvs
        exact ⟨j :: js, List.forall_mem_cons.mpr ⟨hj, hjs⟩, rfl⟩
    obtain ⟨js, hjs, rfl⟩ := hdocuments
    exact ⟨.arr js, .arr hjs, by rw [toValue, toValues_eq]⟩

theorem documented_dict {items : List (PyValue × PyValue)} :
    Documented (.dict items) ↔ (items.map Prod.fst).Nodup ∧
      ∀ item ∈ items, (∃ key, item.1 = .str key) ∧ Documented item.2 := by
  constructor
  · rintro ⟨j, hj, hdict⟩
    have hdistinct := toValue_distinctKeys hj.loaded
    rw [hdict] at hdistinct
    cases hdistinct with
    | dict keys _ =>
      refine ⟨keys, ?_⟩
      cases hj with
      | obj _ each =>
        rw [toValue, toItems_eq] at hdict
        cases hdict
        intro item hitem
        obtain ⟨p, hp, rfl⟩ := List.mem_map.mp hitem
        exact ⟨⟨p.1, rfl⟩, p.2, each p hp, rfl⟩
      | _ => cases hdict
  · rintro ⟨keys, h⟩
    have hdocuments : ∃ fields : List (PyText × PyJson), (∀ p ∈ fields, p.2.Canonical) ∧
        toItems fields = items := by
      clear keys
      induction items with
      | nil => exact ⟨[], fun p hp => absurd hp List.not_mem_nil, rfl⟩
      | cons item items ih =>
        obtain ⟨k, v⟩ := item
        obtain ⟨⟨⟨key, hkey⟩, j, hj, hv⟩, hrest⟩ := List.forall_mem_cons.mp h
        simp only at hkey hv
        subst hkey hv
        obtain ⟨fields, hfields, rfl⟩ := ih hrest
        exact ⟨(key, j) :: fields, List.forall_mem_cons.mpr ⟨hj, hfields⟩, rfl⟩
    obtain ⟨fields, hfields, rfl⟩ := hdocuments
    refine ⟨.obj fields, .obj ?_ hfields, rfl⟩
    rw [toItems_eq, List.map_map] at keys
    refine List.Nodup.of_map PyValue.str ?_
    rw [List.map_map]
    exact keys

theorem Documented.get {items : List (PyValue × PyValue)} (h : Documented (.dict items))
    {key : PyText} {v : PyValue} (hv : PyValue.get? items key = some v) : Documented v :=
  ((documented_dict.mp h).2 _ (PyValue.get?_mem hv)).2

theorem Documented.sameJson {v : PyValue} (h : Documented v) : SameJson v v := by
  obtain ⟨j, hj, rfl⟩ := h
  exact (sameJson_sorted hj).trans (sameJson_sorted hj).symm

/-- Equal values are written alike. -/
theorem canonicalJson_congr {v w : PyValue} (hv : Documented v) (hw : Documented w)
    (h : SameJson v w) : canonicalJson v = canonicalJson w := by
  obtain ⟨j, hj, rfl⟩ := hv
  obtain ⟨j', hj', rfl⟩ := hw
  rw [canonicalJson_toValue hj, canonicalJson_toValue hj', ← PyJson.render_sorted hj,
    ← PyJson.render_sorted hj', sorted_of_sameJson hj hj' h]

/-- **Canonical JSON is a faithful encoding.** What is written is read back, as the value up to the
order of keys, and is written again as the same text; two values of one text are one value; the
client's copy accepts the same values and writes the same texts. -/
theorem canonicalJson_faithful :
    (∀ v t, DistinctKeys v → canonicalJson v = .ok t →
      ∃ w, loads t = .ok w ∧ SameJson v w ∧ canonicalJson w = .ok t) ∧
    (∀ v w t, DistinctKeys v → DistinctKeys w → canonicalJson v = .ok t → canonicalJson w = .ok t →
      SameJson v w) ∧
    ∀ v t, canonicalJson v = .ok t ↔ Client.canonicalJson v = .ok t := by
  refine ⟨fun v t hd h => ?_, fun v w t hdv hdw hv hw => ?_, fun v t => ?_⟩
  · obtain ⟨hvalid, j, hj, rfl⟩ := canonicalJson_ok.mp h
    obtain ⟨rfl, hcanonical⟩ := document_toValue v j hvalid hj
    replace hcanonical := hcanonical hd
    refine ⟨toValue j.sorted, ?_, sameJson_sorted hcanonical, ?_⟩
    · rw [loads, PyJson.loads_render hcanonical]
      rfl
    · obtain ⟨hvalid', hj'⟩ := toValue_accepted hcanonical.sorted
      exact canonicalJson_ok.mpr ⟨hvalid', _, hj', PyJson.render_sorted hcanonical⟩
  · obtain ⟨hvalidv, j, hj, rfl⟩ := canonicalJson_ok.mp hv
    obtain ⟨hvalidw, j', hj', htext⟩ := canonicalJson_ok.mp hw
    obtain ⟨rfl, hcanonical⟩ := document_toValue v j hvalidv hj
    obtain ⟨rfl, hcanonical'⟩ := document_toValue w j' hvalidw hj'
    have hsorted := PyJson.sorted_of_render (hcanonical hdv) (hcanonical' hdw) htext.symm
    have hleft := sameJson_sorted (hcanonical hdv)
    rw [hsorted] at hleft
    exact hleft.trans (sameJson_sorted (hcanonical' hdw)).symm
  · rw [canonicalJson_ok, Client.canonicalJson_ok]

/-- `{"b": [1, True], "a": "\ud800"}`, with half a surrogate pair. -/
def sampleValue : PyValue :=
  .dict [(.str (ofString "b"), .list [.int 1, .bool true]), (.str (ofString "a"), .str [0xD800])]

def sampleText : PyText := ofString "\x7b\"a\":\"" ++ [0xD800] ++ ofString "\",\"b\":[1,true]\x7d"

theorem sampleValue_distinctKeys : DistinctKeys sampleValue := by
  refine .dict ?_ fun item hitem => ?_
  · refine List.nodup_cons.mpr ⟨fun h => ?_, List.nodup_singleton _⟩
    have heq : ofString "b" = ofString "a" := PyValue.str.inj (List.mem_singleton.mp h)
    exact absurd heq (by decide)
  · rcases List.mem_cons.mp hitem with rfl | hitem
    · refine .list fun v hv => ?_
      rcases List.mem_cons.mp hv with rfl | hv
      · exact .int 1
      · exact List.mem_singleton.mp hv ▸ .bool true
    · exact List.mem_singleton.mp hitem ▸ .str _

/-- The keys are sorted, and the lone surrogate is read back. -/
theorem canonicalJson_sample : ∃ w, loads sampleText = .ok w ∧ SameJson sampleValue w ∧
    canonicalJson w = .ok sampleText :=
  canonicalJson_faithful.1 sampleValue sampleText sampleValue_distinctKeys (by decide +kernel)

end Adcp.L2.Canonical
