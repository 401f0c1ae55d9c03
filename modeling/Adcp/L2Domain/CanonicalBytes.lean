import Adcp.L1Base.Sha256
import Adcp.L2Domain.CanonicalJson
/-!
# Which values have canonical bytes

`canonical_bytes` validates a value, writes it and encodes the text in UTF-8; each of the three
refuses values of its own.

* `Encodable`: no float, no integer of too many digits and no lone surrogate, at any depth.
* `canonicalBytes_ok_iff`: those values have canonical bytes, and no others.
* `own_error_iff`: what the validation lets through and a later stage refuses, which is then refused
  with another error than `CanonicalizationError`.
-/
namespace Adcp.L2.Canonical

open Adcp.L1 PyText PyJson

/-! ## Texts of documents -/

theorem utf8_cons {c : CodePoint} {t : PyText} : Utf8 (c :: t) ↔ ¬ IsSurrogate c ∧ Utf8 t :=
  List.forall_mem_cons

theorem utf8_append {t u : PyText} : Utf8 (t ++ u) ↔ Utf8 t ∧ Utf8 u := by
  constructor
  · intro h
    exact ⟨fun c hc => h c (List.mem_append_left u hc), fun c hc => h c
      (List.mem_append_right t hc)⟩
  · rintro ⟨ht, hu⟩
    exact ht.append hu

/-- An escape is in ASCII, and a surrogate is not escaped. -/
theorem utf8_escapeCodePoint (c : CodePoint) : Utf8 (escapeCodePoint c) ↔ ¬ IsSurrogate c := by
  have hascii : c.val < 128 → ¬ IsSurrogate c := by
    rintro hc ⟨hlow, -⟩
    omega
  unfold escapeCodePoint
  split_ifs with h1 h2 h3 h4 h5 h6 h7 h8
  · exact iff_of_true (utf8_ofChars _) (hascii (by omega))
  · exact iff_of_true (utf8_ofChars _) (hascii (by omega))
  · exact iff_of_true (utf8_ofChars _) (hascii (by omega))
  · exact iff_of_true (utf8_ofChars _) (hascii (by omega))
  · exact iff_of_true (utf8_ofChars _) (hascii (by omega))
  · exact iff_of_true (utf8_ofChars _) (hascii (by omega))
  · exact iff_of_true (utf8_ofChars _) (hascii (by omega))
  · exact iff_of_true (utf8_ofChars _) (hascii (by omega))
  · exact utf8_cons.trans (and_iff_left utf8_nil)

theorem utf8_flatMap_escape (t : PyText) : Utf8 (t.flatMap escapeCodePoint) ↔ Utf8 t := by
  induction t with
  | nil => exact Iff.rfl
  | cons c t ih => rw [List.flatMap_cons, utf8_append, utf8_escapeCodePoint, ih, utf8_cons]

theorem utf8_quoteText (t : PyText) : Utf8 (quoteText t) ↔ Utf8 t := by
  have hquote : ¬ IsSurrogate (ofChar '"') := not_isSurrogate_ofChar _
  rw [quoteText, utf8_cons, utf8_append, utf8_cons, utf8_flatMap_escape]
  exact ⟨fun h => h.2.1, fun h => ⟨hquote, h, hquote, utf8_nil⟩⟩

theorem utf8_joinComma (ts : List PyText) : Utf8 (joinComma ts) ↔ ∀ t ∈ ts, Utf8 t := by
  have hcomma : ¬ IsSurrogate (ofChar ',') := not_isSurrogate_ofChar _
  induction ts with
  | nil => exact iff_of_true utf8_nil fun t ht => (nomatch ht)
  | cons t ts ih =>
    cases ts with
    | nil => exact List.forall_mem_singleton.symm
    | cons u rest =>
      rw [joinComma, utf8_append, utf8_cons, List.forall_mem_cons]
      exact ⟨fun h => ⟨h.1, ih.mp h.2.2⟩, fun h => ⟨h.1, hcomma, ih.mpr h.2⟩⟩

theorem utf8_enclosed {a b : Char} {t : PyText} :
    Utf8 (ofChar a :: (t ++ [ofChar b])) ↔ Utf8 t := by
  rw [utf8_cons, utf8_append, utf8_cons]
  exact ⟨fun h => h.2.1,
    fun h => ⟨not_isSurrogate_ofChar a, h, not_isSurrogate_ofChar b, utf8_nil⟩⟩

theorem utf8_render_arr (items : List PyJson) :
    Utf8 (render (.arr items)) ↔ ∀ j ∈ items, Utf8 j.render := by
  rw [render, utf8_enclosed, utf8_joinComma, renderItems_eq, List.forall_mem_map]

theorem utf8_renderField (key text : PyText) :
    Utf8 (renderField (key, text)) ↔ Utf8 key ∧ Utf8 text := by
  rw [renderField, utf8_append, utf8_cons, utf8_quoteText]
  exact ⟨fun h => ⟨h.1, h.2.2⟩, fun h => ⟨h.1, not_isSurrogate_ofChar ':', h.2⟩⟩

/-- Sorting the fields moves texts but changes none. -/
theorem utf8_render_obj (fields : List (PyText × PyJson)) :
    Utf8 (render (.obj fields)) ↔ ∀ p ∈ fields, Utf8 p.1 ∧ Utf8 p.2.render := by
  have hmem : ∀ q, q ∈ sortFields (renderFields fields) ↔ q ∈ renderFields fields :=
    fun q => (sortFields_perm _).mem_iff
  rw [render, utf8_enclosed, utf8_joinComma, List.forall_mem_map]
  simp only [hmem]
  rw [renderFields_eq, List.forall_mem_map]
  simp only [utf8_renderField]

/-! ## Values -/

/-- `canonical_bytes` writes the value. -/
inductive Encodable : PyValue → Prop
  | none : Encodable .none
  | bool (b : Bool) : Encodable (.bool b)
  | int {n : Int} (writable : IntWritable n) : Encodable (.int n)
  | str {t : PyText} (utf8 : Utf8 t) : Encodable (.str t)
  | list {items : List PyValue} (each : ∀ v ∈ items, Encodable v) : Encodable (.list items)
  | dict {items : List (PyValue × PyValue)}
      (keys : ∀ item ∈ items, ∃ key, item.1 = .str key ∧ Utf8 key)
      (each : ∀ item ∈ items, Encodable item.2) : Encodable (.dict items)

theorem encodable_list {items : List PyValue} :
    Encodable (.list items) ↔ ∀ v ∈ items, Encodable v := by
  constructor
  · rintro (_ | _ | _ | _ | each)
    exact each
  · exact .list

theorem encodable_dict {items : List (PyValue × PyValue)} :
    Encodable (.dict items) ↔
      ∀ item ∈ items, (∃ key, item.1 = .str key ∧ Utf8 key) ∧ Encodable item.2 := by
  constructor
  · rintro (_ | _ | _ | _ | _ | ⟨keys, each⟩)
    exact fun item hitem => ⟨keys item hitem, each item hitem⟩
  · exact fun h => .dict (fun item hitem => (h item hitem).1) fun item hitem => (h item hitem).2

theorem encodable_str {t : PyText} : Encodable (.str t) ↔ Utf8 t :=
  ⟨fun h => by cases h; assumption, .str⟩

/-- The value passes the validation and has a document that can be encoded. -/
def Written (v : PyValue) : Prop := Valid v ∧ ∃ j, document v = .ok j ∧ Utf8 j.render

theorem written_list {items : List PyValue} :
    Written (.list items) ↔ (∀ v ∈ items, Valid v) ∧
      ∃ js, documentItems items = .ok js ∧ ∀ j ∈ js, Utf8 j.render := by
  rw [Written, valid_list, document]
  refine and_congr_right fun _ => ?_
  cases documentItems items with
  | error e => exact ⟨fun ⟨_, h, _⟩ => (nomatch h), fun ⟨_, h, _⟩ => (nomatch h)⟩
  | ok js =>
    constructor
    · rintro ⟨j, hj, hutf8⟩
      cases hj
      exact ⟨js, rfl, (utf8_render_arr js).mp hutf8⟩
    · rintro ⟨js', hjs, hutf8⟩
      cases hjs
      exact ⟨.arr js, rfl, (utf8_render_arr js).mpr hutf8⟩

theorem written_dict {items : List (PyValue × PyValue)} :
    Written (.dict items) ↔ (∀ item ∈ items, (∃ key, item.1 = .str key) ∧ Valid item.2) ∧
      ∃ fields, documentFields items = .ok fields ∧ ∀ p ∈ fields, Utf8 p.1 ∧ Utf8 p.2.render := by
  rw [Written, valid_dict, document]
  refine and_congr_right fun _ => ?_
  cases documentFields items with
  | error e => exact ⟨fun ⟨_, h, _⟩ => (nomatch h), fun ⟨_, h, _⟩ => (nomatch h)⟩
  | ok fields =>
    constructor
    · rintro ⟨j, hj, hutf8⟩
      cases hj
      exact ⟨fields, rfl, (utf8_render_obj fields).mp hutf8⟩
    · rintro ⟨fields', hfields, hutf8⟩
      cases hfields
      exact ⟨.obj fields, rfl, (utf8_render_obj fields).mpr hutf8⟩

/-- Where two parts are read and put together, both are there. -/
theorem bind_pure_ok_iff {ε α β γ : Type} {x : Except ε α} {y : Except ε β} {f : α → β → γ}
    {P : γ → Prop} : (∃ c, (do let a ← x; let b ← y; pure (f a b)) = .ok c ∧ P c) ↔
      ∃ a b, x = .ok a ∧ y = .ok b ∧ P (f a b) := by
  constructor
  · rintro ⟨c, hc, hP⟩
    obtain ⟨a, b, ha, hb, rfl⟩ := bind_pure_ok hc
    exact ⟨a, b, ha, hb, hP⟩
  · rintro ⟨a, b, rfl, rfl, hP⟩
    exact ⟨f a b, rfl, hP⟩

mutual

theorem written_iff : ∀ v : PyValue, Written v ↔ Encodable v
  | .none => iff_of_true ⟨.none, .null, rfl, utf8_ofString "null"⟩ .none
  | .bool true => iff_of_true ⟨.bool true, .bool true, rfl, utf8_ofString "true"⟩ (.bool true)
  | .bool false => iff_of_true ⟨.bool false, .bool false, rfl, utf8_ofString "false"⟩ (.bool false)
  | .int n => by
    rw [Written, document]
    split_ifs with hn
    · exact iff_of_true ⟨.int n, .int n, rfl, utf8_ofString _⟩ (.int hn)
    · refine ⟨fun ⟨_, _, h, _⟩ => (nomatch h), fun h => ?_⟩
      cases h
      contradiction
  | .str t => by
    rw [encodable_str, Written, document]
    constructor
    · rintro ⟨-, j, hj, hutf8⟩
      cases hj
      exact (utf8_quoteText t).mp hutf8
    · exact fun h => ⟨.str t, .str t, rfl, (utf8_quoteText t).mpr h⟩
  | .float _ | .bytes _ | .tuple _ | .object _ => ⟨fun h => (nomatch h.1), fun h => (nomatch h)⟩
  | .list items => written_list.trans ((writtenItems_iff items).trans encodable_list.symm)
  | .dict items => written_dict.trans ((writtenFields_iff items).trans encodable_dict.symm)

theorem writtenItems_iff : ∀ vs : List PyValue,
    ((∀ v ∈ vs, Valid v) ∧ ∃ js, documentItems vs = .ok js ∧ ∀ j ∈ js, Utf8 j.render) ↔
      ∀ v ∈ vs, Encodable v
  | [] => iff_of_true ⟨fun _ h => (nomatch h), [], rfl, fun _ h => (nomatch h)⟩
      fun _ h => (nomatch h)
  | v :: vs => by
    rw [List.forall_mem_cons, List.forall_mem_cons, ← written_iff v, ← writtenItems_iff vs,
      documentItems, bind_pure_ok_iff]
    simp only [List.forall_mem_cons]
    constructor
    · rintro ⟨⟨hv, hvs⟩, j, js, hj, hjs, hutf8, hutf8s⟩
      exact ⟨⟨hv, j, hj, hutf8⟩, hvs, js, hjs, hutf8s⟩
    · rintro ⟨⟨hv, j, hj, hutf8⟩, hvs, js, hjs, hutf8s⟩
      exact ⟨⟨hv, hvs⟩, j, js, hj, hjs, hutf8, hutf8s⟩

theorem writtenFields_iff : ∀ items : List (PyValue × PyValue),
    ((∀ item ∈ items, (∃ key, item.1 = .str key) ∧ Valid item.2) ∧
      ∃ fields, documentFields items = .ok fields ∧ ∀ p ∈ fields, Utf8 p.1 ∧ Utf8 p.2.render) ↔
      ∀ item ∈ items, (∃ key, item.1 = .str key ∧ Utf8 key) ∧ Encodable item.2
  | [] => iff_of_true ⟨fun _ h => (nomatch h), [], rfl, fun _ h => (nomatch h)⟩
      fun _ h => (nomatch h)
  | (.str key, v) :: rest => by
    rw [List.forall_mem_cons, List.forall_mem_cons, ← written_iff v, ← writtenFields_iff rest,
      documentFields, bind_pure_ok_iff]
    simp only [List.forall_mem_cons]
    constructor
    · rintro ⟨⟨⟨-, hv⟩, hrest⟩, j, fields, hj, hfields, ⟨hkey, hutf8⟩, hutf8s⟩
      exact ⟨⟨⟨key, rfl, hkey⟩, hv, j, hj, hutf8⟩, hrest, fields, hfields, hutf8s⟩
    · rintro ⟨⟨⟨name, hname, hkey⟩, hv, j, hj, hutf8⟩, hrest, fields, hfields, hutf8s⟩
      cases hname
      exact ⟨⟨⟨⟨key, rfl⟩, hv⟩, hrest⟩, j, fields, hj, hfields, ⟨hkey, hutf8⟩, hutf8s⟩
  | (.none, v) :: rest | (.bool _, v) :: rest | (.int _, v) :: rest | (.float _, v) :: rest
  | (.bytes _, v) :: rest | (.list _, v) :: rest | (.tuple _, v) :: rest | (.dict _, v) :: rest
  | (.object _, v) :: rest => by
    constructor
    · rintro ⟨-, fields, h, -⟩
      exact nomatch h
    · intro h
      obtain ⟨⟨key, hkey, -⟩, -⟩ := h _ List.mem_cons_self
      exact nomatch hkey

end

/-- **Which values have canonical bytes.** -/
theorem canonicalBytes_ok_iff {v : PyValue} :
    (∃ bytes, canonicalBytes v = .ok bytes) ↔ Encodable v := by
  rw [← written_iff, canonicalBytes]
  constructor
  · rintro ⟨bytes, h⟩
    cases htext : canonicalJson v with
    | error e =>
      rw [htext] at h
      exact nomatch h
    | ok t =>
      obtain ⟨hvalid, j, hj, rfl⟩ := canonicalJson_ok.mp htext
      by_cases hutf8 : Utf8 j.render
      · exact ⟨hvalid, j, hj, hutf8⟩
      · have hfail : (if Utf8 j.render then pure (j.render.flatMap utf8Bytes) else
            Except.error CanonicalFault.encode) = .error .encode := if_neg hutf8
        rw [htext] at h
        exact nomatch hfail.symm.trans h
  · rintro ⟨hvalid, j, hj, hutf8⟩
    rw [canonicalJson_ok.mpr ⟨hvalid, j, hj, rfl⟩]
    exact ⟨_, if_pos hutf8⟩

/-! ## What escapes -/

/-- mirrors src/adcp/canonical.py:61-62 -/
def canonicalSha256 (v : PyValue) : Except CanonicalFault String :=
  Sha256.hexdigest <$> canonicalBytes v

/-- `CanonicalizationError` -/
def CanonicalFault.IsOwn : CanonicalFault → Prop
  | .invalid _ => True
  | .dumps _ | .encode => False

/-- Every text and key has a UTF-8 form and every integer is short enough to be written, whatever
else is in the value. -/
inductive Clean : PyValue → Prop
  | none : Clean .none
  | bool (b : Bool) : Clean (.bool b)
  | int {n : Int} (writable : IntWritable n) : Clean (.int n)
  | float (f : PyFloat) : Clean (.float f)
  | str {t : PyText} (utf8 : Utf8 t) : Clean (.str t)
  | bytes (b : List UInt8) : Clean (.bytes b)
  | object (name : PyText) : Clean (.object name)
  | list {items : List PyValue} (each : ∀ v ∈ items, Clean v) : Clean (.list items)
  | tuple {items : List PyValue} (each : ∀ v ∈ items, Clean v) : Clean (.tuple items)
  | dict {items : List (PyValue × PyValue)}
      (keys : ∀ item ∈ items, ∀ key, item.1 = .str key → Utf8 key)
      (each : ∀ item ∈ items, Clean item.2) : Clean (.dict items)

theorem Encodable.clean {v : PyValue} (h : Encodable v) : Clean v := by
  induction h with
  | none => exact .none
  | bool b => exact .bool b
  | int writable => exact .int writable
  | str utf8 => exact .str utf8
  | list _ ih => exact .list ih
  | dict keys _ ih =>
    refine .dict (fun item hitem key hkey => ?_) ih
    obtain ⟨key', hkey', hutf8⟩ := keys item hitem
    rw [hkey] at hkey'
    cases hkey'
    exact hutf8

theorem encodable_of_valid_clean {v : PyValue} (hvalid : Valid v) (hclean : Clean v) :
    Encodable v := by
  induction hvalid with
  | none => exact .none
  | bool b => exact .bool b
  | int n =>
    cases hclean with
    | int writable => exact .int writable
  | str t =>
    cases hclean with
    | str utf8 => exact .str utf8
  | list _ ih =>
    cases hclean with
    | list each => exact .list fun v hv => ih v hv (each v hv)
  | dict keys _ ih =>
    cases hclean with
    | dict hutf8 each =>
      refine .dict (fun item hitem => ?_) fun item hitem => ih item hitem (each item hitem)
      obtain ⟨key, hkey⟩ := keys item hitem
      exact ⟨key, hkey, hutf8 item hitem key hkey⟩

/-- Where the first of two computations may fail or the second. -/
theorem bind_error_cases {ε α β : Type} {x : Except ε α} {f : α → Except ε β} {e : ε}
    (h : (x >>= f) = .error e) : x = .error e ∨ ∃ a, x = .ok a ∧ f a = .error e := by
  cases x with
  | error e' => exact Or.inl (by cases h; rfl)
  | ok a => exact Or.inr ⟨a, rfl, h⟩

mutual

/-- The validation raises no other error than its own. -/
theorem validate_own : ∀ (v : PyValue) (path : PyText) (e : CanonicalFault),
    validate v path = .error e → e.IsOwn
  | .none, _, _, h | .bool _, _, _, h | .int _, _, _, h | .str _, _, _, h => nomatch h
  | .float _, _, _, h | .bytes _, _, _, h | .tuple _, _, _, h | .object _, _, _, h => by
    cases h
    trivial
  | .list items, path, e, h => validateItems_own items path 0 e h
  | .dict items, path, e, h => validateFields_own items path e h

theorem validateItems_own : ∀ (vs : List PyValue) (path : PyText) (index : Nat) (e : CanonicalFault),
    validateItems vs path index = .error e → e.IsOwn
  | [], _, _, _, h => nomatch h
  | v :: vs, path, index, e, h => by
    rcases bind_error_cases h with h | ⟨-, -, h⟩
    · exact validate_own v _ e h
    · exact validateItems_own vs path (index + 1) e h

theorem validateFields_own : ∀ (items : List (PyValue × PyValue)) (path : PyText)
    (e : CanonicalFault), validateFields items path = .error e → e.IsOwn
  | [], _, _, h => nomatch h
  | (.str key, v) :: rest, path, e, h => by
    rcases bind_error_cases h with h | ⟨-, -, h⟩
    · exact validate_own v _ e h
    · exact validateFields_own rest path e h
  | (.none, _) :: _, _, _, h | (.bool _, _) :: _, _, _, h | (.int _, _) :: _, _, _, h
  | (.float _, _) :: _, _, _, h | (.bytes _, _) :: _, _, _, h | (.list _, _) :: _, _, _, h
  | (.tuple _, _) :: _, _, _, h | (.dict _, _) :: _, _, _, h | (.object _, _) :: _, _, _, h => by
    cases h
    trivial

end

/-- What the validation has let through fails with another error, if it fails. -/
theorem canonicalBytes_error_of_valid {v : PyValue} {e : CanonicalFault} (hvalid : Valid v)
    (h : canonicalBytes v = .error e) : ¬ e.IsOwn := by
  rcases bind_error_cases h with h | ⟨t, -, h⟩
  · rcases bind_error_cases h with h | ⟨-, -, h⟩
    · have hok := (validate_iff v (ofString "$")).mpr hvalid
      exact nomatch hok.symm.trans h
    · cases hd : dumps v with
      | ok t =>
        rw [hd] at h
        exact nomatch h
      | error f =>
        rw [hd] at h
        cases h
        exact id
  · split at h
    · exact nomatch h
    · cases h
      exact id

theorem canonicalBytes_error_of_invalid {v : PyValue} (hvalid : ¬ Valid v) :
    ∃ e, canonicalBytes v = .error e ∧ e.IsOwn := by
  cases h : validate v (ofString "$") with
  | ok u => exact absurd ((validate_iff v _).mp h) hvalid
  | error e =>
    refine ⟨e, ?_, validate_own v _ e h⟩
    rw [canonicalBytes, canonicalJson, h]
    rfl

theorem canonicalSha256_error {v : PyValue} {e : CanonicalFault} :
    canonicalSha256 v = .error e ↔ canonicalBytes v = .error e := by
  unfold canonicalSha256
  cases canonicalBytes v with
  | ok b => exact ⟨fun h => (nomatch h), fun h => (nomatch h)⟩
  | error e' => exact ⟨fun h => (by cases h; rfl), fun h => (by cases h; rfl)⟩

theorem canonicalBytes_long {n : Int} (h : ¬ IntWritable n) :
    canonicalBytes (.list [.int n]) = .error (.dumps .valueError) := by
  have hdocument : document (.int n) = .error .valueError := if_neg h
  have hdumps : dumps (.list [.int n]) = .error .valueError := by
    rw [dumps, document, documentItems, hdocument]
    rfl
  rw [canonicalBytes, canonicalJson, hdumps]
  rfl

end Adcp.L2.Canonical
