import Adcp.L1Base.JsonAscii
import Adcp.L1Base.PyText
/-!
# Texts in UTF-8

A text without surrogates has a UTF-8 form; its length in bytes bounds what may be kept of it.

* `backslashreplace`: surrogates written as escapes, so that the text has a UTF-8 form.
* `takeBytes`: the code points that fit into so many bytes, as decoding a cut form gives them.
* `utf8_iff`: such a text is a `String`, and has its length in bytes.
-/
namespace Adcp.L1.PyText

/-- Half of a pair in UTF-16; it has no UTF-8 form. -/
def IsSurrogate (c : CodePoint) : Prop := 0xD800 ≤ c.val ∧ c.val < 0xE000

instance (c : CodePoint) : Decidable (IsSurrogate c) := inferInstanceAs (Decidable (_ ∧ _))

/-- The text has a UTF-8 form. -/
def Utf8 (t : PyText) : Prop := ∀ c ∈ t, ¬ IsSurrogate c

instance (t : PyText) : Decidable (Utf8 t) := List.decidableBAll (fun c => ¬ IsSurrogate c) t

theorem utf8_nil : Utf8 [] := fun _ h => nomatch h

theorem Utf8.append {t u : PyText} (ht : Utf8 t) (hu : Utf8 u) : Utf8 (t ++ u) := fun c hc =>
  (List.mem_append.mp hc).elim (ht c) (hu c)

theorem Utf8.of_prefix {t u : PyText} (hu : Utf8 u) (h : t <+: u) : Utf8 t :=
  fun c hc => hu c (h.subset hc)

/-! ## Lengths -/

/-- How many bytes a code point takes. -/
def utf8Width (c : CodePoint) : Nat :=
  if c.val < 0x80 then 1 else if c.val < 0x800 then 2 else if c.val < 0x10000 then 3 else 4

/-- `len(text.encode("utf-8"))` -/
def utf8Length : PyText → Nat
  | [] => 0
  | c :: t => utf8Width c + utf8Length t

theorem utf8Length_append (t u : PyText) : utf8Length (t ++ u) = utf8Length t + utf8Length u := by
  induction t with
  | nil => exact (Nat.zero_add _).symm
  | cons c t ih => rw [List.cons_append, utf8Length, utf8Length, ih, Nat.add_assoc]

theorem utf8Width_pos (c : CodePoint) : 0 < utf8Width c := by
  unfold utf8Width
  split_ifs <;> decide

theorem utf8Length_of_prefix {t u : PyText} (h : t <+: u) : utf8Length t ≤ utf8Length u := by
  obtain ⟨rest, rfl⟩ := h
  rw [utf8Length_append]
  exact Nat.le_add_right _ _

/-! ## Cuts -/

/-- `text.encode("utf-8")[:n].decode("utf-8", "ignore")` -/
def takeBytes : Nat → PyText → PyText
  | _, [] => []
  | n, c :: t => if utf8Width c ≤ n then c :: takeBytes (n - utf8Width c) t else []

theorem takeBytes_length_le (n : Nat) (t : PyText) : utf8Length (takeBytes n t) ≤ n := by
  induction t generalizing n with
  | nil => exact Nat.zero_le n
  | cons c t ih =>
    unfold takeBytes
    split_ifs with hfits
    · have hrest := ih (n - utf8Width c)
      rw [utf8Length]
      omega
    · exact Nat.zero_le n

theorem takeBytes_isPrefix (n : Nat) (t : PyText) : takeBytes n t <+: t := by
  induction t generalizing n with
  | nil => exact List.prefix_rfl
  | cons c t ih =>
    unfold takeBytes
    split_ifs
    · exact List.cons_prefix_cons.mpr ⟨rfl, ih _⟩
    · exact List.nil_prefix

theorem Utf8.takeBytes {t : PyText} (h : Utf8 t) (n : Nat) : Utf8 (takeBytes n t) :=
  h.of_prefix (takeBytes_isPrefix n t)

/-- What fits is kept. -/
theorem takeBytes_append {t : PyText} {n : Nat} (h : utf8Length t ≤ n) (u : PyText) :
    takeBytes n (t ++ u) = t ++ takeBytes (n - utf8Length t) u := by
  induction t generalizing n with
  | nil => rfl
  | cons c t ih =>
    rw [utf8Length] at h
    rw [List.cons_append, takeBytes, if_pos (by omega), ih (by omega), utf8Length, Nat.sub_add_eq]
    rfl

/-! ## Escapes -/

/-- `text.encode("utf-8", "backslashreplace").decode("utf-8")` -/
def backslashreplace (t : PyText) : PyText :=
  t.flatMap fun c => if IsSurrogate c then ofChars (Json.unicodeEscaped c.val) else [c]

theorem not_isSurrogate_ofChar (c : Char) : ¬ IsSurrogate (ofChar c) := by
  rintro ⟨hlow, hhigh⟩
  have hval : (ofChar c).val = c.toNat := rfl
  rw [hval] at hlow hhigh
  rcases c.valid with h | h
  · exact absurd (show c.toNat < 0xD800 from h) (by omega)
  · exact absurd (show 0xDFFF < c.toNat from h.1) (by omega)

theorem utf8_ofChars (cs : List Char) : Utf8 (ofChars cs) := by
  intro c hc
  obtain ⟨ch, -, rfl⟩ := List.mem_map.mp hc
  exact not_isSurrogate_ofChar ch

theorem utf8_ofString (s : String) : Utf8 (ofString s) := utf8_ofChars s.toList

theorem utf8_backslashreplace (t : PyText) : Utf8 (backslashreplace t) := by
  intro c hc
  obtain ⟨d, -, hcd⟩ := List.mem_flatMap.mp hc
  by_cases hd : IsSurrogate d
  · rw [if_pos hd] at hcd
    exact utf8_ofChars _ c hcd
  · rw [if_neg hd, List.mem_singleton] at hcd
    exact hcd ▸ hd

/-- Only surrogates are escaped. -/
theorem backslashreplace_eq {t : PyText} (h : Utf8 t) : backslashreplace t = t := by
  induction t with
  | nil => rfl
  | cons c t ih =>
    have hrest := ih fun d hd => h d (List.mem_cons_of_mem _ hd)
    unfold backslashreplace at hrest ⊢
    rw [List.flatMap_cons, if_neg (h c List.mem_cons_self), hrest]
    rfl

/-! ## Strings -/

theorem utf8Width_ofChar (c : Char) : utf8Width (ofChar c) = c.utf8Size := by
  unfold utf8Width Char.utf8Size
  have hval : (ofChar c).val = c.val.toNat := rfl
  have hone : c.val ≤ 0x7F ↔ c.val.toNat < 0x80 := UInt32.le_iff_toNat_le.trans Nat.lt_succ_iff.symm
  have htwo : c.val ≤ 0x7FF ↔ c.val.toNat < 0x800 :=
    UInt32.le_iff_toNat_le.trans Nat.lt_succ_iff.symm
  have hthree : c.val ≤ 0xFFFF ↔ c.val.toNat < 0x10000 :=
    UInt32.le_iff_toNat_le.trans Nat.lt_succ_iff.symm
  rw [hval]
  exact if_congr hone.symm rfl (if_congr htwo.symm rfl (if_congr hthree.symm rfl rfl))

theorem utf8Length_ofString (s : String) : utf8Length (ofString s) = s.utf8ByteSize := by
  suffices h : ∀ cs, utf8Length (ofChars cs) = (String.ofList cs).utf8ByteSize by
    rw [ofString, h, String.ofList_toList]
  intro cs
  induction cs with
  | nil => rfl
  | cons c cs ih =>
    rw [show c :: cs = [c] ++ cs from rfl, String.ofList_append, String.utf8ByteSize_append, ← ih,
      show String.ofList [c] = String.singleton c from rfl, String.utf8ByteSize_singleton,
      ← utf8Width_ofChar]
    rfl

theorem exists_ofChar {c : CodePoint} (h : ¬ IsSurrogate c) : ∃ ch, c = ofChar ch := by
  have hvalid : c.val.isValidChar := by
    unfold IsSurrogate at h
    have := c.isLt
    unfold Nat.isValidChar
    omega
  refine ⟨Char.ofNatAux c.val hvalid, ?_⟩
  exact Fin.ext rfl

/-- **A text with a UTF-8 form is a string**, and as long. -/
theorem utf8_iff {t : PyText} :
    Utf8 t ↔ ∃ s, t = ofString s ∧ utf8Length t = s.utf8ByteSize := by
  constructor
  · intro h
    obtain ⟨cs, rfl⟩ : ∃ cs, t = ofChars cs := by
      induction t with
      | nil => exact ⟨[], rfl⟩
      | cons c t ih =>
        obtain ⟨cs, rfl⟩ := ih fun d hd => h d (List.mem_cons_of_mem _ hd)
        obtain ⟨ch, rfl⟩ := exists_ofChar (h c List.mem_cons_self)
        exact ⟨ch :: cs, rfl⟩
    refine ⟨String.ofList cs, ?_, ?_⟩
    · rw [ofString, String.toList_ofList]
    · rw [← utf8Length_ofString, ofString, String.toList_ofList]
  · rintro ⟨s, rfl, -⟩
    exact utf8_ofString s

end Adcp.L1.PyText
