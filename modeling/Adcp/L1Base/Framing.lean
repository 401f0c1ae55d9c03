import Mathlib
/-!
# Framed byte strings

A serialisation that hashes several values of any length in one byte string has
to say where each of them ends. `frame` puts the length in front, in eight
big-endian bytes; `SelfDelimiting` is what such an encoding gains by it: its
bytes can be told from whatever follows them.

* `SelfDelimiting.tagged`, `SelfDelimiting.pair`: it is kept by a fixed tag and by
  putting one encoding behind another.
* `SelfDelimiting.flatMap_inj`: a list of encodings, however long, has one
  reading.
* `frame_selfDelimiting`: a frame of fewer than `2 ^ 64` bytes.
-/
namespace Adcp.L1

/-- The bytes `enc` writes for a value in `P` are recognised in front of any
others. -/
def SelfDelimiting {α β : Type} (P : α → Prop) (enc : α → List β) : Prop :=
  ∀ a b xs ys, P a → P b → enc a ++ xs = enc b ++ ys → a = b ∧ xs = ys

namespace SelfDelimiting

variable {α γ β : Type} {P : α → Prop} {Q : γ → Prop} {enc : α → List β} {enc' : γ → List β}

theorem injective (h : SelfDelimiting P enc) {a b : α} (ha : P a) (hb : P b)
    (heq : enc a = enc b) : a = b := by
  have happend : enc a ++ [] = enc b ++ [] := by rw [heq]
  exact (h a b [] [] ha hb happend).1

theorem tagged (h : SelfDelimiting P enc) (tag : List β) :
    SelfDelimiting P fun a => tag ++ enc a := by
  intro a b xs ys ha hb heq
  rw [List.append_assoc, List.append_assoc] at heq
  exact h a b xs ys ha hb (List.append_cancel_left heq)

theorem pair (h : SelfDelimiting P enc) (h' : SelfDelimiting Q enc') :
    SelfDelimiting (fun p : α × γ => P p.1 ∧ Q p.2) fun p => enc p.1 ++ enc' p.2 := by
  rintro ⟨a, c⟩ ⟨b, d⟩ xs ys ⟨ha, hc⟩ ⟨hb, hd⟩ heq
  simp only [List.append_assoc] at heq
  obtain ⟨rfl, hrest⟩ := h a b _ _ ha hb heq
  obtain ⟨rfl, hxs⟩ := h' c d _ _ hc hd hrest
  exact ⟨rfl, hxs⟩

/-- The same encoding of a value that a map tells apart. -/
theorem comap {δ : Type} (h : SelfDelimiting P enc) (f : δ → α) (hf : ∀ a b, f a = f b → a = b) :
    SelfDelimiting (fun d => P (f d)) fun d => enc (f d) := by
  intro a b xs ys ha hb heq
  obtain ⟨hab, hxs⟩ := h (f a) (f b) xs ys ha hb heq
  exact ⟨hf a b hab, hxs⟩

/-- One encoding behind the other, for as many values as there are. -/
theorem flatMap_inj (h : SelfDelimiting P enc) (hne : ∀ a, enc a ≠ []) {as bs : List α}
    (has : ∀ a ∈ as, P a) (hbs : ∀ b ∈ bs, P b) (heq : as.flatMap enc = bs.flatMap enc) :
    as = bs := by
  induction as generalizing bs with
  | nil =>
    cases bs with
    | nil => rfl
    | cons b bs =>
      have hnil := heq.symm
      rw [List.flatMap_cons, List.flatMap_nil, List.append_eq_nil_iff] at hnil
      exact absurd hnil.1 (hne b)
  | cons a as ih =>
    cases bs with
    | nil =>
      rw [List.flatMap_cons, List.flatMap_nil, List.append_eq_nil_iff] at heq
      exact absurd heq.1 (hne a)
    | cons b bs =>
      rw [List.flatMap_cons, List.flatMap_cons] at heq
      obtain ⟨rfl, hrest⟩ := h a b _ _ (has a (List.mem_cons_self ..))
        (hbs b (List.mem_cons_self ..)) heq
      rw [ih (fun x hx => has x (List.mem_cons_of_mem _ hx))
        (fun x hx => hbs x (List.mem_cons_of_mem _ hx)) hrest]

end SelfDelimiting

/-! ## Frames -/

/-- `n` in `width` big-endian bytes. -/
def bigEndian : Nat → Nat → List UInt8
  | 0, _ => []
  | width + 1, n => bigEndian width (n / 256) ++ [UInt8.ofNat (n % 256)]

theorem bigEndian_length (width n : Nat) : (bigEndian width n).length = width := by
  induction width generalizing n with
  | zero => rfl
  | succ width ih => rw [bigEndian, List.length_append, ih, List.length_singleton]

theorem bigEndian_inj {width m n : Nat} (hm : m < 256 ^ width) (hn : n < 256 ^ width)
    (h : bigEndian width m = bigEndian width n) : m = n := by
  induction width generalizing m n with
  | zero => omega
  | succ width ih =>
    rw [Nat.pow_succ] at hm hn
    rw [bigEndian, bigEndian] at h
    obtain ⟨hhigh, hlow⟩ := List.append_inj' h rfl
    have hdiv := ih (by omega) (by omega) hhigh
    have hmod : m % 256 = n % 256 := by
      have hbyte := congrArg UInt8.toNat (List.cons.inj hlow).1
      rw [UInt8.toNat_ofNat', UInt8.toNat_ofNat'] at hbyte
      omega
    omega

/-- `struct.pack(">Q", len(bytes)) + bytes`. -/
def frame (bytes : List UInt8) : List UInt8 := bigEndian 8 bytes.length ++ bytes

/-- A length that fits the eight bytes: it is below `2 ^ 64`. -/
def Framed (bytes : List UInt8) : Prop := bytes.length < 18446744073709551616

instance (bytes : List UInt8) : Decidable (Framed bytes) :=
  inferInstanceAs (Decidable (bytes.length < 18446744073709551616))

theorem Framed.lt {bytes : List UInt8} (h : Framed bytes) : bytes.length < 256 ^ 8 := by
  have hlimit : 18446744073709551616 = 256 ^ 8 := by decide
  rw [← hlimit]
  exact h

theorem frame_selfDelimiting : SelfDelimiting Framed frame := by
  intro a b xs ys ha hb heq
  unfold frame at heq
  rw [List.append_assoc, List.append_assoc] at heq
  obtain ⟨hlen, hrest⟩ := List.append_inj heq (by rw [bigEndian_length, bigEndian_length])
  exact List.append_inj hrest (bigEndian_inj ha.lt hb.lt hlen)

theorem frame_ne_nil (bytes : List UInt8) : frame bytes ≠ [] := by
  intro h
  have hlen := congrArg List.length h
  rw [frame, List.length_append, bigEndian_length, List.length_nil] at hlen
  omega

end Adcp.L1
