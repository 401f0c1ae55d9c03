import Mathlib
/-!
# Texts of code points

A Python text is a list of code points. A surrogate may stand in it, so it is more than a Lean
`String`: a decoder of escapes may build one, an encoder of UTF-8 refuses it.

* `PyText.ofString`: the text of a string.
* `Occurs`: one text in another, as `needle in text` has it.
-/
namespace Adcp.L1

abbrev CodePoint : Type := Fin 0x110000

abbrev PyText : Type := List CodePoint

namespace PyText

theorem toNat_lt (c : Char) : c.toNat < 0x110000 := by
  rcases c.valid with h | h
  · exact Nat.lt_trans h (by decide)
  · exact h.2

def ofChar (c : Char) : CodePoint := ⟨c.toNat, toNat_lt c⟩

def ofChars (cs : List Char) : PyText := cs.map ofChar

def ofString (s : String) : PyText := ofChars s.toList

theorem ofChar_injective : Function.Injective ofChar := by
  intro c d h
  exact Char.toNat_inj.mp (Fin.mk.inj h)

theorem ofString_injective : Function.Injective ofString := by
  intro s t h
  exact String.toList_inj.mp (List.map_injective_iff.mpr ofChar_injective h)

/-- `needle in text` -/
def Occurs (needle text : PyText) : Prop := needle <:+: text

instance (needle text : PyText) : Decidable (Occurs needle text) :=
  inferInstanceAs (Decidable (needle <:+: text))

end PyText
end Adcp.L1
