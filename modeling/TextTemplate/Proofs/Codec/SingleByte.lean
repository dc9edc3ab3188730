import Mathlib.Data.List.Forall2
import TextTemplate.Codec.SingleByte

/-!
# Single bytes are read back

A text in one byte for each character and the text that is read from the bytes are the same relation
between characters and bytes, from either side: a byte stands for the character with its value as
code point, as long as this is below the bound. Reading is therefore the converse of writing.
-/

namespace TextTemplate

/-! ## Code points -/

theorem toNat_ofNat_of_isValidChar {n : Nat} (hn : n.isValidChar) : (Char.ofNat n).toNat = n := by
  rw [Char.ofNat, dif_pos hn]
  rfl

theorem toNat_bounds (c : Char) :
    c.toNat < 0xD800 ∨ 0xDFFF < c.toNat ∧ c.toNat < 0x110000 := c.valid

namespace SingleByte

variable {bound : Nat}

/-- The byte stands for the character. -/
def StandsFor (bound : Nat) (b : UInt8) (c : Char) : Prop := b.toNat = c.toNat ∧ b.toNat < bound

theorem encode?_eq_some_iff (hbound : bound ≤ 0x100) {text : Text} {bytes : List UInt8} :
    encode? bound text = some bytes ↔ List.Forall₂ (StandsFor bound) bytes text := by
  induction text generalizing bytes with
  | nil => simp [encode?, eq_comm]
  | cons c text ih =>
    simp only [encode?, Option.ite_none_right_eq_some, Option.map_eq_some_iff, ih,
      List.forall₂_cons_right_iff]
    constructor
    · rintro ⟨hc, rest, hrest, rfl⟩
      have hb : (UInt8.ofNat c.toNat).toNat = c.toNat := by
        rw [UInt8.toNat_ofNat', Nat.mod_eq_of_lt (by omega)]
      exact ⟨_, rest, ⟨hb, hb.symm ▸ hc⟩, hrest, rfl⟩
    · rintro ⟨b, rest, ⟨hb, hlt⟩, hrest, rfl⟩
      exact ⟨hb ▸ hlt, rest, hrest, by rw [← hb, UInt8.ofNat_toNat]⟩

theorem decode?_eq_some_iff {text : Text} {bytes : List UInt8} :
    decode? bound bytes = some text ↔ List.Forall₂ (StandsFor bound) bytes text := by
  induction bytes generalizing text with
  | nil => simp [decode?, eq_comm]
  | cons b bytes ih =>
    simp only [decode?, Option.ite_none_right_eq_some, Option.map_eq_some_iff, ih,
      List.forall₂_cons_left_iff]
    constructor
    · rintro ⟨hb, rest, hrest, rfl⟩
      have hvalid : b.toNat.isValidChar := Or.inl (Nat.lt_trans b.toNat_lt (by decide))
      exact ⟨_, rest, ⟨(toNat_ofNat_of_isValidChar hvalid).symm, hb⟩, hrest, rfl⟩
    · rintro ⟨c, rest, ⟨hb, hlt⟩, hrest, rfl⟩
      exact ⟨hlt, rest, hrest, by rw [hb, Char.ofNat_toNat]⟩

end SingleByte

end TextTemplate
