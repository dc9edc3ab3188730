import TextTemplate.Text.Basic
/-!
# One byte for each character

The first 128 or 256 characters can be written as the byte with their code point.
-/

namespace TextTemplate

namespace SingleByte

/-- The bytes of a text whose characters all lie below the bound. -/
def encode? (bound : Nat) : Text → Option (List UInt8)
  | [] => some []
  | c :: rest =>
    if c.toNat < bound then (encode? bound rest).map (UInt8.ofNat c.toNat :: ·) else none

def decode? (bound : Nat) : List UInt8 → Option Text
  | [] => some []
  | b :: rest =>
    if b.toNat < bound then (decode? bound rest).map (Char.ofNat b.toNat :: ·) else none

end SingleByte

end TextTemplate
