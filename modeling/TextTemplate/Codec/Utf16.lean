import TextTemplate.Text.Basic
/-!
# UTF-16, low byte first

A character is written as one 16-bit unit, or as two from the ranges set aside for that purpose when
its code point does not fit into one. Reading refuses a unit of those ranges without its partner,
and half a unit at the end. A byte order mark is a character like any other.
-/

namespace TextTemplate

namespace Utf16

/-- The two bytes of a unit. -/
def unitBytes (unit : Nat) : List UInt8 := [UInt8.ofNat (unit % 0x100), UInt8.ofNat (unit / 0x100)]

/-- The units of a character. -/
def units (c : Char) : List Nat :=
  let n := c.toNat
  if n < 0x10000 then [n]
  else [0xD800 + (n - 0x10000) / 0x400, 0xDC00 + (n - 0x10000) % 0x400]

def encode (text : Text) : List UInt8 := text.flatMap fun c ↦ (units c).flatMap unitBytes

/-- The units of a byte string, unless half of the last is missing. -/
def ofBytes? : List UInt8 → Option (List Nat)
  | [] => some []
  | [_] => none
  | low :: high :: rest => (ofBytes? rest).map ((low.toNat + 0x100 * high.toNat) :: ·)

/-- The unit is the first of a pair. -/
def isHigh (unit : Nat) : Bool := 0xD800 ≤ unit && unit < 0xDC00

def isLow (unit : Nat) : Bool := 0xDC00 ≤ unit && unit < 0xE000

/-- The text that the units are the encoding of. -/
def ofUnits? : List Nat → Option Text
  | [] => some []
  | [unit] => if isHigh unit || isLow unit then none else some [Char.ofNat unit]
  | unit :: next :: rest =>
    if isHigh unit then
      if isLow next then
        let codePoint := 0x10000 + (unit - 0xD800) * 0x400 + (next - 0xDC00)
        (ofUnits? rest).map (Char.ofNat codePoint :: ·)
      else none
    else if isLow unit then none
    else (ofUnits? (next :: rest)).map (Char.ofNat unit :: ·)

/-- The text that the bytes are the encoding of. -/
def decode? (bytes : List UInt8) : Option Text := (ofBytes? bytes).bind ofUnits?

end Utf16

end TextTemplate
