import TextTemplate.Text.Basic
/-!
# UTF-8

A character is written in one to four bytes: a lead byte that tells their number, and continuation
bytes with six bits each. Reading is strict. It refuses a sequence that is longer than it need be,
the code points of surrogates, code points beyond the last, and sequences that break off, so every
byte string is the encoding of at most one text.
-/

namespace TextTemplate

namespace Utf8

def byte (n : Nat) : UInt8 := UInt8.ofNat n

/-- The continuation byte with these six bits. -/
def continuation (bits : Nat) : UInt8 := byte (0x80 + bits % 0x40)

/-- The bytes of a character. -/
def encodeChar (c : Char) : List UInt8 :=
  let n := c.toNat
  if n < 0x80 then [byte n]
  else if n < 0x800 then [byte (0xC0 + n / 0x40), continuation n]
  else if n < 0x10000 then
    [byte (0xE0 + n / 0x1000), continuation (n / 0x40), continuation n]
  else
    [byte (0xF0 + n / 0x40000), continuation (n / 0x1000), continuation (n / 0x40),
      continuation n]

def encode (text : Text) : List UInt8 := text.flatMap encodeChar

/-- The six bits of a continuation byte. -/
def continuationBits? (b : UInt8) : Option Nat :=
  if 0x80 ≤ b.toNat ∧ b.toNat < 0xC0 then some (b.toNat - 0x80) else none

/-- The character with this code point, if there is one and it is not below the least that needs a
sequence of this length. -/
def character? (least codePoint : Nat) : Option Char :=
  if least ≤ codePoint ∧ codePoint.isValidChar then some (Char.ofNat codePoint) else none

/-- Reads so many continuation bytes behind the bits read so far. -/
def continue? : Nat → Nat → List UInt8 → Option (Nat × List UInt8)
  | 0, bits, rest => some (bits, rest)
  | _ + 1, _, [] => none
  | n + 1, bits, b :: rest => do
    let more ← continuationBits? b
    continue? n (bits * 0x40 + more) rest

theorem length_le_of_continue? {n bits value : Nat} {bytes rest : List UInt8}
    (h : continue? n bits bytes = some (value, rest)) : rest.length ≤ bytes.length := by
  induction n generalizing bits bytes with
  | zero => simp_all [continue?]
  | succ n ih =>
    cases bytes with
    | nil => simp [continue?] at h
    | cons b bytes =>
      simp only [continue?, Option.bind_eq_bind, Option.bind_eq_some_iff] at h
      obtain ⟨_, _, h⟩ := h
      have := ih h
      simp only [List.length_cons]
      omega

/-- How many bytes follow a lead byte, the bits it holds, and the least code point that needs as
many. -/
def lead? (b : UInt8) : Option (Nat × Nat × Nat) :=
  let n := b.toNat
  if n < 0x80 then some (0, n, 0)
  else if n < 0xC0 then none
  else if n < 0xE0 then some (1, n - 0xC0, 0x80)
  else if n < 0xF0 then some (2, n - 0xE0, 0x800)
  else if n < 0xF8 then some (3, n - 0xF0, 0x10000)
  else none

/-- Reads the character that starts with a lead byte. -/
def decodeChar? (b : UInt8) (bytes : List UInt8) : Option (Char × List UInt8) := do
  let (following, bits, least) ← lead? b
  let (codePoint, rest) ← continue? following bits bytes
  let c ← character? least codePoint
  some (c, rest)

theorem length_le_of_decodeChar? {b : UInt8} {bytes rest : List UInt8} {c : Char}
    (h : decodeChar? b bytes = some (c, rest)) : rest.length ≤ bytes.length := by
  simp only [decodeChar?, Option.bind_eq_bind, Option.bind_eq_some_iff, Prod.exists] at h
  obtain ⟨_, _, _, _, _, _, hcont, _, _, h⟩ := h
  simp only [Option.some.injEq, Prod.mk.injEq] at h
  exact h.2 ▸ length_le_of_continue? hcont

/-- The text that the bytes are the encoding of. -/
def decode? : List UInt8 → Option Text
  | [] => some []
  | b :: bytes =>
    match _h : decodeChar? b bytes with
    | some (c, rest) => (decode? rest).map (c :: ·)
    | none => none
termination_by bytes => bytes.length
decreasing_by
  have := length_le_of_decodeChar? _h
  simp only [List.length_cons]
  omega

end Utf8

end TextTemplate
