import TextTemplate.Codec.Utf8
/-!
# Digests of texts

The digest of a text is the SHA-256 hash of its UTF-8 bytes: eight 32-bit words, stirred once for
each block of sixteen words of the padded message. The message schedule is a window of sixteen words
that slides over the block: its first word goes into the round, and a new word, made of four of the
window, comes in at its end.
-/

namespace TextTemplate

structure Digest where
  words : List UInt32
  deriving DecidableEq, Repr

namespace Digest

/-- The words that the hash of the empty message starts from. -/
def initial : List UInt32 :=
  [0x6a09e667, 0xbb67ae85, 0x3c6ef372, 0xa54ff53a, 0x510e527f, 0x9b05688c, 0x1f83d9ab, 0x5be0cd19]

/-- The constants of the sixty-four rounds. -/
def roundConstants : List UInt32 :=
  [0x428a2f98, 0x71374491, 0xb5c0fbcf, 0xe9b5dba5, 0x3956c25b, 0x59f111f1, 0x923f82a4, 0xab1c5ed5,
    0xd807aa98, 0x12835b01, 0x243185be, 0x550c7dc3, 0x72be5d74, 0x80deb1fe, 0x9bdc06a7, 0xc19bf174,
    0xe49b69c1, 0xefbe4786, 0x0fc19dc6, 0x240ca1cc, 0x2de92c6f, 0x4a7484aa, 0x5cb0a9dc, 0x76f988da,
    0x983e5152, 0xa831c66d, 0xb00327c8, 0xbf597fc7, 0xc6e00bf3, 0xd5a79147, 0x06ca6351, 0x14292967,
    0x27b70a85, 0x2e1b2138, 0x4d2c6dfc, 0x53380d13, 0x650a7354, 0x766a0abb, 0x81c2c92e, 0x92722c85,
    0xa2bfe8a1, 0xa81a664b, 0xc24b8b70, 0xc76c51a3, 0xd192e819, 0xd6990624, 0xf40e3585, 0x106aa070,
    0x19a4c116, 0x1e376c08, 0x2748774c, 0x34b0bcb5, 0x391c0cb3, 0x4ed8aa4a, 0x5b9cca4f, 0x682e6ff3,
    0x748f82ee, 0x78a5636f, 0x84c87814, 0x8cc70208, 0x90befffa, 0xa4506ceb, 0xbef9a3f7, 0xc67178f2]

/-- The word turned right by so many places. -/
def turn (word : UInt32) (places : UInt32) : UInt32 :=
  (word >>> places) ||| (word <<< (32 - places))

/-- The word that comes into the window. -/
def nextWord (window : List UInt32) : UInt32 :=
  let early := window.getD 1 0
  let late := window.getD 14 0
  window.getD 0 0 + (turn early 7 ^^^ turn early 18 ^^^ (early >>> 3))
    + window.getD 9 0 + (turn late 17 ^^^ turn late 19 ^^^ (late >>> 10))

/-- The first words of the window, so many rounds long. -/
def schedule : Nat → List UInt32 → List UInt32
  | 0, _ => []
  | rounds + 1, window => window.getD 0 0 :: schedule rounds (window.drop 1 ++ [nextWord window])

/-- One round with the constant and the word of the schedule added up. -/
def round (state : List UInt32) (addend : UInt32) : List UInt32 :=
  match state with
  | [a, b, c, d, e, f, g, h] =>
    let first := h + (turn e 6 ^^^ turn e 11 ^^^ turn e 25) + ((e &&& f) ^^^ (~~~e &&& g)) + addend
    let second := (turn a 2 ^^^ turn a 13 ^^^ turn a 22) + ((a &&& b) ^^^ (a &&& c) ^^^ (b &&& c))
    [first + second, a, b, c, d + first, e, f, g]
  | _ => state

/-- The state after a block of sixteen words. -/
def stir (state block : List UInt32) : List UInt32 :=
  let addends := List.zipWith (· + ·) roundConstants (schedule 64 block)
  List.zipWith (· + ·) state (addends.foldl round state)

/-- The number as so many bytes, the highest first. -/
def bigEndian : Nat → Nat → List UInt8
  | 0, _ => []
  | width + 1, n => bigEndian width (n / 0x100) ++ [UInt8.ofNat n]

/-- The message, a one bit, zeros up to a whole number of blocks, and the length in bits. -/
def pad (message : List UInt8) : List UInt8 :=
  message ++ 0x80 :: List.replicate ((119 - message.length % 64) % 64) 0
    ++ bigEndian 8 (8 * message.length)

def wordsOf : List UInt8 → List UInt32
  | a :: b :: c :: d :: rest =>
    ((a.toUInt32 <<< 24) ||| (b.toUInt32 <<< 16) ||| (c.toUInt32 <<< 8) ||| d.toUInt32)
      :: wordsOf rest
  | _ => []

/-- The state after all whole blocks of the message. -/
def stirAll (state message : List UInt32) : List UInt32 :=
  if (message.take 16).length = 16 then
    stirAll (stir state (message.take 16)) (message.drop 16)
  else state
termination_by message.length
decreasing_by
  rename_i whole
  rw [List.length_take] at whole
  rw [List.length_drop]
  omega

/-- The hash of a byte string. -/
def ofBytes (message : List UInt8) : Digest := ⟨stirAll initial (wordsOf (pad message))⟩

def ofText (text : Text) : Digest := ofBytes (Utf8.encode text)

def hex (digest : Digest) : Text :=
  digest.words.flatMap fun word ↦ Text.padded 8 (Nat.toDigits 16 word.toNat)

end Digest

end TextTemplate
