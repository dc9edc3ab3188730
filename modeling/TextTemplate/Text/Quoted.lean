import TextTemplate.Text.Printable
/-!
# Quoted texts and byte strings

A text inside a compound value is shown between quotes. The quote is the single one, unless the
text has a single quote and no double one. The quote itself and the backslash are escaped by a
backslash, the three common control characters have letters, and whatever is not printable is
shown by its code point in two, four or eight hexadecimal digits. A byte string is quoted in the
same way behind the letter `b`, and of its bytes only those of printable ASCII stand for
themselves.
-/

namespace TextTemplate

namespace Quoted

/-- The quote that a sequence with these characters is shown between. -/
def quoteFor (characters : Text) : Char :=
  if characters.contains '\'' && !characters.contains '"' then '"' else '\''

def hex (width n : Nat) : Text := Text.padded width (Nat.toDigits 16 n)

/-- The escaped form that quote, backslash and the common control characters have in common. -/
def shortEscape? (quote c : Char) : Option Text :=
  if c = quote || c = '\\' then some ['\\', c]
  else if c = '\n' then some ['\\', 'n']
  else if c = '\r' then some ['\\', 'r']
  else if c = '\t' then some ['\\', 't']
  else none

/-- A character by its code point, in the shortest of the three forms. -/
def codePointEscape (c : Char) : Text :=
  if c.toNat < 0x100 then ['\\', 'x'] ++ hex 2 c.toNat
  else if c.toNat < 0x10000 then ['\\', 'u'] ++ hex 4 c.toNat
  else ['\\', 'U'] ++ hex 8 c.toNat

/-- A character of a text between the given quotes. -/
def character (quote c : Char) : Text :=
  match shortEscape? quote c with
  | some escaped => escaped
  | none => if isPrintable c then [c] else codePointEscape c

def text (characters : Text) : Text :=
  let quote := quoteFor characters
  quote :: (characters.flatMap (character quote) ++ [quote])

def byte (quote : Char) (b : UInt8) : Text :=
  let c := Char.ofNat b.toNat
  match shortEscape? quote c with
  | some escaped => escaped
  | none => if 0x20 ≤ b.toNat && b.toNat < 0x7F then [c] else codePointEscape c

def bytes (content : List UInt8) : Text :=
  let quote := quoteFor (content.map fun b ↦ Char.ofNat b.toNat)
  'b' :: quote :: (content.flatMap (byte quote) ++ [quote])

end Quoted

end TextTemplate
