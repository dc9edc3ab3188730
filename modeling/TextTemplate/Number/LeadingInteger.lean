import TextTemplate.Number.Scientific
import TextTemplate.Text.Blank
import TextTemplate.Text.DecimalDigit
/-!
# The integer that a text starts with

Blanks at the start are skipped, one sign may follow, and then the longest run of decimal digits
counts, whatever comes after it. Digits of all scripts may be mixed. A run may have any number of
zeros in front, but it has a greatest length, zeros included.
-/

namespace TextTemplate

/-- What a text starts with, as far as integers go. -/
inductive LeadingInteger where
  | absent
  | integer (n : Int)
  /-- An integer of so many digits that it is not read. -/
  | tooLong (digits : Nat)
  deriving DecidableEq, Repr

namespace LeadingInteger

/-- The greatest number of digits that are read. -/
def digitLimit : Nat := 4300

/-- Reads the integer that the text starts with. -/
def ofText (text : Text) : LeadingInteger :=
  let (negative, unsigned) := Scientific.signOf text.trimStart
  let digits := unsigned.leadingDigits
  if digits.isEmpty then .absent
  else if digitLimit < digits.length then .tooLong digits.length
  else .integer (Scientific.signed negative (valueOfDigits digits))

end LeadingInteger

end TextTemplate
