import TextTemplate.Text.Basic
/-!
# Decimal numerals in scientific form

A non-negative number written with finitely many decimal digits is `digits · 10 ^ exponent`. This
module holds the form, the reader of numerals, and the two ways in which such a number is laid out:
with a point among its digits, or with an exponent behind them.
-/

namespace TextTemplate

/-- The number `digits · 10 ^ exponent`. -/
structure Scientific where
  digits : Nat
  exponent : Int
  deriving DecidableEq, Repr

namespace Scientific

/-- The power of ten of the leading digit. -/
def leading (s : Scientific) : Int := s.exponent + (Text.ofNat s.digits).length - 1

/-- The same number without zeros at the end of its digits. -/
def stripped (s : Scientific) : Scientific :=
  if h : s.digits ≠ 0 ∧ s.digits % 10 = 0 then
    stripped ⟨s.digits / 10, s.exponent + 1⟩
  else s
termination_by s.digits
decreasing_by exact Nat.div_lt_self (by omega) (by omega)

/-! ## Layout

The number of places before the point decides the whole of a layout: none or fewer means zeros
after the point, more than there are digits means zeros before it. -/

/-- The digits with the point after `places` of them, and the zeros that this takes. Without a
digit after the point there is no point either. -/
def withPoint (digits : Text) (places : Int) : Text × Text :=
  if places ≤ 0 then (['0'], List.replicate (-places).toNat '0' ++ digits)
  else
    let before := digits.take places.toNat
    (before ++ List.replicate (places.toNat - digits.length) '0', digits.drop places.toNat)

/-! ## Numerals -/

structure Numeral where
  negative : Bool
  magnitude : Scientific
  deriving DecidableEq, Repr

def digitsValue (digits : Text) : Nat :=
  digits.foldl (fun value c ↦ 10 * value + (c.toNat - '0'.toNat)) 0

/-- The sign in front of a text, and the rest. -/
def signOf : Text → Bool × Text
  | '-' :: rest => (true, rest)
  | '+' :: rest => (false, rest)
  | text => (false, text)

/-- The sign applied to a natural number. -/
def signed (negative : Bool) (n : Nat) : Int := if negative then -(n : Int) else n

/-- The exponent at the end of a numeral, zero when nothing is left to read. -/
def exponent? : Text → Option Int
  | [] => some 0
  | mark :: rest =>
    let (negative, digits) := signOf rest
    if (mark = 'e' || mark = 'E') && !digits.isEmpty && digits.all Char.isDigit then
      some (signed negative (digitsValue digits))
    else none

/-- Reads a sign, digits with or without a point among them, and an exponent. -/
def numeral? (text : Text) : Option Numeral :=
  let (negative, unsigned) := signOf text
  let whole := unsigned.takeWhile Char.isDigit
  let (fraction, rest) :=
    match unsigned.dropWhile Char.isDigit with
    | '.' :: rest => (rest.takeWhile Char.isDigit, rest.dropWhile Char.isDigit)
    | rest => ([], rest)
  if whole.isEmpty && fraction.isEmpty then none
  else (exponent? rest).map fun exponent ↦
    ⟨negative, digitsValue (whole ++ fraction), exponent - fraction.length⟩

end Scientific

end TextTemplate
