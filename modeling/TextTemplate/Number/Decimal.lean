import TextTemplate.Number.Power
import TextTemplate.Number.Scientific
/-!
# Decimal numbers

A decimal number keeps the digits it was written with, so `1.0` and `1.00` are different decimals of
equal value. Its text is the scientific string of decimal arithmetic: positional as long as the
exponent is not positive and at most six places separate the point from the digits, and otherwise
with one digit before the point and a signed exponent.

Decimal arithmetic raises a signal where it has no result: a signaling not-a-number is refused by
every operation, comparing for equality included, and the result of an addition may be too great.
-/

namespace TextTemplate

inductive Decimal where
  /-- The number `± coefficient · 10 ^ exponent`. -/
  | finite (negative : Bool) (coefficient : Nat) (exponent : Int)
  | infinity (negative : Bool)
  /-- The result of an operation that has none; it has a sign and a number for diagnosis. A
  signaling one refuses to be compared. -/
  | nan (negative signaling : Bool) (diagnosis : Nat)
  deriving DecidableEq, Repr

namespace Decimal

def nanName : Text := "NaN".toList

/-- Reads not-a-number without its sign: an `s` if it is signaling, the name, and the diagnosis. -/
def nan? (negative : Bool) (unsigned : Text) : Option Decimal :=
  let signaling := unsigned.head? = some 's'
  let named := if signaling then unsigned.drop 1 else unsigned
  let digits := named.drop nanName.length
  if nanName.isPrefixOf named && digits.all Char.isDigit then
    some (.nan negative signaling (Scientific.digitsValue digits))
  else none

/-- Reads a numeral, or the name of an infinity or of not-a-number. -/
def ofText? (text : Text) : Option Decimal :=
  let (negative, unsigned) := Scientific.signOf text
  if unsigned = "Infinity".toList then some (.infinity negative)
  else
    match nan? negative unsigned with
    | some d => some d
    | none => (Scientific.numeral? text).map fun numeral ↦
      .finite numeral.negative numeral.magnitude.digits numeral.magnitude.exponent

def isZero : Decimal → Bool
  | .finite _ coefficient _ => coefficient = 0
  | _ => false

def isNegative : Decimal → Bool
  | .finite negative _ _ => negative
  | .infinity negative => negative
  | .nan negative _ _ => negative

/-- The number refuses to be compared. -/
def isSignaling : Decimal → Bool
  | .nan _ signaling _ => signaling
  | _ => false

/-- The least power of ten of the leading digit that is written without an exponent. -/
def positionalFrom : Int := -6

/-- The signed exponent behind the digits. -/
def exponentText (exponent : Int) : Text :=
  'E' :: (if exponent < 0 then '-' else '+') :: Text.ofNat exponent.natAbs

/-- The number without its sign. -/
def unsignedText : Decimal → Text
  | .finite _ coefficient exponent =>
    let digits := Text.ofNat coefficient
    let leading := (Scientific.mk coefficient exponent).leading
    let positional := exponent ≤ 0 ∧ positionalFrom ≤ leading
    let (whole, fraction) := Scientific.withPoint digits (if positional then leading + 1 else 1)
    whole ++ (if fraction.isEmpty then [] else '.' :: fraction)
      ++ (if positional then [] else exponentText leading)
  | .infinity _ => "Infinity".toList
  | .nan _ signaling diagnosis =>
    (if signaling then ['s'] else []) ++ nanName
      ++ (if diagnosis = 0 then [] else Text.ofNat diagnosis)

/-- The number, with a sign when it is negative. -/
def text (d : Decimal) : Text :=
  if d.isNegative then '-' :: unsignedText d else unsignedText d

/-! ## Signals -/

/-- What decimal arithmetic raises where it has no result. -/
inductive Signal where
  /-- The operation is refused. -/
  | invalid
  | overflow
  deriving DecidableEq, Repr

def Signal.message : Signal → Text
  | .invalid => "[<class 'decimal.InvalidOperation'>]".toList
  | .overflow => "[<class 'decimal.Overflow'>]".toList

/-- Whether the number equals zero. -/
def equalsZero (d : Decimal) : Except Signal Bool :=
  if d.isSignaling then .error .invalid else .ok d.isZero

/-- The number of digits that a sum is rounded to. -/
def precision : Nat := 28

/-- The greatest power of ten of the leading digit of a sum. -/
def greatestLeading : Nat := 999999

/-- The least number that is rounded to a greater one than any sum can be, times a power of ten: it
has one digit more than a sum, all of them nines but the last, which is a five. -/
def overflowBound (scale : Nat) : Nat :=
  (Nat.pow 10 (precision + 1) - 5) * Nat.pow 10 (greatestLeading - precision + scale)

/-- The sum with one is too great. Only where the leading digit stands at the greatest power can the
other digits matter, so otherwise nothing is added up. -/
def exceedsBeforeSuccessor (negative : Bool) (coefficient : Nat) (exponent : Int) : Bool :=
  let leading := (Scientific.mk coefficient exponent).leading
  if coefficient = 0 then false
  else if leading = greatestLeading then
    let one := Power.denominator 10 exponent
    let number := Scientific.signed negative (coefficient * Power.numerator 10 exponent)
    overflowBound (-exponent).toNat ≤ (number + one).natAbs
  else greatestLeading < leading

/-- The signal that adding one raises, if it does. -/
def successorSignal? : Decimal → Option Signal
  | .nan _ true _ => some .invalid
  | .finite negative coefficient exponent =>
    if exceedsBeforeSuccessor negative coefficient exponent then some .overflow else none
  | _ => none

end Decimal

end TextTemplate
