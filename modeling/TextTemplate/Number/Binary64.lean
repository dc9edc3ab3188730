import TextTemplate.Number.Power
import TextTemplate.Number.Scientific
/-!
# Binary floating-point numbers

A binary64 number is a signed multiple `mantissa · 2 ^ exponent` of a power of two, an infinity, or
not a number. Keeping mantissa and exponent as exact integers makes reading, printing and comparing
questions of integer arithmetic: no step of them rounds, except the one that reading is about.

Numbers that come from `nearest` are in normal form: the mantissa has 53 binary digits, or fewer at
the least exponent `-1074`.
-/

namespace TextTemplate

/-- A binary64 number. Zero has a sign, and there is one not-a-number. -/
inductive Binary64 where
  /-- The number `± mantissa · 2 ^ exponent`. -/
  | finite (negative : Bool) (mantissa : Nat) (exponent : Int)
  | infinity (negative : Bool)
  /-- The result of an operation that has none. -/
  | nan
  deriving DecidableEq, Repr

namespace Binary64

/-! ## Reading: the nearest number -/

/-- The quotient rounded to the nearest integer; a half goes to the even neighbour. -/
def roundedQuotient (numerator denominator : Nat) : Nat :=
  let quotient := numerator / denominator
  let rest := numerator % denominator
  if 2 * rest < denominator then quotient
  else if denominator < 2 * rest then quotient + 1
  else if quotient % 2 = 0 then quotient else quotient + 1

/-- Mantissas have at most 53 binary digits, so this is the least number that is none. -/
def mantissaLimit : Nat := Nat.pow 2 53

/-- The least mantissa of 53 binary digits. -/
def leastFull : Nat := Nat.pow 2 52

def leastExponent : Int := -1074

/-- The greatest exponent at which a mantissa of 53 digits is in range. -/
def greatestExponent : Int := 971

/-- The quotient as a fraction over `2 ^ exponent`: its numerator and denominator. -/
def overPower (numerator denominator : Nat) (exponent : Int) : Nat × Nat :=
  (numerator * Power.denominator 2 exponent, denominator * Power.numerator 2 exponent)

/-- The exponent at which the quotient has a mantissa of 53 digits before the point. -/
def normalExponent (numerator denominator : Nat) : Int :=
  let guess : Int := (numerator.log2 : Int) - denominator.log2 - 52
  let (n, d) := overPower numerator denominator guess
  if n < d * leastFull then guess - 1 else guess

/-- The number nearest to a quotient. Of two equally near ones the even one is taken, and beyond
the greatest finite number the infinity. -/
def nearest (negative : Bool) (numerator denominator : Nat) : Binary64 :=
  if numerator = 0 then .finite negative 0 leastExponent
  else
    let exponent := max leastExponent (normalExponent numerator denominator)
    let (n, d) := overPower numerator denominator exponent
    let mantissa := roundedQuotient n d
    -- rounding up may carry into a 54th digit, which is then the only one
    let (mantissa, exponent) :=
      if mantissa = mantissaLimit then (leastFull, exponent + 1) else (mantissa, exponent)
    if greatestExponent < exponent then .infinity negative
    else .finite negative mantissa exponent

/-- Numerals whose leading digit stands at this power of ten or above exceed every finite number,
and those below its negative are nearer to zero than to the least positive number. -/
def scaleBound : Int := 400

/-- The number nearest to a decimal numeral. -/
def ofNumeral (numeral : Scientific.Numeral) : Binary64 :=
  let ⟨digits, exponent⟩ := numeral.magnitude
  if digits = 0 then .finite numeral.negative 0 leastExponent
  else if scaleBound < numeral.magnitude.leading then .infinity numeral.negative
  else if numeral.magnitude.leading < -scaleBound then .finite numeral.negative 0 leastExponent
  else
    nearest numeral.negative (digits * Power.numerator 10 exponent)
      (Power.denominator 10 exponent)

/-- Reads a numeral, or the name of an infinity or of not-a-number. -/
def ofText? (text : Text) : Option Binary64 :=
  let (negative, unsigned) := Scientific.signOf text
  if unsigned = "inf".toList then some (.infinity negative)
  else if unsigned = "nan".toList then some .nan
  else (Scientific.numeral? text).map ofNumeral

/-! ## Questions about a number -/

def isZero : Binary64 → Bool
  | .finite _ mantissa _ => mantissa = 0
  | _ => false

def isOne : Binary64 → Bool
  | .finite negative mantissa exponent =>
    !negative && mantissa * Power.numerator 2 exponent = Power.denominator 2 exponent
  | _ => false

def isNegative : Binary64 → Bool
  | .finite negative _ _ => negative
  | .infinity negative => negative
  | .nan => false

def isWhole : Binary64 → Bool
  | .finite _ mantissa exponent => mantissa % Power.denominator 2 exponent = 0
  | _ => false

/-- The number without its sign is below the limit. -/
def isBelow (limit : Nat) : Binary64 → Bool
  | .finite _ mantissa exponent =>
    mantissa * Power.numerator 2 exponent < limit * Power.denominator 2 exponent
  | _ => false

end Binary64

end TextTemplate
