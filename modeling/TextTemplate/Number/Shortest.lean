import TextTemplate.Number.Binary64
/-!
# The shortest digits of a binary number

A binary number is printed with the fewest decimal digits that still denote it: the decimal must
lie among the reals that round to the number. Those reals form an interval that ends halfway to the
two neighbours, ends included exactly when the mantissa is even. Below a power of two the
neighbours are half as far apart, so there the lower end is nearer.

Grids of decimals are tried from coarse to fine. If any point of a grid lies in the interval, then
so does one of the two points next to the number, so looking at these two is enough; of two hits the
nearer one is taken, and on a tie the even one.
-/

namespace TextTemplate

namespace Binary64

/-- Compares `a · 10 ^ i` with `b · 2 ^ j`. -/
def compareScaled (a : Nat) (i : Int) (b : Nat) (j : Int) : Ordering :=
  compare (a * Power.numerator 10 i * Power.denominator 2 j)
    (b * Power.numerator 2 j * Power.denominator 10 i)

/-- The decimal lies among the reals that round to `mantissa · 2 ^ exponent`. -/
def denotedBy (mantissa : Nat) (exponent : Int) (s : Scientific) : Bool :=
  let lowerGap := if mantissa = leastFull ∧ leastExponent < exponent then 1 else 2
  let toLower := compareScaled s.digits s.exponent (4 * mantissa - lowerGap) (exponent - 2)
  let toUpper := compareScaled s.digits s.exponent (4 * mantissa + 2) (exponent - 2)
  let included := mantissa % 2 = 0
  (toLower = .gt || (included && toLower = .eq)) &&
    (toUpper = .lt || (included && toUpper = .eq))

/-- The least power of ten above `mantissa · 2 ^ exponent`, which is positive. The binary logarithm
gives it up to two places. -/
def decimalScale (mantissa : Nat) (exponent : Int) : Int :=
  let estimate := ((mantissa.log2 : Int) + exponent) * 30103 / 100000 - 1
  let above (k : Int) : Bool := compareScaled 1 k mantissa exponent = .gt
  if above estimate then estimate
  else if above (estimate + 1) then estimate + 1
  else if above (estimate + 2) then estimate + 2
  else estimate + 3

/-- The number of whole steps `10 ^ k` in `mantissa · 2 ^ exponent`. -/
def stepsBelow (mantissa : Nat) (exponent k : Int) : Nat :=
  (mantissa * Power.numerator 2 exponent * Power.denominator 10 k)
    / (Power.denominator 2 exponent * Power.numerator 10 k)

/-- The point of the grid with steps `10 ^ k` that denotes the number, if there is one. -/
def onGrid? (mantissa : Nat) (exponent k : Int) : Option Scientific :=
  let low : Scientific := ⟨stepsBelow mantissa exponent k, k⟩
  let high : Scientific := ⟨low.digits + 1, k⟩
  match denotedBy mantissa exponent low, denotedBy mantissa exponent high with
  | false, false => none
  | true, false => some low
  | false, true => some high
  | true, true =>
    match compareScaled (2 * low.digits + 1) k (2 * mantissa) exponent with
    | .gt => some low
    | .lt => some high
    | .eq => some (if low.digits % 2 = 0 then low else high)

def allDigits (mantissa : Nat) (exponent : Int) : Scientific :=
  if 0 ≤ exponent then ⟨mantissa * Power.numerator 2 exponent, 0⟩
  else ⟨mantissa * Power.denominator 5 exponent, exponent⟩

/-- The fewest digits that denote the number `mantissa · 2 ^ exponent`. Seventeen are always
enough; should they not be, all digits are given. -/
def shortest (mantissa : Nat) (exponent : Int) : Scientific :=
  if mantissa = 0 then ⟨0, 0⟩
  else
    let scale := decimalScale mantissa exponent
    let found := (List.range 17).findSome? fun n ↦ onGrid? mantissa exponent (scale - (n + 1 : Nat))
    (found.getD (allDigits mantissa exponent)).stripped

/-! ## Layout -/

/-- How a number is laid out. -/
structure Layout where
  /-- From this power of ten of the leading digit on there is no exponent, -/
  positionalFrom : Int := -4
  /-- and below this one. -/
  positionalBelow : Int := 16
  /-- The least number of digits of an exponent. -/
  exponentWidth : Nat := 2
  /-- What follows the digits of a whole number without an exponent. -/
  wholeEnd : Text

/-- Numbers standing alone: a whole number keeps a point and a zero. -/
def Layout.alone : Layout where
  wholeEnd := ['.', '0']

/-- The two parts of a complex number: a whole part has no point. -/
def Layout.part : Layout where
  wholeEnd := []

/-- A whole part and a fractional part around a point that is left out with the latter. -/
def aroundPoint (parts : Text × Text) (wholeEnd : Text) : Text :=
  if parts.2.isEmpty then parts.1 ++ wholeEnd else parts.1 ++ '.' :: parts.2

/-- The digits laid out. -/
def Layout.apply (layout : Layout) (s : Scientific) : Text :=
  let digits := Text.ofNat s.digits
  let leading := s.leading
  if layout.positionalFrom ≤ leading ∧ leading < layout.positionalBelow then
    aroundPoint (Scientific.withPoint digits (leading + 1)) layout.wholeEnd
  else
    aroundPoint (Scientific.withPoint digits 1) []
      ++ 'e' :: (if leading < 0 then '-' else '+')
      :: Text.padded layout.exponentWidth (Text.ofNat leading.natAbs)

def unsignedText (layout : Layout) : Binary64 → Text
  | .finite _ mantissa exponent => layout.apply (shortest mantissa exponent)
  | .infinity _ => "inf".toList
  | .nan => "nan".toList

def text (layout : Layout) (x : Binary64) : Text :=
  if x.isNegative then '-' :: unsignedText layout x else unsignedText layout x

/-- The number, always with a sign. -/
def signedText (layout : Layout) (x : Binary64) : Text :=
  (if x.isNegative then '-' else '+') :: unsignedText layout x

end Binary64

end TextTemplate
