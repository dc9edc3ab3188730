import TextTemplate.Number.Binary64
import TextTemplate.Number.Decimal
/-!
# Exact values of numbers

Numbers of different kinds are compared by their exact values. Integers, binary and decimal
numbers and fractions all denote a rational number, an infinity or nothing; a complex number
denotes a pair of those. Two numbers are equal when they denote the same, and a number with a part
that denotes nothing is equal to none, not even to itself.

A decimal number may have an exponent so great that its value has no room for its digits. So a
rational number is kept as a power of two, a power of five and a quotient that has neither in it.
Every rational number but zero has exactly one such form, and zero has one by choice; two numbers
are equal when their forms are the same, and no power is ever worked out.
-/

namespace TextTemplate

/-- The number `2 ^ twos · 5 ^ fives · numerator / denominator`. -/
structure Factored where
  /-- The exponent of two. -/
  twos : Int
  /-- The exponent of five. -/
  fives : Int
  /-- The numerator, which neither two nor five divides unless it is zero. -/
  numerator : Int
  /-- The denominator, which neither two nor five divides and which is in lowest terms. -/
  denominator : Nat
  deriving DecidableEq, Repr

namespace Factored

/-- Takes a factor out of a number up to so many times: how often that went, and what is left. -/
def takeOut (factor : Nat) : Nat → Nat → Nat × Nat
  | 0, n => (0, n)
  | times + 1, n =>
    if n % factor = 0 then
      let (count, rest) := takeOut factor times (n / factor)
      (count + 1, rest)
    else (0, n)

/-- Takes a factor out of a positive number as often as it goes. It goes no more often than the
number has binary digits. -/
def takeOutAll (factor n : Nat) : Nat × Nat := takeOut factor (n.log2 + 1) n

def zero : Factored := ⟨0, 0, 0, 1⟩

/-- The number `2 ^ twos · 5 ^ fives · q`. -/
def scaled (twos fives : Int) (q : Rat) : Factored :=
  if q.num = 0 then zero
  else
    let (twosAbove, withFives) := takeOutAll 2 q.num.natAbs
    let (fivesAbove, numerator) := takeOutAll 5 withFives
    let (twosBelow, withFives) := takeOutAll 2 q.den
    let (fivesBelow, denominator) := takeOutAll 5 withFives
    ⟨twos + twosAbove - twosBelow, fives + fivesAbove - fivesBelow,
      Scientific.signed (q.num < 0) numerator, denominator⟩

def ofRat (q : Rat) : Factored := scaled 0 0 q

end Factored

/-- What a real number denotes. -/
inductive ExactReal where
  | rational (q : Factored)
  | infinity (negative : Bool)
  | none
  deriving DecidableEq

/-- What a number denotes: a real and an imaginary part. -/
structure ExactNumber where
  real : ExactReal
  imaginary : ExactReal
  deriving DecidableEq

namespace ExactReal

def ofRat (q : Rat) : ExactReal := .rational (.ofRat q)

def ofInt (n : Int) : ExactReal := ofRat n

def ofBinary : Binary64 → ExactReal
  | .finite negative mantissa exponent =>
    .rational (.scaled exponent 0 (Scientific.signed negative mantissa))
  | .infinity negative => .infinity negative
  | .nan => .none

def ofDecimal : Decimal → ExactReal
  | .finite negative coefficient exponent =>
    .rational (.scaled exponent exponent (Scientific.signed negative coefficient))
  | .infinity negative => .infinity negative
  | .nan _ _ _ => .none

end ExactReal

namespace ExactNumber

def ofReal (x : ExactReal) : ExactNumber := ⟨x, .rational .zero⟩

def isReal (a : ExactNumber) : Bool := a.imaginary = .rational .zero

/-- Both parts denote something. -/
def isNumber (a : ExactNumber) : Bool := a.real ≠ .none && a.imaginary ≠ .none

def equal (a b : ExactNumber) : Bool := a.isNumber && a = b

end ExactNumber

end TextTemplate
