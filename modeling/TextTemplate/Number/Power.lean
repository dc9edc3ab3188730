/-!
# Powers with integer exponents

A power of a natural number with an integer exponent is a quotient of two natural numbers, one of
which is one: a positive exponent counts in the numerator, and a negative one in the denominator.
Comparing and dividing such powers is done on numerators and denominators, and so stays exact.
-/

namespace TextTemplate

namespace Power

/-- The numerator of `base ^ exponent`. -/
def numerator (base : Nat) (exponent : Int) : Nat := Nat.pow base exponent.toNat

/-- The denominator of `base ^ exponent`. -/
def denominator (base : Nat) (exponent : Int) : Nat := Nat.pow base (-exponent).toNat

end Power

end TextTemplate
