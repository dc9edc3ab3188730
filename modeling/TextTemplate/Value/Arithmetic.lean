import TextTemplate.Number.LeadingInteger
import TextTemplate.Value.Operand
/-!
# Integers from values

Three ways from a value to integers: the greatest integer not above a number, the integer that a
text starts with, and counting up to an integer.
-/

namespace TextTemplate

namespace Value

/-- The greatest integer not above `± digits · base ^ exponent`, for a base of at least two. Zero is
zero whatever the exponent. When the digits take fewer binary places than the exponent takes away,
the number lies between zero and one or minus one. In neither case is the power worked out. -/
def floorScaled (base : Nat) (negative : Bool) (digits : Nat) (exponent : Int) : Int :=
  if digits = 0 then 0
  else if digits.log2 < -exponent then if negative then -1 else 0
  else
    Int.fdiv (Scientific.signed negative (digits * Power.numerator base exponent))
      (Power.denominator base exponent)

def floorOfBinary : Binary64 → Except OperandFailure Int
  | .finite negative mantissa exponent => .ok (floorScaled 2 negative mantissa exponent)
  | .infinity _ => .error (.infinite .binary)
  | .nan => .error (.notANumber .binary)

def floorOfDecimal : Decimal → Except OperandFailure Int
  | .finite negative coefficient exponent => .ok (floorScaled 10 negative coefficient exponent)
  | .infinity _ => .error (.infinite .decimal)
  | .nan _ _ _ => .error (.notANumber .decimal)

/-- The greatest integer not above a number. Complex numbers and values that are no numbers have
none. -/
def floor : Value → Except OperandFailure Int
  | .bool b => .ok (if b then 1 else 0)
  | .int n => .ok n
  | .float _ x => floorOfBinary x
  | .decimal _ d => floorOfDecimal d
  | .fraction q => .ok q.floor
  | _ => .error .unsuited

/-- The integer that a text starts with, if there is one. -/
def leadingInteger : Value → Except OperandFailure (Option Int)
  | .text characters =>
    match LeadingInteger.ofText characters with
    | .absent => .ok Option.none
    | .integer n => .ok (some n)
    | .tooLong digits => .error (.tooManyDigits digits)
  | _ => .error .unsuited

/-! ## Counting -/

inductive Counted (ε : Type) where
  | finished
  | stopped (failure : ε)
  /-- There was nothing to count to. -/
  | unsuited

/-- Takes the step for `start` and the numbers after it, `count` of them, as long as it does not
fail. -/
def countFrom {σ ε : Type} (step : Nat → σ → σ × Except ε Unit) (start : Nat) :
    Nat → σ → σ × Counted ε
  | 0, state => (state, .finished)
  | count + 1, state =>
    match step start state with
    | (state, .ok ()) => countFrom step (start + 1) count state
    | (state, .error failure) => (state, .stopped failure)

/-- Takes the step for the numbers from zero up to a value, which is left out. There are none up to
zero or a negative number. -/
def times {σ ε : Type} (count : Value) (step : Nat → σ → σ × Except ε Unit) (state : σ) :
    σ × Counted ε :=
  match count.index? with
  | some n => countFrom step 0 n.toNat state
  | Option.none => (state, .unsuited)

end Value

end TextTemplate
