import TextTemplate.Value.Basic
/-!
# Operands

The operations on values are made for some kinds of operands. Where an operation has no result, this
is why; a failure that is only a matter of kinds has no words of its own.
-/

namespace TextTemplate

inductive Radix where
  | binary
  | decimal
  deriving DecidableEq, Repr

/-- Why an operation has no result. -/
inductive OperandFailure where
  /-- An operand is not of a kind that the operation is made for. -/
  | unsuited
  | unsearchable
  /-- A number that denotes nothing has no integer below it. -/
  | notANumber (radix : Radix)
  | infinite (radix : Radix)
  /-- A numeral has this many digits, which is more than are read. -/
  | tooManyDigits (count : Nat)
  | notAByte
  | signal (signal : Decimal.Signal)
  deriving DecidableEq, Repr

namespace OperandFailure

def radixName : Radix → Text
  | .binary => "float ".toList
  | .decimal => []

def message? : OperandFailure → Option Text
  | .unsuited | .unsearchable => none
  | .notANumber radix =>
    some ("cannot convert ".toList ++ radixName radix ++ "NaN to integer".toList)
  | .infinite .binary => some "cannot convert float infinity to integer".toList
  | .infinite .decimal => some "cannot convert Infinity to integer".toList
  | .tooManyDigits count =>
    some ("Exceeds the limit (4300 digits) for integer string conversion: value has ".toList
      ++ Text.ofNat count
      ++ " digits; use sys.set_int_max_str_digits() to increase the limit".toList)
  | .notAByte => some "byte must be in range(0, 256)".toList
  | .signal raised => some raised.message

end OperandFailure

end TextTemplate
