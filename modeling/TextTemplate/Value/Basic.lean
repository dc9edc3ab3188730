import TextTemplate.Number.Exact
/-!
# Template data

Templates are filled from dynamic values. A value is a constant, a number of one of six kinds, a
text or byte string, a collection, an object with named attributes, or the mark that stands for a
path that led nowhere.

Objects are equal only to themselves, so they carry an identity. Numbers carry one, too, where they
may refuse to equal even themselves: a collection takes such a number for the same as itself and for
no other, however alike. Other values are the same exactly when they are equal, and need none.

What an object looks like is its own affair: it says what it is shown and written as, or fails to.
-/

namespace TextTemplate

/-- Why a value is not shown. -/
inductive ShowFailure where
  | signal (signal : Decimal.Signal)
  /-- An integer has more digits than are written. -/
  | tooManyDigits
  /-- An object does not say what it looks like, for a reason of its own. -/
  | untold (reason : Text)
  deriving DecidableEq, Repr

def ShowFailure.message : ShowFailure → Text
  | .signal raised => raised.message
  | .tooManyDigits =>
    ("Exceeds the limit (4300 digits) for integer string conversion; ".toList
      ++ "use sys.set_int_max_str_digits() to increase the limit".toList)
  | .untold reason => reason

/-- What an object says of itself. -/
structure Traits where
  typeName : Text
  isCallable : Bool
  /-- What it is shown as by itself. -/
  shown : Except ShowFailure Text
  /-- What it is written as inside a collection. -/
  written : Except ShowFailure Text

/-- A value that template data may hold. -/
inductive Value where
  /-- The absent value. -/
  | none
  | bool (b : Bool)
  | int (n : Int)
  /-- A binary floating-point number. -/
  | float (identity : Nat) (x : Binary64)
  | decimal (identity : Nat) (d : Decimal)
  /-- A fraction in lowest terms. -/
  | fraction (q : Rat)
  | complex (identity : Nat) (real imaginary : Binary64)
  /-- A number of a type of its own that refuses every comparison. -/
  | odd (identity : Nat) (traits : Traits)
  | text (characters : Text)
  | bytes (content : List UInt8)
  | list (items : List Value)
  | tuple (items : List Value)
  /-- A dictionary: keys and values in order of arrival. -/
  | dict (entries : List (Value × Value))
  /-- An object of any other type, with its attributes in order. -/
  | object (identity : Nat) (traits : Traits) (attributes : List (Text × Value))
  /-- The mark of a path that led nowhere. -/
  | missing
  deriving Inhabited

namespace Value

/-- What a number denotes; nothing for a value that is no number or has no digits. -/
def number? : Value → Option ExactNumber
  | .bool b => some (.ofReal (.ofInt (if b then 1 else 0)))
  | .int n => some (.ofReal (.ofInt n))
  | .float _ x => some (.ofReal (.ofBinary x))
  | .decimal _ d => some (.ofReal (.ofDecimal d))
  | .fraction q => some (.ofReal (.ofRat q))
  | .complex _ x y => some ⟨.ofBinary x, .ofBinary y⟩
  | _ => Option.none

/-- The value refuses to be compared with anything. -/
def isOdd : Value → Bool
  | .odd _ _ => true
  | _ => false

/-- The value refuses to be compared with real numbers. -/
def isSignaling : Value → Bool
  | .decimal _ d => d.isSignaling
  | _ => false

def isCallable : Value → Bool
  | .odd _ traits | .object _ traits _ => traits.isCallable
  | _ => false

/-- The integer that a truth value or an integer counts as. -/
def index? : Value → Option Int
  | .bool b => some (if b then 1 else 0)
  | .int n => some n
  | _ => Option.none

/-- Values that a template shows as nothing, and below which a path finds nothing: the missing and
the absent value, falsehood, the empty text, zeros of every kind, and the float that is not a
number. Numbers are compared with zero, which a signaling decimal number refuses. -/
def isEmpty : Value → Except Decimal.Signal Bool
  | .missing | .none => .ok true
  | .bool b => .ok !b
  | .text characters => .ok characters.isEmpty
  | .int n => .ok (n = 0)
  | .float _ x => .ok (x.isZero || x = .nan)
  | .decimal _ d => d.equalsZero
  | .fraction q => .ok (q = 0)
  | .complex _ x y => .ok (x.isZero && y.isZero)
  | _ => .ok false

/-- The value counts as a yes where one is asked for: everything does but the absent and the missing
value, falsehood, zeros, and texts, byte strings and collections without anything in them. -/
def isTruthy : Value → Bool
  | .missing | .none => false
  | .bool b => b
  | .int n => n ≠ 0
  | .float _ x => !x.isZero
  | .decimal _ d => !d.isZero
  | .fraction q => q ≠ 0
  | .complex _ x y => !(x.isZero && y.isZero)
  | .text characters => !characters.isEmpty
  | .bytes content => !content.isEmpty
  | .list items | .tuple items => !items.isEmpty
  | .dict entries => !entries.isEmpty
  | .odd _ _ | .object _ _ _ => true

def typeName : Value → Text
  | .none => "NoneType".toList
  | .bool _ => "bool".toList
  | .int _ => "int".toList
  | .float _ _ => "float".toList
  | .decimal _ _ => "Decimal".toList
  | .fraction _ => "Fraction".toList
  | .complex _ _ _ => "complex".toList
  | .odd _ traits | .object _ traits _ => traits.typeName
  | .text _ => "str".toList
  | .bytes _ => "bytes".toList
  | .list _ => "list".toList
  | .tuple _ => "tuple".toList
  | .dict _ => "dict".toList
  | .missing => "_Missing".toList

end Value

end TextTemplate
