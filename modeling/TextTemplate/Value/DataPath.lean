import TextTemplate.Value.Basic
/-!
# Data paths

A placeholder names its value by a path. A dotted path is one or more identifiers with dots between
them; an identifier has ASCII letters, digits, `_` and `$`, and no digit in front. Every other
expression is a path of one segment, itself.

A path is followed from a value segment by segment. A dictionary is asked for the key, and an object
for the attribute, as long as its name does not start with an underscore and its value cannot be
called. Whether the object itself can be called makes no difference. No other value has anything
below it, and neither has an empty one. A value that refuses to say whether it is empty ends the way
with its signal.
-/

namespace TextTemplate

namespace DataPath

/-! ## The grammar of dotted paths -/

/-- The character may start an identifier. -/
def isIdentifierStart (c : Char) : Bool := c.isAlpha || c = '_' || c = '$'

def isIdentifierPart (c : Char) : Bool := isIdentifierStart c || c.isDigit

mutual

/-- The text is an identifier, followed by a dot and an identifier any number of times. -/
def isDotted : Text → Bool
  | [] => false
  | c :: rest => isIdentifierStart c && isDottedTail rest

/-- The text goes on from inside an identifier as a dotted path does. -/
def isDottedTail : Text → Bool
  | [] => true
  | c :: rest => if c = '.' then isDotted rest else isIdentifierPart c && isDottedTail rest

end

def segments (expression : Text) : List Text :=
  if isDotted expression then Text.pieces '.' expression else [expression]

/-! ## Following a path -/

/-- The value at a text key of a dictionary. -/
def entryAt (key : Text) : List (Value × Value) → Value
  | [] => .missing
  | (.text k, value) :: entries => if k = key then value else entryAt key entries
  | _ :: entries => entryAt key entries

def attributeAt (name : Text) : List (Text × Value) → Value
  | [] => .missing
  | (n, value) :: attributes => if n = name then value else attributeAt name attributes

/-- An attribute of this name is for templates to see. -/
def isPublic (name : Text) : Bool := name.head? ≠ some '_'

/-- The value one segment below a value. -/
def child (value : Value) (segment : Text) : Value :=
  match value with
  | .dict entries => entryAt segment entries
  | .object _ _ attributes =>
    if isPublic segment then
      let found := attributeAt segment attributes
      if found.isCallable then .missing else found
    else .missing
  | _ => .missing

@[simp] theorem child_dict (entries : List (Value × Value)) (segment : Text) :
    child (.dict entries) segment = entryAt segment entries := rfl

@[simp] theorem child_text (characters segment : Text) :
    child (.text characters) segment = .missing := rfl

/-- The value that the segments lead to. -/
def follow (value : Value) : List Text → Except Decimal.Signal Value
  | [] => .ok value
  | segment :: rest =>
    match value.isEmpty with
    | .ok true => .ok .missing
    | .ok false => follow (child value segment) rest
    | .error signal => .error signal

@[simp] theorem follow_nil (value : Value) : follow value [] = .ok value := rfl

/-- There is nothing below an empty value. -/
theorem follow_cons_of_isEmpty {value : Value} (h : value.isEmpty = .ok true) (segment : Text)
    (rest : List Text) : follow value (segment :: rest) = .ok .missing := by
  simp [follow, h]

theorem follow_cons {value : Value} (h : value.isEmpty = .ok false) (segment : Text)
    (rest : List Text) : follow value (segment :: rest) = follow (child value segment) rest := by
  simp [follow, h]

end DataPath

end TextTemplate
