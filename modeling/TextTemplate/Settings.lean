import TextTemplate.Codec.Utf8
import TextTemplate.Text.Blank
import TextTemplate.Value.Shown
/-!
# Settings

An engine has four settings: the directory that its templates stand under, the encoding of their
files, whether an opening without an end is a failure, and whether compiled templates are kept.

Settings are made from values of any kind. A setting that is a text takes texts, and byte strings
that hold one. A setting that is a switch takes truth values, the numbers zero and one, and the
usual words for yes and no. Any other whole number of moderate size is a number without a meaning;
a greater one, or one that is not whole, is no number for a switch at all. All four settings are
looked at before any complaint is made, so the complaints come together, in the order of the
settings.
-/

namespace TextTemplate

/-- The settings of an engine. -/
structure Settings where
  /-- The directory that templates are looked for under. It ends in no slash, unless it is one. -/
  root : Text
  encoding : Text
  /-- An opening that is never closed is a failure. -/
  strict : Bool
  /-- Compiled templates are kept. -/
  cacheEnabled : Bool
  deriving DecidableEq, Repr

namespace Settings

/-! ## Complaints -/

inductive Field where
  | root
  | encoding
  | strict
  | cacheEnabled
  deriving DecidableEq, Repr

def Field.name : Field → Text
  | .root => "root".toList
  | .encoding => "encoding".toList
  | .strict => "strict".toList
  | .cacheEnabled => "cache_enabled".toList

/-- What may be wrong with the value of a setting. -/
inductive Complaint where
  | missing
  | notText
  | notUnicode
  /-- The value is of no kind that a switch takes. -/
  | notSwitch
  /-- The value is of a kind that a switch takes, but means neither yes nor no. -/
  | neitherYesNorNo
  | blankRoot
  deriving DecidableEq, Repr

namespace Complaint

def code : Complaint → Text
  | .missing => "missing".toList
  | .notText => "string_type".toList
  | .notUnicode => "string_unicode".toList
  | .notSwitch => "bool_type".toList
  | .neitherYesNorNo => "bool_parsing".toList
  | .blankRoot => "value_error".toList

def message : Complaint → Text
  | .missing => "Field required".toList
  | .notText => "Input should be a valid string".toList
  | .notUnicode =>
    "Input should be a valid string, unable to parse raw data as a unicode string".toList
  | .notSwitch => "Input should be a valid boolean".toList
  | .neitherYesNorNo => "Input should be a valid boolean, unable to interpret input".toList
  | .blankRoot => "Value error, root must not be empty".toList

end Complaint

structure Issue where
  field : Field
  complaint : Complaint
  deriving DecidableEq, Repr

/-! ## Reading single settings -/

/-- The text of a value that is a text or holds one. -/
def textOf : Value → Except Complaint Text
  | .text characters => .ok characters
  | .bytes content =>
    match Utf8.decode? content with
    | some characters => .ok characters
    | none => .error .notUnicode
  | _ => .error .notText

def noWords : List String := ["0", "off", "f", "false", "n", "no"]

def yesWords : List String := ["1", "on", "t", "true", "y", "yes"]

/-- The meaning of a word, in capitals or not. -/
def switchOfWord (word : Text) : Except Complaint Bool :=
  let lower := word.map Char.toLower
  if yesWords.any fun yes ↦ yes.toList = lower then .ok true
  else if noWords.any fun no ↦ no.toList = lower then .ok false
  else .error .neitherYesNorNo

/-- A switch takes integers of 64 bits with a sign, so this is the first one too large. -/
def integerLimit : Nat := Nat.pow 2 63

def switchOfInt (n : Int) : Except Complaint Bool :=
  if n = 0 then .ok false
  else if n = 1 then .ok true
  else if -(integerLimit : Int) ≤ n ∧ n < integerLimit then .error .neitherYesNorNo
  else .error .notSwitch

/-- The meaning of a binary number, which has to be a whole one and, either way from zero, below the
limit. -/
def switchOfBinary (x : Binary64) : Except Complaint Bool :=
  if x.isZero then .ok false
  else if x.isOne then .ok true
  else if x.isWhole && x.isBelow integerLimit then .error .neitherYesNorNo
  else .error .notSwitch

def binaryOfDecimal : Decimal → Binary64
  | .finite negative coefficient exponent => .ofNumeral ⟨negative, coefficient, exponent⟩
  | .infinity negative => .infinity negative
  | .nan _ _ _ => .nan

/-- The meaning of a value as a switch. Decimals and fractions mean what the nearest binary number
does. -/
def switchOf : Value → Except Complaint Bool
  | .bool b => .ok b
  | .int n => switchOfInt n
  | .float _ x => switchOfBinary x
  | .decimal _ d => switchOfBinary (binaryOfDecimal d)
  | .fraction q => switchOfBinary (.nearest (q < 0) q.num.natAbs q.den)
  | .text characters => switchOfWord characters
  | .bytes content =>
    match Utf8.decode? content with
    | some characters => switchOfWord characters
    | none => .error .neitherYesNorNo
  | _ => .error .notSwitch

/-- The directory of a name. Slashes at its end are dropped, except that a name of slashes alone is
the topmost directory. A name of blanks is none. -/
def normalRoot (name : Text) : Except Complaint Text :=
  if name.trim.isEmpty then .error .blankRoot
  else
    match Text.dropEndWhile (· = '/') name with
    | [] => .ok ['/']
    | root => .ok root

def rootOf (value : Value) : Except Complaint Text := (textOf value).bind normalRoot

/-! ## Reading settings -/

/-- The values that settings are made from. Where there is none, the setting has its usual value;
only the directory has no usual one. -/
structure Input where
  root : Option Value
  encoding : Option Value
  strict : Option Value
  cacheEnabled : Option Value

def usualEncoding : Text := "utf-8".toList

/-- The complaint that came out of reading a setting. -/
def issues {α : Type} (field : Field) : Except Complaint α → List Issue
  | .ok _ => []
  | .error complaint => [⟨field, complaint⟩]

/-- A setting read from its value, or the usual one. -/
def readOr {α : Type} (usual : α) (read : Value → Except Complaint α) :
    Option Value → Except Complaint α
  | some value => read value
  | none => .ok usual

/-- The settings that the values make, or all complaints about them. -/
def ofInput (input : Input) : Except (List Issue) Settings :=
  let root := match input.root with
    | some value => rootOf value
    | none => .error .missing
  let encoding := readOr usualEncoding textOf input.encoding
  let strict := readOr true switchOf input.strict
  let cacheEnabled := readOr false switchOf input.cacheEnabled
  match root, encoding, strict, cacheEnabled with
  | .ok root, .ok encoding, .ok strict, .ok cacheEnabled =>
    .ok ⟨root, encoding, strict, cacheEnabled⟩
  | _, _, _, _ =>
    .error (issues .root root ++ issues .encoding encoding ++ issues .strict strict
      ++ issues .cacheEnabled cacheEnabled)

/-- The last value that is assigned to a name. -/
def lastAssigned (field : Field) (assignments : List (Text × Value)) : Option Value :=
  assignments.reverse.lookup field.name

/-- The values out of a list of assignments to names. Names that are no settings do not matter. -/
def Input.ofAssignments (assignments : List (Text × Value)) : Input where
  root := lastAssigned .root assignments
  encoding := lastAssigned .encoding assignments
  strict := lastAssigned .strict assignments
  cacheEnabled := lastAssigned .cacheEnabled assignments

/-- The values that settings consist of. -/
def toInput (settings : Settings) : Input where
  root := some (.text settings.root)
  encoding := some (.text settings.encoding)
  strict := some (.bool settings.strict)
  cacheEnabled := some (.bool settings.cacheEnabled)

def summary (settings : Settings) : Text :=
  "EngineSettings(root=".toList ++ Quoted.text settings.root
    ++ ", encoding=".toList ++ Quoted.text settings.encoding
    ++ ", strict=".toList ++ Value.truthText settings.strict
    ++ ", cache_enabled=".toList ++ Value.truthText settings.cacheEnabled ++ [')']

end Settings

end TextTemplate
