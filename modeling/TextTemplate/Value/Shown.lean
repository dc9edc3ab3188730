import TextTemplate.Value.Basic
import TextTemplate.Number.LeadingInteger
import TextTemplate.Number.Shortest
import TextTemplate.Text.Quoted
/-!
# The text of a value

A value is shown in one of two ways. In the output of a template it stands for itself: a text is its
characters, a number its digits. Inside a collection it is written so that it can be told apart from
its neighbours: texts and byte strings are quoted, decimals and fractions name their type. Most other
values look the same in both places. Objects and odd numbers say themselves what they look like.

An integer is only written with as many digits as would be read, so a value need not have a text:
one integer that is too long is enough, wherever in a collection or fraction it stands.
-/

namespace TextTemplate

namespace Value

/-! ## Numbers -/

/-- The numeral of an integer, unless it has too many digits. -/
def numeral (n : Int) : Except ShowFailure Text :=
  if LeadingInteger.digitLimit < (Text.ofNat n.natAbs).length then .error .tooManyDigits
  else .ok (Text.ofInt n)

/-- A complex number: both parts in brackets, or only the imaginary part when the real one is a
positive zero. -/
def complexText (x y : Binary64) : Text :=
  if x.isZero && !x.isNegative then y.text .part ++ ['j']
  else '(' :: (x.text .part ++ y.signedText .part ++ ['j', ')'])

/-- A fraction as a quotient, or as an integer when it is one. -/
def fractionText (q : Rat) : Except ShowFailure Text :=
  if q.den = 1 then numeral q.num
  else (numeral q.num).bind fun above ↦ (numeral q.den).map fun below ↦ above ++ '/' :: below

def comma : Text := [',', ' ']

/-- A fraction with the name of its type. -/
def namedFraction (q : Rat) : Except ShowFailure Text :=
  (numeral q.num).bind fun above ↦ (numeral q.den).map fun below ↦
    "Fraction(".toList ++ above ++ comma ++ below ++ [')']

/-! ## All values -/

def truthText (b : Bool) : Text := if b then "True".toList else "False".toList

def listText (items : List Text) : Text := '[' :: (Text.join comma items ++ [']'])

/-- The written items of a tuple. One alone has a comma after it. -/
def tupleText (items : List Text) : Text :=
  '(' :: (Text.join comma items ++ if items.length = 1 then [',', ')'] else [')'])

mutual

/-- The value as it is written inside a collection. -/
def written : Value → Except ShowFailure Text
  | .none => .ok "None".toList
  | .bool b => .ok (truthText b)
  | .int n => numeral n
  | .float _ x => .ok (x.text .alone)
  | .decimal _ d => .ok ("Decimal('".toList ++ d.text ++ "')".toList)
  | .fraction q => namedFraction q
  | .complex _ x y => .ok (complexText x y)
  | .text characters => .ok (Quoted.text characters)
  | .bytes content => .ok (Quoted.bytes content)
  | .list items => (writtenItems items).map listText
  | .tuple items => (writtenItems items).map tupleText
  | .dict entries =>
    (writtenEntries entries).map fun entries ↦ '{' :: (Text.join comma entries ++ ['}'])
  | .odd _ traits | .object _ traits _ => traits.written
  | .missing => .ok "MISSING".toList

/-- The items of a sequence. The first that has no text decides. -/
def writtenItems : List Value → Except ShowFailure (List Text)
  | [] => .ok []
  | item :: items => (written item).bind fun text ↦ (writtenItems items).map (text :: ·)

def writtenEntries : List (Value × Value) → Except ShowFailure (List Text)
  | [] => .ok []
  | (key, value) :: entries =>
    (written key).bind fun keyText ↦ (written value).bind fun text ↦
      (writtenEntries entries).map ((keyText ++ ':' :: ' ' :: text) :: ·)

end

/-- The value as it stands in the output. -/
def shown : Value → Except ShowFailure Text
  | .text characters => .ok characters
  | .decimal _ d => .ok d.text
  | .fraction q => fractionText q
  | .odd _ traits | .object _ traits _ => traits.shown
  | value => written value

/-- The text that a template puts in the place of the value: nothing for the empty ones. -/
def output (value : Value) : Except ShowFailure Text :=
  match value.isEmpty with
  | .ok true => .ok []
  | .ok false => value.shown
  | .error signal => .error (.signal signal)

end Value

end TextTemplate
