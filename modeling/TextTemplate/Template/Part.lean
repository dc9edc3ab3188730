import TextTemplate.Template.Plan
/-!
# Parts that may not be tokens

A plan can be asked for with parts that are any values. It is made only if all of them are tokens;
the first one that is not decides the complaint, which names its type.

Parts can be written one after the other as long as each says what it is written as. A token does,
and so does an object with an attribute for it; what it says has to be a text.
-/

namespace TextTemplate

inductive Part where
  | token (token : Token)
  | stranger (value : Value)

namespace Part

/-- The tokens that the parts are, or the first value that is none. -/
def tokensOf : List Part → Except Value (List Token)
  | [] => .ok []
  | .token known :: rest => (tokensOf rest).map (known :: ·)
  | .stranger value :: _ => .error value

/-- The plan that the parts call for, or the first value that is no token. -/
def planOf (parts : List Part) : Except Value Plan := (tokensOf parts).map Plan.ofTokens

/-- How a value that is no token is reported. -/
def strangerMessage (value : Value) : Text := "Unknown token type: ".toList ++ value.typeName

/-! ## Writing parts -/

/-- Why parts cannot be written one after the other. -/
inductive WritingFailure where
  /-- A part does not say what it is written as. -/
  | withoutSource
  /-- What a part says it is written as is no text. -/
  | sourceNotText
  deriving DecidableEq, Repr

/-- The attribute in which an object says what it is written as. -/
def sourceAttribute : Text := "source".toList

/-- What the part says it is written as. -/
def source? : Part → Option Value
  | .token known => some (.text known.source)
  | .stranger (.object _ _ attributes) => attributes.lookup sourceAttribute
  | .stranger _ => none

def textsOf : List Value → Except WritingFailure (List Text)
  | [] => .ok []
  | .text characters :: rest => (textsOf rest).map (characters :: ·)
  | _ :: _ => .error .sourceNotText

/-- The texts that the parts are written as. All parts are asked before any answer is looked at. -/
def sourcesOf (parts : List Part) : Except WritingFailure (List Text) :=
  match parts.mapM source? with
  | some values => textsOf values
  | none => .error .withoutSource

end Part

end TextTemplate
