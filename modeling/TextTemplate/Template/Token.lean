import TextTemplate.Text.Blank
/-!
# Tokens

A template is a list of tokens: literal text, which is copied, and placeholders, which are filled.
A placeholder remembers what stands between its delimiters as it was written, blanks included, and
beside it the expression that this comes down to. So the source of a token list is the concatenation
of the sources of its tokens, and nothing of a template is lost by taking it apart.
-/

namespace TextTemplate

inductive Token where
  | literal (text : Text)
  /-- A place for a value: the expression that names it, and the text between the delimiters. -/
  | placeholder (expression raw : Text)
  deriving DecidableEq, Repr

namespace Token

def opening : Text := ['{', '{']

def closing : Text := ['}', '}']

/-- The placeholder with this text between its delimiters. -/
def ofRaw (raw : Text) : Token := .placeholder (Text.trim raw) raw

def source : Token → Text
  | .literal text => text
  | .placeholder _ raw => opening ++ raw ++ closing

/-- The text that the tokens are written as, one after the other. -/
def sourceOf (tokens : List Token) : Text := tokens.flatMap source

@[simp] theorem source_ofRaw (raw : Text) : (ofRaw raw).source = opening ++ raw ++ closing := rfl

@[simp] theorem sourceOf_nil : sourceOf [] = [] := rfl

@[simp] theorem sourceOf_cons (token : Token) (tokens : List Token) :
    sourceOf (token :: tokens) = token.source ++ sourceOf tokens := rfl

theorem sourceOf_append (tokens more : List Token) :
    sourceOf (tokens ++ more) = sourceOf tokens ++ sourceOf more := List.flatMap_append

end Token

end TextTemplate
