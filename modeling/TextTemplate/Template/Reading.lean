import TextTemplate.Log
import TextTemplate.Template.Scan
import TextTemplate.Text.Search
/-!
# Strict and lenient reading

A literal that contains two opening braces has a stray opening: a placeholder that is never closed.
Reading goes through the literals from the left and looks for the first stray opening of each. A
strict reader stops there; a lenient one notes the place and keeps the braces as text.
-/

namespace TextTemplate

/-- What a reader does at a stray opening. -/
inductive Strictness where
  | strict
  /-- Note the place and keep the braces as text. -/
  | lenient
  deriving DecidableEq, Repr

namespace Strictness

def ofBool (strict : Bool) : Strictness := if strict then .strict else .lenient

end Strictness

namespace Token

/-- The place of the first stray opening inside a token. -/
def strayOffset? : Token → Option Nat
  | .literal text => (Search.cut? opening text).map fun (before, _) ↦ before.length
  | .placeholder _ _ => none

end Token

namespace Template

/-- Looks for stray openings in tokens that stand at an offset of the template. -/
def check (strictness : Strictness) (name : Option Text) (template : Text) (offset : Nat) :
    List Token → Logged (Except TemplateFailure Unit)
  | [] => .quiet (.ok ())
  | token :: rest =>
    let further := check strictness name template (offset + token.source.length) rest
    match token.strayOffset? with
    | none => further
    | some inside =>
      let position := Position.ofOffset template (offset + inside)
      match strictness with
      | .strict => .quiet (.error (.unclosedAt position name))
      | .lenient => further.after [.strayKept name position]

/-- The tokens of the template, unless it is read strictly and has a stray opening. -/
def read (strictness : Strictness) (name : Option Text) (template : Text) :
    Logged (Except TemplateFailure (List Token)) :=
  let tokens := tokens template
  (check strictness name template 0 tokens).map fun checked ↦ checked.map fun _ ↦ tokens

end Template

end TextTemplate
