import TextTemplate.Text.Position
/-!
# Failures of templates

A template fails to render for one of three reasons: there is none at its path, what is there cannot
be read, or it opens a placeholder that it never closes. A path without a value is no failure.
-/

namespace TextTemplate

/-- The name that a template goes by in messages; one without a name, or with an empty one, is
called by what it is. -/
def shownName : Option Text → Text
  | none | some [] => "<template>".toList
  | some name => name

/-- Why a template cannot be rendered. -/
inductive TemplateFailure where
  | notFound (path : Text)
  | unreadable (path reason : Text)
  /-- A placeholder is opened at this line and column of the named template and never closed. -/
  | unclosed (line column : Int) (name : Option Text)
  | other (reason : Text)
  deriving DecidableEq, Repr

namespace TemplateFailure

/-- The failure for a stray opening at a position. -/
def unclosedAt (position : Position) (name : Option Text) : TemplateFailure :=
  .unclosed position.line position.column name

def message : TemplateFailure → Text
  | .notFound path => "Template not found: ".toList ++ path
  | .unreadable path reason =>
    "Could not read template: ".toList ++ path
      ++ (if reason.isEmpty then [] else " (".toList ++ reason ++ [')'])
  | .unclosed line column name =>
    shownName name ++ ':' :: Text.ofInt line ++ ':' :: Text.ofInt column
      ++ ": unterminated '\x7b\x7b'".toList
  | .other reason => reason

end TemplateFailure

end TextTemplate
