import TextTemplate.Template.Failure
/-!
# What is logged

Rendering leaves a trace of events. Each event knows the part of the library that it comes from, its
weight and its wording. A computation that logs returns its events, in order, beside its result.
-/

namespace TextTemplate

namespace Log

/-- The parts of the library that log. -/
inductive Origin where
  | template
  | engine
  | cache
  | source
  deriving DecidableEq, Repr

inductive Level where
  | debug
  | info
  | warning
  deriving DecidableEq, Repr

/-- Something that happened. -/
inductive Event where
  /-- A stray opening was kept as literal text. -/
  | strayKept (name : Option Text) (position : Position)
  /-- A template was taken apart into so many tokens. -/
  | tokenized (name : Option Text) (count : Nat)
  /-- A template was rendered into so many characters. -/
  | rendered (path : Text) (length : Nat)
  | cached (path : Text)
  /-- All compiled templates, so many of them, were dropped. -/
  | cleared (count : Nat)
  | invalidated (path : Text)
  /-- A file was not opened; this is the account that the system gives. -/
  | unopened (path account : Text)
  deriving DecidableEq, Repr

namespace Event

def origin : Event → Origin
  | .strayKept _ _ => .template
  | .tokenized _ _ | .rendered _ _ => .engine
  | .cached _ | .cleared _ | .invalidated _ => .cache
  | .unopened _ _ => .source

def level : Event → Level
  | .strayKept _ _ | .unopened _ _ => .warning
  | .cleared _ | .invalidated _ => .info
  | .tokenized _ _ | .rendered _ _ | .cached _ => .debug

/-- The name of a rendered template; one without a name is called nothing. -/
def renderedName : Option Text → Text
  | some name => name
  | none => "None".toList

def message : Event → Text
  | .strayKept name position =>
    "Unterminated '\x7b\x7b' in ".toList ++ shownName name ++ " at ".toList
      ++ Text.ofNat position.line ++ ':' :: Text.ofNat position.column
      ++ ", treating as text".toList
  | .tokenized name count =>
    "Tokenized ".toList ++ renderedName name ++ ": ".toList ++ Text.ofNat count ++ " tokens".toList
  | .rendered path length =>
    "Rendered ".toList ++ path ++ " (".toList ++ Text.ofNat length ++ " chars)".toList
  | .cached path => "Cached render step for ".toList ++ path
  | .cleared count => "Cleared ".toList ++ Text.ofNat count ++ " cached render steps".toList
  | .invalidated path => "Invalidated cached render step for ".toList ++ path
  | .unopened path account =>
    "Failed to read template ".toList ++ path ++ ": ".toList ++ account

end Event

end Log

/-- A result together with the events on the way to it. -/
structure Logged (α : Type) where
  events : List Log.Event
  result : α

namespace Logged

/-- A result without events. -/
def quiet {α : Type} (result : α) : Logged α := ⟨[], result⟩

def map {α β : Type} (f : α → β) (logged : Logged α) : Logged β :=
  ⟨logged.events, f logged.result⟩

/-- The result after earlier events. -/
def after {α : Type} (events : List Log.Event) (logged : Logged α) : Logged α :=
  ⟨events ++ logged.events, logged.result⟩

end Logged

end TextTemplate
