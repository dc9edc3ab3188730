import TextTemplate.Text.Basic
/-!
# Locations of files

A location is written as names with slashes between them. Empty names and single dots say nothing,
so `a//b/./c/` is `a/b/c`. A location that starts with a slash is absolute; one that starts with
exactly two keeps both in its normal form, although they mean the same. Two dots are a name like
any other here: what they lead to depends on the directories.
-/

namespace TextTemplate

/-- A location in normal form. -/
structure Location where
  /-- Nothing for a relative location, or one or two slashes. -/
  root : Text
  /-- The names to descend through. -/
  names : List Text
  deriving DecidableEq, Repr

namespace Location

/-- The name that stands for the directory above. -/
def above : Text := ['.', '.']

/-- The names in a text: the pieces between slashes that say something. -/
def namesOf (text : Text) : List Text :=
  (Text.pieces '/' text).filter fun piece ↦ piece ≠ [] && piece ≠ ['.']

/-- The slashes at the start that belong to a normal form. -/
def rootOf (text : Text) : Text :=
  match (text.takeWhile (· = '/')).length with
  | 0 => []
  | 2 => ['/', '/']
  | _ => ['/']

/-- The location that a text denotes. -/
def ofText (text : Text) : Location := ⟨rootOf text, namesOf text⟩

/-- The location does not depend on the working directory. -/
def isAbsolute (location : Location) : Bool := !location.root.isEmpty

/-- The location in normal form. The working directory is a single dot. -/
def text (location : Location) : Text :=
  if location.root.isEmpty && location.names.isEmpty then ['.']
  else location.root ++ Text.join ['/'] location.names

end Location

end TextTemplate
