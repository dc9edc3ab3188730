import TextTemplate.Cache.Basic
/-!
# The history of a cache

Everything that happens to a cache is one of five things, and a history lists them, the latest
first. Compiling may use the cache again before it is done, so between the moment when a plan is
found missing and the moment when it is stored there may be any number of others.

The history is the measure of the cache: what a path holds, what the counters show, and which object
was returned for a path last can all be read off it.
-/

namespace TextTemplate

namespace Cache

/-- Something that happens to a cache. -/
inductive Moment where
  /-- A plan for the text at the path was found and returned. -/
  | reused (path text : Text) (compiled : Compiled)
  /-- No plan for the text at the path was found, and compiling began. -/
  | missed (path text : Text)
  /-- Compiling the text at the path was done; the result was stored and returned. -/
  | stored (path text : Text) (compiled : Compiled)
  /-- Compiling the text at the path failed. -/
  | failed (path text : Text)
  /-- One path was dropped, or all of them. -/
  | dropped (path : Option Text)
  deriving DecidableEq, Repr

/-- What has happened to a cache, the latest moment first. -/
abbrev History := List Moment

namespace Moment

/-- What was returned for a path at a moment. -/
def returnedFor? (path : Text) : Moment → Option Compiled
  | .reused p _ compiled | .stored p _ compiled => if p = path then some compiled else none
  | .missed _ _ | .failed _ _ | .dropped _ => none

def isStored : Moment → Bool
  | .stored _ _ _ => true
  | _ => false

end Moment

namespace History

/-- What was returned for a path last. -/
def latest? (history : History) (path : Text) : Option Compiled :=
  history.findSome? (Moment.returnedFor? path)

/-- The number of templates that were compiled so far; it is the serial number of the next one. -/
def made (history : History) : Nat := history.countP Moment.isStored

end History

end Cache

end TextTemplate
