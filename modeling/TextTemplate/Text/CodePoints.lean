import TextTemplate.Text.Basic
/-!
# Sets of characters given by ranges

A property of characters that a standard fixes by a table is a list of closed ranges of code
points, ascending and apart. The tables of this library follow version 14 of the Unicode
character database.
-/

namespace TextTemplate

/-- Closed ranges of code points. -/
abbrev CodePoints := List (Nat × Nat)

namespace CodePoints

/-- The code point of the character lies in one of the ranges. -/
def has (ranges : CodePoints) (c : Char) : Bool :=
  ranges.any fun range ↦ range.1 ≤ c.toNat && c.toNat ≤ range.2

end CodePoints

end TextTemplate
