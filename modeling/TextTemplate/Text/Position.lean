import TextTemplate.Text.Basic
/-!
# Positions in a text

A position is a line and a column, both counted from one. Only a line feed starts a new line; the
other line terminators are characters of the line they stand in.
-/

namespace TextTemplate

structure Position where
  /-- One more than the number of line feeds before the place. -/
  line : Nat
  /-- One more than the number of characters between the last line feed and the place. -/
  column : Nat
  deriving DecidableEq, Repr

namespace Position

/-- The position of whatever stands right after the text. -/
def after (text : Text) : Position where
  line := text.count '\n' + 1
  column := (text.reverse.takeWhile (· ≠ '\n')).length + 1

/-- The position of the character at an offset. -/
def ofOffset (text : Text) (offset : Nat) : Position := after (text.take offset)

end Position

end TextTemplate
