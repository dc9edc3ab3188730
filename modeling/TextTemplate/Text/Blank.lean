import TextTemplate.Text.CodePoints
/-!
# Blanks

The blanks are the characters with the Unicode property *White_Space* together with the four
information separators U+001C to U+001F. They are what surrounds a data path inside its
delimiters, what may stand before a numeral, and what a root must not consist of.
-/

namespace TextTemplate

/-- The ranges of the blanks. -/
def blankRanges : CodePoints :=
  [(0x09, 0x0D), (0x1C, 0x20), (0x85, 0x85), (0xA0, 0xA0), (0x1680, 0x1680), (0x2000, 0x200A),
    (0x2028, 0x2029), (0x202F, 0x202F), (0x205F, 0x205F), (0x3000, 0x3000)]

def isBlank (c : Char) : Bool := blankRanges.has c

namespace Text

def trimStart (text : Text) : Text := text.dropWhile isBlank

/-- The text without the blanks at its two ends. -/
def trim (text : Text) : Text := dropEndWhile isBlank (trimStart text)

end Text

end TextTemplate
