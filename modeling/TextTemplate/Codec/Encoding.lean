import TextTemplate.Codec.SingleByte
import TextTemplate.Codec.Utf16
import TextTemplate.Codec.Utf8
/-!
# Encodings and their names

An encoding has one proper name and any number of other names. Names are compared in lower case, and
whatever separates the letters, digits and dots of a name counts as one underscore, so `UTF-8`,
`utf 8` and `utf_8` are the same name. In the place of an underscore another name may have a dot,
but a proper name may not.

There are more encodings in the world than are described here. What they are is left open: a name
that no encoding of these goes by may belong to anything that decodes bytes, or to nothing.
-/

namespace TextTemplate

/-- A way to write texts as bytes. -/
inductive Encoding where
  | utf8
  /-- UTF-8 behind a byte order mark. -/
  | utf8Marked
  /-- UTF-16 with the low byte first and no mark. -/
  | utf16
  /-- The first 256 characters, one byte each. -/
  | latin1
  /-- The first 128 characters, one byte each. -/
  | ascii
  deriving DecidableEq, Repr

namespace Encoding

/-- The byte order mark in UTF-8. -/
def mark : List UInt8 := [0xEF, 0xBB, 0xBF]

/-- The bytes of a text, if the encoding has them for all its characters. -/
def encode? : Encoding → Text → Option (List UInt8)
  | .utf8, text => some (Utf8.encode text)
  | .utf8Marked, text => some (mark ++ Utf8.encode text)
  | .utf16, text => some (Utf16.encode text)
  | .latin1, text => SingleByte.encode? 0x100 text
  | .ascii, text => SingleByte.encode? 0x80 text

/-- The text of marked UTF-8. The mark may be absent. Bytes that break off inside the mark hold no
text yet and no fault either. -/
def decodeMarked? (bytes : List UInt8) : Option Text :=
  if mark.isPrefixOf bytes then Utf8.decode? (bytes.drop mark.length)
  else if bytes.isPrefixOf mark then some []
  else Utf8.decode? bytes

/-- The text that the bytes hold, if they hold one. -/
def decode? : Encoding → List UInt8 → Option Text
  | .utf8, bytes => Utf8.decode? bytes
  | .utf8Marked, bytes => decodeMarked? bytes
  | .utf16, bytes => Utf16.decode? bytes
  | .latin1, bytes => SingleByte.decode? 0x100 bytes
  | .ascii, bytes => SingleByte.decode? 0x80 bytes

/-! ## Names -/

/-- The character belongs to a word of a name. -/
def isWordCharacter (c : Char) : Bool := c.isAlphanum || c = '.'

/-- The name in normal form. -/
def normalName (name : Text) : Text :=
  let spaced := name.map fun c ↦ if isWordCharacter c then c.toLower else '_'
  Text.join ['_'] ((Text.pieces '_' spaced).filter fun word ↦ !word.isEmpty)

/-- The proper name of an encoding, in normal form. -/
def properName : Encoding → String
  | .utf8 => "utf_8"
  | .utf8Marked => "utf_8_sig"
  | .utf16 => "utf_16_le"
  | .latin1 => "latin_1"
  | .ascii => "ascii"

def otherNames : Encoding → List String
  | .utf8 => ["utf8", "u8", "utf", "utf8_ucs2", "utf8_ucs4", "cp65001"]
  | .utf8Marked => []
  | .utf16 => ["utf_16le", "unicodelittleunmarked"]
  | .latin1 =>
    ["latin1", "latin", "l1", "8859", "cp819", "ibm819", "csisolatin1", "iso8859", "iso8859_1",
      "iso_8859_1", "iso_8859_1_1987", "iso_ir_100"]
  | .ascii =>
    ["us_ascii", "us", "646", "ansi_x3.4_1968", "ansi_x3_4_1968", "ansi_x3.4_1986", "cp367",
      "csascii", "ibm367", "iso646_us", "iso_646.irv_1991", "iso_ir_6"]

/-- The name with its dots turned into underscores. -/
def undotted (name : Text) : Text := name.map fun c ↦ if c = '.' then '_' else c

/-- A name in normal form is one of the encoding. -/
def goesBy (encoding : Encoding) (name : Text) : Bool :=
  name = encoding.properName.toList
    || encoding.otherNames.any fun other ↦ other.toList = name || other.toList = undotted name

def all : List Encoding := [.utf8, .utf8Marked, .utf16, .latin1, .ascii]

/-- The encoding that goes by the name. -/
def ofName? (name : Text) : Option Encoding :=
  all.find? fun encoding ↦ encoding.goesBy (normalName name)

end Encoding

/-! ## Decoding by name -/

/-- What comes of decoding bytes. -/
inductive Decoded where
  | text (characters : Text)
  /-- The bytes are not valid in the encoding. -/
  | invalid
  /-- The decoder fails in a way of its own. -/
  | failed (reason : Text)
  deriving DecidableEq, Repr

/-- What decodes bytes in the encoding of a name, or the reason why nothing does. It is only asked
for names that belong to none of the encodings here. -/
abbrev Codecs := Text → Except Text (List UInt8 → Decoded)

/-- No name belongs to any other encoding. -/
def Codecs.none : Codecs := fun name ↦ .error ("unknown encoding: ".toList ++ name)

namespace Encoding

def decoded (encoding : Encoding) (bytes : List UInt8) : Decoded :=
  match encoding.decode? bytes with
  | some text => .text text
  | none => .invalid

/-- What decodes bytes in the encoding of a name, whichever it is. -/
def decoder (codecs : Codecs) (name : Text) : Except Text (List UInt8 → Decoded) :=
  match ofName? name with
  | some encoding => .ok encoding.decoded
  | none => codecs name

end Encoding

end TextTemplate
