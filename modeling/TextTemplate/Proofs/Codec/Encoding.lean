import TextTemplate.Codec.Encoding
import TextTemplate.Proofs.Codec.Utf16
import TextTemplate.Proofs.Codec.Utf8

/-!
# Encodings are read back

All encodings without a mark are read as they are written. The names by which encodings are usually
given are among the names that are known.
-/

namespace TextTemplate

namespace Encoding

/-- **Bytes are read as a text exactly if they are its encoding**, in all encodings without a
mark. With a mark it is not so, for bytes without the mark are read, too, but never written. -/
theorem decode?_eq_some_iff {encoding : Encoding} (hmark : encoding ≠ .utf8Marked)
    {bytes : List UInt8} {text : Text} :
    encoding.decode? bytes = some text ↔ encoding.encode? text = some bytes := by
  cases encoding with
  | utf8 => rw [decode?, Utf8.decode?_eq_some_iff, encode?, Option.some.injEq]
  | utf8Marked => exact absurd rfl hmark
  | utf16 => rw [decode?, Utf16.decode?_eq_some_iff, encode?, Option.some.injEq]
  | latin1 =>
    rw [decode?, SingleByte.decode?_eq_some_iff, encode?,
      SingleByte.encode?_eq_some_iff (Nat.le_refl 0x100)]
  | ascii =>
    rw [decode?, SingleByte.decode?_eq_some_iff, encode?,
      SingleByte.encode?_eq_some_iff (by decide)]

/-! ## Usual names -/

/-- The name by which an encoding is usually given. -/
def usualName : Encoding → Text
  | .utf8 => "utf-8".toList
  | .utf8Marked => "utf-8-sig".toList
  | .utf16 => "utf-16-le".toList
  | .latin1 => "latin-1".toList
  | .ascii => "ascii".toList

theorem ofName?_usualName (encoding : Encoding) :
    ofName? encoding.usualName = some encoding := by
  cases encoding <;> decide +kernel

theorem decoder_of_ofName? {name : Text} {encoding : Encoding} (h : ofName? name = some encoding)
    (codecs : Codecs) : decoder codecs name = .ok encoding.decoded := by
  rw [decoder, h]

theorem null_not_mem_usualName (encoding : Encoding) : '\x00' ∉ encoding.usualName := by
  cases encoding <;> decide

end Encoding

end TextTemplate
