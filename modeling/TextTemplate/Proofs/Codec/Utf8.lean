import Mathlib.Tactic.SplitIfs
import TextTemplate.Codec.Utf8
import TextTemplate.Proofs.Codec.SingleByte

/-!
# UTF-8 is read back

A character is written as a lead byte and continuation bytes. There are four forms of this, which
differ in the number of the continuation bytes, in the mark of the lead byte, in the least code
point that needs so many bytes, and in how many values the bits in the lead byte can have. Reading
and writing are both brought to the form of a character: `lead?_eq_some_iff` says which forms are
read, and `encodeChar_of_form` which one is written.

That a byte string is read as a text exactly if it is the encoding of that text follows character by
character. It holds of all byte strings, so it also says what is refused: a sequence that is longer
than need be is the encoding of no text, and neither are surrogates, code points beyond the last,
and sequences that break off.
-/

namespace TextTemplate

namespace Utf8

/-! ## Continuation bytes -/

theorem eq_byte_iff {b : UInt8} {n : Nat} (hn : n < 0x100) : b = byte n ↔ b.toNat = n := by
  rw [byte, ← UInt8.toNat_inj, UInt8.toNat_ofNat', Nat.mod_eq_of_lt hn]

theorem continuationBits?_eq_some_iff {b : UInt8} {bits : Nat} :
    continuationBits? b = some bits ↔ bits < 0x40 ∧ b = continuation bits := by
  rw [continuation, eq_byte_iff (by omega)]
  simp only [continuationBits?, Option.ite_none_right_eq_some, Option.some.injEq]
  omega

/-- The bits of a number above so many groups of six. -/
def bitsAbove : Nat → Nat → Nat
  | 0, n => n
  | k + 1, n => bitsAbove k n / 0x40

/-- The continuation bytes with the last so many groups of six bits. -/
def continuations : Nat → Nat → List UInt8
  | 0, _ => []
  | k + 1, n => continuation (bitsAbove k n) :: continuations k n

/-- Reading continuation bytes puts their groups of six bits behind the bits read before. -/
theorem continue?_eq_some_iff {k bits value : Nat} {bytes rest : List UInt8} :
    continue? k bits bytes = some (value, rest) ↔
      bytes = continuations k value ++ rest ∧ bitsAbove k value = bits := by
  induction k generalizing bits bytes with
  | zero => simp [continue?, continuations, bitsAbove, and_comm, eq_comm]
  | succ k ih =>
    cases bytes with
    | nil => simp [continue?, continuations]
    | cons b bytes =>
      simp only [continue?, Option.bind_eq_bind, Option.bind_eq_some_iff, ih,
        continuationBits?_eq_some_iff, continuations, bitsAbove, List.cons_append, List.cons.injEq]
      constructor
      · rintro ⟨more, ⟨hmore, rfl⟩, rfl, habove⟩
        have hlast : bitsAbove k value % 0x40 = more % 0x40 := by omega
        exact ⟨⟨by rw [continuation, continuation, hlast], rfl⟩, by omega⟩
      · rintro ⟨⟨rfl, rfl⟩, rfl⟩
        refine ⟨bitsAbove k value % 0x40, ⟨by omega, ?_⟩, rfl, by omega⟩
        rw [continuation, continuation, Nat.mod_mod]

/-! ## The four forms -/

/-- A form of writing characters: the number of continuation bytes, the mark of the lead byte, the
least code point, and the number of values of the bits in the lead byte. -/
inductive Form : Nat → Nat → Nat → Nat → Prop
  | one : Form 0 0 0 0x80
  | two : Form 1 0xC0 0x80 0x20
  | three : Form 2 0xE0 0x800 0x10
  | four : Form 3 0xF0 0x10000 0x8

theorem lead?_eq_some_iff {b : UInt8} {k bits least : Nat} :
    lead? b = some (k, bits, least) ↔
      ∃ mark values, Form k mark least values ∧ bits < values ∧ b = byte (mark + bits) := by
  constructor
  · intro h
    have hb : b = byte b.toNat := (eq_byte_iff b.toNat_lt).mpr rfl
    unfold lead? at h
    dsimp only at h
    split_ifs at h <;> obtain ⟨rfl, rfl, rfl⟩ := by simpa using h
    · exact ⟨_, _, .one, by omega, by rwa [Nat.zero_add]⟩
    · exact ⟨_, _, .two, by omega, by rwa [Nat.add_sub_cancel' (by omega)]⟩
    · exact ⟨_, _, .three, by omega, by rwa [Nat.add_sub_cancel' (by omega)]⟩
    · exact ⟨_, _, .four, by omega, by rwa [Nat.add_sub_cancel' (by omega)]⟩
  · rintro ⟨mark, values, hform, hbits, hb⟩
    unfold lead?
    cases hform <;> rw [eq_byte_iff (by omega)] at hb <;> grind

/-- A character is written in the form whose numbers fit its code point. -/
theorem encodeChar_of_form {c : Char} {k mark least values : Nat}
    (hform : Form k mark least values) (hleast : least ≤ c.toNat)
    (hvalues : bitsAbove k c.toNat < values) :
    encodeChar c = byte (mark + bitsAbove k c.toNat) :: continuations k c.toNat := by
  unfold encodeChar
  cases hform <;> simp only [bitsAbove, continuations] at hvalues ⊢
  · rw [if_pos hvalues, Nat.zero_add]
  · rw [if_neg (by omega), if_pos (by omega)]
  · rw [if_neg (by omega), if_neg (by omega), if_pos (by omega), Nat.div_div_eq_div_mul]
  · rw [if_neg (by omega), if_neg (by omega), if_neg (by omega)]
    simp only [Nat.div_div_eq_div_mul]

theorem exists_form (c : Char) : ∃ k mark least values, Form k mark least values ∧
    least ≤ c.toNat ∧ bitsAbove k c.toNat < values := by
  have hc := toNat_bounds c
  by_cases h₁ : c.toNat < 0x80
  · exact ⟨_, _, _, _, .one, Nat.zero_le _, h₁⟩
  by_cases h₂ : c.toNat < 0x800
  · exact ⟨_, _, _, _, .two, by omega, by simp only [bitsAbove]; omega⟩
  by_cases h₃ : c.toNat < 0x10000
  · exact ⟨_, _, _, _, .three, by omega, by simp only [bitsAbove]; omega⟩
  · exact ⟨_, _, _, _, .four, by omega, by simp only [bitsAbove]; omega⟩

theorem character?_eq_some_iff {least codePoint : Nat} {c : Char} :
    character? least codePoint = some c ↔ least ≤ codePoint ∧ c.toNat = codePoint := by
  simp only [character?, Option.ite_none_right_eq_some, Option.some.injEq]
  constructor
  · rintro ⟨⟨hleast, hvalid⟩, rfl⟩
    exact ⟨hleast, toNat_ofNat_of_isValidChar hvalid⟩
  · rintro ⟨hleast, rfl⟩
    exact ⟨⟨hleast, c.valid⟩, Char.ofNat_toNat c⟩

/-! ## Characters and texts -/

/-- The first character is read exactly if the bytes begin with its encoding. -/
theorem decodeChar?_eq_some_iff {b : UInt8} {bytes rest : List UInt8} {c : Char} :
    decodeChar? b bytes = some (c, rest) ↔ b :: bytes = encodeChar c ++ rest := by
  simp only [decodeChar?, Option.bind_eq_bind, Option.bind_eq_some_iff, Prod.exists,
    lead?_eq_some_iff, continue?_eq_some_iff, character?_eq_some_iff, Option.some.injEq,
    Prod.mk.injEq]
  constructor
  · rintro ⟨k, bits, least, ⟨mark, values, hform, hbits, rfl⟩, codePoint, rest', ⟨rfl, rfl⟩, c',
      ⟨hleast, rfl⟩, rfl, rfl⟩
    rw [encodeChar_of_form hform hleast hbits, List.cons_append]
  · intro h
    obtain ⟨k, mark, least, values, hform, hleast, hvalues⟩ := exists_form c
    rw [encodeChar_of_form hform hleast hvalues, List.cons_append, List.cons.injEq] at h
    exact ⟨k, _, least, ⟨mark, values, hform, hvalues, h.1⟩, c.toNat, rest, ⟨h.2, rfl⟩, c,
      ⟨hleast, rfl⟩, rfl, rfl⟩

theorem decode?_cons (b : UInt8) (bytes : List UInt8) :
    decode? (b :: bytes)
      = (decodeChar? b bytes).bind fun (c, rest) ↦ (decode? rest).map (c :: ·) := by
  rw [decode?]
  split
  · rename_i c rest h
    rw [h, Option.bind_some]
  · rename_i h
    rw [h, Option.bind_none]

theorem decode?_encodeChar_append (c : Char) (rest : List UInt8) :
    decode? (encodeChar c ++ rest) = (decode? rest).map (c :: ·) := by
  obtain ⟨k, mark, least, values, hform, hleast, hvalues⟩ := exists_form c
  have hencode := encodeChar_of_form hform hleast hvalues
  have hchar : decodeChar? (byte (mark + bitsAbove k c.toNat)) (continuations k c.toNat ++ rest)
      = some (c, rest) := decodeChar?_eq_some_iff.mpr (by rw [hencode, List.cons_append])
  rw [hencode, List.cons_append, decode?_cons, hchar]
  rfl

/-- **Bytes are read as a text exactly if they are its encoding.** -/
theorem decode?_eq_some_iff {bytes : List UInt8} {text : Text} :
    decode? bytes = some text ↔ encode text = bytes := by
  constructor
  · intro h
    fun_induction decode? bytes generalizing text with
    | case1 =>
      obtain rfl := Option.some.inj h
      rfl
    | case2 b bytes c rest hchar ih =>
      obtain ⟨text, htext, rfl⟩ := Option.map_eq_some_iff.mp h
      rw [decodeChar?_eq_some_iff.mp hchar, ← ih htext]
      rfl
    | case3 => exact nomatch h
  · rintro rfl
    induction text with
    | nil => rw [encode, List.flatMap_nil, decode?]
    | cons c text ih =>
      change decode? (encodeChar c ++ encode text) = _
      rw [decode?_encodeChar_append, ih, Option.map_some]

/-- A slash in two bytes, a surrogate, and a code point beyond the last are no texts. -/
example : decode? [0xC0, 0xAF] = none ∧ decode? [0xED, 0xA0, 0x80] = none ∧
    decode? [0xF4, 0x90, 0x80, 0x80] = none := by decide +kernel

end Utf8

end TextTemplate
