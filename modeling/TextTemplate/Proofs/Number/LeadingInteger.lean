import Mathlib.Data.List.TakeWhile
import TextTemplate.Proofs.Text.DecimalDigit
import TextTemplate.Value.Arithmetic

/-!
# Reading the integer that a text starts with

The integer at the start of a text is described by a cut of the text into blanks, at most one sign,
decimal digits and a rest. There are many such cuts, because a part may stop early, but only one of
them is longest, where each part goes on until the next character does not belong to it. The integer
is read off that one.

## No other cut with digits

Blanks, signs and digits have no character in common. So a cut with a digit in it has gone through
all blanks and past the sign, and differs from the longest one in nothing but the digits that it
leaves to the rest. This is why it does not matter in which order the cuts are tried.
-/

namespace TextTemplate

section Runs

/-! ## Where a run ends -/

variable {α : Type} {p : α → Bool} {list : List α}

theorem dropWhile_eq_self_of_head? (h : ∀ a ∈ list.head?, p a = false) :
    list.dropWhile p = list := by
  cases list with
  | nil => rfl
  | cons a list => rw [List.dropWhile_cons_of_neg (by simp [h a rfl])]

theorem takeWhile_eq_nil_of_head? (h : ∀ a ∈ list.head?, p a = false) : list.takeWhile p = [] := by
  cases list with
  | nil => rfl
  | cons a list => rw [List.takeWhile_cons_of_neg (by simp [h a rfl])]

theorem exists_eq_run_append (p : α → Bool) (list : List α) :
    ∃ run rest, list = run ++ rest ∧ (∀ a ∈ run, p a = true) ∧ ∀ a ∈ rest.head?, p a = false := by
  refine ⟨list.takeWhile p, list.dropWhile p, List.takeWhile_append_dropWhile.symm, ?_, ?_⟩
  · intro a ha
    exact List.mem_takeWhile_imp ha
  · intro a ha
    have hhead := List.head?_dropWhile_not p list
    rw [Option.mem_def.mp ha] at hhead
    exact hhead

end Runs

/-! ## Signs -/

theorem Scientific.signOf_of_head? {text : Text} (h : ∀ c ∈ text.head?, c ≠ '+' ∧ c ≠ '-') :
    signOf text = (false, text) := by
  rw [signOf]
  · rintro rest rfl
    exact (h '-' rfl).2 rfl
  · rintro rest rfl
    exact (h '+' rfl).1 rfl

theorem exists_eq_sign_append (text : Text) :
    ∃ sign unsigned, text = sign ++ unsigned ∧ (sign = [] ∨ sign = ['+'] ∨ sign = ['-']) ∧
      (sign = [] → ∀ c ∈ unsigned.head?, c ≠ '+' ∧ c ≠ '-') := by
  by_cases h : ∀ c ∈ text.head?, c ≠ '+' ∧ c ≠ '-'
  · exact ⟨[], text, rfl, Or.inl rfl, fun _ ↦ h⟩
  · cases text with
    | nil => exact absurd (by simp) h
    | cons c unsigned =>
      have hc : c = '+' ∨ c = '-' := by simpa [or_iff_not_imp_left] using h
      rcases hc with rfl | rfl
      · exact ⟨['+'], unsigned, rfl, Or.inr (Or.inl rfl), nofun⟩
      · exact ⟨['-'], unsigned, rfl, Or.inr (Or.inr rfl), nofun⟩

theorem Text.ofInt_eq (n : Int) :
    ofInt n = (if n < 0 then ['-'] else []) ++ ofNat n.natAbs := by
  cases n with
  | ofNat n =>
    rw [ofInt, if_neg (by simp), List.nil_append]
    rfl
  | negSucc n =>
    rw [ofInt, if_pos (Int.negSucc_lt_zero n), List.singleton_append, Int.natAbs_negSucc]

namespace LeadingInteger

/-! ## Cuts -/

/-- A cut of a text into blanks, at most one sign, decimal digits and a rest. -/
@[ext]
structure Cut (text : Text) where
  blanks : Text
  sign : Text
  digits : Text
  rest : Text
  /-- The parts make the text. -/
  eq_append : text = blanks ++ (sign ++ (digits ++ rest))
  /-- The first part has blanks only. -/
  isBlank_of_mem : ∀ c ∈ blanks, isBlank c = true
  /-- The second one is a sign or nothing. -/
  sign_eq : sign = [] ∨ sign = ['+'] ∨ sign = ['-']
  /-- The third one has digits only. -/
  isDecimalDigit_of_mem : ∀ c ∈ digits, isDecimalDigit c = true

namespace Cut

variable {text : Text}

/-- The integer that the sign and the digits denote in base ten. -/
def value (cut : Cut text) : Int :=
  (if cut.sign = ['-'] then -1 else 1) * (Nat.ofDigits 10 (digitValues cut.digits).reverse : Nat)

/-- The first two parts go as far as they can. -/
structure PassesFront (cut : Cut text) : Prop where
  /-- No blank follows the blanks. -/
  not_isBlank : ∀ c ∈ (cut.sign ++ (cut.digits ++ cut.rest)).head?, isBlank c = false
  /-- No sign follows where none was taken. -/
  ne_sign : cut.sign = [] → ∀ c ∈ (cut.digits ++ cut.rest).head?, c ≠ '+' ∧ c ≠ '-'

/-- Each part goes as far as it can, from the left to the right. -/
structure IsLongest (cut : Cut text) : Prop extends cut.PassesFront where
  /-- No digit follows the digits. -/
  not_isDecimalDigit : ∀ c ∈ cut.rest.head?, isDecimalDigit c = false

/-! ## The front of a cut -/

variable {cut other : Cut text}

theorem PassesFront.trimStart_eq (h : cut.PassesFront) :
    text.trimStart = cut.sign ++ (cut.digits ++ cut.rest) :=
  calc text.trimStart
      = (cut.blanks ++ (cut.sign ++ (cut.digits ++ cut.rest))).dropWhile isBlank :=
        congrArg Text.trimStart cut.eq_append
    _ = (cut.sign ++ (cut.digits ++ cut.rest)).dropWhile isBlank :=
        List.dropWhile_append_of_pos cut.isBlank_of_mem
    _ = cut.sign ++ (cut.digits ++ cut.rest) := dropWhile_eq_self_of_head? h.not_isBlank

theorem PassesFront.signOf_eq (h : cut.PassesFront) :
    Scientific.signOf text.trimStart = (decide (cut.sign = ['-']), cut.digits ++ cut.rest) := by
  rw [h.trimStart_eq]
  rcases cut.sign_eq with hsign | hsign | hsign
  · rw [hsign, List.nil_append, Scientific.signOf_of_head? (h.ne_sign hsign)]
    rfl
  · rw [hsign]
    rfl
  · rw [hsign]
    rfl

/-- Two cuts that go as far as they can at the front differ in the digits at most. -/
theorem PassesFront.eq_front (h : cut.PassesFront) (hother : other.PassesFront) :
    other.blanks = cut.blanks ∧ other.sign = cut.sign ∧
      other.digits ++ other.rest = cut.digits ++ cut.rest := by
  have htail : other.digits ++ other.rest = cut.digits ++ cut.rest :=
    (Prod.mk.inj (hother.signOf_eq.symm.trans h.signOf_eq)).2
  have hsigned := hother.trimStart_eq.symm.trans h.trimStart_eq
  have hwhole := other.eq_append.symm.trans cut.eq_append
  rw [hsigned] at hwhole
  rw [htail] at hsigned
  exact ⟨List.append_cancel_right hwhole, List.append_cancel_right hsigned, htail⟩

theorem passesFront_of_digits_ne_nil (h : cut.digits ≠ []) : cut.PassesFront := by
  obtain ⟨c, digits, hdigits⟩ := List.exists_cons_of_ne_nil h
  have hc : isDecimalDigit c = true := by
    apply cut.isDecimalDigit_of_mem
    rw [hdigits]
    exact List.mem_cons_self
  constructor
  · rcases cut.sign_eq with hsign | hsign | hsign
    · simpa [hsign, hdigits] using isBlank_eq_false_of_isDecimalDigit hc
    · simpa [hsign] using (by decide : isBlank '+' = false)
    · simpa [hsign] using (by decide : isBlank '-' = false)
  · intro _
    simpa [hdigits] using ne_sign_of_isDecimalDigit hc

/-! ## The longest cut -/

theorem IsLongest.digits_eq (h : cut.IsLongest) :
    (cut.digits ++ cut.rest).takeWhile isDecimalDigit = cut.digits := by
  rw [List.takeWhile_append_of_pos cut.isDecimalDigit_of_mem,
    takeWhile_eq_nil_of_head? h.not_isDecimalDigit, List.append_nil]

/-- There is no other longest cut. -/
theorem IsLongest.eq (h : cut.IsLongest) (hother : other.IsLongest) : other = cut := by
  obtain ⟨hblanks, hsign, htail⟩ := h.toPassesFront.eq_front hother.toPassesFront
  have hdigits : other.digits = cut.digits := by
    rw [← hother.digits_eq, htail, h.digits_eq]
  rw [hdigits] at htail
  exact Cut.ext hblanks hsign hdigits (List.append_cancel_left htail)

/-- A cut with digits is the longest one, up to digits that it leaves to the rest. -/
theorem IsLongest.of_digits_ne_nil (h : cut.IsLongest) (hother : other.digits ≠ []) :
    other.blanks = cut.blanks ∧ other.sign = cut.sign ∧ other.digits <+: cut.digits := by
  obtain ⟨hblanks, hsign, htail⟩ :=
    h.toPassesFront.eq_front (passesFront_of_digits_ne_nil hother)
  refine ⟨hblanks, hsign, ?_⟩
  rw [← h.digits_eq, ← htail, List.takeWhile_append_of_pos other.isDecimalDigit_of_mem]
  exact List.prefix_append _ _

theorem exists_isLongest (text : Text) : ∃ cut : Cut text, cut.IsLongest := by
  obtain ⟨blanks, tail, rfl, hblanks, htail⟩ := exists_eq_run_append isBlank text
  obtain ⟨sign, unsigned, rfl, hsign, hunsigned⟩ := exists_eq_sign_append tail
  obtain ⟨digits, rest, rfl, hdigits, hrest⟩ := exists_eq_run_append isDecimalDigit unsigned
  exact ⟨⟨blanks, sign, digits, rest, rfl, hblanks, hsign, hdigits⟩, ⟨htail, hunsigned⟩, hrest⟩

/-! ## What is read -/

theorem value_eq (cut : Cut text) :
    Scientific.signed (decide (cut.sign = ['-'])) (valueOfDigits (digitValues cut.digits))
      = cut.value := by
  rw [value, Scientific.signed, valueOfDigits_eq_ofDigits]
  by_cases hsign : cut.sign = ['-'] <;> simp [hsign]

theorem IsLongest.leadingDigits_eq (h : cut.IsLongest) :
    (cut.digits ++ cut.rest).leadingDigits = digitValues cut.digits :=
  leadingDigits_append cut.isDecimalDigit_of_mem h.not_isDecimalDigit

theorem IsLongest.ofText_eq (h : cut.IsLongest) :
    ofText text = if cut.digits = [] then .absent
      else if digitLimit < cut.digits.length then .tooLong cut.digits.length
      else .integer cut.value := by
  have hlength := length_digitValues cut.isDecimalDigit_of_mem
  have hempty : (digitValues cut.digits).isEmpty = true ↔ cut.digits = [] := by
    rw [List.isEmpty_iff_length_eq_zero, hlength, List.length_eq_zero_iff]
  rw [ofText, h.signOf_eq]
  simp only [h.leadingDigits_eq, hempty, hlength, value_eq]

/-! ## Numerals -/

theorem exists_isLongest_of_ofInt {n : Int} {blanks rest : Text}
    (htext : text = blanks ++ Text.ofInt n ++ rest) (hblanks : ∀ c ∈ blanks, isBlank c = true)
    (hrest : ∀ c ∈ rest.head?, isDecimalDigit c = false) :
    ∃ cut : Cut text, cut.IsLongest ∧ cut.digits = Text.ofNat n.natAbs ∧ cut.value = n := by
  -- The numeral comes with a cut of its own.
  let cut : Cut text :=
    { blanks := blanks
      sign := if n < 0 then ['-'] else []
      digits := Text.ofNat n.natAbs
      rest := rest
      eq_append := by rw [htext, Text.ofInt_eq, List.append_assoc, List.append_assoc]
      isBlank_of_mem := hblanks
      sign_eq := by split_ifs <;> simp
      isDecimalDigit_of_mem := fun c hc ↦ isDecimalDigit_of_mem_ofNat hc }
  have hfront : cut.PassesFront := passesFront_of_digits_ne_nil Nat.toDigits_ne_nil
  have hsign : cut.sign = ['-'] ↔ n < 0 := by
    by_cases hn : n < 0 <;> simp [cut, hn]
  refine ⟨cut, ⟨hfront, hrest⟩, rfl, ?_⟩
  rw [← value_eq, valueOfDigits_ofNat, Scientific.signed]
  simp only [hsign, decide_eq_true_eq]
  split_ifs <;> omega

end Cut

/-! ## The law -/

theorem leadingInteger_eq {text : Text} {cut : Cut text} (h : cut.IsLongest) :
    Value.leadingInteger (.text text) =
      if cut.digits = [] then .ok none
      else if digitLimit < cut.digits.length then .error (.tooManyDigits cut.digits.length)
      else .ok (some cut.value) := by
  rw [Value.leadingInteger, h.ofText_eq]
  split_ifs <;> rfl

/-- How the integer at the start of a text is read. -/
structure ReadsStart (text : Text) : Prop where
  /-- There is one longest cut. -/
  existsUnique_longest : ∃! cut : Cut text, cut.IsLongest
  /-- Any other one with digits has the same blanks and sign and no more digits. -/
  digits_prefix : ∀ cut other : Cut text, cut.IsLongest → other.digits ≠ [] →
    other.blanks = cut.blanks ∧ other.sign = cut.sign ∧ other.digits <+: cut.digits
  /-- The integer is the one that the sign and the digits of the longest cut denote. Without digits
  there is none, and too many are refused. -/
  read : ∀ cut : Cut text, cut.IsLongest → Value.leadingInteger (.text text) =
    if cut.digits = [] then .ok none
    else if digitLimit < cut.digits.length then .error (.tooManyDigits cut.digits.length)
    else .ok (some cut.value)
  /-- A numeral with blanks in front of it and no further digit behind it is read back. -/
  read_numeral : ∀ n blanks rest, text = blanks ++ Text.ofInt n ++ rest →
    (∀ c ∈ blanks, isBlank c = true) → (∀ c ∈ rest.head?, isDecimalDigit c = false) →
      n.natAbs < 10 ^ digitLimit → Value.leadingInteger (.text text) = .ok (some n)

/-- **The integer is read off the longest cut, and numerals are read back.** -/
theorem readsStart (text : Text) : ReadsStart text where
  existsUnique_longest := by
    obtain ⟨cut, hcut⟩ := Cut.exists_isLongest text
    exact ⟨cut, hcut, fun other hother ↦ hcut.eq hother⟩
  digits_prefix cut other hcut hother := hcut.of_digits_ne_nil hother
  read cut hcut := leadingInteger_eq hcut
  read_numeral n blanks rest htext hblanks hrest hn := by
    obtain ⟨cut, hcut, hdigits, hvalue⟩ := Cut.exists_isLongest_of_ofInt htext hblanks hrest
    have hlength : ¬ digitLimit < cut.digits.length := by
      rw [hdigits, Nat.not_lt]
      exact (Nat.length_toDigits_le_iff (by decide) (by decide)).mpr hn
    have hne : cut.digits ≠ [] := by
      rw [hdigits]
      exact Nat.toDigits_ne_nil
    rw [leadingInteger_eq hcut, if_neg hne, if_neg hlength, hvalue]

/-- Digits of different scripts may be mixed, and what follows them does not matter. -/
example : Value.leadingInteger (.text ['\u3000', '-', '٤', '2', '.', '5']) = .ok (some (-42)) := by
  decide +kernel

end LeadingInteger

end TextTemplate
