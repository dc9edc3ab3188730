import Mathlib.Data.List.Basic
import Mathlib.Data.List.Induction
import Mathlib.Data.Nat.Digits.Defs
import TextTemplate.Text.Blank
import TextTemplate.Text.DecimalDigit

/-!
# Runs of decimal digits

The digits at the start of a text are its longest run of them, whatever scripts they come from, and
their values make a number in base ten. The decimal numeral of a number is such a run, and its value
is the number.

Blanks and signs are no digits. For signs this is a matter of two characters, for blanks of two
tables that have no code point in common.
-/

namespace TextTemplate

/-- The character is a decimal digit of some script. -/
def isDecimalDigit (c : Char) : Bool := (digitValue? c).isSome

variable {c : Char}

/-! ## Digits among the characters -/

/-- A digit lies at most nine places after a zero. -/
theorem exists_start_of_isDecimalDigit (h : isDecimalDigit c = true) :
    ∃ start ∈ digitZeros, start ≤ c.toNat ∧ c.toNat < start + 10 := by
  rw [isDecimalDigit, digitValue?, Option.isSome_map, List.find?_isSome] at h
  obtain ⟨start, hmem, hbounds⟩ := h
  rw [Bool.and_eq_true, decide_eq_true_iff, decide_eq_true_iff] at hbounds
  exact ⟨start, hmem, hbounds⟩

theorem blankRanges_apart_digitZeros :
    ∀ range ∈ blankRanges, ∀ start ∈ digitZeros, range.2 < start ∨ start + 10 ≤ range.1 := by
  decide

theorem isBlank_eq_false_of_isDecimalDigit (h : isDecimalDigit c = true) : isBlank c = false := by
  obtain ⟨start, hstart, hle, hlt⟩ := exists_start_of_isDecimalDigit h
  rw [← Bool.not_eq_true]
  intro hblank
  obtain ⟨range, hrange, hbounds⟩ := List.any_eq_true.mp hblank
  rw [Bool.and_eq_true, decide_eq_true_iff, decide_eq_true_iff] at hbounds
  have hapart := blankRanges_apart_digitZeros range hrange start hstart
  omega

theorem ne_sign_of_isDecimalDigit (h : isDecimalDigit c = true) : c ≠ '+' ∧ c ≠ '-' := by
  constructor
  · rintro rfl
    exact absurd h (by decide)
  · rintro rfl
    exact absurd h (by decide)

theorem digitValue?_of_isDigit (h : c.isDigit = true) :
    digitValue? c = some (c.toNat - '0'.toNat) := by
  rw [Char.isDigit, Bool.and_eq_true, decide_eq_true_iff, decide_eq_true_iff] at h
  have hlow : 0x30 ≤ c.toNat := h.1
  have hhigh : c.toNat < 0x30 + 10 := Nat.lt_succ_of_le h.2
  rw [digitValue?, digitZeros, List.find?_cons_of_pos (by simp [hlow, hhigh])]
  rfl

/-! ## Runs of digits -/

def digitValues (digits : Text) : List Nat := digits.filterMap digitValue?

theorem digitValues_cons {value : Nat} (hc : digitValue? c = some value) (digits : Text) :
    digitValues (c :: digits) = value :: digitValues digits := by
  rw [digitValues, List.filterMap_cons_some hc, digitValues]

theorem length_digitValues {digits : Text} (h : ∀ c ∈ digits, isDecimalDigit c = true) :
    (digitValues digits).length = digits.length := by
  induction digits with
  | nil => rfl
  | cons c digits ih =>
    obtain ⟨hc, hdigits⟩ := List.forall_mem_cons.mp h
    obtain ⟨value, hvalue⟩ := Option.isSome_iff_exists.mp hc
    rw [digitValues_cons hvalue, List.length_cons, List.length_cons, ih hdigits]

theorem leadingDigits_append {digits rest : Text} (hdigits : ∀ c ∈ digits, isDecimalDigit c = true)
    (hrest : ∀ c ∈ rest.head?, isDecimalDigit c = false) :
    Text.leadingDigits (digits ++ rest) = digitValues digits := by
  induction digits with
  | nil =>
    cases rest with
    | nil => rfl
    | cons c rest =>
      have hc : digitValue? c = none := by simpa [isDecimalDigit] using hrest c rfl
      rw [List.nil_append, Text.leadingDigits, hc]
      rfl
  | cons c digits ih =>
    obtain ⟨hc, hdigits⟩ := List.forall_mem_cons.mp hdigits
    obtain ⟨value, hvalue⟩ := Option.isSome_iff_exists.mp hc
    rw [List.cons_append, Text.leadingDigits, hvalue, digitValues_cons hvalue, ih hdigits]

/-! ## Their value -/

theorem valueOfDigits_append_singleton (values : List Nat) (value : Nat) :
    valueOfDigits (values ++ [value]) = 10 * valueOfDigits values + value := by
  rw [valueOfDigits, List.foldl_append, List.foldl_cons, List.foldl_nil, valueOfDigits]

/-- The number that digits denote is the one in base ten, where the last digit counts once. -/
theorem valueOfDigits_eq_ofDigits (values : List Nat) :
    valueOfDigits values = Nat.ofDigits 10 values.reverse := by
  induction values using List.reverseRecOn with
  | nil => rfl
  | append_singleton values value ih =>
    rw [valueOfDigits_append_singleton, ih, List.reverse_append, List.reverse_singleton,
      List.singleton_append, Nat.ofDigits_cons, Nat.add_comm]

/-! ## Numerals -/

theorem isDigit_of_mem_ofNat {n : Nat} (h : c ∈ Text.ofNat n) : c.isDigit = true :=
  Nat.isDigit_of_mem_toDigits (by decide) (by decide) h

theorem isDecimalDigit_of_mem_ofNat {n : Nat} (h : c ∈ Text.ofNat n) : isDecimalDigit c = true := by
  rw [isDecimalDigit, digitValue?_of_isDigit (isDigit_of_mem_ofNat h)]
  rfl

theorem valueOfDigits_ofNat (n : Nat) : valueOfDigits (digitValues (Text.ofNat n)) = n := by
  have hvalues : digitValues (Text.ofNat n) = (Text.ofNat n).map (·.toNat - '0'.toNat) := by
    refine List.filterMap_eq_map_iff_forall_eq_some.mpr ?_
    intro c hc
    exact digitValue?_of_isDigit (isDigit_of_mem_ofNat hc)
  calc valueOfDigits (digitValues (Text.ofNat n))
      = Nat.ofDigitChars 10 (Text.ofNat n) 0 := by
        rw [hvalues, valueOfDigits, List.foldl_map, Nat.ofDigitChars]
    _ = n := Nat.ofDigitChars_ten_toDigits

end TextTemplate
