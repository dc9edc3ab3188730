import TextTemplate.Proofs.Number.Zero
import TextTemplate.Proofs.Value.PlainData
import TextTemplate.Proofs.Value.Shown
import TextTemplate.Value.Equality

/-!
# What a template shows as nothing

The mark of a path that led nowhere, the absent value, falsehood, the empty text, a number of any
kind that equals zero, and a number of any kind that denotes nothing, wholly or in a part, are
nothing. Nothing is shown by no characters, everything else by its own text, if it has one, and below
nothing a path finds nothing. A text has characters, unless an object or odd number tells one without.

## What is overlooked

Of the numbers that denote nothing `isEmpty` knows the binary one. The decimal and the complex ones
are compared with zero, as all numbers are, and they do not equal it, so they are shown by their
names. A signaling decimal refuses the comparison, and the refusal is all that comes of showing it or
of looking below it.

`IsNothing` goes by what numbers equal and denote, not by the test and not by their digits. The test
is caught between the two in `isEmpty_eq_ok_true_iff`. That a value has a text at all when the test
says no is a matter of layouts, and stands with the texts of values.
-/

namespace TextTemplate

namespace Value

/-- The value stands for nothing. -/
inductive IsNothing : Value → Prop
  | missing : IsNothing .missing
  | none : IsNothing .none
  | falsehood : IsNothing (.bool false)
  | emptyText : IsNothing (.text [])
  /-- It is a number of some kind and equals zero. -/
  | zero {value : Value} (h : value.equal (.int 0) = .ok true) : IsNothing value
  /-- It is a number of some kind, and it or a part of it denotes nothing. -/
  | notANumber {value : Value} {x : ExactNumber} (hvalue : value.number? = some x)
      (hx : x.isNumber = false) : IsNothing value

/-- The value is a number that denotes nothing, and it is not a binary one. -/
def IsOverlooked : Value → Prop
  | .decimal _ (.nan _ _ _) => True
  | .complex _ x y => x = .nan ∨ y = .nan
  | _ => False

variable {value : Value}

/-! ## What is overlooked denotes nothing -/

theorem isOverlooked_of_isSignaling (h : value.isSignaling = true) : IsOverlooked value := by
  cases value with
  | decimal _ d =>
    cases d with
    | nan => trivial
    | _ => exact Bool.noConfusion h
  | _ => exact Bool.noConfusion h

theorem IsOverlooked.exists_number? (h : IsOverlooked value) :
    ∃ x, value.number? = some x ∧ x.isNumber = false := by
  cases value with
  | decimal _ d =>
    cases d with
    | nan => exact ⟨_, rfl, rfl⟩
    | _ => exact h.elim
  | complex _ x y =>
    refine ⟨_, rfl, ExactNumber.isNumber_eq_false_iff.mpr ?_⟩
    simpa [IsOverlooked] using h
  | _ => exact h.elim

theorem IsOverlooked.isNothing (h : IsOverlooked value) : IsNothing value := by
  obtain ⟨x, hvalue, hx⟩ := h.exists_number?
  exact .notANumber hvalue hx

theorem isNumber_eq_false_of_isSignaling {x : ExactNumber} (hvalue : value.number? = some x)
    (h : value.isSignaling = true) : x.isNumber = false := by
  obtain ⟨y, hy, hnumber⟩ := (isOverlooked_of_isSignaling h).exists_number?
  rw [hvalue, Option.some.injEq] at hy
  rw [hy, hnumber]

/-! ## Nothing by its exact value -/

theorem isOdd_eq_false_of_number? {x : ExactNumber} (h : value.number? = some x) :
    value.isOdd = false := by
  cases value with
  | odd => exact absurd h (by simp [number?])
  | _ => rfl

/-- Numbers are the same when their exact values are equal. A refusal takes nothing away from that,
because it comes from a number that denotes nothing. -/
theorem isYes_equalNumbers {other : Value} {x y : ExactNumber} (hx : value.number? = some x)
    (hy : other.number? = some y) : isYes (value.equalNumbers other) = x.equal y := by
  rw [equalNumbers, isOdd_eq_false_of_number? hx, isOdd_eq_false_of_number? hy, hx, hy]
  simp only [Bool.or_self, Bool.false_eq_true, if_false]
  split_ifs with hrefused
  -- One of two numbers that are refused denotes nothing, so it equals nothing.
  · symm
    rw [isYes, ← Bool.not_eq_true]
    intro hequal
    obtain ⟨hxnumber, hynumber⟩ := ExactNumber.isNumber_of_equal hequal
    rw [Bool.and_eq_true, Bool.and_eq_true, Bool.or_eq_true] at hrefused
    obtain ⟨⟨h | h, -⟩, -⟩ := hrefused
    · exact Bool.noConfusion (hxnumber.symm.trans (isNumber_eq_false_of_isSignaling hx h))
    · exact Bool.noConfusion (hynumber.symm.trans (isNumber_eq_false_of_isSignaling hy h))
  · rfl

theorem isYes_eq_true_iff {asked : Except Refusal Bool} : isYes asked = true ↔ asked = .ok true := by
  cases asked <;> simp [isYes]

theorem equal_zero_iff : value.equal (.int 0) = .ok true ↔ value.number? = some .zero := by
  have hequal : value.equal (.int 0) = value.equalNumbers (.int 0) := by
    cases value <;> rw [equal.eq_def]
  rw [← isYes_eq_true_iff, hequal]
  cases hvalue : value.number? with
  | none =>
    rw [equalNumbers, hvalue]
    split <;> simp [isYes]
  | some x =>
    have hzero : (int 0).number? = some .zero := congrArg some ExactNumber.ofReal_ofInt_zero
    rw [isYes_equalNumbers hvalue hzero, Option.some.injEq, ExactNumber.equal_zero_iff]

theorem isNothing_iff :
    IsNothing value ↔ value = .missing ∨ value = .none ∨ value = .text [] ∨
      ∃ x, value.number? = some x ∧ (x = .zero ∨ x.isNumber = false) := by
  constructor
  · intro h
    cases h with
    | missing => exact Or.inl rfl
    | none => exact Or.inr (Or.inl rfl)
    | emptyText => exact Or.inr (Or.inr (Or.inl rfl))
    | falsehood => exact Or.inr (Or.inr (Or.inr ⟨.zero, rfl, Or.inl rfl⟩))
    | zero h => exact Or.inr (Or.inr (Or.inr ⟨.zero, equal_zero_iff.mp h, Or.inl rfl⟩))
    | notANumber hvalue hx => exact Or.inr (Or.inr (Or.inr ⟨_, hvalue, Or.inr hx⟩))
  · rintro (rfl | rfl | rfl | ⟨x, hvalue, rfl | hx⟩)
    · exact .missing
    · exact .none
    · exact .emptyText
    · exact .zero (equal_zero_iff.mpr hvalue)
    · exact .notANumber hvalue hx

theorem IsNothing.isOpaque (h : IsNothing value) : value.IsOpaque := by
  rw [isNothing_iff] at h
  cases value with
  | dict | object => simp [number?] at h
  | _ => trivial

/-! ## The test -/

/-- The test finds what is nothing, but for the overlooked. -/
theorem isEmpty_eq_ok_true_iff :
    value.isEmpty = .ok true ↔ IsNothing value ∧ ¬ IsOverlooked value := by
  rw [isNothing_iff]
  simp only [ExactNumber.eq_zero_iff, ExactNumber.isNumber_eq_false_iff]
  cases value with
  | bool b => cases b <;> simp [isEmpty, IsOverlooked, number?, ExactNumber.ofReal]
  | decimal _ d =>
    rw [isEmpty, Decimal.equalsZero_eq_ok_true_iff]
    cases d <;> simp [IsOverlooked, number?, ExactNumber.ofReal, Decimal.isZero]
  | complex _ x y =>
    cases x <;> cases y <;> simp [isEmpty, IsOverlooked, number?, Binary64.isZero]
  | _ => simp [isEmpty, IsOverlooked, number?, ExactNumber.ofReal]

theorem isEmpty_eq_error_iff {signal : Decimal.Signal} :
    value.isEmpty = .error signal ↔ value.isSignaling = true ∧ signal = .invalid := by
  cases value with
  | decimal _ d =>
    rw [isEmpty, isSignaling, Decimal.equalsZero]
    split_ifs with h <;> simp [h, eq_comm]
  | _ => simp [isEmpty, isSignaling]

theorem exists_isEmpty_eq_ok (hsignaling : value.isSignaling = false) :
    ∃ empty, value.isEmpty = .ok empty := by
  cases hempty : value.isEmpty with
  | error signal =>
    rw [(isEmpty_eq_error_iff.mp hempty).1] at hsignaling
    exact Bool.noConfusion hsignaling
  | ok empty => exact ⟨empty, rfl⟩

theorem isEmpty_eq_ok_false (hnothing : IsNothing value → IsOverlooked value)
    (hsignaling : value.isSignaling = false) : value.isEmpty = .ok false := by
  obtain ⟨empty, hempty⟩ := exists_isEmpty_eq_ok hsignaling
  cases empty with
  | true =>
    obtain ⟨h, hseen⟩ := isEmpty_eq_ok_true_iff.mp hempty
    exact absurd (hnothing h) hseen
  | false => exact hempty

theorem output_of_isEmpty_eq_ok_false (h : value.isEmpty = .ok false) :
    value.output = value.shown := by
  rw [output, h]

theorem output_eq_nil_iff :
    value.output = .ok [] ↔ value.isEmpty = .ok true ∨ TellsNothing value := by
  cases hempty : value.isEmpty with
  | error signal =>
    have hsignaling := (isEmpty_eq_error_iff.mp hempty).1
    rw [output, hempty]
    cases value with
    | decimal => simp [TellsNothing]
    | _ => exact Bool.noConfusion hsignaling
  | ok empty =>
    cases empty with
    | true =>
      rw [output, hempty]
      simp
    | false =>
      have htext : value ≠ .text [] := by
        rintro rfl
        exact absurd hempty (by simp [isEmpty])
      rw [output_of_isEmpty_eq_ok_false hempty, shown_eq_ok_nil_iff]
      simp [htext]

/-! ## The law -/

/-- How a value is shown, and what is below it, by whether it stands for nothing. -/
structure Emptiness (value : Value) : Prop where
  /-- No characters are shown exactly for what is nothing and not overlooked, and for what tells a
  text without characters of itself. -/
  output_eq_nil_iff : value.output = .ok [] ↔
    (IsNothing value ∧ ¬ IsOverlooked value) ∨ TellsNothing value
  /-- Something is shown by its text. -/
  output_of_something : ¬ IsNothing value → value.output = value.shown
  /-- What is overlooked is shown by its text, too, which has characters. -/
  output_of_overlooked : IsOverlooked value → value.isSignaling = false →
    ∃ text, value.output = .ok text ∧ value.shown = .ok text ∧ text ≠ []
  /-- A value has no text if a part of it is too long or does not tell its text, and only then. -/
  exists_shown_eq_error_iff : (∃ failure, value.shown = .error failure) ↔ Unshown value
  /-- Below nothing, overlooked or not, a path finds nothing. -/
  follow_of_nothing : IsNothing value → value.isSignaling = false →
    ∀ segment rest, DataPath.follow value (segment :: rest) = .ok .missing
  /-- A signaling number is among the overlooked. It is neither shown nor looked into. -/
  refused : value.isSignaling = true →
    IsOverlooked value ∧ value.output = .error (.signal .invalid) ∧
      ∀ segment rest, DataPath.follow value (segment :: rest) = .error .invalid

theorem exists_shown_of_isOverlooked (h : IsOverlooked value) :
    ∃ text, value.shown = .ok text ∧ text ≠ [] := by
  cases value with
  | decimal identity d => exact ⟨_, rfl, d.text_ne_nil⟩
  | complex identity x y => exact ⟨_, rfl, complexText_ne_nil x y⟩
  | _ => exact h.elim

/-- **Nothing is shown by no characters, and has nothing below it, unless it is overlooked.** -/
theorem emptiness (value : Value) : Emptiness value := by
  refine ⟨?_, ?_, ?_, Value.exists_shown_eq_error_iff, ?_, ?_⟩
  · rw [Value.output_eq_nil_iff, isEmpty_eq_ok_true_iff]
  · intro hsomething
    have hsignaling : value.isSignaling = false := by
      rw [← Bool.not_eq_true]
      intro h
      exact hsomething (isOverlooked_of_isSignaling h).isNothing
    apply output_of_isEmpty_eq_ok_false
    exact isEmpty_eq_ok_false (fun h ↦ absurd h hsomething) hsignaling
  · intro hoverlooked hsignaling
    obtain ⟨text, hshown, hne⟩ := exists_shown_of_isOverlooked hoverlooked
    have hempty := isEmpty_eq_ok_false (fun _ ↦ hoverlooked) hsignaling
    exact ⟨text, (output_of_isEmpty_eq_ok_false hempty).trans hshown, hshown, hne⟩
  · intro hnothing hsignaling segment rest
    obtain ⟨empty, hempty⟩ := exists_isEmpty_eq_ok hsignaling
    rw [DataPath.follow_cons_of_isOpaque hnothing.isOpaque, hempty, Except.map]
  · intro hsignaling
    have hoverlooked := isOverlooked_of_isSignaling hsignaling
    have hempty : value.isEmpty = .error .invalid := isEmpty_eq_error_iff.mpr ⟨hsignaling, rfl⟩
    refine ⟨hoverlooked, ?_, ?_⟩
    · rw [output, hempty]
    · intro segment rest
      rw [DataPath.follow_cons_of_isOpaque hoverlooked.isNothing.isOpaque, hempty, Except.map]

/-- A tuple without items is something. -/
example : (Value.tuple []).output = .ok ['(', ')'] := rfl

/-- Two numbers that denote nothing are shown by their names, and a third is refused. -/
theorem nothing_overlooked :
    (IsNothing (.decimal 0 (.nan false false 0)) ∧
        (Value.decimal 0 (.nan false false 0)).output = .ok "NaN".toList) ∧
      (IsNothing (.complex 0 .nan (.finite false 0 0)) ∧
        (Value.complex 0 .nan (.finite false 0 0)).output = .ok "(nan+0j)".toList) ∧
      (IsNothing (.decimal 0 (.nan false true 0)) ∧
        (Value.decimal 0 (.nan false true 0)).output = .error (.signal .invalid) ∧
        DataPath.follow (.decimal 0 (.nan false true 0)) [['a']] = .error .invalid) :=
  ⟨⟨.notANumber rfl rfl, rfl⟩, ⟨.notANumber rfl rfl, rfl⟩, ⟨.notANumber rfl rfl, rfl, rfl⟩⟩

end Value

end TextTemplate
