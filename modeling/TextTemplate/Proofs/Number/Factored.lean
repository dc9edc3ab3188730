import Mathlib.NumberTheory.Padics.PadicVal.Basic
import Mathlib.Tactic.FieldSimp
import Mathlib.Tactic.Ring
import TextTemplate.Proofs.Number.Zero

/-!
# One form for each rational number

Numbers are compared by their forms and no power is ever worked out. This is sound because a form
stands for a rational number, its value, and no other form that arises stands for the same one: the
exponents of two and five are how often these primes go into the number, and what is left is a
fraction in lowest terms.
-/

namespace TextTemplate

namespace Factored

/-! ## Taking out a factor -/

theorem eq_pow_mul_takeOut (factor times n : Nat) :
    n = factor ^ (takeOut factor times n).1 * (takeOut factor times n).2 := by
  induction times generalizing n with
  | zero => rw [takeOut, pow_zero, one_mul]
  | succ times ih =>
    rw [takeOut]
    split_ifs with hmod
    · calc n = factor * (n / factor) := (Nat.mul_div_cancel' (Nat.dvd_of_mod_eq_zero hmod)).symm
        _ = factor * (factor ^ (takeOut factor times (n / factor)).1
              * (takeOut factor times (n / factor)).2) := by rw [← ih]
        _ = _ := by rw [pow_succ', mul_assoc]
    · rw [pow_zero, one_mul]

/-- A factor goes into a number less often than the number has binary digits, so nothing of it is
left in the end. -/
theorem not_dvd_takeOut {factor times n : Nat} (hfactor : 1 < factor) (hn : 0 < n)
    (htimes : n < 2 ^ times) : ¬ factor ∣ (takeOut factor times n).2 := by
  induction times generalizing n with
  | zero => omega
  | succ times ih =>
    rw [takeOut]
    split_ifs with hmod
    -- Each time the number loses one binary digit at least.
    · have hdvd : factor ∣ n := Nat.dvd_of_mod_eq_zero hmod
      have hhalf : n / factor ≤ n / 2 := Nat.div_le_div_left hfactor two_pos
      rw [pow_succ] at htimes
      exact ih (Nat.div_pos (Nat.le_of_dvd hn hdvd) (by omega)) (by omega)
    · rwa [Nat.dvd_iff_mod_eq_zero]

theorem eq_pow_mul_takeOutAll (factor n : Nat) :
    n = factor ^ (takeOutAll factor n).1 * (takeOutAll factor n).2 :=
  eq_pow_mul_takeOut factor _ n

theorem not_dvd_takeOutAll {factor n : Nat} (hfactor : 1 < factor) (hn : 0 < n) :
    ¬ factor ∣ (takeOutAll factor n).2 :=
  not_dvd_takeOut hfactor hn Nat.lt_log2_self

theorem takeOutAll_dvd (factor n : Nat) : (takeOutAll factor n).2 ∣ n :=
  ⟨_, (eq_pow_mul_takeOutAll factor n).trans (mul_comm _ _)⟩

theorem not_dvd_takeOutAll_takeOutAll {factor other n : Nat} (hfactor : 1 < factor)
    (hother : 1 < other) (hn : 0 < n) :
    ¬ factor ∣ (takeOutAll other (takeOutAll factor n).2).2 ∧
      ¬ other ∣ (takeOutAll other (takeOutAll factor n).2).2 := by
  constructor
  · intro hdvd
    exact not_dvd_takeOutAll hfactor hn (hdvd.trans (takeOutAll_dvd other _))
  · exact not_dvd_takeOutAll hother (takeOutAll_snd_pos hn factor)

/-! ## Values -/

def value (form : Factored) : ℚ :=
  2 ^ form.twos * 5 ^ form.fives * (form.numerator / form.denominator)

theorem powers_ne_zero (twos fives : Int) : (2 : ℚ) ^ twos * 5 ^ fives ≠ 0 :=
  mul_ne_zero (zpow_ne_zero _ two_ne_zero) (zpow_ne_zero _ (by norm_num))

theorem value_zero : zero.value = 0 := by
  rw [value, zero]
  simp

end Factored

theorem Scientific.signed_mul (negative : Bool) (m n : Nat) :
    signed negative (m * n) = m * signed negative n := by
  rw [signed, signed]
  split_ifs <;> push_cast <;> ring

theorem Scientific.natAbs_signed (negative : Bool) (n : Nat) : (signed negative n).natAbs = n := by
  rw [signed]
  split_ifs <;> omega

theorem Scientific.signed_natAbs (n : Int) : signed (n < 0) n.natAbs = n := by
  rw [signed]
  simp only [decide_eq_true_eq]
  split_ifs <;> omega

namespace Factored

theorem exists_scaled_eq {q : ℚ} (hq : q ≠ 0) (twos fives : Int) :
    ∃ twosAbove fivesAbove numerator twosBelow fivesBelow denominator : Nat,
      scaled twos fives q = ⟨twos + twosAbove - twosBelow, fives + fivesAbove - fivesBelow,
          Scientific.signed (q.num < 0) numerator, denominator⟩ ∧
        q.num.natAbs = 2 ^ twosAbove * 5 ^ fivesAbove * numerator ∧
        q.den = 2 ^ twosBelow * 5 ^ fivesBelow * denominator ∧
        (¬ 2 ∣ numerator ∧ ¬ 5 ∣ numerator) ∧ (¬ 2 ∣ denominator ∧ ¬ 5 ∣ denominator) := by
  have hnum : q.num ≠ 0 := Rat.num_ne_zero.mpr hq
  have hparts (n : Nat) : n = 2 ^ (takeOutAll 2 n).1 * 5 ^ (takeOutAll 5 (takeOutAll 2 n).2).1
      * (takeOutAll 5 (takeOutAll 2 n).2).2 := by
    rw [mul_assoc, ← eq_pow_mul_takeOutAll, ← eq_pow_mul_takeOutAll]
  have hrest {n : Nat} (hn : 0 < n) :=
    not_dvd_takeOutAll_takeOutAll (show 1 < 2 by decide) (show 1 < 5 by decide) hn
  refine ⟨_, _, _, _, _, _, ?_, hparts _, hparts _, hrest (Int.natAbs_pos.mpr hnum),
    hrest q.den_pos⟩
  rw [scaled, if_neg hnum]

/-- **The form of a number stands for the number.** -/
theorem value_scaled (twos fives : Int) (q : ℚ) :
    (scaled twos fives q).value = 2 ^ twos * 5 ^ fives * q := by
  by_cases hq : q = 0
  · rw [scaled_eq_zero_iff.mpr hq, value_zero, hq, mul_zero]
  · obtain ⟨twosAbove, fivesAbove, numerator, twosBelow, fivesBelow, denominator, hform, habove,
      hbelow, -⟩ := exists_scaled_eq hq twos fives
    have hnum : (q.num : ℚ)
        = 2 ^ twosAbove * 5 ^ fivesAbove * Scientific.signed (q.num < 0) numerator := by
      have hsigned := Scientific.signed_natAbs q.num
      rw [habove, Scientific.signed_mul] at hsigned
      exact_mod_cast hsigned.symm
    have hden : (denominator : ℚ) ≠ 0 := by
      intro h
      rw [Nat.cast_eq_zero.mp h, mul_zero] at hbelow
      exact q.den_ne_zero hbelow
    rw [hform, value, zpow_sub₀ two_ne_zero, zpow_add₀ two_ne_zero, zpow_sub₀ (by norm_num),
      zpow_add₀ (by norm_num)]
    conv_rhs => rw [← Rat.num_div_den q, hnum, hbelow]
    simp only [zpow_natCast]
    push_cast
    field_simp

/-! ## No other form -/

/-- Of two primes, each counts its own exponent. -/
theorem padicValRat_pow_mul {p r : Nat} [hp : Fact p.Prime] [hr : Fact r.Prime] (hne : p ≠ r)
    (a b : Int) {n : Int} {d : Nat} (hn : ¬ (p : Int) ∣ n) (hd : ¬ p ∣ d) :
    padicValRat p ((p : ℚ) ^ a * (r : ℚ) ^ b * (n / d)) = a := by
  have hp0 : (p : ℚ) ≠ 0 := Nat.cast_ne_zero.mpr hp.out.ne_zero
  have hr0 : (r : ℚ) ≠ 0 := Nat.cast_ne_zero.mpr hr.out.ne_zero
  have hn0 : (n : ℚ) ≠ 0 := by
    intro h
    exact hn (Int.cast_eq_zero.mp h ▸ dvd_zero _)
  have hd0 : (d : ℚ) ≠ 0 := by
    intro h
    exact hd (Nat.cast_eq_zero.mp h ▸ dvd_zero _)
  rw [padicValRat.mul (mul_ne_zero (zpow_ne_zero _ hp0) (zpow_ne_zero _ hr0)) (div_ne_zero hn0 hd0),
    padicValRat.mul (zpow_ne_zero _ hp0) (zpow_ne_zero _ hr0), padicValRat.div hn0 hd0,
    padicValRat.zpow, padicValRat.zpow, padicValRat.self hp.out.one_lt, padicValRat.of_nat,
    padicValNat_primes hne, padicValRat.of_int, padicValInt.eq_zero_of_not_dvd hn,
    padicValRat.of_nat, padicValNat.eq_zero_of_not_dvd hd]
  simp

/-- Neither two nor five goes into the fraction, and it is in lowest terms. -/
structure IsReduced (form : Factored) : Prop where
  /-- Neither goes into the numerator. -/
  not_dvd_numerator {factor : Nat} (h : factor = 2 ∨ factor = 5) : ¬ (factor : Int) ∣ form.numerator
  /-- Neither goes into the denominator. -/
  not_dvd_denominator {factor : Nat} (h : factor = 2 ∨ factor = 5) : ¬ factor ∣ form.denominator
  /-- Nothing goes into both. -/
  coprime : form.numerator.natAbs.Coprime form.denominator

theorem isReduced_scaled {q : ℚ} (hq : q ≠ 0) (twos fives : Int) :
    (scaled twos fives q).IsReduced := by
  obtain ⟨twosAbove, fivesAbove, numerator, twosBelow, fivesBelow, denominator, hform, habove,
    hbelow, hnumerator, hdenominator⟩ := exists_scaled_eq hq twos fives
  have hnatAbs := Scientific.natAbs_signed (q.num < 0) numerator
  rw [hform]
  refine ⟨?_, ?_, ?_⟩
  · rintro factor (rfl | rfl)
    · rw [Int.natCast_dvd, hnatAbs]
      exact hnumerator.1
    · rw [Int.natCast_dvd, hnatAbs]
      exact hnumerator.2
  · rintro factor (rfl | rfl)
    · exact hdenominator.1
    · exact hdenominator.2
  · show Nat.Coprime (Scientific.signed (q.num < 0) numerator).natAbs denominator
    rw [hnatAbs]
    exact q.reduced.of_dvd (habove ▸ Dvd.intro_left _ rfl) (hbelow ▸ Dvd.intro_left _ rfl)

namespace IsReduced

variable {form other : Factored}

theorem denominator_ne_zero (h : form.IsReduced) : form.denominator ≠ 0 := by
  intro hzero
  exact h.not_dvd_denominator (Or.inl rfl) (hzero ▸ dvd_zero _)

theorem padicValRat_two (h : form.IsReduced) : padicValRat 2 form.value = form.twos := by
  have : Fact (Nat.Prime 5) := ⟨Nat.prime_five⟩
  exact padicValRat_pow_mul (show 2 ≠ 5 by decide) form.twos form.fives
    (h.not_dvd_numerator (Or.inl rfl)) (h.not_dvd_denominator (Or.inl rfl))

theorem padicValRat_five (h : form.IsReduced) : padicValRat 5 form.value = form.fives := by
  have : Fact (Nat.Prime 5) := ⟨Nat.prime_five⟩
  rw [value, mul_comm ((2 : ℚ) ^ form.twos)]
  exact padicValRat_pow_mul (show 5 ≠ 2 by decide) form.fives form.twos
    (h.not_dvd_numerator (Or.inr rfl)) (h.not_dvd_denominator (Or.inr rfl))

/-- The value has only one form. -/
theorem eq_of_value_eq (h : form.IsReduced) (hother : other.IsReduced)
    (hvalue : form.value = other.value) : form = other := by
  have htwos : form.twos = other.twos := by
    rw [← h.padicValRat_two, hvalue, hother.padicValRat_two]
  have hfives : form.fives = other.fives := by
    rw [← h.padicValRat_five, hvalue, hother.padicValRat_five]
  have hquotient : (form.numerator : ℚ) / form.denominator
      = other.numerator / other.denominator := by
    rw [value, value, htwos, hfives] at hvalue
    exact mul_left_cancel₀ (powers_ne_zero _ _) hvalue
  -- What is left without the powers is a fraction in lowest terms, and those are unique.
  obtain ⟨hnumerator, hdenominator⟩ := Rat.div_int_inj
    (Int.natCast_pos.mpr (Nat.pos_of_ne_zero h.denominator_ne_zero))
    (Int.natCast_pos.mpr (Nat.pos_of_ne_zero hother.denominator_ne_zero))
    h.coprime hother.coprime (by exact_mod_cast hquotient)
  cases form
  cases other
  rw [mk.injEq]
  exact ⟨htwos, hfives, hnumerator, Int.natCast_inj.mp hdenominator⟩

end IsReduced

/-- **Two forms are the same exactly when they stand for the same number.** -/
theorem scaled_eq_scaled_iff {twos fives twos' fives' : Int} {q q' : ℚ} :
    scaled twos fives q = scaled twos' fives' q' ↔
      (2 : ℚ) ^ twos * 5 ^ fives * q = 2 ^ twos' * 5 ^ fives' * q' := by
  constructor
  · intro h
    rw [← value_scaled, h, value_scaled]
  · intro h
    have hzero {q : ℚ} (twos fives : Int) : (2 : ℚ) ^ twos * 5 ^ fives * q = 0 ↔ q = 0 := by
      rw [mul_eq_zero, or_iff_right (powers_ne_zero _ _)]
    by_cases hq : q = 0
    · have hq' : q' = 0 := by rwa [← hzero twos' fives', ← h, hzero]
      rw [scaled_eq_zero_iff.mpr hq, scaled_eq_zero_iff.mpr hq']
    · have hq' : q' ≠ 0 := by rwa [ne_eq, ← hzero twos' fives', ← h, hzero]
      apply (isReduced_scaled hq twos fives).eq_of_value_eq (isReduced_scaled hq' twos' fives')
      rw [value_scaled, value_scaled, h]

end Factored

end TextTemplate
