import Mathlib.Data.Rat.Lemmas
import Mathlib.Tactic.SplitIfs
import TextTemplate.Number.Exact

/-!
# Zero and nothing among the exact values

Whether a number is zero can be asked in two ways: its digits may all be zero, or its exact value may
be the zero. The second is how numbers of different kinds are compared, and it goes through a form
from which the factors two and five have been taken out. Nothing but zero has the form of zero,
because what is left of a positive number is positive.

The numbers that denote nothing are the ones that are called not-a-number, and no others.
-/

namespace TextTemplate

namespace Factored

theorem takeOut_snd_pos {n : Nat} (hn : 0 < n) (factor times : Nat) :
    0 < (takeOut factor times n).2 := by
  induction times generalizing n with
  | zero => exact hn
  | succ times ih =>
    rw [takeOut]
    split_ifs with hmod
    · have hdvd : factor ∣ n := Nat.dvd_of_mod_eq_zero hmod
      exact ih (Nat.div_pos (Nat.le_of_dvd hn hdvd) (Nat.pos_of_dvd_of_pos hdvd hn))
    · exact hn

theorem takeOutAll_snd_pos {n : Nat} (hn : 0 < n) (factor : Nat) :
    0 < (takeOutAll factor n).2 :=
  takeOut_snd_pos hn factor _

end Factored

@[simp] theorem Scientific.signed_eq_zero_iff {negative : Bool} {n : Nat} :
    signed negative n = 0 ↔ n = 0 := by
  rw [signed]
  split_ifs <;> omega

namespace Factored

@[simp] theorem scaled_eq_zero_iff {twos fives : Int} {q : Rat} :
    scaled twos fives q = zero ↔ q = 0 := by
  constructor
  · intro h
    by_contra hq
    have hnum : q.num ≠ 0 := Rat.num_ne_zero.mpr hq
    have hpos : 0 < (takeOutAll 5 (takeOutAll 2 q.num.natAbs).2).2 :=
      takeOutAll_snd_pos (takeOutAll_snd_pos (Int.natAbs_pos.mpr hnum) 2) 5
    have hzero : (scaled twos fives q).numerator = 0 := by rw [h]; rfl
    rw [scaled, if_neg hnum] at hzero
    exact hpos.ne' (Scientific.signed_eq_zero_iff.mp hzero)
  · rintro rfl
    rfl

end Factored

namespace ExactReal

/-! ## Which numbers have the exact value zero -/

@[simp] theorem ofRat_eq_zero_iff {q : Rat} : ofRat q = .rational .zero ↔ q = 0 := by
  rw [ofRat, rational.injEq, Factored.ofRat, Factored.scaled_eq_zero_iff]

@[simp] theorem ofInt_eq_zero_iff {n : Int} : ofInt n = .rational .zero ↔ n = 0 := by
  rw [ofInt, ofRat_eq_zero_iff]
  exact Rat.intCast_inj

@[simp] theorem ofBinary_eq_zero_iff {x : Binary64} :
    ofBinary x = .rational .zero ↔ x.isZero = true := by
  cases x <;> simp [ofBinary, Binary64.isZero]

@[simp] theorem ofDecimal_eq_zero_iff {d : Decimal} :
    ofDecimal d = .rational .zero ↔ d.isZero = true := by
  cases d <;> simp [ofDecimal, Decimal.isZero]

/-! ## Which numbers denote nothing -/

@[simp] theorem ofRat_ne_none (q : Rat) : ofRat q ≠ .none := nofun

@[simp] theorem ofInt_ne_none (n : Int) : ofInt n ≠ .none := nofun

@[simp] theorem ofBinary_eq_none_iff {x : Binary64} : ofBinary x = .none ↔ x = .nan := by
  cases x <;> simp [ofBinary]

@[simp] theorem ofDecimal_eq_none_iff {d : Decimal} :
    ofDecimal d = .none ↔ ∃ negative signaling diagnosis, d = .nan negative signaling diagnosis := by
  cases d <;> simp [ofDecimal]

end ExactReal

/-- A zero is no signaling number, so it does not refuse to be compared with zero. -/
theorem Decimal.equalsZero_eq_ok_true_iff {d : Decimal} :
    d.equalsZero = .ok true ↔ d.isZero = true := by
  cases d with
  | nan negative signaling => cases signaling <;> simp [equalsZero, isSignaling, isZero]
  | _ => simp [equalsZero, isSignaling]

namespace ExactNumber

def zero : ExactNumber := ⟨.rational .zero, .rational .zero⟩

theorem ofReal_ofInt_zero : ofReal (.ofInt 0) = zero := rfl

theorem eq_zero_iff {a : ExactNumber} :
    a = zero ↔ a.real = .rational .zero ∧ a.imaginary = .rational .zero := by
  cases a
  rw [zero, mk.injEq]

theorem isNumber_of_equal {a b : ExactNumber} (h : a.equal b = true) :
    a.isNumber = true ∧ b.isNumber = true := by
  rw [equal, Bool.and_eq_true, decide_eq_true_iff] at h
  obtain ⟨ha, rfl⟩ := h
  exact ⟨ha, ha⟩

theorem equal_zero_iff {a : ExactNumber} : a.equal zero = true ↔ a = zero := by
  rw [equal, Bool.and_eq_true, decide_eq_true_iff, and_iff_right_iff_imp]
  rintro rfl
  rfl

theorem isNumber_eq_false_iff {a : ExactNumber} :
    a.isNumber = false ↔ a.real = .none ∨ a.imaginary = .none := by
  rw [isNumber, Bool.and_eq_false_iff]
  simp

end ExactNumber

end TextTemplate
