import TextTemplate.Proofs.Number.Factored
import TextTemplate.Proofs.Value.Emptiness

/-!
# What numbers are worth

Numbers of six kinds are compared by their exact values, and exact values are compared by their
forms. What a number is worth does not know of forms: it is a pair of rational numbers or
infinities, worked out in full however great the exponents are. Two numbers are equal exactly when
they are worth the same. A number with a part that denotes nothing is worth nothing, and equals
none.
-/

namespace TextTemplate

inductive Worth where
  | rational (q : ℚ)
  | infinity (negative : Bool)

def Binary64.worth? : Binary64 → Option Worth
  | .finite negative mantissa exponent =>
    some (.rational (2 ^ exponent * Scientific.signed negative mantissa))
  | .infinity negative => some (.infinity negative)
  | .nan => none

def Decimal.worth? : Decimal → Option Worth
  | .finite negative coefficient exponent =>
    some (.rational (10 ^ exponent * Scientific.signed negative coefficient))
  | .infinity negative => some (.infinity negative)
  | .nan _ _ _ => none

namespace ExactReal

/-! ## Exact values and worth -/

/-- The exact value of so much worth. -/
def ofWorth : Worth → ExactReal
  | .rational q => ofRat q
  | .infinity negative => .infinity negative

theorem ofWorth_ne_none (worth : Worth) : ofWorth worth ≠ .none := by
  cases worth <;> exact nofun

theorem ofRat_injective {q r : ℚ} (h : ofRat q = ofRat r) : q = r := by
  rw [ofRat, ofRat, rational.injEq, Factored.ofRat, Factored.ofRat,
    Factored.scaled_eq_scaled_iff] at h
  simpa using h

theorem ofWorth_injective {worth other : Worth} (h : ofWorth worth = ofWorth other) :
    worth = other := by
  cases worth with
  | rational q =>
    cases other with
    | rational r => rw [ofRat_injective h]
    | infinity negative => cases h
  | infinity negative =>
    cases other with
    | rational r => cases h
    | infinity other => rw [infinity.inj h]

theorem rational_scaled (twos fives : Int) (q : ℚ) :
    rational (.scaled twos fives q) = ofRat (2 ^ twos * 5 ^ fives * q) := by
  rw [ofRat, Factored.ofRat, rational.injEq, Factored.scaled_eq_scaled_iff]
  simp

theorem ofBinary_eq_ofWorth {x : Binary64} {worth : Worth} (h : x.worth? = some worth) :
    ofBinary x = ofWorth worth := by
  cases x with
  | finite negative mantissa exponent =>
    obtain rfl := Option.some.inj h
    rw [ofBinary, rational_scaled, ofWorth, zpow_zero, mul_one]
  | infinity negative =>
    obtain rfl := Option.some.inj h
    rfl
  | nan => cases h

theorem ofDecimal_eq_ofWorth {d : Decimal} {worth : Worth} (h : d.worth? = some worth) :
    ofDecimal d = ofWorth worth := by
  cases d with
  | finite negative coefficient exponent =>
    obtain rfl := Option.some.inj h
    rw [ofDecimal, rational_scaled, ofWorth, ← mul_zpow]
    norm_num
  | infinity negative =>
    obtain rfl := Option.some.inj h
    rfl
  | nan => cases h

end ExactReal

namespace Value

/-- The worth of a number, real and imaginary part. -/
def worth? : Value → Option (Worth × Worth)
  | .bool b => some (.rational (if b then 1 else 0), .rational 0)
  | .int n => some (.rational n, .rational 0)
  | .float _ x => x.worth?.map fun real ↦ (real, .rational 0)
  | .decimal _ d => d.worth?.map fun real ↦ (real, .rational 0)
  | .fraction q => some (.rational q, .rational 0)
  | .complex _ x y => x.worth?.bind fun real ↦ y.worth?.map fun imaginary ↦ (real, imaginary)
  | _ => Option.none

variable {a b : Value}

theorem number?_of_worth? {real imaginary : Worth} (h : a.worth? = some (real, imaginary)) :
    a.number? = some ⟨.ofWorth real, .ofWorth imaginary⟩ := by
  cases a with
  | bool b =>
    obtain ⟨rfl, rfl⟩ := Prod.mk.inj (Option.some.inj h)
    cases b <;> rfl
  | int n | fraction q =>
    obtain ⟨rfl, rfl⟩ := Prod.mk.inj (Option.some.inj h)
    rfl
  | float _ x =>
    obtain ⟨_, hx, hworth⟩ := Option.map_eq_some_iff.mp h
    obtain ⟨rfl, rfl⟩ := Prod.mk.inj hworth
    rw [number?, ExactReal.ofBinary_eq_ofWorth hx]
    rfl
  | decimal _ d =>
    obtain ⟨_, hd, hworth⟩ := Option.map_eq_some_iff.mp h
    obtain ⟨rfl, rfl⟩ := Prod.mk.inj hworth
    rw [number?, ExactReal.ofDecimal_eq_ofWorth hd]
    rfl
  | complex _ x y =>
    obtain ⟨_, hx, h⟩ := Option.bind_eq_some_iff.mp h
    obtain ⟨_, hy, hworth⟩ := Option.map_eq_some_iff.mp h
    obtain ⟨rfl, rfl⟩ := Prod.mk.inj hworth
    rw [number?, ExactReal.ofBinary_eq_ofWorth hx, ExactReal.ofBinary_eq_ofWorth hy]
  | _ => cases h

theorem isNumber_eq_false_of_worth?_eq_none {x : ExactNumber} (h : a.worth? = Option.none)
    (hx : a.number? = some x) : x.isNumber = false := by
  rw [ExactNumber.isNumber_eq_false_iff]
  cases a with
  | bool | int | fraction => cases h
  | float _ x =>
    obtain rfl := Option.some.inj hx
    cases x with
    | nan => exact Or.inl rfl
    | _ => cases h
  | decimal _ d =>
    obtain rfl := Option.some.inj hx
    cases d with
    | nan => exact Or.inl rfl
    | _ => cases h
  | complex _ x y =>
    obtain rfl := Option.some.inj hx
    cases x with
    | nan => exact Or.inl rfl
    | _ =>
      cases y with
      | nan => exact Or.inr rfl
      | _ => cases h
  | _ => cases hx

theorem exists_worth? {x : ExactNumber} (hx : a.number? = some x) (h : x.isNumber = true) :
    ∃ worth, a.worth? = some worth := by
  apply Option.ne_none_iff_exists'.mp
  intro hnone
  rw [isNumber_eq_false_of_worth?_eq_none hnone hx] at h
  exact Bool.noConfusion h

/-- Exact values are equal when they are worth the same. -/
theorem equal_iff_worth? {x y : ExactNumber} (hx : a.number? = some x) (hy : b.number? = some y) :
    x.equal y = true ↔ ∃ worth, a.worth? = some worth ∧ b.worth? = some worth := by
  constructor
  · intro hequal
    obtain ⟨hxnumber, hynumber⟩ := ExactNumber.isNumber_of_equal hequal
    obtain ⟨worth, hworth⟩ := exists_worth? hx hxnumber
    obtain ⟨other, hother⟩ := exists_worth? hy hynumber
    obtain rfl := Option.some.inj (hx.symm.trans (number?_of_worth? hworth))
    obtain rfl := Option.some.inj (hy.symm.trans (number?_of_worth? hother))
    rw [ExactNumber.equal, Bool.and_eq_true, decide_eq_true_iff, ExactNumber.mk.injEq] at hequal
    obtain ⟨-, hreal, himaginary⟩ := hequal
    have hsame : worth = other :=
      Prod.ext (ExactReal.ofWorth_injective hreal) (ExactReal.ofWorth_injective himaginary)
    exact ⟨worth, hworth, hsame ▸ hother⟩
  · rintro ⟨⟨real, imaginary⟩, ha, hb⟩
    obtain rfl := Option.some.inj (hx.symm.trans (number?_of_worth? ha))
    obtain rfl := Option.some.inj (hy.symm.trans (number?_of_worth? hb))
    rw [ExactNumber.equal, ExactNumber.isNumber]
    simp [ExactReal.ofWorth_ne_none]

end Value

end TextTemplate
