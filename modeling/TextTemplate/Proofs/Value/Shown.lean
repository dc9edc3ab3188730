import Mathlib.Algebra.Group.Nat.Defs
import Mathlib.Tactic.SplitIfs
import TextTemplate.Value.Shown

/-!
# Which values have a text

A numeral has at least one digit, a sign or a point does not take it away, and everything else that
is described here is written with a name, a bracket or a quote around it. So of all values only the
empty text is shown by no characters, apart from what objects say of themselves.

A number may be laid out with its point anywhere, so its digits may all stand behind the point. The
layout then puts a zero before it, and what stands before the point is never empty.

## Values without a text

A value has no text if an integer in it is too long or an object in it does not tell its text,
however deep in a collection they stand. `Unwritten` says so with no reference to the layout.
-/

namespace TextTemplate

/-! ## Numerals -/

namespace Text

theorem ofNat_ne_nil (n : Nat) : ofNat n ≠ [] := Nat.toDigits_ne_nil

theorem ofInt_ne_nil (n : Int) : ofInt n ≠ [] := by
  cases n with
  | ofNat n => exact ofNat_ne_nil n
  | negSucc n => exact List.cons_ne_nil _ _

theorem signed_ne_nil {unsigned : Text} (h : unsigned ≠ []) (negative : Bool) :
    (if negative then '-' :: unsigned else unsigned) ≠ [] := by
  split_ifs
  · exact List.cons_ne_nil _ _
  · exact h

end Text

namespace Scientific

theorem withPoint_fst_ne_nil {digits : Text} (hdigits : digits ≠ []) (places : Int) :
    (withPoint digits places).1 ≠ [] := by
  rw [withPoint]
  split_ifs with hplaces
  · exact List.cons_ne_nil _ _
  · have htake : digits.take places.toNat ≠ [] := by
      rw [ne_eq, List.take_eq_nil_iff, not_or]
      exact ⟨by omega, hdigits⟩
    exact List.append_ne_nil_of_left_ne_nil htake _

end Scientific

namespace Binary64

theorem aroundPoint_ne_nil {parts : Text × Text} (h : parts.1 ≠ []) (wholeEnd : Text) :
    aroundPoint parts wholeEnd ≠ [] := by
  rw [aroundPoint]
  split_ifs <;> exact List.append_ne_nil_of_left_ne_nil h _

theorem Layout.apply_ne_nil (layout : Layout) (s : Scientific) : layout.apply s ≠ [] := by
  have hparts (places : Int) : (Scientific.withPoint (Text.ofNat s.digits) places).1 ≠ [] :=
    Scientific.withPoint_fst_ne_nil (Text.ofNat_ne_nil s.digits) places
  rw [Layout.apply]
  split
  · exact aroundPoint_ne_nil (hparts _) _
  · exact List.append_ne_nil_of_left_ne_nil (aroundPoint_ne_nil (hparts _) _) _

theorem text_ne_nil (layout : Layout) (x : Binary64) : x.text layout ≠ [] := by
  refine Text.signed_ne_nil ?_ x.isNegative
  cases x with
  | finite => exact layout.apply_ne_nil _
  | infinity | nan => exact List.cons_ne_nil _ _

end Binary64

theorem Decimal.text_ne_nil (d : Decimal) : d.text ≠ [] := by
  refine Text.signed_ne_nil ?_ d.isNegative
  rw [unsignedText.eq_def]
  cases d with
  | finite _ coefficient =>
    have hparts := Scientific.withPoint_fst_ne_nil (Text.ofNat_ne_nil coefficient)
    exact List.append_ne_nil_of_left_ne_nil
      (List.append_ne_nil_of_left_ne_nil (hparts _) _) _
  | infinity => simp
  | nan => simp [nanName]

namespace Value

/-! ## Integers -/

/-- The integer has more digits than are written. -/
def IsLong (n : Int) : Prop := 10 ^ LeadingInteger.digitLimit ≤ n.natAbs

theorem lt_length_ofNat_iff {limit n : Nat} (hlimit : 0 < limit) :
    limit < (Text.ofNat n).length ↔ 10 ^ limit ≤ n := by
  rw [Text.ofNat, ← Nat.not_le, Nat.length_toDigits_le_iff (by decide) hlimit, Nat.not_lt]

theorem numeral_of_isLong {n : Int} (h : IsLong n) : numeral n = .error .tooManyDigits :=
  if_pos ((lt_length_ofNat_iff (by decide)).mpr h)

theorem numeral_of_not_isLong {n : Int} (h : ¬ IsLong n) : numeral n = .ok (Text.ofInt n) :=
  if_neg (mt (lt_length_ofNat_iff (by decide)).mp h)

theorem exists_numeral_eq_error_iff {n : Int} :
    (∃ failure, numeral n = .error failure) ↔ IsLong n := by
  by_cases h : IsLong n
  · exact iff_of_true ⟨_, numeral_of_isLong h⟩ h
  · rw [numeral_of_not_isLong h]
    exact iff_of_false nofun h

theorem numeral_ne_nil (n : Int) : numeral n ≠ .ok [] := by
  by_cases h : IsLong n
  · rw [numeral_of_isLong h]
    exact nofun
  · rw [numeral_of_not_isLong h, ne_eq, Except.ok.injEq]
    exact Text.ofInt_ne_nil n

/-! ## Failing texts -/

section

variable {ε α β : Type} {a : Except ε α}

theorem exists_map_eq_error_iff {f : α → β} :
    (∃ failure, a.map f = .error failure) ↔ ∃ failure, a = .error failure := by
  cases a <;> simp [Except.map]

/-- A computation that fails or not, whatever comes of the one before it. -/
theorem exists_bind_eq_error_iff_or {f : α → Except ε β} {fails : Prop}
    (hf : ∀ x, (∃ failure, f x = .error failure) ↔ fails) :
    (∃ failure, a.bind f = .error failure) ↔ (∃ failure, a = .error failure) ∨ fails := by
  cases a <;> simp [Except.bind, hf]

theorem map_ne_ok_nil {f : α → Text} (hf : ∀ x, f x ≠ []) : a.map f ≠ .ok [] := by
  cases a <;> simp [Except.map, hf]

theorem bind_ne_ok_nil {f : α → Except ε Text} (hf : ∀ x, f x ≠ .ok []) : a.bind f ≠ .ok [] := by
  cases a <;> simp [Except.bind, hf]

end

/-! ## Fractions -/

theorem exists_namedFraction_eq_error_iff {q : Rat} :
    (∃ failure, namedFraction q = .error failure) ↔ IsLong q.num ∨ IsLong q.den := by
  rw [namedFraction, exists_bind_eq_error_iff_or fun _ ↦ exists_map_eq_error_iff,
    exists_numeral_eq_error_iff, exists_numeral_eq_error_iff]

theorem exists_fractionText_eq_error_iff {q : Rat} :
    (∃ failure, fractionText q = .error failure) ↔ IsLong q.num ∨ IsLong q.den := by
  rw [fractionText]
  split_ifs with hden
  · have hshort : ¬ IsLong q.den := by
      rw [hden, IsLong]
      exact Nat.not_le.mpr (Nat.one_lt_pow (by decide) (by decide))
    rw [exists_numeral_eq_error_iff, or_iff_left hshort]
  · rw [exists_bind_eq_error_iff_or fun _ ↦ exists_map_eq_error_iff,
      exists_numeral_eq_error_iff, exists_numeral_eq_error_iff]

theorem fractionText_ne_nil (q : Rat) : fractionText q ≠ .ok [] := by
  rw [fractionText]
  split_ifs
  · exact numeral_ne_nil q.num
  · exact bind_ne_ok_nil fun above ↦ map_ne_ok_nil fun below ↦ by simp

/-! ## The parts of a value -/

/-- The value stands in the other, a collection, without another collection between them. -/
inductive PartOf : Value → Value → Prop
  | listItem {items : List Value} {item : Value} (h : item ∈ items) : PartOf item (.list items)
  | tupleItem {items : List Value} {item : Value} (h : item ∈ items) : PartOf item (.tuple items)
  | key {entries : List (Value × Value)} {entry : Value × Value} (h : entry ∈ entries) :
    PartOf entry.1 (.dict entries)
  | content {entries : List (Value × Value)} {entry : Value × Value} (h : entry ∈ entries) :
    PartOf entry.2 (.dict entries)

theorem PartOf.sizeOf_lt {part value : Value} (h : PartOf part value) :
    sizeOf part < sizeOf value := by
  have hentry (entry : Value × Value) : sizeOf entry = 1 + sizeOf entry.1 + sizeOf entry.2 := rfl
  cases h with
  | listItem h =>
    have := List.sizeOf_lt_of_mem h
    rw [list.sizeOf_spec]
    omega
  | tupleItem h =>
    have := List.sizeOf_lt_of_mem h
    rw [tuple.sizeOf_spec]
    omega
  | @key entries entry h | @content entries entry h =>
    have := List.sizeOf_lt_of_mem h
    have := hentry entry
    rw [dict.sizeOf_spec]
    omega

/-- What holds of a value if it holds of its parts holds of every value. -/
theorem part_induction {motive : Value → Prop}
    (step : ∀ value, (∀ part, PartOf part value → motive part) → motive value) (value : Value) :
    motive value := by
  apply step
  intro part hpart
  have hlt := hpart.sizeOf_lt
  exact part_induction step part
termination_by value

section

variable {such : Value → Prop} {items : List Value} {entries : List (Value × Value)}

theorem exists_partOf_list_iff :
    (∃ part, PartOf part (.list items) ∧ such part) ↔ ∃ item ∈ items, such item := by
  constructor
  · rintro ⟨part, hpart, hsuch⟩
    cases hpart with
    | listItem h => exact ⟨part, h, hsuch⟩
  · rintro ⟨item, hitem, hsuch⟩
    exact ⟨item, .listItem hitem, hsuch⟩

theorem exists_partOf_tuple_iff :
    (∃ part, PartOf part (.tuple items) ∧ such part) ↔ ∃ item ∈ items, such item := by
  constructor
  · rintro ⟨part, hpart, hsuch⟩
    cases hpart with
    | tupleItem h => exact ⟨part, h, hsuch⟩
  · rintro ⟨item, hitem, hsuch⟩
    exact ⟨item, .tupleItem hitem, hsuch⟩

theorem exists_partOf_dict_iff :
    (∃ part, PartOf part (.dict entries) ∧ such part) ↔
      ∃ entry ∈ entries, such entry.1 ∨ such entry.2 := by
  constructor
  · rintro ⟨part, hpart, hsuch⟩
    cases hpart with
    | key h => exact ⟨_, h, Or.inl hsuch⟩
    | content h => exact ⟨_, h, Or.inr hsuch⟩
  · rintro ⟨entry, hentry, hsuch | hsuch⟩
    · exact ⟨entry.1, .key hentry, hsuch⟩
    · exact ⟨entry.2, .content hentry, hsuch⟩

end

/-! ## Values without a text -/

/-- The value is an integer or fraction that is too long, or does not tell its text. -/
def LacksText : Value → Prop
  | .int n => IsLong n
  | .fraction q => IsLong q.num ∨ IsLong q.den
  | .odd _ traits | .object _ traits _ => ∃ failure, traits.written = .error failure
  | _ => False

/-- The value, or a part of it at any depth, lacks a text. -/
inductive Unwritten : Value → Prop
  | here {value : Value} (h : LacksText value) : Unwritten value
  | part {part value : Value} (hpart : PartOf part value) (h : Unwritten part) : Unwritten value

/-- The value has no text by itself. Odd numbers and objects may tell one and not the other. -/
def Unshown : Value → Prop
  | .odd _ traits | .object _ traits _ => ∃ failure, traits.shown = .error failure
  | value => Unwritten value

theorem unwritten_iff {value : Value} :
    Unwritten value ↔ LacksText value ∨ ∃ part, PartOf part value ∧ Unwritten part := by
  constructor
  · intro h
    cases h with
    | here h => exact Or.inl h
    | part hpart h => exact Or.inr ⟨_, hpart, h⟩
  · rintro (h | ⟨part, hpart, h⟩)
    · exact .here h
    · exact .part hpart h

theorem unwritten_iff_lacksText {value : Value} (h : ∀ part, ¬ PartOf part value) :
    Unwritten value ↔ LacksText value := by
  rw [unwritten_iff, or_iff_left]
  rintro ⟨part, hpart, -⟩
  exact h part hpart

theorem unwritten_iff_part {value : Value} (h : ¬ LacksText value) :
    Unwritten value ↔ ∃ part, PartOf part value ∧ Unwritten part := by
  rw [unwritten_iff, or_iff_right h]

theorem exists_writtenItems_eq_error_iff {items : List Value} :
    (∃ failure, writtenItems items = .error failure) ↔
      ∃ item ∈ items, ∃ failure, written item = .error failure := by
  induction items with
  | nil => simp [writtenItems]
  | cons item items ih =>
    rw [writtenItems, exists_bind_eq_error_iff_or fun _ ↦ exists_map_eq_error_iff, ih]
    simp only [List.mem_cons, exists_eq_or_imp]

theorem exists_writtenEntries_eq_error_iff {entries : List (Value × Value)} :
    (∃ failure, writtenEntries entries = .error failure) ↔
      ∃ entry ∈ entries, (∃ failure, written entry.1 = .error failure) ∨
        ∃ failure, written entry.2 = .error failure := by
  induction entries with
  | nil => simp [writtenEntries]
  | cons entry entries ih =>
    obtain ⟨key, value⟩ := entry
    simp only [List.mem_cons, exists_eq_or_imp]
    rw [writtenEntries, ← ih, or_assoc]
    refine exists_bind_eq_error_iff_or fun keyText ↦ ?_
    exact exists_bind_eq_error_iff_or fun text ↦ exists_map_eq_error_iff

/-- **A value is written inside a collection unless it, or a part of it, lacks a text.** -/
theorem exists_written_eq_error_iff {value : Value} :
    (∃ failure, value.written = .error failure) ↔ Unwritten value := by
  induction value using part_induction with | step value ih =>
  cases value with
  | int n =>
    rw [unwritten_iff_lacksText (by nofun), written]
    exact exists_numeral_eq_error_iff
  | fraction q =>
    rw [unwritten_iff_lacksText (by nofun), written]
    exact exists_namedFraction_eq_error_iff
  | odd identity traits | object identity traits attributes =>
    rw [unwritten_iff_lacksText (by nofun), written, LacksText]
  | list items =>
    rw [unwritten_iff_part id, written, exists_map_eq_error_iff, exists_writtenItems_eq_error_iff,
      exists_partOf_list_iff]
    exact exists_congr fun item ↦ and_congr_right fun hitem ↦ ih item (.listItem hitem)
  | tuple items =>
    rw [unwritten_iff_part id, written, exists_map_eq_error_iff, exists_writtenItems_eq_error_iff,
      exists_partOf_tuple_iff]
    exact exists_congr fun item ↦ and_congr_right fun hitem ↦ ih item (.tupleItem hitem)
  | dict entries =>
    rw [unwritten_iff_part id, written, exists_map_eq_error_iff, exists_writtenEntries_eq_error_iff,
      exists_partOf_dict_iff]
    refine exists_congr fun entry ↦ and_congr_right fun hentry ↦ ?_
    exact or_congr (ih entry.1 (.key hentry)) (ih entry.2 (.content hentry))
  | _ =>
    rw [unwritten_iff_lacksText (by nofun), written]
    exact iff_of_false nofun id

theorem exists_shown_eq_error_iff {value : Value} :
    (∃ failure, value.shown = .error failure) ↔ Unshown value := by
  cases value with
  | fraction q =>
    rw [shown, Unshown, unwritten_iff_lacksText (by nofun)]
    · exact exists_fractionText_eq_error_iff
    · exact nofun
    · exact nofun
  | text | decimal =>
    rw [shown, Unshown, unwritten_iff_lacksText (by nofun)]
    · exact iff_of_false nofun id
    · exact nofun
    · exact nofun
  | odd identity traits | object identity traits attributes => rw [shown, Unshown]
  | _ => exact exists_written_eq_error_iff

/-! ## Texts without characters -/

/-- An odd number or an object that tells a text without characters. -/
def TellsNothing : Value → Prop
  | .odd _ traits | .object _ traits _ => traits.shown = .ok []
  | _ => False

theorem complexText_ne_nil (x y : Binary64) : complexText x y ≠ [] := by
  rw [complexText]
  split_ifs
  · exact List.append_ne_nil_of_left_ne_nil (y.text_ne_nil _) _
  · exact List.cons_ne_nil _ _

/-- Of all values only the empty text is shown by no characters, unless the value says so itself. -/
theorem shown_eq_ok_nil_iff {value : Value} :
    value.shown = .ok [] ↔ value = .text [] ∨ TellsNothing value := by
  cases value with
  | text characters => simp [shown, TellsNothing]
  | decimal _ d => simpa [shown, TellsNothing] using d.text_ne_nil
  | fraction q => simpa [shown, TellsNothing] using fractionText_ne_nil q
  | int n => simpa [shown, written, TellsNothing] using numeral_ne_nil n
  | float _ x => simpa [shown, written, TellsNothing] using x.text_ne_nil _
  | complex _ x y => simpa [shown, written, TellsNothing] using complexText_ne_nil x y
  | bool b => cases b <;> simp [shown, written, TellsNothing, truthText]
  | list | tuple | dict =>
    rw [shown, written]
    · exact iff_of_false (map_ne_ok_nil fun texts ↦ List.cons_ne_nil _ _) (by simp [TellsNothing])
    all_goals exact nofun
  | odd identity traits | object identity traits attributes => simp [shown, TellsNothing]
  | none | bytes | missing => simp [shown, written, TellsNothing, Quoted.bytes]

end Value

end TextTemplate
