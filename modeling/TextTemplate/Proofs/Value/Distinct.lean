import TextTemplate.Proofs.Distinct
import TextTemplate.Proofs.Value.Equality
import TextTemplate.Value.Sequence
import TextTemplate.Value.Shown

/-!
# The first of each class of items that are the same

A list of values is cut down to the first of each class of items that are the same. An item is
compared with those kept only, never with those left out, and yet the result is what comparing it
with all earlier items would give: items that are the same have a key in common.

The same are equal items, and an item and itself. The difference shows in numbers that are worth
nothing: two of them are kept, but one that stands in the list twice is kept once.
-/

namespace TextTemplate

namespace Value

/-! ## When there is a result -/

theorem distinct_eq_ok (items : List Value) (h : ∀ item ∈ items, item.isKey = true) :
    distinct (.list items) = .ok (Distinct.firsts same items) := by
  rw [distinct, items?]
  exact if_pos (areKeys_eq_true_iff.mpr h)

theorem distinct_eq_error (items : List Value) (h : ¬ ∀ item ∈ items, item.isKey = true) :
    distinct (.list items) = .error .unsuited := by
  rw [distinct, items?]
  exact if_neg (h ∘ areKeys_eq_true_iff.mp)

theorem distinct_eq_ok_iff {items kept : List Value} :
    distinct (.list items) = .ok kept ↔
      (∀ item ∈ items, item.isKey = true) ∧ Distinct.firsts same items = kept := by
  by_cases h : ∀ item ∈ items, item.isKey = true
  · rw [distinct_eq_ok items h, Except.ok.injEq, and_iff_right h]
  · rw [distinct_eq_error items h]
    exact iff_of_false nofun fun hkept ↦ h hkept.1

theorem distinct_eq_error_iff {items : List Value} :
    distinct (.list items) = .error .unsuited ↔
      ∃ item ∈ items, item.HasListOrDict ∨ item.HasRefusal := by
  have hkeys : (∀ item ∈ items, item.isKey = true) ↔
      ¬ ∃ item ∈ items, item.HasListOrDict ∨ item.HasRefusal := by
    push Not
    exact forall₂_congr fun item _ ↦ isKey_eq_true_iff
  by_cases h : ∀ item ∈ items, item.isKey = true
  · rw [distinct_eq_ok items h]
    exact iff_of_false nofun (hkeys.mp h)
  · rw [distinct_eq_error items h]
    exact iff_of_true rfl (not_not.mp (hkeys.not.mp h))

theorem same_iff {a b : Value} (ha : a.isKey = true) (hb : b.isKey = true) :
    a.same b = true ↔ a.Same b := by
  obtain ⟨answer, hanswer, hiff⟩ := answers_sameItem ha hb
  rw [same, hanswer]
  exact hiff

/-! ## The law -/

/-- The value may be a key: neither collections nor numbers that refuse comparison are in it. -/
def IsFit (value : Value) : Prop := ¬ value.HasListOrDict ∧ ¬ value.HasRefusal

/-- What is left of a list of values. -/
structure KeepsFirsts (items : List Value) : Prop where
  /-- There is no result exactly when a list, a dictionary or a number that refuses comparison is in
  one of the items. -/
  eq_error_iff : distinct (.list items) = .error .unsuited ↔
    ∃ item ∈ items, item.HasListOrDict ∨ item.HasRefusal
  /-- Otherwise the result has the items, in order, that are the same as none before them. -/
  eq_ok : (∀ item ∈ items, item.IsFit) →
    distinct (.list items) = .ok (Distinct.unpreceded Same items)
  /-- And the same are those that are identical or that the comparison says are equal. It is not
  refused. -/
  answers : (∀ item ∈ items, item.IsFit) →
    ∀ a ∈ items, ∀ b ∈ items, Answers (sameItem a b) (a.Same b)
  /-- No two of the result are the same. -/
  not_same {kept : List Value} (h : distinct (.list items) = .ok kept) {i j : Fin kept.length}
    (hne : i ≠ j) : ¬ (kept.get i).Same (kept.get j)
  /-- Every item is the same as exactly one of the result. -/
  existsUnique {kept : List Value} (h : distinct (.list items) = .ok kept) {item : Value}
    (hitem : item ∈ items) : ∃! place : Fin kept.length, (kept.get place).Same item
  /-- Nothing more is left out the second time. -/
  again : ((distinct (.list items)).bind fun kept ↦ distinct (.list kept)) = distinct (.list items)
  /-- The result stands for the list before any other. -/
  append (more : List Value) : distinct (.list (items ++ more))
    = (distinct (.list items)).bind fun kept ↦ distinct (.list (kept ++ more))

/-- What is left stands for the list, whatever comes after and whether or not there is a result. -/
theorem distinct_append (items more : List Value) : distinct (.list (items ++ more))
    = (distinct (.list items)).bind fun kept ↦ distinct (.list (kept ++ more)) := by
  -- Items that are left out are no less keys than those that are kept, so both sides fail together.
  by_cases hitems : ∀ item ∈ items, item.isKey = true
  · rw [distinct_eq_ok items hitems, Except.bind]
    have hkept : ∀ item ∈ Distinct.firsts same items, item.isKey = true :=
      fun item hitem ↦ hitems item ((Distinct.firsts_sublist items).subset hitem)
    by_cases hmore : ∀ item ∈ more, item.isKey = true
    · rw [distinct_eq_ok _ (List.forall_mem_append.mpr ⟨hitems, hmore⟩),
        distinct_eq_ok _ (List.forall_mem_append.mpr ⟨hkept, hmore⟩), Distinct.firsts_firsts_append]
    · rw [distinct_eq_error, distinct_eq_error]
      · exact fun h ↦ hmore (List.forall_mem_append.mp h).2
      · exact fun h ↦ hmore (List.forall_mem_append.mp h).2
  · rw [distinct_eq_error items hitems, Except.bind, distinct_eq_error]
    exact fun h ↦ hitems (List.forall_mem_append.mp h).1

/-- The number one of every kind, numbers that are worth nothing, one of them twice alone and twice in
a tuple, and a half of two kinds in a tuple in a tuple. -/
private def assorted : List Value :=
  [.int 1, .bool true, .float 0 (.finite false 1 0), .decimal 1 (.finite false 100 (-2)),
    .fraction 1, .complex 2 (.finite false 2 (-1)) (.finite true 0 0), .float 3 .nan,
    .float 4 .nan, .float 3 .nan, .tuple [.int 1, .float 3 .nan], .tuple [.bool true, .float 3 .nan],
    .tuple [.text ['a'], .tuple [.fraction (1 / 2)]],
    .tuple [.text ['a'], .tuple [.float 5 (.finite false 1 (-1))]], .none, .none]

/-- One number one is kept, one tuple of each kind, and each number that is worth nothing once. -/
example : ((distinct (.list assorted)).toOption.bind fun kept ↦
      (kept.mapM written).toOption) = some ["1".toList, "nan".toList, "nan".toList,
        "(1, nan)".toList, "('a', (Fraction(1, 2),))".toList, "None".toList] := by
  decide +kernel

private def worthless : Value := .float 0 .nan

/-- A tuple with a number that refuses comparison behind one that equals nothing. -/
private def guardedRefusal : Value := .tuple [worthless, .decimal 1 (.nan false true 0)]

end Value

end TextTemplate
