import TextTemplate.Text.Search

/-!
# The first occurrence is the first

A list is cut at a place where the needle stands and before which it stands nowhere, and it is left
whole only when the needle stands nowhere at all. The scan tries every start in turn, so this also
holds for needles that overlap themselves.
-/

namespace TextTemplate

namespace Search

variable {α : Type} [DecidableEq α] {needle list before rest : List α}

theorem afterStart?_append (needle rest : List α) :
    afterStart? needle (needle ++ rest) = some rest := by
  induction needle with
  | nil => rfl
  | cons n needle ih => rw [List.cons_append, afterStart?, if_pos rfl, ih]

theorem afterStart?_eq_none_iff : afterStart? needle list = none ↔ ¬ needle <+: list := by
  constructor
  · rintro h ⟨rest, rfl⟩
    rw [afterStart?_append] at h
    exact absurd h (by simp)
  · intro h
    cases hstart : afterStart? needle list with
    | none => rfl
    | some rest => exact absurd ⟨rest, (eq_append_of_afterStart? hstart).symm⟩ h

theorem not_prefix_drop_of_cut? (h : cut? needle list = some (before, rest)) {k : Nat}
    (hk : k < before.length) : ¬ needle <+: list.drop k := by
  fun_induction cut? needle list generalizing before k with
  | case1 =>
    simp only [Option.map_eq_some_iff, Prod.mk.injEq] at h
    obtain ⟨_, _, rfl, _⟩ := h
    exact absurd hk (Nat.not_lt_zero k)
  | case2 c list _ _ =>
    simp only [Option.some.injEq, Prod.mk.injEq] at h
    rw [← h.1] at hk
    exact absurd hk (Nat.not_lt_zero k)
  | case3 c list hstart ih =>
    simp only [Option.map_eq_some_iff, Prod.exists, Prod.mk.injEq] at h
    obtain ⟨before', rest', hcut, rfl, rfl⟩ := h
    -- The needle does not stand at the start, and further on it stands where it does in the rest.
    cases k with
    | zero => exact afterStart?_eq_none_iff.mp hstart
    | succ k => exact ih hcut (Nat.lt_of_succ_lt_succ hk)

theorem cut?_eq_none_iff : cut? needle list = none ↔ ¬ needle <:+: list := by
  induction list with
  | nil => rw [cut?, Option.map_eq_none_iff, afterStart?_eq_none_iff, List.infix_nil,
      List.prefix_nil]
  | cons c list ih =>
    rw [cut?, List.infix_cons_iff, not_or, ← ih, ← afterStart?_eq_none_iff]
    cases afterStart? needle (c :: list) <;> simp

/-! ## The answers of a search

What stands before the needle, what stands after it and whether it stands anywhere are read off the
same cut, so each of them can be told from the others. -/

theorem contains_eq_true_iff : contains needle list = true ↔ needle <:+: list := by
  rw [contains, Option.isSome_iff_ne_none, ne_eq, cut?_eq_none_iff, Classical.not_not]

theorem cut?_of_contains (h : contains needle list = true) :
    cut? needle list = some (Search.before needle list, after needle list) := by
  obtain ⟨cut, hcut⟩ := Option.isSome_iff_exists.mp h
  rw [Search.before, after, hcut]

theorem before_append_after (h : contains needle list = true) :
    Search.before needle list ++ needle ++ after needle list = list :=
  (eq_append_of_cut? (cut?_of_contains h)).symm

theorem not_prefix_drop_of_lt_before {k : Nat} (hk : k < (Search.before needle list).length) :
    ¬ needle <+: list.drop k := by
  cases h : contains needle list with
  | true => exact not_prefix_drop_of_cut? (cut?_of_contains h) hk
  | false =>
    rw [contains, Option.isSome_eq_false_iff, Option.isNone_iff_eq_none] at h
    rw [Search.before, h] at hk
    exact absurd hk (Nat.not_lt_zero k)

theorem before_of_not_contains (h : contains needle list = false) :
    Search.before needle list = [] ∧ after needle list = list := by
  rw [contains, Option.isSome_eq_false_iff, Option.isNone_iff_eq_none] at h
  rw [Search.before, after, h]
  exact ⟨rfl, rfl⟩

end Search

end TextTemplate
