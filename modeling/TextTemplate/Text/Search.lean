/-!
# The first occurrence of a needle

A list is cut at the first place where the needle stands. The parts before and after the needle
and the question whether it stands anywhere are all read off this one cut, so they always speak of
the same occurrence. The functions are stated for lists of any kind: texts and byte strings are
searched alike.
-/

namespace TextTemplate

namespace Search

variable {α : Type} [DecidableEq α]

/-- What follows the needle, when the list starts with it. -/
def afterStart? : List α → List α → Option (List α)
  | [], list => some list
  | _ :: _, [] => none
  | n :: needle, c :: list => if n = c then afterStart? needle list else none

/-- The parts before and after the first occurrence of the needle. -/
def cut? (needle : List α) : List α → Option (List α × List α)
  | [] => (afterStart? needle []).map fun rest ↦ ([], rest)
  | c :: list =>
    match afterStart? needle (c :: list) with
    | some rest => some ([], rest)
    | none => (cut? needle list).map fun (before, rest) ↦ (c :: before, rest)

theorem eq_append_of_afterStart? {needle list rest : List α}
    (h : afterStart? needle list = some rest) : list = needle ++ rest := by
  fun_induction afterStart? needle list with
  | case1 => simpa using h
  | case2 => simp at h
  | case3 needle list c ih => simp [ih h]
  | case4 => simp at h

/-- The two parts of a cut and the needle between them are the whole list. -/
theorem eq_append_of_cut? {needle list before rest : List α}
    (h : cut? needle list = some (before, rest)) : list = before ++ needle ++ rest := by
  fun_induction cut? needle list generalizing before with
  | case1 =>
    simp only [Option.map_eq_some_iff, Prod.mk.injEq] at h
    obtain ⟨after, hafter, rfl, rfl⟩ := h
    simpa using eq_append_of_afterStart? hafter
  | case2 c list after hafter =>
    simp only [Option.some.injEq, Prod.mk.injEq] at h
    obtain ⟨rfl, rfl⟩ := h
    simpa using eq_append_of_afterStart? hafter
  | case3 c list _ ih =>
    simp only [Option.map_eq_some_iff, Prod.exists, Prod.mk.injEq] at h
    obtain ⟨before', rest', hcut, rfl, rfl⟩ := h
    simp [ih hcut]

/-- The part before the first occurrence, or nothing when there is none. -/
def before (needle list : List α) : List α :=
  match cut? needle list with
  | some (before, _) => before
  | none => []

/-- The part after the first occurrence, or the whole list when there is none. -/
def after (needle list : List α) : List α :=
  match cut? needle list with
  | some (_, rest) => rest
  | none => list

def contains (needle list : List α) : Bool := (cut? needle list).isSome

end Search

end TextTemplate
