import TextTemplate.Text.Basic
/-!
# Tables

A table assigns values to texts, at most one to each. It is kept as a list of pairs, and what it
means is given by `find?`: the lemmas below say what writing and erasing do to that. The order of
the pairs means nothing, and whoever shows a table sorts it by key.
-/

namespace TextTemplate

/-- An assignment of values to texts. -/
structure Table (β : Type) where
  entries : List (Text × β)
  deriving DecidableEq, Repr

namespace Table

variable {β : Type}

def empty : Table β := ⟨[]⟩

def find? (table : Table β) (key : Text) : Option β := table.entries.lookup key

/-- The table without the key. -/
def erase (table : Table β) (key : Text) : Table β :=
  ⟨table.entries.filter fun entry ↦ entry.1 ≠ key⟩

/-- The table with the value at the key. -/
def put (table : Table β) (key : Text) (value : β) : Table β :=
  ⟨(key, value) :: (table.erase key).entries⟩

/-- The table of the assignments, of which later ones win. -/
def ofList (assignments : List (Text × β)) : Table β :=
  assignments.foldl (fun table (key, value) ↦ table.put key value) empty

def size (table : Table β) : Nat := table.entries.length

/-- The entries in the order of their keys, compared character by character. -/
def sorted (table : Table β) : List (Text × β) :=
  table.entries.mergeSort fun a b ↦ Text.comesBefore a.1 b.1

/-! ## Laws -/

@[simp] theorem find?_empty (key : Text) : (empty : Table β).find? key = none := rfl

private theorem lookup_erase (entries : List (Text × β)) (key other : Text) :
    (entries.filter fun entry ↦ entry.1 ≠ key).lookup other
      = if other = key then none else entries.lookup other := by
  induction entries with
  | nil => simp
  | cons entry entries ih =>
    obtain ⟨k, v⟩ := entry
    simp only [ne_eq, decide_not] at ih
    by_cases hk : k = key
    · subst hk
      by_cases ho : other = k
      · subst ho
        simpa using ih
      · have : (other == k) = false := by simp [ho]
        simpa [List.lookup_cons, this, ho] using ih
    · by_cases ho : other = k
      · subst ho
        simp [hk]
      · have : (other == k) = false := by simp [ho]
        simpa [hk, List.lookup_cons, this] using ih

@[simp] theorem find?_erase (table : Table β) (key other : Text) :
    (table.erase key).find? other = if other = key then none else table.find? other :=
  lookup_erase table.entries key other

@[simp] theorem find?_put (table : Table β) (key other : Text) (value : β) :
    (table.put key value).find? other = if other = key then some value else table.find? other := by
  by_cases h : other = key
  · simp [put, find?, h]
  · have hne : (other == key) = false := by simp [h]
    have := find?_erase table key other
    simpa [put, find?, List.lookup_cons, hne, h] using this

end Table

end TextTemplate
