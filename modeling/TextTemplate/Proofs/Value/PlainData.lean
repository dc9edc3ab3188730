import Mathlib.Tactic.SplitIfs
import TextTemplate.Proofs.Template.Outputs

/-!
# Objects are seen as dictionaries

A path finds in an object what it finds in a dictionary of the object's public attributes. The plain
form of a value has these dictionaries in the place of its objects, in the values of dictionaries
and attributes all the way down; what stands in a list or tuple is left alone, for no path comes
there. Following a path and taking the plain form may change places.

So nothing but public attributes can be found in an object: not those whose names start with an
underscore, and not those whose values can be called. In a dictionary such names are as good as
others.

## Objects that can be called

What can be called is hidden only among attributes. Where it stands in a dictionary, or a path
starts at it, a path goes on to its public attributes like to those of any other object. The plain
form leaves it what it is, with attributes in plain form.

## What has to commute

One segment is looked up by `child`, and only after a value has said that it is not empty. Both
agree with the plain form: `isEmpty_plain` and `child_plain`. The path is then an induction over its
segments. The names of an object's attributes have to be distinct, because a value that can be
called hides what has the same name after it, and the plain form has no such entries.
-/

namespace TextTemplate

namespace Value

/-! ## The plain form -/

mutual

/-- The value with dictionaries of public attributes in the place of objects that cannot be
called. -/
def plain : Value → Value
  | .dict entries => .dict (plainEntries entries)
  | .object identity traits attributes =>
    if traits.isCallable then .object identity traits (plainAttributes attributes)
    else .dict (publicEntries attributes)
  | value => value

def plainEntries : List (Value × Value) → List (Value × Value)
  | [] => []
  | (key, value) :: entries => (key, plain value) :: plainEntries entries

def plainAttributes : List (Text × Value) → List (Text × Value)
  | [] => []
  | (name, value) :: attributes => (name, plain value) :: plainAttributes attributes

/-- The attributes that have a public name and cannot be called, as entries with plain values. -/
def publicEntries : List (Text × Value) → List (Value × Value)
  | [] => []
  | (name, value) :: attributes =>
    if DataPath.isPublic name && !value.isCallable then
      (.text name, plain value) :: publicEntries attributes
    else publicEntries attributes

end

mutual

/-- The attributes of every object in the value have distinct names. -/
def NamesDistinct : Value → Prop
  | .dict entries => EntriesDistinct entries
  | .object _ _ attributes => (attributes.map Prod.fst).Nodup ∧ AttributesDistinct attributes
  | _ => True

def EntriesDistinct : List (Value × Value) → Prop
  | [] => True
  | (_, value) :: entries => NamesDistinct value ∧ EntriesDistinct entries

def AttributesDistinct : List (Text × Value) → Prop
  | [] => True
  | (_, value) :: attributes => NamesDistinct value ∧ AttributesDistinct attributes

end

/-- The value is neither a dictionary nor an object. -/
def IsOpaque : Value → Prop
  | .dict _ | .object _ _ _ => False
  | _ => True

theorem isEmpty_plain (value : Value) : value.plain.isEmpty = value.isEmpty := by
  cases value with
  | object identity traits attributes =>
    rw [plain]
    split_ifs <;> rfl
  | _ => rfl

theorem isCallable_plain (value : Value) : value.plain.isCallable = value.isCallable := by
  cases value with
  | object identity traits attributes =>
    rw [plain]
    split_ifs with hcallable
    · rfl
    · exact (Bool.not_eq_true _ ▸ hcallable).symm
  | _ => rfl

end Value

namespace DataPath

open Value

/-! ## One segment -/

variable {segment : Text} {value : Value}

theorem entryAt_plainEntries (segment : Text) (entries : List (Value × Value)) :
    entryAt segment (plainEntries entries) = (entryAt segment entries).plain := by
  fun_induction entryAt segment entries with
  | case1 => rfl
  | case2 value entries => rw [plainEntries, entryAt, if_pos rfl]
  | case3 key value entries hkey ih => rw [plainEntries, entryAt, if_neg hkey, ih]
  | case4 entry entries hkey ih =>
    obtain ⟨key, value⟩ := entry
    rw [plainEntries, ← ih]
    cases key with
    | text name => exact absurd rfl (hkey name value)
    | _ => rfl

theorem attributeAt_plainAttributes (segment : Text) (attributes : List (Text × Value)) :
    attributeAt segment (plainAttributes attributes) = (attributeAt segment attributes).plain := by
  fun_induction attributeAt segment attributes with
  | case1 => rfl
  | case2 value attributes => rw [plainAttributes, attributeAt, if_pos rfl]
  | case3 name value attributes hname ih => rw [plainAttributes, attributeAt, if_neg hname, ih]

theorem entryAt_publicEntries_of_not_public (hprivate : isPublic segment = false)
    (attributes : List (Text × Value)) :
    entryAt segment (publicEntries attributes) = .missing := by
  induction attributes with
  | nil => rfl
  | cons entry attributes ih =>
    obtain ⟨name, value⟩ := entry
    rw [publicEntries]
    split_ifs with hkept
    · have hname : name ≠ segment := by
        rintro rfl
        simp [hprivate] at hkept
      rw [entryAt, if_neg hname, ih]
    · exact ih

theorem entryAt_publicEntries_of_not_mem {attributes : List (Text × Value)}
    (hname : segment ∉ attributes.map Prod.fst) :
    entryAt segment (publicEntries attributes) = .missing := by
  induction attributes with
  | nil => rfl
  | cons entry attributes ih =>
    obtain ⟨name, value⟩ := entry
    simp only [List.map_cons, List.mem_cons, not_or] at hname
    obtain ⟨hne, hname⟩ := hname
    rw [publicEntries]
    split_ifs
    · rw [entryAt, if_neg (Ne.symm hne), ih hname]
    · exact ih hname

/-- The public attributes have at a public name the plain form of the attribute, unless that can be
called. -/
theorem entryAt_publicEntries {attributes : List (Text × Value)}
    (hdistinct : (attributes.map Prod.fst).Nodup) (hpublic : isPublic segment = true) :
    entryAt segment (publicEntries attributes)
      = if (attributeAt segment attributes).isCallable then .missing
        else (attributeAt segment attributes).plain := by
  induction attributes with
  | nil => rfl
  | cons entry attributes ih =>
    obtain ⟨name, value⟩ := entry
    obtain ⟨hname, hdistinct⟩ := List.nodup_cons.mp hdistinct
    rw [publicEntries, attributeAt]
    by_cases hsame : name = segment
    · subst hsame
      rw [if_pos rfl]
      cases hcallable : value.isCallable with
      | true =>
        -- The attribute is left out, and no later one has its name.
        rw [if_neg (by simp), if_pos rfl, entryAt_publicEntries_of_not_mem hname]
      | false => rw [if_pos (by simp [hpublic]), entryAt, if_pos rfl, if_neg Bool.false_ne_true]
    · rw [if_neg hsame, ← ih hdistinct]
      split_ifs
      · rw [entryAt, if_neg hsame]
      · rfl

theorem child_object (identity : Nat) (traits : Traits) (attributes : List (Text × Value))
    (segment : Text) :
    child (.object identity traits attributes) segment =
      if isPublic segment = true then
        if (attributeAt segment attributes).isCallable then .missing
        else attributeAt segment attributes
      else .missing := rfl

theorem child_of_isOpaque (hbare : value.IsOpaque) (segment : Text) :
    child value segment = .missing := by
  cases value with
  | dict entries | object identity traits attributes => exact hbare.elim
  | _ => rfl

/-- **Going one segment down and taking the plain form change places.** -/
theorem child_plain (hdistinct : value.NamesDistinct) (segment : Text) :
    child value.plain segment = (child value segment).plain := by
  cases value with
  | dict entries => exact entryAt_plainEntries segment entries
  | object identity traits attributes =>
    have hmissing : Value.missing.plain = .missing := rfl
    rw [child_object, plain]
    cases hpublic : isPublic segment with
    | true =>
      rw [if_pos rfl, apply_ite plain, hmissing, ← entryAt_publicEntries hdistinct.1 hpublic]
      split_ifs with hcallable
      · rw [child_object, hpublic, if_pos rfl, attributeAt_plainAttributes, isCallable_plain,
          entryAt_publicEntries hdistinct.1 hpublic]
      · rw [child_dict]
    | false =>
      rw [if_neg Bool.false_ne_true, hmissing]
      split_ifs with hcallable
      · rw [child_object, hpublic, if_neg Bool.false_ne_true]
      · rw [child_dict, entryAt_publicEntries_of_not_public hpublic]
  | _ => rfl

theorem namesDistinct_entryAt {entries : List (Value × Value)} (hdistinct : EntriesDistinct entries)
    (segment : Text) : (entryAt segment entries).NamesDistinct := by
  fun_induction entryAt segment entries with
  | case1 => trivial
  | case2 value entries => exact hdistinct.1
  | case3 key value entries hkey ih => exact ih hdistinct.2
  | case4 entry entries hkey ih => exact ih hdistinct.2

theorem namesDistinct_attributeAt {attributes : List (Text × Value)}
    (hdistinct : AttributesDistinct attributes) (segment : Text) :
    (attributeAt segment attributes).NamesDistinct := by
  fun_induction attributeAt segment attributes with
  | case1 => trivial
  | case2 value attributes => exact hdistinct.1
  | case3 name value attributes hname ih => exact ih hdistinct.2

theorem namesDistinct_child (hdistinct : value.NamesDistinct) (segment : Text) :
    (child value segment).NamesDistinct := by
  cases value with
  | dict entries => exact namesDistinct_entryAt hdistinct segment
  | object identity traits attributes =>
    rw [child_object]
    split_ifs
    · trivial
    · exact namesDistinct_attributeAt hdistinct.2 segment
    · trivial
  | _ => trivial

/-! ## Paths -/

/-- **Following a path and taking the plain form change places.** -/
theorem follow_plain (hdistinct : value.NamesDistinct) (segments : List Text) :
    follow value.plain segments = (follow value segments).map Value.plain := by
  induction segments generalizing value with
  | nil => rfl
  | cons segment rest ih =>
    cases hempty : value.isEmpty with
    | error signal => simp [follow, isEmpty_plain, hempty, Except.map]
    | ok empty =>
      cases empty with
      | true =>
        rw [follow_cons_of_isEmpty hempty, follow_cons_of_isEmpty (isEmpty_plain value ▸ hempty)]
        rfl
      | false =>
        rw [follow_cons hempty, follow_cons (isEmpty_plain value ▸ hempty), child_plain hdistinct,
          ih (namesDistinct_child hdistinct segment)]

theorem follow_append (value : Value) (front rest : List Text) :
    follow value (front ++ rest) = (follow value front).bind (follow · rest) := by
  induction front generalizing value with
  | nil => rfl
  | cons segment front ih =>
    rw [List.cons_append]
    cases hempty : value.isEmpty with
    | error signal => simp [follow, hempty, Except.bind]
    | ok empty =>
      cases empty with
      | true =>
        rw [follow_cons_of_isEmpty hempty, follow_cons_of_isEmpty hempty, Except.bind,
          follow_missing]
      | false => rw [follow_cons hempty, follow_cons hempty, ih]

theorem follow_append_of_eq_ok {found : Value} {front : List Text}
    (h : follow value front = .ok found) (rest : List Text) :
    follow value (front ++ rest) = follow found rest := by
  rw [follow_append, h, Except.bind]

/-- Below a value that is neither dictionary nor object there is nothing to find, but the value may
raise its signal. -/
theorem follow_cons_of_isOpaque (hbare : value.IsOpaque) (segment : Text) (rest : List Text) :
    follow value (segment :: rest) = value.isEmpty.map fun _ ↦ .missing := by
  rw [follow, child_of_isOpaque hbare]
  cases value.isEmpty with
  | error signal => rfl
  | ok empty => cases empty <;> simp [Except.map]

theorem entryAt_append_cons {before after : List (Value × Value)} {key : Text} {below : Value}
    (hkey : ∀ entry ∈ before, entry.1 ≠ .text key) :
    entryAt key (before ++ (.text key, below) :: after) = below := by
  induction before with
  | nil => rw [List.nil_append, entryAt, if_pos rfl]
  | cons entry before ih =>
    obtain ⟨hne, hrest⟩ := List.forall_mem_cons.mp hkey
    obtain ⟨other, value⟩ := entry
    rw [List.cons_append]
    cases other with
    | text name => rw [entryAt, if_neg fun hname ↦ hne (congrArg Value.text hname), ih hrest]
    | _ => exact ih hrest

/-! ## What paths find -/

/-- A value is to paths what its plain form is. -/
structure SeenAsPlain (value : Value) : Prop where
  /-- A path finds in the plain form the plain form of what it finds in the value. -/
  follow_plain : ∀ segments,
    follow value.plain segments = (follow value segments).map Value.plain
  /-- No path finds an attribute of an object whose name starts with an underscore, or whose value
  can be called, or anything below it. -/
  hidden : ∀ front identity traits attributes,
    follow value front = .ok (.object identity traits attributes) → ∀ segment,
      isPublic segment = false ∨ (attributeAt segment attributes).isCallable = true →
        ∀ rest, follow value (front ++ segment :: rest) = .ok .missing
  /-- Every other attribute of an object is found, whether or not the object can be called. -/
  below_object : ∀ front identity traits attributes,
    follow value front = .ok (.object identity traits attributes) → ∀ segment,
      isPublic segment = true → (attributeAt segment attributes).isCallable = false →
        ∀ rest, follow value (front ++ segment :: rest)
          = follow (attributeAt segment attributes) rest
  /-- No path finds anything below another value than a dictionary or an object. -/
  below_opaque : ∀ front found, follow value front = .ok found → found.IsOpaque →
    ∀ segment rest,
      follow value (front ++ segment :: rest) = found.isEmpty.map fun _ ↦ .missing
  /-- Every key of a dictionary leads to its value, whatever its name. -/
  below_dict : ∀ front before key below after,
    follow value front = .ok (.dict (before ++ (.text key, below) :: after)) →
      (∀ entry ∈ before, entry.1 ≠ .text key) →
        ∀ rest, follow value (front ++ key :: rest) = follow below rest

/-- **A value whose objects have distinct names is to paths what its plain form is.** -/
theorem seenAsPlain_of_namesDistinct (hdistinct : value.NamesDistinct) : SeenAsPlain value := by
  refine ⟨follow_plain hdistinct, ?_, ?_, ?_, ?_⟩
  · intro front identity traits attributes hfront segment hhidden rest
    have hchild : child (.object identity traits attributes) segment = .missing := by
      rw [child_object]
      rcases hhidden with hprivate | hcallable
      · rw [hprivate, if_neg Bool.false_ne_true]
      · rw [hcallable, if_pos rfl, ite_self]
    rw [follow_append_of_eq_ok hfront, follow_cons rfl, hchild, follow_missing]
  · intro front identity traits attributes hfront segment hpublic hcallable rest
    rw [follow_append_of_eq_ok hfront, follow_cons rfl, child_object, if_pos hpublic, hcallable,
      if_neg Bool.false_ne_true]
  · intro front found hfront hbare segment rest
    rw [follow_append_of_eq_ok hfront, follow_cons_of_isOpaque hbare]
  · intro front before key below after hfront hkey rest
    rw [follow_append_of_eq_ok hfront, follow_cons rfl, child_dict, entryAt_append_cons hkey]

/-- Objects of a type that shows them without characters. -/
private def silent (isCallable : Bool) : Traits := ⟨['R'], isCallable, .ok [], .ok []⟩

/-- An object with a private attribute, one that can be called, and a dictionary whose key is no
name for attributes. -/
private def guarded : Value :=
  .object 0 (silent false) [(['_', 'a'], .text ['s']), (['f'], .object 1 (silent true) []),
    (['d'], .dict [(.text ['_', 'k'], .object 2 (silent false) [(['x'], .int 7)])])]

/-- Of the object, a path sees the dictionary alone, and in the dictionary the key. -/
theorem seenAsPlain_guarded :
    guarded.NamesDistinct ∧ SeenAsPlain guarded ∧
      guarded.plain = .dict [(.text ['d'],
        .dict [(.text ['_', 'k'], .dict [(.text ['x'], .int 7)])])] ∧
      follow guarded [['d'], ['_', 'k'], ['x']] = .ok (.int 7) ∧
      follow guarded [['_', 'a']] = .ok .missing ∧ follow guarded [['f']] = .ok .missing := by
  have hdistinct : guarded.NamesDistinct :=
    ⟨by decide, trivial, ⟨by decide, trivial⟩, ⟨⟨by decide, trivial, trivial⟩, trivial⟩, trivial⟩
  have hseen := seenAsPlain_of_namesDistinct hdistinct
  exact ⟨hdistinct, hseen, rfl, rfl, hseen.hidden [] _ _ _ rfl _ (Or.inl rfl) [],
    hseen.hidden [] _ _ _ rfl _ (Or.inr rfl) []⟩

private def withFunction : Value :=
  .dict [(.text ['p'], .object 0 (silent true) [("fn_name".toList, .text ['x'])])]

/-- A path finds the function in the dictionary, and below it the attribute. -/
theorem exists_found_below_callable :
    withFunction.NamesDistinct ∧
      (∃ found, follow withFunction [['p']] = .ok found ∧ found.isCallable = true) ∧
      follow withFunction [['p'], "fn_name".toList] = .ok (.text ['x']) :=
  ⟨⟨⟨by decide, trivial, trivial⟩, trivial⟩, ⟨_, rfl, rfl⟩, rfl⟩

end DataPath

end TextTemplate
