import TextTemplate.Proofs.Value.Worth

/-!
# What items that are the same have in common

Values of many kinds are compared with each other, and the comparison goes by cases. Behind it
stands one thing that items which are the same have in common, their key. A number has what it is
worth as its key, whatever the kind of the number; a tuple has the keys of its items; an object has
its identity.

A number that is worth nothing equals no number, and itself no more than any other. Yet inside a
collection it is the same item as itself, so it is its own key. That the comparison of items follows
the keys makes it an equivalence across all kinds.

## What has no part in this

Lists and dictionaries are compared too, but they have no key here, and are none anywhere. The
values that `isKey` takes are those with no list or dictionary in them, at any depth of tuples, and
no number that refuses comparison.
-/

namespace TextTemplate

namespace Value

/-- What a value has in common with those that are the same item. -/
inductive Key where
  | none
  | missing
  | text (characters : Text)
  | bytes (content : List UInt8)
  /-- A number of any kind that is worth this much. -/
  | number (real imaginary : Worth)
  /-- A number that is worth nothing. -/
  | lone (number : Value)
  | tuple (items : List Key)
  | object (identity : Nat)

/-- The key of a number: what it is worth, and the number itself if it is worth nothing. -/
def numberKey (value : Value) : Key :=
  match value.worth? with
  | some (real, imaginary) => .number real imaginary
  | Option.none => .lone value

mutual

/-- The key of a value. -/
def key? : Value → Option Key
  | .none => some .none
  | .missing => some .missing
  | .text characters => some (.text characters)
  | .bytes content => some (.bytes content)
  | .tuple items => (keys? items).map .tuple
  | .object identity _ _ => some (.object identity)
  | .list _ | .dict _ | .odd _ _ => Option.none
  | value => some value.numberKey

def keys? : List Value → Option (List Key)
  | [] => some []
  | item :: items => (key? item).bind fun key ↦ (keys? items).map (key :: ·)

end

/-- The two values have the same key. -/
def Same (a b : Value) : Prop := ∃ key, a.key? = some key ∧ b.key? = some key

instance : Std.Symm Same where
  symm _ _ := fun ⟨key, ha, hb⟩ ↦ ⟨key, hb, ha⟩

instance : IsTrans Value Same where
  trans a b c := by
    rintro ⟨key, ha, hb⟩ ⟨other, hb', hc⟩
    obtain rfl := Option.some.inj (hb.symm.trans hb')
    exact ⟨key, ha, hc⟩

variable {a b : Value}

/-! ## The comparison -/

/-- The comparison has an answer, and it is yes exactly if so. -/
def Answers (asked : Except Refusal Bool) (so : Prop) : Prop :=
  ∃ answer, asked = .ok answer ∧ (answer = true ↔ so)

theorem Answers.congr {asked : Except Refusal Bool} {so other : Prop} (h : Answers asked so)
    (hiff : so ↔ other) : Answers asked other := by
  obtain ⟨answer, hasked, hso⟩ := h
  exact ⟨answer, hasked, hso.trans hiff⟩

theorem isOdd_eq_false_of_isKey (h : a.isKey = true) : a.isOdd = false ∧ a.isSignaling = false := by
  cases a with
  | odd | decimal => simpa [isKey] using h
  | _ => exact ⟨rfl, rfl⟩

theorem answers_equalNumbers (ha : a.isKey = true) (hb : b.isKey = true) :
    Answers (equalNumbers a b) (∃ worth, a.worth? = some worth ∧ b.worth? = some worth) := by
  obtain ⟨haodd, hasignaling⟩ := isOdd_eq_false_of_isKey ha
  obtain ⟨hbodd, hbsignaling⟩ := isOdd_eq_false_of_isKey hb
  rw [equalNumbers, haodd, hbodd, hasignaling, hbsignaling]
  simp only [Bool.or_self, Bool.false_and, Bool.false_eq_true, if_false]
  split
  next x y hx hy => exact ⟨_, rfl, equal_iff_worth? hx hy⟩
  next hnumbers =>
    refine ⟨false, rfl, iff_of_false Bool.false_ne_true ?_⟩
    rintro ⟨⟨real, imaginary⟩, ha, hb⟩
    exact hnumbers _ _ (number?_of_worth? ha) (number?_of_worth? hb)

/-- What is known of a value from its key. -/
def HasKey (value : Value) : Key → Prop
  | .none => value = .none
  | .missing => value = .missing
  | .text characters => value = .text characters
  | .bytes content => value = .bytes content
  | .number real imaginary => value.worth? = some (real, imaginary)
  | .lone number => value = number ∧ identical number number = true
  | .tuple keys => ∃ items, value = .tuple items ∧ keys? items = some keys
  | .object identity => ∃ traits attributes, value = .object identity traits attributes

theorem hasKey_numberKey (h : a.worth? = Option.none → identical a a = true) :
    a.HasKey a.numberKey := by
  rw [numberKey]
  cases hworth : a.worth? with
  | none => exact ⟨rfl, h hworth⟩
  | some worth => exact hworth

theorem hasKey_of_key? {key : Key} (h : a.key? = some key) : a.HasKey key := by
  cases a with
  | tuple items =>
    rw [key?] at h
    obtain ⟨keys, hkeys, rfl⟩ := Option.map_eq_some_iff.mp h
    exact ⟨items, rfl, hkeys⟩
  | none | missing | text | bytes =>
    rw [key?] at h
    obtain rfl := Option.some.inj h
    rfl
  | object identity traits attributes =>
    rw [key?] at h
    obtain rfl := Option.some.inj h
    exact ⟨traits, attributes, rfl⟩
  | list | dict | odd =>
    rw [key?] at h
    cases h
  -- All others are numbers, and those without worth are their own keys.
  | _ =>
    simp only [key?] at h
    obtain rfl := Option.some.inj h
    exact hasKey_numberKey (by simp [identical, worth?])

theorem key?_of_worth? {real imaginary : Worth} (h : a.worth? = some (real, imaginary)) :
    a.key? = some (.number real imaginary) := by
  cases a with
  | none | missing | text | bytes | list | tuple | dict | object | odd => cases h
  | _ => simp only [key?, numberKey, h]

/-! ## Tuples -/

theorem keys?_cons_eq_some_iff {items : List Value} {keys : List Key} :
    keys? (a :: items) = some keys ↔
      ∃ key rest, a.key? = some key ∧ keys? items = some rest ∧ keys = key :: rest := by
  rw [keys?, Option.bind_eq_some_iff]
  constructor
  · rintro ⟨key, hkey, hkeys⟩
    obtain ⟨rest, hrest, rfl⟩ := Option.map_eq_some_iff.mp hkeys
    exact ⟨key, rest, hkey, hrest, rfl⟩
  · rintro ⟨key, rest, hkey, hrest, rfl⟩
    exact ⟨key, hkey, Option.map_eq_some_iff.mpr ⟨rest, hrest, rfl⟩⟩

theorem exists_keys?_iff {items others : List Value} :
    (∃ keys, keys? items = some keys ∧ keys? others = some keys) ↔
      List.Forall₂ Same items others := by
  induction items generalizing others with
  | nil =>
    cases others with
    | nil => exact iff_of_true ⟨[], rfl, rfl⟩ .nil
    | cons b others =>
      refine iff_of_false ?_ nofun
      rintro ⟨keys, hnil, hcons⟩
      obtain ⟨key, rest, -, -, rfl⟩ := keys?_cons_eq_some_iff.mp hcons
      cases hnil
  | cons a items ih =>
    cases others with
    | nil =>
      refine iff_of_false ?_ nofun
      rintro ⟨keys, hcons, hnil⟩
      obtain ⟨key, rest, -, -, rfl⟩ := keys?_cons_eq_some_iff.mp hcons
      cases hnil
    | cons b others =>
      rw [List.forall₂_cons, ← ih]
      constructor
      · rintro ⟨keys, hcons, hcons'⟩
        obtain ⟨key, rest, ha, hitems, rfl⟩ := keys?_cons_eq_some_iff.mp hcons
        obtain ⟨_, _, hb, hothers, heq⟩ := keys?_cons_eq_some_iff.mp hcons'
        obtain ⟨rfl, rfl⟩ := List.cons.inj heq
        exact ⟨⟨key, ha, hb⟩, rest, hitems, hothers⟩
      · rintro ⟨⟨key, ha, hb⟩, rest, hitems, hothers⟩
        exact ⟨key :: rest, keys?_cons_eq_some_iff.mpr ⟨key, rest, ha, hitems, rfl⟩,
          keys?_cons_eq_some_iff.mpr ⟨key, rest, hb, hothers, rfl⟩⟩

theorem same_tuple_iff {items others : List Value} :
    (tuple items).Same (tuple others) ↔ List.Forall₂ Same items others := by
  rw [← exists_keys?_iff]
  constructor
  · rintro ⟨key, htuple, htuple'⟩
    rw [key?] at htuple htuple'
    obtain ⟨keys, hitems, rfl⟩ := Option.map_eq_some_iff.mp htuple
    obtain ⟨others, hothers, hkey⟩ := Option.map_eq_some_iff.mp htuple'
    rw [Key.tuple.inj hkey] at hothers
    exact ⟨keys, hitems, hothers⟩
  · rintro ⟨keys, hitems, hothers⟩
    refine ⟨.tuple keys, ?_, ?_⟩
    · rw [key?, hitems, Option.map_some]
    · rw [key?, hothers, Option.map_some]

theorem answers_equalItems {items others : List Value}
    (h : ∀ a ∈ items, ∀ b ∈ others, Answers (sameItem a b) (a.Same b)) :
    Answers (equalItems items others) (List.Forall₂ Same items others) := by
  induction items generalizing others with
  | nil =>
    cases others with
    | nil => exact ⟨true, by rw [equalItems], iff_of_true rfl .nil⟩
    | cons b others =>
      exact ⟨false, by rw [equalItems] <;> exact nofun, iff_of_false Bool.false_ne_true nofun⟩
  | cons a items ih =>
    cases others with
    | nil =>
      exact ⟨false, by rw [equalItems] <;> exact nofun, iff_of_false Bool.false_ne_true nofun⟩
    | cons b others =>
      obtain ⟨answer, hanswer, hiff⟩ := h a List.mem_cons_self b List.mem_cons_self
      rw [equalItems, ← sameItem, hanswer, List.forall₂_cons]
      cases answer with
      | false =>
        refine ⟨false, rfl, iff_of_false Bool.false_ne_true fun ⟨hab, _⟩ ↦ ?_⟩
        exact Bool.false_ne_true (hiff.mpr hab)
      | true =>
        refine (ih ?_).congr (and_iff_right (hiff.mp rfl)).symm
        intro item hitem other hother
        exact h item (List.mem_cons_of_mem _ hitem) other (List.mem_cons_of_mem _ hother)

theorem areKeys_eq_true_iff {items : List Value} :
    areKeys items = true ↔ ∀ item ∈ items, item.isKey = true := by
  induction items with
  | nil => exact iff_of_true rfl nofun
  | cons item items ih => rw [areKeys, Bool.and_eq_true, ih, List.forall_mem_cons]

/-- Values with keys are answered for by comparing what their keys are made of. -/
theorem answers_decide {key other : Key} {p : Prop} [Decidable p] (ha : a.key? = some key)
    (hb : b.key? = some other) (hp : (key = other) = p) :
    Answers (.ok (decide p)) (a.Same b) := by
  refine ⟨decide p, rfl, ?_⟩
  rw [decide_eq_true_iff, ← hp]
  constructor
  · rintro rfl
    exact ⟨key, ha, hb⟩
  · rintro ⟨shared, ha', hb'⟩
    exact (Option.some.inj (ha.symm.trans ha')).trans (Option.some.inj (hb'.symm.trans hb))

theorem exists_keys?_of_forall {items : List Value}
    (h : ∀ item ∈ items, ∃ key, item.key? = some key) : ∃ keys, keys? items = some keys := by
  induction items with
  | nil => exact ⟨[], rfl⟩
  | cons item items ih =>
    obtain ⟨⟨key, hkey⟩, hrest⟩ := List.forall_mem_cons.mp h
    obtain ⟨rest, hkeys⟩ := ih hrest
    exact ⟨key :: rest, keys?_cons_eq_some_iff.mpr ⟨key, rest, hkey, hkeys, rfl⟩⟩

theorem exists_key? (h : a.isKey = true) : ∃ key, a.key? = some key := by
  induction a using part_induction with | step a ih =>
  cases a with
  | tuple items =>
    rw [isKey, areKeys_eq_true_iff] at h
    obtain ⟨keys, hkeys⟩ := exists_keys?_of_forall fun item hitem ↦
      ih item (.tupleItem hitem) (h item hitem)
    exact ⟨.tuple keys, Option.map_eq_some_iff.mpr ⟨keys, hkeys, rfl⟩⟩
  | list | dict | odd => exact Bool.noConfusion h
  | _ => exact ⟨_, rfl⟩

theorem same_self (h : a.isKey = true) : a.Same a := by
  obtain ⟨key, hkey⟩ := exists_key? h
  exact ⟨key, hkey, hkey⟩

/-! ## Items -/

theorem eq_of_identical (ha : a.isKey = true) (h : identical a b = true) : a = b := by
  fun_cases identical a b with
  | case4 => exact Bool.noConfusion ha
  | _ => simp_all [identical]

/-- **Two values that may be keys are compared as items with an answer, and it is yes for those that
are the same.** -/
theorem answers_sameItem {a b : Value} (ha : a.isKey = true) (hb : b.isKey = true) :
    Answers (sameItem a b) (a.Same b) := by
  induction a using part_induction generalizing b with | step a ih =>
  rw [sameItem]
  split_ifs with hidentical
  · obtain rfl := eq_of_identical ha hidentical
    exact ⟨true, rfl, iff_of_true rfl (same_self ha)⟩
  fun_cases equal a b with
  | case1 | case2 => exact ⟨true, rfl, iff_of_true rfl ⟨_, rfl, rfl⟩⟩
  | case3 s t => exact answers_decide rfl rfl (Key.text.injEq s t)
  | case4 s t => exact answers_decide rfl rfl (Key.bytes.injEq s t)
  -- Lists and dictionaries are no keys.
  | case5 | case6 | case8 | case9 => exact Bool.noConfusion ha
  | case7 items others =>
    refine (answers_equalItems fun item hitem other hother ↦ ?_).congr same_tuple_iff.symm
    rw [isKey, areKeys_eq_true_iff] at ha hb
    exact ih item (.tupleItem hitem) (ha item hitem) (hb other hother)
  | case10 i _ _ j => exact answers_decide rfl rfl (Key.object.injEq i j)
  -- Any other two are compared as numbers, and their keys can agree in no other way.
  | case11 a b hnone hmissing htext hbytes _ htuple _ hobject =>
    refine (answers_equalNumbers ha hb).congr ⟨?_, ?_⟩
    · rintro ⟨⟨real, imaginary⟩, ha, hb⟩
      exact ⟨_, key?_of_worth? ha, key?_of_worth? hb⟩
    · rintro ⟨key, hakey, hbkey⟩
      have hafrom := hasKey_of_key? hakey
      have hbfrom := hasKey_of_key? hbkey
      cases key with
      | none => exact (hnone hafrom hbfrom).elim
      | missing => exact (hmissing hafrom hbfrom).elim
      | text s => exact (htext s s hafrom hbfrom).elim
      | bytes s => exact (hbytes s s hafrom hbfrom).elim
      | number real imaginary => exact ⟨(real, imaginary), hafrom, hbfrom⟩
      | lone number =>
        obtain ⟨rfl, hself⟩ := hafrom
        obtain ⟨rfl, -⟩ := hbfrom
        exact absurd hself hidentical
      | tuple keys =>
        obtain ⟨items, hafrom, -⟩ := hafrom
        obtain ⟨others, hbfrom, -⟩ := hbfrom
        exact (htuple items others hafrom hbfrom).elim
      | object i =>
        obtain ⟨traits, attributes, hafrom⟩ := hafrom
        obtain ⟨traits', attributes', hbfrom⟩ := hbfrom
        exact (hobject i traits attributes i traits' attributes' hafrom hbfrom).elim

/-! ## Which values may be keys -/

/-- The value is such, or it is a tuple and one of its items is or has such a value in it. -/
inductive Somewhere (such : Value → Prop) : Value → Prop
  /-- The value itself. -/
  | here {value : Value} (h : such value) : Somewhere such value
  /-- An item of a tuple, or a value in it. -/
  | inside {items : List Value} {item : Value} (hitem : item ∈ items) (h : Somewhere such item) :
    Somewhere such (.tuple items)

/-- The value is a list or a dictionary. -/
def IsListOrDict : Value → Prop
  | .list _ | .dict _ => True
  | _ => False

def HasListOrDict (value : Value) : Prop := Somewhere IsListOrDict value

/-- A number that refuses to be compared is in the value. -/
def HasRefusal (value : Value) : Prop :=
  Somewhere (fun part ↦ part.isOdd = true ∨ part.isSignaling = true) value

theorem somewhere_tuple_iff {such : Value → Prop} {items : List Value} (h : ¬ such (.tuple items)) :
    Somewhere such (.tuple items) ↔ ∃ item ∈ items, Somewhere such item := by
  constructor
  · intro hsomewhere
    cases hsomewhere with
    | here hsuch => exact absurd hsuch h
    | inside hitem hinside => exact ⟨_, hitem, hinside⟩
  · rintro ⟨item, hitem, hinside⟩
    exact .inside hitem hinside

theorem somewhere_iff {such : Value → Prop} {value : Value} (h : ∀ items, value ≠ .tuple items) :
    Somewhere such value ↔ such value := by
  constructor
  · intro hsomewhere
    cases hsomewhere with
    | here hsuch => exact hsuch
    | inside => exact absurd rfl (h _)
  · exact .here

/-- **A value may be a key if no collection is in it, and no number that refuses comparison.** -/
theorem isKey_eq_true_iff : a.isKey = true ↔ ¬ a.HasListOrDict ∧ ¬ a.HasRefusal := by
  induction a using part_induction with | step a ih =>
  cases a with
  | tuple items =>
    rw [isKey, areKeys_eq_true_iff, HasListOrDict, HasRefusal, somewhere_tuple_iff nofun,
      somewhere_tuple_iff (by simp [isOdd, isSignaling])]
    push Not
    rw [← forall₂_and]
    exact forall₂_congr fun item hitem ↦ ih item (.tupleItem hitem)
  | _ => simp [isKey, HasListOrDict, IsListOrDict, HasRefusal, somewhere_iff]

end Value

end TextTemplate
