import TextTemplate.Value.Basic
/-!
# Equality of values

Values of different kinds may be equal: numbers are compared by what they denote. Collections are
compared item by item, and a tuple is compared with a tuple only, a list with a list only. A
comparison that meets a number which refuses comparison has no answer, unless a difference was
found before it. Odd numbers refuse comparison with anything, signaling ones with real numbers.

## The same item

Inside a collection one and the same number need not be asked: an item is the same as another if
the two are identical, and only otherwise if they are equal. So a number that is worth nothing,
which equals not even itself, is the same item as itself.
-/

namespace TextTemplate

namespace Value

/-- Why two values are not compared. -/
inductive Refusal where
  | odd
  | signaling
  deriving DecidableEq, Repr

/-- Whether two values without items are equal as numbers. -/
def equalNumbers (a b : Value) : Except Refusal Bool :=
  if a.isOdd || b.isOdd then .error .odd
  else
    match a.number?, b.number? with
    | some x, some y =>
      if (a.isSignaling || b.isSignaling) && x.isReal && y.isReal then .error .signaling
      else .ok (x.equal y)
    | _, _ => .ok false

/-- The two are one and the same number. An identity belongs to one number alone. -/
def identical : Value → Value → Bool
  | .float i x, .float j y => i = j && x = y
  | .decimal i d, .decimal j e => i = j && d = e
  | .complex i x y, .complex j u v => i = j && x = u && y = v
  | .odd i _, .odd j _ => i = j
  | _, _ => false

def isYes : Except Refusal Bool → Bool
  | .ok answer => answer
  | .error _ => false

mutual

/-- Whether the two values are equal. -/
def equal : Value → Value → Except Refusal Bool
  | .none, .none | .missing, .missing => .ok true
  | .text s, .text t => .ok (s = t)
  | .bytes s, .bytes t => .ok (s = t)
  | .list items, .list others =>
    if items.length = others.length then equalItems items others else .ok false
  | .tuple items, .tuple others => equalItems items others
  | .dict entries, .dict others =>
    if entries.length = others.length then equalEntries entries others else .ok false
  | .object i _ _, .object j _ _ => .ok (i = j)
  | a, b => equalNumbers a b

/-- Whether two sequences have the same items: the first difference or refusal decides. -/
def equalItems : List Value → List Value → Except Refusal Bool
  | [], [] => .ok true
  | a :: items, b :: others =>
    match if identical a b then .ok true else equal a b with
    | .ok true => equalItems items others
    | answer => answer
  | _, _ => .ok false

/-- Whether every entry stands in the other dictionary with the same value. -/
def equalEntries : List (Value × Value) → List (Value × Value) → Except Refusal Bool
  | [], _ => .ok true
  | (key, value) :: entries, others =>
    match others.find? fun entry ↦ identical key entry.1 || isYes (equal key entry.1) with
    | Option.none => .ok false
    | some (_, other) =>
      match if identical value other then .ok true else equal value other with
      | .ok true => equalEntries entries others
      | answer => answer

end

/-- Whether the two values are the same item: identical or equal. -/
def sameItem (a b : Value) : Except Refusal Bool :=
  if identical a b then .ok true else equal a b

/-- The two values are the same item beyond doubt. -/
def same (a b : Value) : Bool := isYes (sameItem a b)

mutual

/-- The value may be a key: no list, dictionary or number that refuses comparison is in it. -/
def isKey : Value → Bool
  | .list _ | .dict _ => false
  | .tuple items => areKeys items
  | value => !(value.isOdd || value.isSignaling)

def areKeys : List Value → Bool
  | [] => true
  | item :: items => isKey item && areKeys items

end

/-! ## Assignments -/

/-- The entries after one more assignment: a key that is the same keeps its place and its form and
takes the new value, and a new key goes to the end. -/
def assign {κ : Type} (sameKey : κ → κ → Bool) (entries : List (κ × Value)) (key : κ)
    (value : Value) : List (κ × Value) :=
  match entries with
  | [] => [(key, value)]
  | (k, v) :: rest =>
    if sameKey k key then (k, value) :: rest else (k, v) :: assign sameKey rest key value

/-- The entries that arise from the assignments, one after the other. -/
def assignAll {κ : Type} (sameKey : κ → κ → Bool) (assignments : List (κ × Value)) :
    List (κ × Value) :=
  assignments.foldl (fun entries (key, value) ↦ assign sameKey entries key value) []

def dictOf (assignments : List (Value × Value)) : Value := .dict (assignAll same assignments)

end Value

end TextTemplate
