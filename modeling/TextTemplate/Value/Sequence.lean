import TextTemplate.Distinct
import TextTemplate.Text.Search
import TextTemplate.Value.Equality
import TextTemplate.Value.Operand
/-!
# Values as sequences

Texts, byte strings, lists and tuples are sequences: they have items, may be cut, and may be
searched. A part of a sequence is of the same kind as the whole.
-/

namespace TextTemplate

namespace Value

/-! ## Cutting -/

/-- The number of items in front of a cut. A negative place counts from the end, and a place before
the start counts as the start. -/
def cutAt (length : Nat) (place : Int) : Nat :=
  if place < 0 then (place + length).toNat else place.toNat

/-- Why a position that is no integer has no place after it. The place is looked for all the same,
by adding one, and a decimal number may raise a signal at that. -/
def positionFailure : Value → OperandFailure
  | .decimal _ d =>
    match d.successorSignal? with
    | some signal => .signal signal
    | Option.none => .unsuited
  | _ => .unsuited

/-- The items after the one at a position. -/
def itemsAfter (sequence position : Value) : Except OperandFailure Value :=
  match position.index? with
  | Option.none => .error position.positionFailure
  | some n =>
    match sequence with
    | .text characters => .ok (.text (characters.drop (cutAt characters.length (n + 1))))
    | .bytes content => .ok (.bytes (content.drop (cutAt content.length (n + 1))))
    | .list items => .ok (.list (items.drop (cutAt items.length (n + 1))))
    | .tuple items => .ok (.tuple (items.drop (cutAt items.length (n + 1))))
    | _ => .error .unsuited

/-! ## Items -/

/-- The items that a value consists of: characters as texts, bytes as integers, and the keys of a
dictionary. -/
def items? : Value → Option (List Value)
  | .text characters => some (characters.map fun c ↦ .text [c])
  | .bytes content => some (content.map fun byte ↦ .int byte.toNat)
  | .list items | .tuple items => some items
  | .dict entries => some (entries.map Prod.fst)
  | _ => Option.none

/-- The items that are the same as none kept before them. All of them must be fit for keys. -/
def distinct (value : Value) : Except OperandFailure (List Value) :=
  match value.items? with
  | Option.none => .error .unsuited
  | some items => if areKeys items then .ok (Distinct.firsts same items) else .error .unsuited

/-! ## Searching -/

/-- The bytes that are looked for in a byte string: a byte string, or one byte given by its
number. -/
def needleBytes : Value → Except OperandFailure (List UInt8)
  | .bytes content => .ok content
  | needle =>
    match needle.index? with
    | Option.none => .error .unsuited
    | some n => if 0 ≤ n ∧ n < 256 then .ok [UInt8.ofNat n.toNat] else .error .notAByte

/-- The attribute under which a value is searched. -/
def searchAttribute : Text := "find".toList

/-- Why a value that is neither text nor byte string cannot be searched. An object with the attribute
for it is asked and cannot answer; all other values have nothing to ask. -/
def searchFailure : Value → OperandFailure
  | .object _ _ attributes =>
    if (attributes.lookup searchAttribute).isSome then .unsuited else .unsearchable
  | _ => .unsearchable

/-- The part of a text or byte string before the first occurrence of the needle, and the empty text
when there is none. -/
def textBefore (value needle : Value) : Except OperandFailure Value :=
  match value, needle with
  | .text characters, .text sought => .ok (.text (Search.before sought characters))
  | .text _, _ => .error .unsuited
  | .bytes content, _ =>
    (needleBytes needle).map fun sought ↦
      if Search.contains sought content then .bytes (Search.before sought content) else .text []
  | _, _ => .error value.searchFailure

/-- The part of a text or byte string after the first occurrence of the needle, and all of it when
there is none. A byte given by its number has no length, so nothing can be said to follow it. -/
def textAfter (value needle : Value) : Except OperandFailure Value :=
  match value, needle with
  | .text characters, .text sought => .ok (.text (Search.after sought characters))
  | .text _, _ => .error .unsuited
  | .bytes content, .bytes sought => .ok (.bytes (Search.after sought content))
  | .bytes content, _ =>
    (needleBytes needle).bind fun sought ↦
      if Search.contains sought content then .error .unsuited else .ok value
  | _, _ => .error value.searchFailure

/-- One of the items is the same as the needle. The items are compared from the left, and a
comparison that is refused before one is found leaves the question open. -/
def hasItem (needle : Value) : List Value → Except OperandFailure Bool
  | [] => .ok false
  | item :: items =>
    match sameItem item needle with
    | .ok true => .ok true
    | .ok false => hasItem needle items
    | .error .odd => .error .unsuited
    | .error .signaling => .error (.signal .invalid)

/-- The needle occurs in a text or byte string, is an item of a list or tuple, or is a key of a
dictionary. -/
def contains (value needle : Value) : Except OperandFailure Bool :=
  match value, needle with
  | .text characters, .text sought => .ok (Search.contains sought characters)
  | .bytes content, _ => (needleBytes needle).map fun sought ↦ Search.contains sought content
  | .list items, _ | .tuple items, _ => hasItem needle items
  | .dict entries, _ =>
    if needle.isKey then hasItem needle (entries.map Prod.fst) else .error .unsuited
  | _, _ => .error .unsuited

end Value

end TextTemplate
