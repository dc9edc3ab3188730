/-!
# Text

A text is a list of characters. Lengths, positions and columns count characters and never bytes,
so every function on texts is a recursion on a list, and every law about them an induction.
-/

namespace TextTemplate

/-- A sequence of characters. -/
abbrev Text := List Char

namespace Text

def ofNat (n : Nat) : Text := Nat.toDigits 10 n

/-- The decimal numeral of an integer, with a sign when it is negative. -/
def ofInt : Int → Text
  | .ofNat n => ofNat n
  | .negSucc n => '-' :: ofNat (n + 1)

/-- The pieces between the separators. There is always one piece more than there are separators,
so the empty text has the one piece `[]`. -/
def pieces (separator : Char) : Text → List Text
  | [] => [[]]
  | c :: rest =>
    if c = separator then [] :: pieces separator rest
    else match pieces separator rest with
      | [] => [[c]]
      | piece :: more => (c :: piece) :: more

/-- The texts one after the other, with the separator between neighbours. -/
def join (separator : Text) : List Text → Text
  | [] => []
  | [text] => text
  | text :: rest => text ++ separator ++ join separator rest

theorem pieces_ne_nil (separator : Char) (text : Text) : pieces separator text ≠ [] := by
  fun_induction pieces separator text <;> simp

theorem join_cons_cons (separator text other : Text) (rest : List Text) :
    join separator (text :: other :: rest) = text ++ separator ++ join separator (other :: rest) :=
  rfl

/-- The pieces of a text make the text again when the separator is put between them. -/
theorem join_pieces (separator : Char) (text : Text) :
    join [separator] (pieces separator text) = text := by
  fun_induction pieces separator text with
  | case1 => rfl
  | case2 rest ih =>
    cases hpieces : pieces separator rest with
    | nil => exact absurd hpieces (pieces_ne_nil separator rest)
    | cons piece more => rw [join_cons_cons, ← hpieces, ih]; rfl
  | case3 c rest _ hpieces => exact absurd hpieces (pieces_ne_nil separator rest)
  | case4 c rest _ piece more hpieces ih =>
    rw [hpieces] at ih
    cases more with
    | nil => simpa [join] using ih
    | cons other more => simpa [join_cons_cons] using ih

/-- At a separator, the pieces before it and those after it come one after the other. -/
theorem pieces_append (separator : Char) (text rest : Text) :
    pieces separator (text ++ separator :: rest)
      = pieces separator text ++ pieces separator rest := by
  induction text with
  | nil => simp [pieces]
  | cons c text ih =>
    rw [List.cons_append, pieces, pieces, ih]
    cases hpieces : pieces separator text with
    | nil => exact absurd hpieces (pieces_ne_nil separator text)
    | cons piece more => split <;> rfl

/-- The character ends a line: line feed, carriage return, and the line and paragraph
separators. -/
def isLineTerminator (c : Char) : Bool :=
  c = '\n' || c = '\r' || c = '\u2028' || c = '\u2029'

/-- The text with the characters that satisfy `p` removed from its end. -/
def dropEndWhile (p : Char → Bool) (text : Text) : Text :=
  (text.reverse.dropWhile p).reverse

/-- The text stands before the other one, or is the same, when both are compared character by
character. -/
def comesBefore : Text → Text → Bool
  | [], _ => true
  | _ :: _, [] => false
  | a :: text, b :: other => if a = b then comesBefore text other else a.toNat < b.toNat

/-- The numeral is padded with zeros on the left up to `width` characters. -/
def padded (width : Nat) (numeral : Text) : Text :=
  List.replicate (width - numeral.length) '0' ++ numeral

end Text

end TextTemplate
