import TextTemplate.Text.Position

/-!
# Positions and lines

A position of a text is counted out on its lines, which are the pieces between the line feeds: the
lines before it take their lengths and one line feed each, and the columns before it one character
each. For the position of an offset this gives the offset back, and what stands from there to the
end of the line is what follows the offset in the text, up to the next line feed.

## The induction

An offset is on the first line, where its column is one more than the offset, or it comes after the
first line feed, and then it is a line further down than in the text after that line feed. Both
facts follow this distinction, which is `line_induction`.
-/

namespace TextTemplate

namespace Text

variable {text line rest : Text}

def firstLine (text : Text) : Text := text.takeWhile (· ≠ '\n')

theorem firstLine_append_rest (text : Text) :
    text.firstLine ++ text.dropWhile (· ≠ '\n') = text := List.takeWhile_append_dropWhile

theorem not_mem_firstLine (text : Text) : '\n' ∉ text.firstLine := by
  intro h
  have hall : text.firstLine.all (· ≠ '\n') := List.all_takeWhile
  exact of_decide_eq_true (List.all_eq_true.mp hall '\n' h) rfl

theorem firstLine_cons {c : Char} (hc : c ≠ '\n') (text : Text) :
    firstLine (c :: text) = c :: firstLine text :=
  List.takeWhile_cons_of_pos (decide_eq_true hc)

theorem firstLine_drop {offset : Nat} (h : offset ≤ text.firstLine.length) :
    firstLine (text.drop offset) = text.firstLine.drop offset := by
  induction text generalizing offset with
  | nil => rw [List.drop_nil, firstLine, List.takeWhile_nil, List.drop_nil]
  | cons c text ih =>
    by_cases hc : c = '\n'
    · rw [hc] at h ⊢
      rw [Nat.le_zero.mp h, List.drop_zero, List.drop_zero]
    · rw [firstLine_cons hc] at h ⊢
      cases offset with
      | zero => exact firstLine_cons hc text
      | succ offset => exact ih (Nat.le_of_succ_le_succ h)

theorem eq_firstLine_or (text : Text) :
    text = text.firstLine ∨ ∃ rest, text = text.firstLine ++ '\n' :: rest := by
  have htext := firstLine_append_rest text
  cases hrest : text.dropWhile (· ≠ '\n') with
  | nil =>
    rw [hrest, List.append_nil] at htext
    exact Or.inl htext.symm
  | cons c rest =>
    have hc := List.head?_dropWhile_not (fun c : Char ↦ decide (c ≠ '\n')) text
    rw [hrest] at hc htext
    obtain rfl : c = '\n' := by simpa using hc
    exact Or.inr ⟨rest, htext.symm⟩

/-- Whatever holds of the offsets on the first line, and of an offset further down if it holds of
the same place without the first line, holds of all offsets of a text. -/
theorem line_induction {motive : (text : Text) → (offset : Nat) → offset ≤ text.length → Prop}
    (first : ∀ text offset h, offset ≤ text.firstLine.length → motive text offset h)
    (next : ∀ line rest offset hrest h, '\n' ∉ line → motive rest offset hrest →
      motive (line ++ '\n' :: rest) (line.length + 1 + offset) h)
    (text : Text) (offset : Nat) (h : offset ≤ text.length) : motive text offset h := by
  induction hlength : text.length using Nat.strongRecOn generalizing text offset with
  | ind n ih =>
    subst hlength
    by_cases hfirst : offset ≤ text.firstLine.length
    · exact first text offset h hfirst
    · rcases eq_firstLine_or text with htext | ⟨rest, htext⟩
      · rw [← htext] at hfirst
        exact absurd h hfirst
      · have hline := not_mem_firstLine text
        -- From here on the first line is any line, and the text begins with it by definition.
        generalize text.firstLine = line at hfirst hline htext
        subst htext
        obtain ⟨further, rfl⟩ := Nat.exists_eq_add_of_le (Nat.lt_of_not_le hfirst)
        have hlength : (line ++ '\n' :: rest).length = line.length + 1 + rest.length := by
          rw [List.length_append, List.length_cons, Nat.add_assoc, Nat.add_comm 1]
        have hfurther : further ≤ rest.length := by
          rw [hlength] at h
          exact Nat.le_of_add_le_add_left h
        refine next line rest further hfurther h hline (ih rest.length ?_ rest further _ rfl)
        rw [hlength]
        omega

/-! ## Lines are pieces -/

theorem head?_pieces (text : Text) : (pieces '\n' text).head? = some text.firstLine := by
  induction text with
  | nil => rfl
  | cons c text ih =>
    obtain ⟨more, hpieces⟩ := List.head?_eq_some_iff.mp ih
    by_cases hc : c = '\n'
    · rw [hc, pieces, if_pos rfl]
      rfl
    · rw [pieces, if_neg hc, hpieces, firstLine_cons hc]
      rfl

theorem pieces_append_newline (h : '\n' ∉ line) (rest : Text) :
    pieces '\n' (line ++ '\n' :: rest) = line :: pieces '\n' rest := by
  induction line with
  | nil => rw [List.nil_append, pieces, if_pos rfl]
  | cons c line ih =>
    rw [List.mem_cons, not_or] at h
    rw [List.cons_append, pieces, if_neg (Ne.symm h.1), ih h.2]

end Text

namespace Position

/-- The number of characters before the position: the lengths of the lines before it with one more
for the end of each, and the columns before it. -/
def offsetIn (position : Position) (text : Text) : Nat :=
  ((Text.pieces '\n' text).take (position.line - 1)).foldr
    (fun line further ↦ line.length + 1 + further) (position.column - 1)

/-- What stands in the line of the position from its column on. -/
def restOfLine (position : Position) (text : Text) : Text :=
  ((Text.pieces '\n' text).getD (position.line - 1) []).drop (position.column - 1)

variable {text line : Text} {offset column : Nat}

theorem one_le_line_ofOffset (text : Text) (offset : Nat) : 1 ≤ (ofOffset text offset).line :=
  Nat.le_add_left 1 _

theorem one_le_column_ofOffset (text : Text) (offset : Nat) : 1 ≤ (ofOffset text offset).column :=
  Nat.le_add_left 1 _

/-! ## On the first line -/

theorem takeWhile_reverse_append (h : '\n' ∉ text) (front : Text) :
    (text.reverse ++ front).takeWhile (· ≠ '\n') = text.reverse ++ front.takeWhile (· ≠ '\n') := by
  refine List.takeWhile_append_of_pos fun c hc ↦ decide_eq_true ?_
  rintro rfl
  exact h (List.mem_reverse.mp hc)

theorem after_of_not_mem (h : '\n' ∉ text) : after text = ⟨1, text.length + 1⟩ := by
  have htake : text.reverse.takeWhile (· ≠ '\n') = text.reverse := by
    have happend := takeWhile_reverse_append h []
    rwa [List.append_nil, List.takeWhile_nil, List.append_nil] at happend
  rw [after, List.count_eq_zero.mpr h, htake, List.length_reverse]

theorem ofOffset_of_le_firstLine (h : offset ≤ text.firstLine.length) :
    ofOffset text offset = ⟨1, offset + 1⟩ := by
  have htake : text.take offset = text.firstLine.take offset := by
    have happend : (text.firstLine ++ text.dropWhile (· ≠ '\n')).take offset
        = text.firstLine.take offset := List.take_append_of_le_length h
    rwa [Text.firstLine_append_rest] at happend
  have hmem : '\n' ∉ text.take offset := by
    rw [htake]
    exact fun hmem ↦ Text.not_mem_firstLine text (List.mem_of_mem_take hmem)
  rw [ofOffset, after_of_not_mem hmem, htake, List.length_take_of_le h]

@[simp] theorem offsetIn_first_line (column : Nat) (text : Text) :
    offsetIn ⟨1, column⟩ text = column - 1 := rfl

@[simp] theorem restOfLine_first_line (column : Nat) (text : Text) :
    restOfLine ⟨1, column⟩ text = text.firstLine.drop (column - 1) := by
  rw [restOfLine, Nat.sub_self, List.getD_eq_getElem?_getD, ← List.head?_eq_getElem?,
    Text.head?_pieces]
  rfl

/-! ## Further down -/

theorem after_append_newline (h : '\n' ∉ line) (rest : Text) :
    after (line ++ '\n' :: rest) = ⟨(after rest).line + 1, (after rest).column⟩ := by
  have hlines : (line ++ '\n' :: rest).count '\n' = rest.count '\n' + 1 := by
    rw [List.count_append, List.count_eq_zero.mpr h, Nat.zero_add, List.count_cons_self]
  rw [after, after, hlines, List.reverse_append, List.reverse_cons, List.append_assoc,
    List.takeWhile_append]
  -- The line feed ends the characters taken from the end, whether or not all of `rest` is taken.
  split
  · rename_i hlength
    rw [List.length_append, hlength]
    rfl
  · rfl

theorem ofOffset_append_newline (h : '\n' ∉ line) (rest : Text) (offset : Nat) :
    ofOffset (line ++ '\n' :: rest) (line.length + 1 + offset)
      = ⟨(ofOffset rest offset).line + 1, (ofOffset rest offset).column⟩ := by
  rw [ofOffset, Nat.add_assoc, List.take_length_add_append, Nat.add_comm 1, List.take_succ_cons,
    after_append_newline h, ← ofOffset]

section Below

variable {position : Position}

theorem offsetIn_append_newline (h : '\n' ∉ line) (hline : 1 ≤ position.line) (rest : Text) :
    offsetIn ⟨position.line + 1, position.column⟩ (line ++ '\n' :: rest)
      = line.length + 1 + position.offsetIn rest := by
  obtain ⟨further, hfurther⟩ := Nat.exists_eq_add_of_le' hline
  rw [offsetIn, offsetIn, Text.pieces_append_newline h, hfurther, Nat.add_sub_cancel,
    Nat.add_sub_cancel, List.take_succ_cons, List.foldr_cons]

theorem restOfLine_append_newline (h : '\n' ∉ line) (hline : 1 ≤ position.line) (rest : Text) :
    restOfLine ⟨position.line + 1, position.column⟩ (line ++ '\n' :: rest)
      = position.restOfLine rest := by
  obtain ⟨further, hfurther⟩ := Nat.exists_eq_add_of_le' hline
  rw [restOfLine, restOfLine, Text.pieces_append_newline h, hfurther, Nat.add_sub_cancel,
    Nat.add_sub_cancel, List.getD_cons_succ]

end Below

/-! ## Every offset -/

/-- **Counting back from the position of an offset gives the offset.** -/
theorem offsetIn_ofOffset (h : offset ≤ text.length) :
    (ofOffset text offset).offsetIn text = offset := by
  induction text, offset, h using Text.line_induction with
  | first text offset _ h =>
    rw [ofOffset_of_le_firstLine h, offsetIn_first_line, Nat.add_sub_cancel]
  | next line rest offset _ _ hline ih =>
    rw [ofOffset_append_newline hline, offsetIn_append_newline hline (one_le_line_ofOffset _ _), ih]

/-- **From the position of an offset on**, the line has what follows the offset up to the next line
feed. -/
theorem restOfLine_ofOffset (h : offset ≤ text.length) :
    (ofOffset text offset).restOfLine text = Text.firstLine (text.drop offset) := by
  induction text, offset, h using Text.line_induction with
  | first text offset _ h =>
    rw [ofOffset_of_le_firstLine h, restOfLine_first_line, Nat.add_sub_cancel,
      Text.firstLine_drop h]
  | next line rest offset _ _ hline ih =>
    rw [ofOffset_append_newline hline, restOfLine_append_newline hline (one_le_line_ofOffset _ _),
      ih, Nat.add_assoc, List.drop_length_add_append, Nat.add_comm 1, List.drop_succ_cons]

/-! ## Behind a text in front

A position moves when a text is put in front. Its line moves down by the line feeds of that text,
and its column moves only on the first line, by what stands behind the last of them. -/

/-- Where the position comes to be behind the text in front. -/
def behind (front : Text) (position : Position) : Position :=
  if position.line = 1 then ⟨(after front).line, (after front).column + (position.column - 1)⟩
  else ⟨front.count '\n' + position.line, position.column⟩

theorem after_line_eq_one_iff : (after text).line = 1 ↔ '\n' ∉ text := by
  rw [after, Nat.add_eq_right, List.count_eq_zero]

theorem after_append (front text : Text) : after (front ++ text) = (after text).behind front := by
  have hlines : (front ++ text).count '\n' = front.count '\n' + text.count '\n' :=
    List.count_append
  rw [behind]
  split
  · rename_i hline
    have hmem := after_line_eq_one_iff.mp hline
    rw [after_of_not_mem hmem, after, hlines, List.count_eq_zero.mpr hmem, List.reverse_append,
      takeWhile_reverse_append hmem, List.length_append, List.length_reverse, after,
      Nat.add_sub_cancel, Nat.add_zero, Nat.add_comm text.length, Nat.add_right_comm]
  · rename_i hline
    rw [after_line_eq_one_iff, Classical.not_not] at hline
    have hlast : (text.reverse ++ front.reverse).takeWhile (· ≠ '\n')
        = text.reverse.takeWhile (· ≠ '\n') := by
      rw [List.takeWhile_append, if_neg]
      intro hlength
      have hwhole := (List.takeWhile_prefix _).eq_of_length hlength
      have hall := List.all_takeWhile (p := fun c : Char ↦ decide (c ≠ '\n')) (l := text.reverse)
      rw [hwhole] at hall
      exact of_decide_eq_true (List.all_eq_true.mp hall '\n' (List.mem_reverse.mpr hline)) rfl
    rw [after, hlines, List.reverse_append, hlast, after, Nat.add_assoc]

theorem ofOffset_append (front text : Text) (offset : Nat) :
    ofOffset (front ++ text) (front.length + offset) = (ofOffset text offset).behind front := by
  rw [ofOffset, List.take_length_add_append, after_append, ← ofOffset]

theorem ofOffset_append_left (front text : Text) (h : offset ≤ front.length) :
    ofOffset (front ++ text) offset = ofOffset front offset := by
  rw [ofOffset, List.take_append_of_le_length h, ← ofOffset]

end Position

end TextTemplate
