import TextTemplate.Value.DataPath

/-!
# The segments of an expression

An expression is a dotted path when the pieces between its dots are identifiers, and then these are
its segments. Every other expression is its own only segment. Either way the segments with dots
between them are the expression again, so no two expressions have the same segments.

The reader of dotted paths goes through the characters once and cuts nothing, while the segments are
cut at the dots without a look at what is between them. What ties the two together is the piece that
the reader is in: at the start of a piece it asks for an identifier, and inside one for the rest of
an identifier. Both are followed at once in `isDotted_and_isDottedTail`.
-/

namespace TextTemplate

/-! ## Pieces -/

namespace Text

variable {separator : Char} {text : Text}

@[simp] theorem pieces_nil (separator : Char) : pieces separator [] = [[]] := rfl

@[simp] theorem pieces_separator_cons (separator : Char) (rest : Text) :
    pieces separator (separator :: rest) = [] :: pieces separator rest := by
  rw [pieces, if_pos rfl]

theorem exists_pieces_cons {c : Char} (hc : c ≠ separator) (rest : Text) :
    ∃ piece more, pieces separator rest = piece :: more ∧
      pieces separator (c :: rest) = (c :: piece) :: more := by
  obtain ⟨piece, more, hpieces⟩ := List.exists_cons_of_ne_nil (pieces_ne_nil separator rest)
  refine ⟨piece, more, hpieces, ?_⟩
  rw [pieces, if_neg hc, hpieces]

theorem pieces_of_not_mem (h : separator ∉ text) : pieces separator text = [text] := by
  induction text with
  | nil => rfl
  | cons c rest ih =>
    rw [List.mem_cons, not_or] at h
    rw [pieces, if_neg (Ne.symm h.1), ih h.2]

theorem pieces_join {texts : List Text} (hne : texts ≠ [])
    (htexts : ∀ text ∈ texts, separator ∉ text) :
    pieces separator (join [separator] texts) = texts := by
  induction texts with
  | nil => exact absurd rfl hne
  | cons text rest ih =>
    obtain ⟨htext, hrest⟩ := List.forall_mem_cons.mp htexts
    cases rest with
    | nil => exact pieces_of_not_mem htext
    | cons other rest =>
      rw [join_cons_cons, List.append_assoc, List.singleton_append, pieces_append,
        pieces_of_not_mem htext, ih (List.cons_ne_nil other rest) hrest, List.singleton_append]

end Text

namespace DataPath

/-! ## Identifiers -/

def IsLetter (c : Char) : Prop := ('A' ≤ c ∧ c ≤ 'Z') ∨ ('a' ≤ c ∧ c ≤ 'z')

/-- The text is an ASCII identifier: letters, digits, underscores and dollar signs, without a digit
in front. -/
def IsIdentifier (text : Text) : Prop :=
  ∃ first rest, text = first :: rest ∧ (IsLetter first ∨ first = '_' ∨ first = '$') ∧
    ∀ c ∈ rest, IsLetter c ∨ ('0' ≤ c ∧ c ≤ '9') ∨ c = '_' ∨ c = '$'

theorem isAlpha_iff {c : Char} : c.isAlpha = true ↔ IsLetter c := by
  have hupper : c.isUpper = true ↔ 'A' ≤ c ∧ c ≤ 'Z' := decide_eq_true_iff
  have hlower : c.isLower = true ↔ 'a' ≤ c ∧ c ≤ 'z' :=
    Bool.and_eq_true_iff.trans (and_congr decide_eq_true_iff decide_eq_true_iff)
  exact Bool.or_eq_true_iff.trans (or_congr hupper hlower)

theorem isDigit_iff {c : Char} : c.isDigit = true ↔ '0' ≤ c ∧ c ≤ '9' := by
  simp [Char.isDigit, Char.le_def]

theorem isIdentifierStart_iff {c : Char} :
    isIdentifierStart c = true ↔ IsLetter c ∨ c = '_' ∨ c = '$' := by
  simp [isIdentifierStart, isAlpha_iff, or_assoc]

theorem isIdentifierPart_iff {c : Char} :
    isIdentifierPart c = true ↔ IsLetter c ∨ ('0' ≤ c ∧ c ≤ '9') ∨ c = '_' ∨ c = '$' := by
  rw [isIdentifierPart, Bool.or_eq_true, isIdentifierStart_iff, isDigit_iff, or_right_comm, or_assoc]

theorem not_isIdentifier_nil : ¬ IsIdentifier [] := by
  rintro ⟨first, rest, h, -⟩
  exact List.cons_ne_nil first rest h.symm

theorem isIdentifier_cons_iff {c : Char} {rest : Text} :
    IsIdentifier (c :: rest) ↔
      isIdentifierStart c = true ∧ ∀ d ∈ rest, isIdentifierPart d = true := by
  simp only [isIdentifierStart_iff, isIdentifierPart_iff]
  constructor
  · rintro ⟨first, others, h, hfirst, hothers⟩
    obtain ⟨rfl, rfl⟩ := List.cons.inj h
    exact ⟨hfirst, hothers⟩
  · rintro ⟨hc, hrest⟩
    exact ⟨c, rest, rfl, hc, hrest⟩

theorem IsIdentifier.not_mem_dot {text : Text} (h : IsIdentifier text) : '.' ∉ text := by
  obtain ⟨first, rest, rfl, hfirst, hrest⟩ := h
  intro hmem
  rcases List.mem_cons.mp hmem with rfl | hmem
  · exact absurd (isIdentifierStart_iff.mpr hfirst) (by decide)
  · exact absurd (isIdentifierPart_iff.mpr (hrest '.' hmem)) (by decide)

/-! ## Dotted paths -/

/-- The first piece is what an identifier may go on with, and all others are identifiers. -/
def GoesOn : List Text → Prop
  | [] => False
  | piece :: more =>
    (∀ c ∈ piece, isIdentifierPart c = true) ∧ ∀ other ∈ more, IsIdentifier other

/-- At the start of a piece the reader asks for identifiers, and inside one for the rest of it. -/
theorem isDotted_and_isDottedTail (text : Text) :
    (isDotted text = true ↔ ∀ piece ∈ Text.pieces '.' text, IsIdentifier piece) ∧
      (isDottedTail text = true ↔ GoesOn (Text.pieces '.' text)) := by
  induction text with
  | nil => simp [isDotted, isDottedTail, not_isIdentifier_nil, GoesOn]
  | cons c rest ih =>
    obtain ⟨hstart, htail⟩ := ih
    by_cases hc : c = '.'
    · -- A dot ends an identifier, but none may begin with it.
      subst hc
      have hdot : isIdentifierStart '.' = false := by decide
      rw [isDotted, isDottedTail, if_pos rfl, hstart, hdot, Text.pieces_separator_cons, GoesOn]
      simp [not_isIdentifier_nil]
    · obtain ⟨piece, more, hpieces, hcons⟩ := Text.exists_pieces_cons hc rest
      rw [isDotted, isDottedTail, if_neg hc, Bool.and_eq_true, Bool.and_eq_true, htail, hpieces,
        hcons, GoesOn, GoesOn]
      simp [isIdentifier_cons_iff, and_assoc]

theorem isDotted_iff {text : Text} :
    isDotted text = true ↔ ∀ piece ∈ Text.pieces '.' text, IsIdentifier piece :=
  (isDotted_and_isDottedTail text).1

theorem pieces_join_identifiers {identifiers : List Text} (hne : identifiers ≠ [])
    (h : ∀ identifier ∈ identifiers, IsIdentifier identifier) :
    Text.pieces '.' (Text.join ['.'] identifiers) = identifiers :=
  Text.pieces_join hne fun identifier hmem ↦ (h identifier hmem).not_mem_dot

/-! ## Segments -/

theorem segments_of_isDotted {expression : Text} (h : isDotted expression = true) :
    segments expression = Text.pieces '.' expression := if_pos h

theorem segments_of_not_isDotted {expression : Text} (h : isDotted expression = false) :
    segments expression = [expression] := by
  rw [segments, h, if_neg Bool.false_ne_true]

theorem join_segments (expression : Text) : Text.join ['.'] (segments expression) = expression := by
  cases h : isDotted expression with
  | true => rw [segments_of_isDotted h, Text.join_pieces]
  | false =>
    rw [segments_of_not_isDotted h]
    rfl

theorem segments_injective : Function.Injective segments := by
  intro expression other h
  rw [← join_segments expression, h, join_segments]

/-- How an expression comes apart into segments, and together again. -/
structure ComesApart (expression : Text) : Prop where
  /-- It is a dotted path exactly if each piece between its dots is an identifier. -/
  isDotted_iff : isDotted expression = true ↔
    ∀ piece ∈ Text.pieces '.' expression, IsIdentifier piece
  /-- Such pieces are the only identifiers that it can be joined from. -/
  pieces_unique : ∀ identifiers, identifiers ≠ [] →
    (∀ identifier ∈ identifiers, IsIdentifier identifier) →
      Text.join ['.'] identifiers = expression → segments expression = identifiers
  /-- The segments of a dotted path are the pieces between its dots. -/
  of_dotted : isDotted expression = true → segments expression = Text.pieces '.' expression
  /-- Any other expression is its only segment. -/
  of_opaque : isDotted expression = false → segments expression = [expression]
  /-- Joining the segments undoes this. -/
  join_segments : Text.join ['.'] (segments expression) = expression
  /-- No other expression has the same segments. -/
  segments_eq_iff : ∀ other, segments other = segments expression ↔ other = expression

/-- **Every expression comes apart** into the identifiers between its dots, or not at all, and can
be told from its segments. -/
theorem comesApart (expression : Text) : ComesApart expression := by
  refine ⟨isDotted_iff, ?_, segments_of_isDotted, segments_of_not_isDotted,
    join_segments expression, fun other ↦ segments_injective.eq_iff⟩
  rintro identifiers hne hidentifiers rfl
  have hpieces := pieces_join_identifiers hne hidentifiers
  have hdotted : isDotted (Text.join ['.'] identifiers) = true := by
    rw [isDotted_iff, hpieces]
    exact hidentifiers
  rw [segments_of_isDotted hdotted, hpieces]

/-- A dot at the end leaves an empty piece behind it, which is no identifier. -/
example : segments ['a', '.', 'b', '.'] = [['a', '.', 'b', '.']] := by decide

end DataPath

end TextTemplate
