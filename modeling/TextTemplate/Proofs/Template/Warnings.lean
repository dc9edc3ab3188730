import Mathlib.Data.List.Forall2
import Mathlib.Data.List.Infix
import TextTemplate.Proofs.Template.Reading

/-!
# What a lenient reader notes

Both readers go through the same literals and look for the same openings. A strict one fails where a
lenient one notes the first of them, so it accepts the texts of which the other has nothing to note,
and says where a text goes wrong in the same place.

What a lenient reader notes is said literal by literal: it notes the first opening of each literal
that has one, and nothing else. Any other opening that is not closed comes after one that is noted
in the same literal.

## Literals and their offsets

The offsets that reading looks at are the `strays` of the tokens, which are counted from the first
token on. Here the literals carry their offsets with them. An induction over the tokens has to begin
anywhere in the text, and so the offset of the first token is a parameter of `literalsFrom`.
-/

namespace TextTemplate

namespace Template

open Token (opening closing)

/-! ## Literals where they stand -/

structure PlacedLiteral where
  start : Nat
  text : Text

/-- The literals among tokens of which the first begins at an offset. -/
def literalsFrom : Nat → List Token → List PlacedLiteral
  | _, [] => []
  | start, .literal text :: rest => ⟨start, text⟩ :: literalsFrom (start + text.length) rest
  | start, .placeholder _ raw :: rest =>
    literalsFrom (start + (opening ++ raw ++ closing).length) rest

/-- The offset is that of the first opening in the literal. -/
def IsFirstOpening (literal : PlacedLiteral) (offset : Nat) : Prop :=
  ∃ inside, IsLeast {inside | OpensAt literal.text inside} inside ∧ offset = literal.start + inside

/-- The literals that have an opening. -/
def withOpening (literals : List PlacedLiteral) : List PlacedLiteral :=
  literals.filter fun literal ↦ opening <:+: literal.text

theorem withOpening_cons_of_mem {literal : PlacedLiteral} (h : opening <:+: literal.text)
    (rest : List PlacedLiteral) : withOpening (literal :: rest) = literal :: withOpening rest :=
  List.filter_cons_of_pos (decide_eq_true h)

theorem withOpening_cons_of_not_mem {literal : PlacedLiteral} (h : ¬ opening <:+: literal.text)
    (rest : List PlacedLiteral) : withOpening (literal :: rest) = withOpening rest :=
  List.filter_cons_of_neg (by simpa using h)

/-- **The strays are the first openings** of the literals that have one. -/
theorem forall₂_strays (start : Nat) (tokens : List Token) :
    List.Forall₂ (fun offset literal ↦ IsFirstOpening literal offset)
      ((strays tokens).map (start + ·)) (withOpening (literalsFrom start tokens)) := by
  induction tokens generalizing start with
  | nil => exact List.Forall₂.nil
  | cons token rest ih =>
    -- What comes after the token is counted from its end.
    have hrest : List.Forall₂ (fun offset literal ↦ IsFirstOpening literal offset)
        (((strays rest).map (token.source.length + ·)).map (start + ·))
        (withOpening (literalsFrom (start + token.source.length) rest)) := by
      rw [List.map_map]
      simpa only [Function.comp_def, Nat.add_assoc] using ih (start + token.source.length)
    rw [strays, List.map_append]
    cases token with
    | placeholder expression raw => exact hrest
    | literal text =>
      rw [literalsFrom]
      cases hstray : Token.strayOffset? (.literal text) with
      | none =>
        rw [withOpening_cons_of_not_mem (strayOffset?_eq_none_iff.mp hstray)]
        exact hrest
      | some inside =>
        have hleast := isLeast_of_strayOffset? hstray
        have hopen : OpensAt text inside := hleast.1
        rw [withOpening_cons_of_mem hopen.isInfix]
        exact List.Forall₂.cons ⟨inside, hleast, rfl⟩ hrest

theorem exists_literal_mem_of_strayAt {tokens : List Token} {offset : Nat}
    (h : StrayAt tokens offset) (start : Nat) :
    ∃ literal ∈ literalsFrom start tokens, ∃ inside, OpensAt literal.text inside ∧
      start + offset = literal.start + inside := by
  induction tokens generalizing offset start with
  | nil => exact h.elim
  | cons token rest ih =>
    have hrest {length : Nat} (hle : length ≤ offset) (hfurther : StrayAt rest (offset - length)) :
        ∃ literal ∈ literalsFrom (start + length) rest, ∃ inside, OpensAt literal.text inside ∧
          start + offset = literal.start + inside := by
      obtain ⟨literal, hmem, inside, hopen, hinside⟩ := ih hfurther (start + length)
      refine ⟨literal, hmem, inside, hopen, ?_⟩
      rw [← hinside, Nat.add_assoc, Nat.add_sub_cancel' hle]
    cases token with
    | placeholder expression raw => exact hrest h.1 h.2
    | literal text =>
      rcases h with hopen | ⟨hle, hfurther⟩
      · exact ⟨⟨start, text⟩, List.mem_cons_self, offset, hopen, rfl⟩
      · obtain ⟨literal, hmem, hliteral⟩ := hrest hle hfurther
        exact ⟨literal, List.mem_cons_of_mem _ hmem, hliteral⟩

theorem strayAt_of_mem_strays {tokens : List Token} {offset : Nat} (h : offset ∈ strays tokens) :
    StrayAt tokens offset := by
  induction tokens generalizing offset with
  | nil => exact absurd h List.not_mem_nil
  | cons token rest ih =>
    rw [strays, List.mem_append, Option.mem_toList, List.mem_map] at h
    rcases h with hstray | ⟨further, hfurther, rfl⟩
    · cases token with
      | placeholder expression raw => exact absurd hstray (by simp [Token.strayOffset?])
      | literal text => exact Or.inl (isLeast_of_strayOffset? hstray).1
    · exact strayAt_cons_add.mpr (ih hfurther)

/-! ## Two readers -/

section Readers

variable {name : Option Text} {text : Text}

theorem read_lenient_events (name : Option Text) (text : Text) :
    (read .lenient name text).events
      = (strays (tokens text)).map fun offset ↦ .strayKept name (Position.ofOffset text offset) := by
  rw [read, check_lenient]
  simp [Logged.map]

theorem read_strict_events (name : Option Text) (text : Text) :
    (read .strict name text).events = [] := by
  rw [read, check_strict]
  rfl

theorem unclosedAt_inj {position other : Position} :
    TemplateFailure.unclosedAt position name = .unclosedAt other name ↔ position = other := by
  constructor
  · intro h
    obtain ⟨hline, hcolumn, -⟩ := TemplateFailure.unclosed.inj h
    have hline : position.line = other.line := Int.ofNat.inj hline
    have hcolumn : position.column = other.column := Int.ofNat.inj hcolumn
    obtain ⟨line, column⟩ := position
    congr
  · rintro rfl
    rfl

/-- The event notes the first opening in a literal of the text. -/
def NotesFirst (name : Option Text) (text : Text) (event : Log.Event) (literal : PlacedLiteral) :
    Prop :=
  ∃ offset, IsFirstOpening literal offset ∧
    event = .strayKept name (Position.ofOffset text offset)

theorem forall₂_notesFirst (name : Option Text) (text : Text) :
    List.Forall₂ (NotesFirst name text) (read .lenient name text).events
      (withOpening (literalsFrom 0 (tokens text))) := by
  rw [read_lenient_events, List.forall₂_map_left_iff]
  have hstrays := forall₂_strays 0 (tokens text)
  rw [List.forall₂_map_left_iff] at hstrays
  refine hstrays.imp fun offset literal hfirst ↦ ⟨offset, ?_, rfl⟩
  rwa [Nat.zero_add] at hfirst

theorem exists_of_forall₂_of_mem {α β : Type} {R : α → β → Prop} {items : List α}
    {others : List β} (h : List.Forall₂ R items others) {other : β} (hmem : other ∈ others) :
    ∃ item ∈ items, R item other := by
  induction h with
  | nil => exact absurd hmem List.not_mem_nil
  | cons hfirst hrest ih =>
    rcases List.mem_cons.mp hmem with rfl | hmem
    · exact ⟨_, List.mem_cons_self, hfirst⟩
    · obtain ⟨item, hitem, hrelated⟩ := ih hmem
      exact ⟨item, List.mem_cons_of_mem _ hitem, hrelated⟩

/-- An opening that is not closed lies in a literal, and what is noted of the literal does not come
after it. -/
theorem exists_noted_of_unclosedAt (name : Option Text) {offset : Nat}
    (h : UnclosedAt text offset) :
    ∃ literal ∈ literalsFrom 0 (tokens text),
      literal.start ≤ offset ∧ offset + 2 ≤ literal.start + literal.text.length ∧
        ∃ noted ≤ offset, IsFirstOpening literal noted ∧
          .strayKept name (Position.ofOffset text noted) ∈ (read .lenient name text).events := by
  have hstray := (isDecomposition_tokens text).unclosedAt_iff.mp h
  obtain ⟨literal, hmem, inside, hopen, hoffset⟩ := exists_literal_mem_of_strayAt hstray 0
  rw [Nat.zero_add] at hoffset
  have hwith : literal ∈ withOpening (literalsFrom 0 (tokens text)) :=
    List.mem_filter.mpr ⟨hmem, decide_eq_true hopen.isInfix⟩
  obtain ⟨event, hevent, noted, hfirst, rfl⟩ :=
    exists_of_forall₂_of_mem (forall₂_notesFirst name text) hwith
  refine ⟨literal, hmem, ?_, ?_, noted, ?_, hfirst, hevent⟩
  · rw [hoffset]
    exact Nat.le_add_right literal.start inside
  · rw [hoffset, Nat.add_assoc]
    exact Nat.add_le_add_left hopen.add_two_le literal.start
  · obtain ⟨least, hleast, rfl⟩ := hfirst
    rw [hoffset]
    exact Nat.add_le_add_left (hleast.2 hopen) literal.start

/-! ## The two agree -/

/-- What a strict and a lenient reader have to do with each other on a text. -/
structure ReadersAgree (name : Option Text) (text : Text) : Prop where
  /-- The strict reader accepts the text exactly if the lenient one notes nothing. -/
  accepted_iff : (∃ tokens, (read .strict name text).result = .ok tokens) ↔
    (read .lenient name text).events = []
  /-- Then both give the same tokens. -/
  same_tokens : ∀ tokens, (read .strict name text).result = .ok tokens →
    (read .lenient name text).result = .ok tokens
  /-- The strict reader refuses the text at the position that the lenient one notes first. -/
  refused_iff : ∀ position, (read .strict name text).result = .error (.unclosedAt position name) ↔
    (read .lenient name text).events.head? = some (.strayKept name position)
  /-- It refuses a text for nothing else. -/
  refused : ∀ failure, (read .strict name text).result = .error failure →
    ∃ position, failure = .unclosedAt position name
  /-- It notes nothing. -/
  strict_quiet : (read .strict name text).events = []
  /-- The lenient reader accepts every text. -/
  lenient_accepts : (read .lenient name text).result = .ok (tokens text)
  /-- It notes the first opening of each literal that has one, in the order of the literals. -/
  notes_literals : List.Forall₂ (NotesFirst name text) (read .lenient name text).events
    (withOpening (literalsFrom 0 (tokens text)))
  /-- An opening that is not closed lies in a literal of which none further on is noted. -/
  unclosed_noted : ∀ offset, UnclosedAt text offset → ∃ literal ∈ literalsFrom 0 (tokens text),
    literal.start ≤ offset ∧ offset + 2 ≤ literal.start + literal.text.length ∧
      ∃ noted ≤ offset, IsFirstOpening literal noted ∧
        .strayKept name (Position.ofOffset text noted) ∈ (read .lenient name text).events
  /-- All that is noted are warnings of openings that are not closed. -/
  notes_unclosed : ∀ event ∈ (read .lenient name text).events, event.level = .warning ∧
    ∃ position, event = .strayKept name position ∧ opening <+: position.restOfLine text ∧
      UnclosedAt text (position.offsetIn text)

theorem exists_unclosedAt_of_noted {event : Log.Event}
    (h : event ∈ (read .lenient name text).events) :
    ∃ position, event = .strayKept name position ∧ opening <+: position.restOfLine text ∧
      UnclosedAt text (position.offsetIn text) := by
  rw [read_lenient_events, List.mem_map] at h
  obtain ⟨offset, hmem, rfl⟩ := h
  have hunclosed : UnclosedAt text offset :=
    (isDecomposition_tokens text).unclosedAt_iff.mpr (strayAt_of_mem_strays hmem)
  refine ⟨_, rfl, opening_prefix_restOfLine hunclosed.1, ?_⟩
  rwa [Position.offsetIn_ofOffset hunclosed.1.lt_length.le]

/-- **A strict reader fails at what a lenient one notes first**, and the lenient one notes the first
opening of every literal that has one. -/
theorem readersAgree (name : Option Text) (text : Text) : ReadersAgree name text := by
  refine ⟨?_, ?_, ?_, ?_, read_strict_events name text, read_lenient_result name text,
    forall₂_notesFirst name text, fun offset ↦ exists_noted_of_unclosedAt name, ?_⟩
  · rw [read_lenient_events, List.map_eq_nil_iff]
    constructor
    · rintro ⟨tokens, haccepted⟩
      obtain ⟨hdecomposition, hopening⟩ := read_strict_eq_ok_iff.mp haccepted
      rw [← hdecomposition.eq_tokens]
      exact strays_eq_nil_iff.mpr hopening
    · intro hnil
      exact ⟨tokens text, read_strict_eq_ok hnil⟩
  · intro tokens haccepted
    rw [(read_strict_eq_ok_iff_tokens.mp haccepted).1]
    exact read_lenient_result name text
  · intro position
    rw [read_lenient_events, List.head?_map, read_strict_result]
    cases (strays (tokens text)).head? with
    | none => simp
    | some offset => simp [unclosedAt_inj]
  · intro failure hrefused
    obtain ⟨offset, -, rfl⟩ := read_strict_eq_error_iff.mp hrefused
    exact ⟨_, rfl⟩
  · intro event hevent
    obtain ⟨position, rfl, hposition⟩ := exists_unclosedAt_of_noted hevent
    exact ⟨rfl, position, rfl, hposition⟩

/-- Of the two openings in the first literal only the first one is noted. -/
example : (read .lenient none ['{', '{', '{', '\n', '{', '{', 'a', '}', '}', '{', '{']).events
    = [.strayKept none ⟨1, 1⟩, .strayKept none ⟨2, 6⟩] := by cbv

end Readers

end Template

end TextTemplate
