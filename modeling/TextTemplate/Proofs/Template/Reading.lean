import TextTemplate.Proofs.Template.Strays
import TextTemplate.Proofs.Text.Lines

/-!
# What reading gives

A lenient reader gives the decomposition of every text. A strict reader gives it for the texts whose
openings are all closed, and for any other text it fails at the first opening that is not. Both look
at the same offsets, the `strays` of the tokens, so what they do is said once for each in terms of
these, and the rest are facts about decompositions.
-/

namespace TextTemplate

namespace Template

open Token (opening closing sourceOf)

variable {name : Option Text} {template text : Text}

/-! ## The two readers -/

theorem check_lenient (offset : Nat) (tokens : List Token) :
    check .lenient name template offset tokens
      = ⟨(strays tokens).map fun inside ↦
          .strayKept name (Position.ofOffset template (offset + inside)), .ok ()⟩ := by
  induction tokens generalizing offset with
  | nil => rfl
  | cons token tokens ih =>
    rw [check, ih, strays]
    cases token.strayOffset? with
    | none => simp [Nat.add_assoc]
    | some inside => simp [Logged.after, Nat.add_assoc]

theorem check_strict (offset : Nat) (tokens : List Token) :
    check .strict name template offset tokens
      = .quiet ((strays tokens).head?.elim (.ok ()) fun inside ↦
          .error (.unclosedAt (Position.ofOffset template (offset + inside)) name)) := by
  induction tokens generalizing offset with
  | nil => rfl
  | cons token tokens ih =>
    rw [check, ih, strays]
    cases token.strayOffset? with
    | none => simp [Option.elim_map, Function.comp_def, Nat.add_assoc]
    | some inside => rfl

theorem read_lenient_result (name : Option Text) (text : Text) :
    (read .lenient name text).result = .ok (tokens text) := by
  rw [read, check_lenient]
  rfl

theorem read_strict_result (name : Option Text) (text : Text) :
    (read .strict name text).result
      = (strays (tokens text)).head?.elim (.ok (tokens text)) fun offset ↦
          .error (.unclosedAt (Position.ofOffset text offset) name) := by
  rw [read, check_strict]
  cases hstray : (strays (tokens text)).head? with
  | none => rfl
  | some offset => simp [Logged.quiet, Logged.map, Except.map]

/-! ## Lenient reading -/

/-- **Lenient reading gives the decomposition of every text**, and there is no other. -/
theorem exists_read_lenient_isDecomposition (name : Option Text) (text : Text) :
    ∃ tokens, (read .lenient name text).result = .ok tokens ∧ IsDecomposition text tokens ∧
      ∀ other, IsDecomposition text other → other = tokens :=
  ⟨tokens text, read_lenient_result name text, isDecomposition_tokens text,
    fun _ hother ↦ hother.eq_tokens⟩

/-! ## Strict reading -/

theorem read_strict_eq_ok (h : strays (tokens text) = []) :
    (read .strict name text).result = .ok (tokens text) := by
  rw [read_strict_result, h]
  rfl

theorem read_strict_eq_error {offset : Nat} (h : (strays (tokens text)).head? = some offset) :
    (read .strict name text).result
      = .error (.unclosedAt (Position.ofOffset text offset) name) := by
  rw [read_strict_result, h]
  rfl

/-- A strict reader gives the decomposition if none of its literals has an opening. -/
theorem read_strict_eq_ok_iff {other : List Token} :
    (read .strict name text).result = .ok other ↔
      IsDecomposition text other ∧ ∀ front, .literal front ∈ other → ¬ opening <:+: front := by
  rw [← strays_eq_nil_iff]
  constructor
  · intro h
    cases hstray : (strays (tokens text)).head? with
    | none =>
      have hnil := List.head?_eq_none_iff.mp hstray
      rw [read_strict_eq_ok hnil] at h
      obtain rfl := Except.ok.inj h
      exact ⟨isDecomposition_tokens text, hnil⟩
    | some offset =>
      rw [read_strict_eq_error hstray] at h
      exact absurd h (by simp)
  · rintro ⟨hother, hnil⟩
    rw [hother.eq_tokens] at hnil ⊢
    exact read_strict_eq_ok hnil

theorem not_unclosedAt_of_strays (h : strays (tokens text) = []) (offset : Nat) :
    ¬ UnclosedAt text offset := by
  intro hunclosed
  have hstray := (isDecomposition_tokens text).unclosedAt_iff.mp hunclosed
  obtain ⟨front, hmem, hopening⟩ := exists_literal_of_strayAt hstray
  exact strays_eq_nil_iff.mp h front hmem hopening

theorem isLeast_unclosedAt_of_strays {offset : Nat}
    (h : (strays (tokens text)).head? = some offset) :
    IsLeast {offset | UnclosedAt text offset} offset := by
  have hsame : {offset | UnclosedAt text offset} = {offset | StrayAt (tokens text) offset} :=
    Set.ext fun offset ↦ (isDecomposition_tokens text).unclosedAt_iff
  rw [hsame]
  exact isLeast_of_head?_strays h

theorem read_strict_eq_ok_iff_tokens {other : List Token} :
    (read .strict name text).result = .ok other ↔
      other = tokens text ∧ ∀ offset, ¬ UnclosedAt text offset := by
  cases hstray : (strays (tokens text)).head? with
  | none =>
    have hnil := List.head?_eq_none_iff.mp hstray
    rw [read_strict_eq_ok hnil, Except.ok.injEq, eq_comm]
    exact ⟨fun h ↦ ⟨h, not_unclosedAt_of_strays hnil⟩, fun h ↦ h.1⟩
  | some offset =>
    rw [read_strict_eq_error hstray]
    refine iff_of_false (by simp) fun h ↦ ?_
    exact h.2 offset (isLeast_unclosedAt_of_strays hstray).1

theorem read_strict_eq_error_iff {failure : TemplateFailure} :
    (read .strict name text).result = .error failure ↔
      ∃ offset, IsLeast {offset | UnclosedAt text offset} offset ∧
        failure = .unclosedAt (Position.ofOffset text offset) name := by
  cases hstray : (strays (tokens text)).head? with
  | none =>
    have hnil := List.head?_eq_none_iff.mp hstray
    rw [read_strict_eq_ok hnil]
    refine iff_of_false (by simp) ?_
    rintro ⟨offset, hleast, -⟩
    exact not_unclosedAt_of_strays hnil offset hleast.1
  | some offset =>
    have hleast := isLeast_unclosedAt_of_strays hstray
    rw [read_strict_eq_error hstray, Except.error.injEq, eq_comm]
    constructor
    · rintro rfl
      exact ⟨offset, hleast, rfl⟩
    · rintro ⟨other, hother, rfl⟩
      rw [hleast.unique hother]

theorem exists_read_strict_eq_error_iff :
    (∃ failure, (read .strict name text).result = .error failure) ↔
      ∃ offset, UnclosedAt text offset := by
  constructor
  · rintro ⟨failure, herror⟩
    obtain ⟨offset, hleast, -⟩ := read_strict_eq_error_iff.mp herror
    exact ⟨offset, hleast.1⟩
  · rintro ⟨offset, hunclosed⟩
    cases hread : (read .strict name text).result with
    | error failure => exact ⟨failure, rfl⟩
    | ok other => exact absurd hunclosed ((read_strict_eq_ok_iff_tokens.mp hread).2 offset)

theorem opening_prefix_restOfLine {offset : Nat} (h : OpensAt text offset) :
    opening <+: (Position.ofOffset text offset).restOfLine text := by
  rw [Position.restOfLine_ofOffset (Nat.le_of_lt h.lt_length)]
  obtain ⟨rest, hrest⟩ := h
  rw [← hrest]
  exact ⟨Text.firstLine rest, rfl⟩

/-- **Strict reading fails on exactly the texts with an opening that is not closed**, and the
failure has the place of the first such opening: its line begins with the braces from its column on,
and counting the lines and columns before it gives the least such offset. -/
theorem read_strict_error_iff_unclosed (name : Option Text) (text : Text) :
    ((∃ failure, (read .strict name text).result = .error failure) ↔
        ∃ offset, UnclosedAt text offset) ∧
      ∀ failure, (read .strict name text).result = .error failure →
        ∃ position : Position, failure = .unclosedAt position name ∧
          1 ≤ position.line ∧ 1 ≤ position.column ∧
          opening <+: position.restOfLine text ∧
          IsLeast {offset | UnclosedAt text offset} (position.offsetIn text) := by
  cases hstray : (strays (tokens text)).head? with
  | none =>
    have hnil := List.head?_eq_none_iff.mp hstray
    have hok : ∀ failure, (read .strict name text).result ≠ .error failure := by
      rw [read_strict_eq_ok hnil]
      exact fun failure h ↦ nomatch h
    refine ⟨⟨fun ⟨failure, h⟩ ↦ absurd h (hok failure), ?_⟩, fun failure h ↦ absurd h (hok failure)⟩
    rintro ⟨offset, hunclosed⟩
    exact absurd hunclosed (not_unclosedAt_of_strays hnil offset)
  | some offset =>
    have herror : (read .strict name text).result
        = .error (.unclosedAt (Position.ofOffset text offset) name) := read_strict_eq_error hstray
    have hleast := isLeast_unclosedAt_of_strays hstray
    have hopen : OpensAt text offset := hleast.1.1
    refine ⟨⟨fun _ ↦ ⟨offset, hleast.1⟩, fun _ ↦ ⟨_, herror⟩⟩, fun failure h ↦ ?_⟩
    rw [herror] at h
    refine ⟨Position.ofOffset text offset, (Except.error.inj h).symm,
      Position.one_le_line_ofOffset text offset, Position.one_le_column_ofOffset text offset,
      opening_prefix_restOfLine hopen, ?_⟩
    rw [Position.offsetIn_ofOffset (Nat.le_of_lt hopen.lt_length)]
    exact hleast

/-- The opening on the second line is not closed there, and the one on the third does not help. -/
example : (read .strict none ['a', '\n', 'b', '{', '{', '\n', '{', '{', 'c', '}', '}']).result
    = .error (.unclosed 2 2 none) := by cbv

end Template

end TextTemplate
