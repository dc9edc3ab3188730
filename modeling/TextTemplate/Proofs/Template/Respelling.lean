import Mathlib.Data.List.Forall2
import TextTemplate.Proofs.Engine.Refusal
import TextTemplate.Proofs.Template.Canonical
import TextTemplate.Proofs.Template.Warnings
import TextTemplate.Proofs.Text.Trimming

/-!
# Blanks inside the delimiters

What stands between the delimiters of a placeholder comes down to its expression, so blanks next to
the delimiters mean nothing. Tokens are respelled when other blanks are put there, in each
placeholder as one likes, and the text of the respelled tokens is read as these tokens. They call
for the same steps, so it is rendered as the first text is.

Blanks that end a line are no such blanks, for a placeholder is on one line. And an expression that
ends in a brace may need the blank behind it: without one, its brace and the delimiter would be
closing braces that begin too early.

## What is kept

Whether token lists can be read back is a matter of tokens and neighbours, which is what
`IsCanonical` says. A part of a respelled list is a part of the first list respelled, so everything
that is said of literals and their neighbours carries over. Of placeholders it has to be shown that
the respelled text is raw again.
-/

namespace TextTemplate

namespace Template

open Token (opening closing sourceOf)

/-! ## Raw texts with blanks around them -/

def IsSpacing (text : Text) : Prop :=
  ∀ c ∈ text, isBlank c = true ∧ Text.isLineTerminator c = false

instance (text : Text) : Decidable (IsSpacing text) := List.decidableBAll _ text

variable {raw more text before after : Text}

theorem IsRaw.append (hraw : IsRaw raw) (hmore : IsRaw more) : IsRaw (raw ++ more) := by
  induction raw with
  | nil => exact hmore
  | cons c raw ih =>
    obtain ⟨hc, hbrace, hraw⟩ := isRaw_cons_iff.mp hraw
    refine isRaw_cons_iff.mpr ⟨hc, fun heq ↦ ?_, ih hraw⟩
    obtain ⟨hne, hhead⟩ := hbrace heq
    obtain ⟨d, rest, rfl⟩ := List.exists_cons_of_ne_nil hne
    exact ⟨List.cons_ne_nil d _, hhead⟩

/-- A part of a raw text is raw, unless a brace at its end has lost what stood behind it. -/
theorem IsRaw.of_isInfix (hraw : IsRaw raw) (hpart : text <:+: raw)
    (hlast : text.getLast? ≠ some '}') : IsRaw text where
  one_line c hc := hraw.one_line c (hpart.subset hc)
  no_closing hclosing := hraw.no_closing (hclosing.trans hpart)
  no_brace_last := hlast

theorem IsSpacing.isRaw (hspacing : IsSpacing text) : IsRaw text := by
  induction text with
  | nil => exact isRaw_nil
  | cons c text ih =>
    obtain ⟨⟨hblank, hline⟩, hrest⟩ := List.forall_mem_cons.mp hspacing
    refine isRaw_cons_iff.mpr ⟨hline, ?_, ih hrest⟩
    rintro rfl
    exact absurd hblank (by decide)

/-- An expression is raw with any blanks around it, unless it ends in a brace. -/
theorem IsRaw.respelled (hraw : IsRaw raw) (hlast : (Text.trim raw).getLast? ≠ some '}')
    (hbefore : IsSpacing before) (hafter : IsSpacing after) :
    IsRaw (before ++ Text.trim raw ++ after) := by
  have hexpression : IsRaw (Text.trim raw) := hraw.of_isInfix (Text.trim_isInfix raw) hlast
  exact (hbefore.isRaw.append hexpression).append hafter.isRaw

theorem trim_respelled (raw : Text) (hbefore : IsSpacing before) (hafter : IsSpacing after) :
    Text.trim (before ++ Text.trim raw ++ after) = Text.trim raw := by
  rw [Text.trim_around (fun c hc ↦ (hbefore c hc).1) (fun c hc ↦ (hafter c hc).1), Text.trim_trim]

/-! ## Respelled tokens -/

/-- The second token is the first one with other blanks inside its delimiters, if it has any. -/
inductive Respells : Token → Token → Prop where
  /-- Literals stay as they are. -/
  | literal (text : Text) : Respells (.literal text) (.literal text)
  /-- The expression of a placeholder is put between any blanks. -/
  | placeholder (expression raw before after : Text) (hbefore : IsSpacing before)
      (hafter : IsSpacing after) :
      Respells (.placeholder expression raw) (.placeholder expression (before ++ expression ++ after))

theorem respells_literal_iff {token : Token} :
    Respells token (.literal text) ↔ token = .literal text := by
  constructor
  · rintro ⟨⟩
    rfl
  · rintro rfl
    exact .literal text

theorem respells_placeholder_iff {token : Token} {expression : Text} :
    Respells token (.placeholder expression raw) ↔
      ∃ first before after, token = .placeholder expression first ∧
        raw = before ++ expression ++ after ∧ IsSpacing before ∧ IsSpacing after := by
  constructor
  · rintro ⟨⟩
    exact ⟨_, _, _, rfl, rfl, ‹_›, ‹_›⟩
  · rintro ⟨first, before, after, rfl, rfl, hbefore, hafter⟩
    exact .placeholder expression first before after hbefore hafter

/-- The tokens of the one list are those of the other with other blanks. -/
def Respelled (tokens other : List Token) : Prop := List.Forall₂ Respells tokens other

variable {tokens other : List Token}

theorem Respelled.literal_mem (h : Respelled tokens other) (hmem : .literal text ∈ other) :
    .literal text ∈ tokens := by
  obtain ⟨token, htoken, hrespells⟩ := exists_of_forall₂_of_mem h hmem
  rwa [respells_literal_iff.mp hrespells] at htoken

/-- Neighbours in a respelled list are neighbours in the first list, respelled. -/
theorem Respelled.exists_neighbours (h : Respelled tokens other) {token next : Token}
    (hpair : [token, next] <:+: other) :
    ∃ token' next', [token', next'] <:+: tokens ∧ Respells token' token ∧ Respells next' next := by
  obtain ⟨front, rest, rfl⟩ := hpair
  have hfront := List.forall₂_take_append tokens (front ++ [token, next]) rest h
  have hpart := List.forall₂_drop_append _ front [token, next] hfront
  have hinfix := (List.drop_suffix front.length _).isInfix.trans
    (List.take_prefix (front ++ [token, next]).length tokens).isInfix
  obtain ⟨token', more, htoken, hmore, hsplit⟩ := List.forall₂_cons_right_iff.mp hpart
  obtain ⟨next', end', hnext, hend, rfl⟩ := List.forall₂_cons_right_iff.mp hmore
  obtain rfl := List.forall₂_nil_right_iff.mp hend
  rw [hsplit] at hinfix
  exact ⟨token', next', hinfix, htoken, hnext⟩

/-- **Respelled tokens can be read back** if the first ones can, and no expression ends in a
brace. -/
theorem IsCanonical.respelled (h : IsCanonical tokens) (hrespelled : Respelled tokens other)
    (hbrace : ∀ expression raw, .placeholder expression raw ∈ tokens →
      expression.getLast? ≠ some '}') : IsCanonical other where
  literal_ne_nil hmem := h.literal_ne_nil (hrespelled.literal_mem hmem)
  literals_apart text next hpair := by
    obtain ⟨token, token', hpair, htoken, htoken'⟩ := hrespelled.exists_neighbours hpair
    rw [respells_literal_iff.mp htoken, respells_literal_iff.mp htoken'] at hpair
    exact h.literals_apart text next hpair
  placeholder_raw expression raw hmem := by
    obtain ⟨token, htoken, hrespells⟩ := exists_of_forall₂_of_mem hrespelled hmem
    obtain ⟨first, before, after, rfl, rfl, hbefore, hafter⟩ :=
      respells_placeholder_iff.mp hrespells
    obtain ⟨rfl, hraw⟩ := h.placeholder_raw expression first htoken
    exact ⟨(trim_respelled first hbefore hafter).symm,
      hraw.respelled (hbrace _ first htoken) hbefore hafter⟩
  no_opening text hmem := h.no_opening text (hrespelled.literal_mem hmem)
  no_brace_before_placeholder text expression raw hpair := by
    obtain ⟨token, next, hpair, htoken, hnext⟩ := hrespelled.exists_neighbours hpair
    obtain ⟨first, -, -, rfl, -⟩ := respells_placeholder_iff.mp hnext
    rw [respells_literal_iff.mp htoken] at hpair
    exact h.no_brace_before_placeholder text expression first hpair

theorem Respelled.ofTokens_eq (h : Respelled tokens other) :
    Plan.ofTokens other = Plan.ofTokens tokens := by
  have hsteps : other.map Step.ofToken = tokens.map Step.ofToken := by
    induction h with
    | nil => rfl
    | cons htoken hrest ih =>
      rw [List.map_cons, List.map_cons, ih]
      cases htoken <;> rfl
  rw [Plan.ofTokens, Plan.ofTokens, hsteps]

end Template

/-! ## Rendering -/

namespace Engine

variable {name : Option Text} {text : Text} {tokens : List Token}

/-- Whatever the settings, an accepted text is compiled to the plan of its tokens, and all that is
noted is how many there are. -/
theorem compileText_of_read_strict (engine : Engine)
    (hread : (Template.read .strict name text).result = .ok tokens) :
    engine.compileText text name
      = ({ engine with made := engine.made + 1 },
          ⟨[.tokenized name tokens.length], .ok ⟨engine.made, .ofTokens tokens⟩⟩) := by
  have hreads (strictness : Strictness) :
      (Template.read strictness name text).result = .ok tokens ∧
        (Template.read strictness name text).events = [] := by
    obtain ⟨hdecomposition, hopening⟩ := Template.read_strict_eq_ok_iff.mp hread
    cases strictness with
    | strict => exact ⟨hread, Template.read_strict_events name text⟩
    | lenient =>
      rw [Template.read_lenient_result, Template.read_lenient_events, ← hdecomposition.eq_tokens,
        Template.strays_eq_nil_iff.mpr hopening]
      exact ⟨rfl, rfl⟩
  obtain ⟨hresult, hevents⟩ := hreads engine.settings.strictness
  simp only [compileText, hresult, hevents, List.nil_append]

/-- **Blanks inside the delimiters make no difference.** If strict reading accepts a text, and none
of its expressions ends in a brace, the text of its respelled tokens is read as these. They call for
the same steps, and the text is rendered in the same way. -/
theorem renderText_respelled (hread : (Template.read .strict name text).result = .ok tokens)
    (hbrace : ∀ expression raw, .placeholder expression raw ∈ tokens →
      expression.getLast? ≠ some '}')
    {other : List Token} (hrespelled : Template.Respelled tokens other) :
    (Template.read .strict name (Token.sourceOf other)).result = .ok other ∧
      Plan.ofTokens other = Plan.ofTokens tokens ∧
      ∀ (engine : Engine) (data : Value),
        engine.renderText (Token.sourceOf other) data name = engine.renderText text data name := by
  have hcanonical : Template.IsCanonical tokens := by
    obtain ⟨hdecomposition, hopening⟩ := Template.read_strict_eq_ok_iff.mp hread
    rw [Template.isCanonical_iff, hdecomposition.sourceOf_eq]
    exact ⟨hdecomposition, hopening⟩
  have hother : (Template.read .strict name (Token.sourceOf other)).result = .ok other :=
    Template.read_strict_eq_ok_iff.mpr
      (Template.isCanonical_iff.mp (hcanonical.respelled hrespelled hbrace))
  refine ⟨hother, hrespelled.ofTokens_eq, fun engine data ↦ ?_⟩
  rw [renderText, renderText, compileText_of_read_strict engine hother,
    compileText_of_read_strict engine hread, hrespelled.ofTokens_eq, hrespelled.length_eq]

/-- A brace before the first placeholder and one after it, and blanks in the second one. -/
private def braced : Text :=
  ['a', '{', '{', '{', 'x', '}', '}', '}', '{', '{', ' ', 'y', '\t', '}', '}']

private def bracedTokens : List Token :=
  [.literal ['a'], .placeholder ['{', 'x'] ['{', 'x'], .literal ['}'],
    .placeholder ['y'] [' ', 'y', '\t']]

/-- The blanks are put into the other placeholder. One of them is a vertical tab. -/
private def bracedOther : List Token :=
  [.literal ['a'], .placeholder ['{', 'x'] ['\x0b', '{', 'x', ' '], .literal ['}'],
    .placeholder ['y'] ['y']]

theorem renderText_respelled_braced :
    (Template.read .strict none braced).result = .ok bracedTokens ∧
      (∀ expression raw, .placeholder expression raw ∈ bracedTokens →
        expression.getLast? ≠ some '}') ∧
      Template.Respelled bracedTokens bracedOther ∧
      (Template.read .strict none (Token.sourceOf bracedOther)).result = .ok bracedOther ∧
      ∀ (engine : Engine) (data : Value),
        engine.renderText (Token.sourceOf bracedOther) data none
          = engine.renderText braced data none := by
  have hread : (Template.read .strict none braced).result = .ok bracedTokens := by decide +kernel
  have hbrace : ∀ expression raw, .placeholder expression raw ∈ bracedTokens →
      expression.getLast? ≠ some '}' := by
    intro expression raw hmem
    have hexpression : (expression = ['{', 'x'] ∧ raw = ['{', 'x']) ∨
        (expression = ['y'] ∧ raw = [' ', 'y', '\t']) := by
      simpa [bracedTokens] using hmem
    rcases hexpression with ⟨rfl, -⟩ | ⟨rfl, -⟩ <;> decide
  have hrespelled : Template.Respelled bracedTokens bracedOther := by
    refine .cons (.literal _) (.cons ?_ (.cons (.literal _) (.cons ?_ .nil)))
    · exact .placeholder _ _ ['\x0b'] [' '] (by decide) (by decide)
    · exact .placeholder _ _ [] [] (by decide) (by decide)
  have h := renderText_respelled hread hbrace hrespelled
  exact ⟨hread, hbrace, hrespelled, h.1, h.2.2⟩

end Engine

end TextTemplate
