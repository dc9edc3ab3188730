import Mathlib.Data.List.DropRight
import TextTemplate.Proofs.Engine.Refusal
import TextTemplate.Proofs.Template.Seam

/-!
# Rendering texts one behind the other

Over a seam, accepted texts make the output of the first and then that of the second. If one of them
is refused, so is the whole, for the first opening that is not closed: where it stands in the second
text, its place is counted on from the end of the first.

There are two kinds of seams. The end of a line is one, whatever stands on either side of it, so
rendering goes line by line. The end of an accepted text is one unless a brace on either side makes
an opening.

## Where a failure is

A line feed begins a line. The other line terminators end placeholders, but not lines: they are one
more character of the last line of the first text, and the first line of the second goes on from
there.
-/

namespace TextTemplate

namespace Position

/-- Where the position comes to be behind `front` and the line terminator `c`. -/
def behindLineEnd (front : Text) (c : Char) (position : Position) : Position :=
  if c = '\n' then ⟨position.line + front.count '\n' + 1, position.column⟩
  else if position.line = 1 then
    ⟨front.count '\n' + 1, position.column + (front.rtakeWhile (· ≠ '\n')).length + 1⟩
  else ⟨position.line + front.count '\n', position.column⟩

theorem behind_append_newline (front : Text) {position : Position}
    (hcolumn : 1 ≤ position.column) :
    position.behind (front ++ ['\n']) = position.behindLineEnd front '\n' := by
  have hline : (after (front ++ ['\n'])).line = front.count '\n' + 2 := by
    rw [after_append]
    rfl
  have hfirst : (after (front ++ ['\n'])).column = 1 := by
    rw [after_append]
    rfl
  rw [behind, behindLineEnd, if_pos rfl, hline, hfirst, Nat.add_sub_cancel' hcolumn,
    List.count_append, List.count_singleton_self]
  split
  · rename_i hone
    rw [hone, Nat.add_comm 1]
  · rw [Nat.add_comm position.line, Nat.add_right_comm]

theorem behind_append_singleton (front : Text) {c : Char} (hc : c ≠ '\n') {position : Position}
    (hcolumn : 1 ≤ position.column) :
    position.behind (front ++ [c]) = position.behindLineEnd front c := by
  have hother : '\n' ∉ [c] := fun hmem ↦ hc (List.mem_singleton.mp hmem).symm
  have hafter : after (front ++ [c]) = ⟨(after front).line, (after front).column + 1⟩ := by
    rw [after_append, after_of_not_mem hother, behind, if_pos rfl]
    rfl
  have hline : (after (front ++ [c])).line = front.count '\n' + 1 := by
    rw [hafter]
    rfl
  have hlast : (after (front ++ [c])).column = (front.rtakeWhile (· ≠ '\n')).length + 2 := by
    rw [hafter, List.rtakeWhile, List.length_reverse]
    rfl
  rw [behind, behindLineEnd, if_neg hc, hline, hlast, List.count_append,
    List.count_eq_zero.mpr hother]
  split
  · congr 1
    omega
  · rw [Nat.add_zero, Nat.add_comm]

theorem ofOffset_append_cons (front rest : Text) (c : Char) (offset : Nat) :
    ofOffset (front ++ c :: rest) (front.length + (1 + offset))
      = (ofOffset rest offset).behindLineEnd front c := by
  have hlength : front.length + (1 + offset) = (front ++ [c]).length + offset := by
    rw [List.length_append, List.length_singleton, Nat.add_assoc]
  have hcolumn := one_le_column_ofOffset rest offset
  rw [List.append_cons, hlength, ofOffset_append]
  by_cases hc : c = '\n'
  · rw [hc, behind_append_newline front hcolumn]
  · exact behind_append_singleton front hc hcolumn

end Position

namespace Engine

open Template (Seam UnclosedAt joined)

variable {engine : Engine} {name : Option Text} {front text rest : Text} {data : Value}

/-! ## Over a seam -/

theorem planOf_of_seam {settings : Settings} (hseam : Seam front text) {plan plan' : Plan}
    (hfront : settings.planOf name front = .ok plan)
    (htext : settings.planOf name text = .ok plan') :
    settings.planOf name (front ++ text)
      = .ok (.ofTokens (joined (Template.tokens front) (Template.tokens text))) := by
  have hclosed := (Settings.planOf_eq_ok_iff.mp hfront).2
  have hclosed' := (Settings.planOf_eq_ok_iff.mp htext).2
  rw [← hseam.tokens_append]
  refine Settings.planOf_eq_ok_iff.mpr ⟨rfl, fun hstrict ↦ ?_⟩
  exact hseam.not_unclosedAt (hclosed hstrict) (hclosed' hstrict)

/-- A text that is refused is refused with whatever follows it. -/
theorem planOf_of_seam_of_error {settings : Settings} (hseam : Seam front text)
    {failure : TemplateFailure} (hfront : settings.planOf name front = .error failure) :
    settings.planOf name (front ++ text) = .error failure := by
  obtain ⟨hstrict, hread⟩ := Settings.planOf_eq_error_iff.mp hfront
  exact Settings.planOf_eq_error_iff.mpr ⟨hstrict, hseam.read_strict_of_front_error hread⟩

theorem renderText_of_seam (data : Value) (hseam : Seam front text) {plan plan' : Plan}
    (hfront : engine.settings.planOf name front = .ok plan)
    (htext : engine.settings.planOf name text = .ok plan') :
    (engine.renderText (front ++ text) data name).2.result
      = (engine.renderText front data name).2.result.bind fun before ↦
        (engine.renderText text data name).2.result.map (before ++ ·) := by
  have hwhole := planOf_of_seam hseam hfront htext
  obtain ⟨rfl, -⟩ := Settings.planOf_eq_ok_iff.mp hfront
  obtain ⟨rfl, -⟩ := Settings.planOf_eq_ok_iff.mp htext
  rw [renderText_of_planOf_eq_ok hwhole, renderText_of_planOf_eq_ok hfront,
    renderText_of_planOf_eq_ok htext, Template.run_ofTokens_joined]
  cases (Plan.ofTokens (Template.tokens front)).run data with
  | error failure => rfl
  | ok before => cases (Plan.ofTokens (Template.tokens text)).run data <;> rfl

/-! ## The end of a line -/

theorem planOf_singleton (settings : Settings) (name : Option Text) (c : Char) :
    settings.planOf name [c] = .ok (.ofTokens [.literal [c]]) := by
  have hopens := Template.not_opensAt_singleton c
  have htokens : Template.tokens [c] = [.literal [c]] := by
    rw [Template.tokens_cons fun hclosed ↦ hopens 0 hclosed.1, Template.tokens]
    rfl
  rw [← htokens]
  exact Settings.planOf_eq_ok_iff.mpr ⟨rfl, fun _ offset hunclosed ↦ hopens offset hunclosed.1⟩

theorem renderText_lineEnd {c : Char} (hc : Text.isLineTerminator c = true) {plan plan' : Plan}
    (hfront : engine.settings.planOf name front = .ok plan)
    (hrest : engine.settings.planOf name rest = .ok plan') :
    (engine.renderText (front ++ c :: rest) data name).2.result
      = (engine.renderText front data name).2.result.bind fun before ↦
        (engine.renderText rest data name).2.result.map fun behind ↦ before ++ c :: behind := by
  have hbrace := Template.ne_openingBrace_of_isLineTerminator hc
  have hlineEnd := planOf_singleton engine.settings name c
  have hseam : Seam [c] rest := Template.seam_singleton hbrace rest
  have hout : (engine.renderText [c] data name).2.result = .ok [c] := by
    rw [renderText_of_planOf_eq_ok hlineEnd]
    rfl
  have hbehind := renderText_of_seam data hseam hlineEnd hrest
  rw [hout, List.singleton_append] at hbehind
  rw [renderText_of_seam data (Template.seam_lineEnd hc front rest) hfront
    (planOf_of_seam hseam hlineEnd hrest), hbehind]
  cases (engine.renderText front data name).2.result with
  | error failure => rfl
  | ok before => cases (engine.renderText rest data name).2.result <;> rfl

/-- A text that is refused is refused behind the end of a line too, and its failure moves. -/
theorem planOf_lineEnd_of_rest_error {settings : Settings} {c : Char}
    (hc : Text.isLineTerminator c = true) {plan : Plan}
    (hfront : settings.planOf name front = .ok plan) {failure : TemplateFailure}
    (hrest : settings.planOf name rest = .error failure) :
    ∃ position : Position, failure = .unclosedAt position name ∧
      settings.planOf name (front ++ c :: rest)
        = .error (.unclosedAt (position.behindLineEnd front c) name) := by
  have hbrace := Template.ne_openingBrace_of_isLineTerminator hc
  obtain ⟨hstrict, hread⟩ := Settings.planOf_eq_error_iff.mp hrest
  obtain ⟨offset, hleast, rfl⟩ := Template.read_strict_eq_error_iff.mp hread
  refine ⟨Position.ofOffset rest offset, rfl, ?_⟩
  -- Behind the line terminator the opening is one further, as the terminator has none of its own.
  have hclosed : ∀ offset, ¬ UnclosedAt [c] offset :=
    (Settings.planOf_eq_ok_iff.mp (planOf_singleton settings name c)).2 hstrict
  have hmoved := (Template.seam_singleton hbrace rest).isLeast_right hclosed hleast
  have hfront' : (Template.read .strict name front).result = .ok (Template.tokens front) :=
    Template.read_strict_eq_ok_iff_tokens.mpr
      ⟨rfl, (Settings.planOf_eq_ok_iff.mp hfront).2 hstrict⟩
  have hwhole := (Template.seam_lineEnd hc front rest).read_strict_of_text_error hfront' hmoved
  rw [List.length_singleton, Position.ofOffset_append_cons] at hwhole
  exact Settings.planOf_eq_error_iff.mpr ⟨hstrict, hwhole⟩

theorem renderText_lineEnd_of_front_refused {c : Char} (hc : Text.isLineTerminator c = true)
    {failure : TemplateFailure}
    (hfront : (engine.renderText front data name).2.result = .error (.template failure)) :
    (engine.renderText (front ++ c :: rest) data name).2.result = .error (.template failure) := by
  have hplan := renderText_eq_error_template_iff.mp hfront
  exact renderText_eq_error_template_iff.mpr
    (planOf_of_seam_of_error (Template.seam_lineEnd hc front rest) hplan)

theorem renderText_lineEnd_of_rest_refused {c : Char} (hc : Text.isLineTerminator c = true)
    {plan : Plan} (hfront : engine.settings.planOf name front = .ok plan)
    {failure : TemplateFailure}
    (hrest : (engine.renderText rest data name).2.result = .error (.template failure)) :
    ∃ position : Position, failure = .unclosedAt position name ∧
      (engine.renderText (front ++ c :: rest) data name).2.result
        = .error (.template (.unclosedAt (position.behindLineEnd front c) name)) := by
  have hplan := renderText_eq_error_template_iff.mp hrest
  obtain ⟨position, hfailure, hwhole⟩ := planOf_lineEnd_of_rest_error hc hfront hplan
  exact ⟨position, hfailure, renderText_eq_error_template_iff.mpr hwhole⟩

theorem renderText_lineEnd_eq_ok_iff {c : Char} (hc : Text.isLineTerminator c = true)
    {output : Text} :
    (engine.renderText (front ++ c :: rest) data name).2.result = .ok output ↔
      ∃ before behind, (engine.renderText front data name).2.result = .ok before ∧
        (engine.renderText rest data name).2.result = .ok behind ∧
        output = before ++ c :: behind := by
  cases hfront : engine.settings.planOf name front with
  | error failure =>
    have hrefused : (engine.renderText front data name).2.result = .error (.template failure) :=
      renderText_eq_error_template_iff.mpr hfront
    simp [renderText_lineEnd_of_front_refused hc hrefused, hrefused]
  | ok plan =>
    cases hrest : engine.settings.planOf name rest with
    | error failure =>
      have hrefused : (engine.renderText rest data name).2.result = .error (.template failure) :=
        renderText_eq_error_template_iff.mpr hrest
      obtain ⟨position, -, hwhole⟩ := renderText_lineEnd_of_rest_refused hc hfront hrefused
      simp [hwhole, hrefused]
    | ok plan' =>
      rw [renderText_lineEnd hc hfront hrest]
      cases (engine.renderText front data name).2.result with
      | error failure => simp [Except.bind]
      | ok before =>
        cases (engine.renderText rest data name).2.result with
        | error failure => simp [Except.bind, Except.map]
        | ok behind => simp [Except.bind, Except.map, eq_comm]

/-! ## Line by line -/

/-- What rendering two texts with the end of a line between them has to do with rendering each. -/
structure LineLocal (render : Text → Except RenderFailure Text) (name : Option Text)
    (front rest : Text) (c : Char) : Prop where
  /-- There is an output exactly if there are two, and it is these with the line terminator between
  them. -/
  output_iff : ∀ output, render (front ++ c :: rest) = .ok output ↔
    ∃ before behind, render front = .ok before ∧ render rest = .ok behind ∧
      output = before ++ c :: behind
  /-- If the first text is refused, the whole is refused at the same position. -/
  front_refused : ∀ failure, render front = .error (.template failure) →
    render (front ++ c :: rest) = .error (.template failure)
  /-- If only the second one is refused, its position moves. -/
  rest_refused : (∀ failure, render front ≠ .error (.template failure)) →
    ∀ failure, render rest = .error (.template failure) →
      ∃ position : Position, failure = .unclosedAt position name ∧
        render (front ++ c :: rest)
          = .error (.template (.unclosedAt (position.behindLineEnd front c) name))

/-- **Rendering goes line by line**: whatever stands on either side of a line terminator, what is
rendered or refused is what each side is rendered to or refused for. -/
theorem renderText_lineLocal (engine : Engine) (name : Option Text) (front rest : Text) {c : Char}
    (hc : Text.isLineTerminator c = true) (data : Value) :
    LineLocal (fun text ↦ (engine.renderText text data name).2.result) name front rest c ∧
      (engine.settings.strict = false →
        (engine.renderText (front ++ c :: rest) data name).2.result
          = (engine.renderText front data name).2.result.bind fun before ↦
            (engine.renderText rest data name).2.result.map fun behind ↦
              before ++ c :: behind) := by
  constructor
  · refine ⟨fun output ↦ renderText_lineEnd_eq_ok_iff hc, fun failure hfront ↦ ?_,
      fun hfront failure hrest ↦ ?_⟩
    · exact renderText_lineEnd_of_front_refused hc hfront
    · obtain ⟨plan, hplan⟩ := exists_planOf_eq_ok hfront
      exact renderText_lineEnd_of_rest_refused hc hplan hrest
  · intro hlenient
    exact renderText_lineEnd hc (Settings.planOf_of_lenient hlenient)
      (Settings.planOf_of_lenient hlenient)

private def rigidEngine : Engine where
  settings := ⟨['r'], Settings.usualEncoding, true, false⟩
  cache := none
  source := .ofStore (.memory (.ofTexts (.ofList [])))
  made := 0

/-- Two lines, the second of which ends in braces that belong to nothing. -/
private def twoLines : Text := ['a', '\n', 'b', '{', '{', 'x', '}', '}', '}', '{']

private def openLine : Text := ['{', '{', 'x', '}', '}', '{', '{', 'y']

private def letterData : Value := .dict [(.text ['x'], .text ['z'])]

/-- A line separator ends a placeholder but not a line, so the failure is still on line two. -/
theorem renderText_lineLocal_lineSeparator :
    Text.isLineTerminator '\u2028' = true ∧
      LineLocal (fun text ↦ (rigidEngine.renderText text letterData none).2.result) none twoLines
        openLine '\u2028' ∧
      (rigidEngine.renderText twoLines letterData none).2.result
        = .ok ['a', '\n', 'b', 'z', '}', '{'] ∧
      (rigidEngine.renderText openLine letterData none).2.result
        = .error (.template (.unclosed 1 6 none)) ∧
      (rigidEngine.renderText (twoLines ++ '\u2028' :: openLine) letterData none).2.result
        = .error (.template (.unclosed 2 15 none)) := by
  have hc : Text.isLineTerminator '\u2028' = true := by decide
  exact ⟨hc, (renderText_lineLocal rigidEngine none twoLines openLine hc letterData).1,
    by decide +kernel, by decide +kernel, by decide +kernel⟩

/-! ## Behind an accepted text -/

/-- Strict reading refuses the text, for the opening at this offset. -/
def RefusedAt (name : Option Text) (text : Text) (offset : Nat) : Prop :=
  ∃ position : Position,
    (Template.read .strict name text).result = .error (.unclosedAt position name) ∧
      position.offsetIn text = offset ∧ UnclosedAt text offset

theorem refusedAt_of_isLeast (name : Option Text) {offset : Nat}
    (hleast : IsLeast {offset | UnclosedAt text offset} offset) : RefusedAt name text offset := by
  have hread : (Template.read .strict name text).result
      = .error (.unclosedAt (Position.ofOffset text offset) name) :=
    Template.read_strict_eq_error_iff.mpr ⟨offset, hleast, rfl⟩
  exact ⟨_, hread, Position.offsetIn_ofOffset hleast.1.1.lt_length.le, hleast.1⟩

/-- **Behind a text that strict reading accepts**, another is accepted, rendered or refused as it
would be alone. Only a brace at the end of the first and one at the start of the second, which open
together, could change this. -/
theorem renderText_append_of_accepted (text : Text) {tokens : List Token}
    (hfront : (Template.read .strict name front).result = .ok tokens)
    (hbrace : ¬ (front.getLast? = some '{' ∧ text.head? = some '{')) :
    ((∃ whole, (Template.read .strict name (front ++ text)).result = .ok whole) ↔
        ∃ more, (Template.read .strict name text).result = .ok more) ∧
      (∀ more, (Template.read .strict name text).result = .ok more →
        (Template.read .strict name (front ++ text)).result = .ok (joined tokens more) ∧
          ∀ (engine : Engine) (data : Value),
            (engine.renderText (front ++ text) data name).2.result
              = (engine.renderText front data name).2.result.bind fun before ↦
                (engine.renderText text data name).2.result.map (before ++ ·)) ∧
      ∀ failure, (Template.read .strict name text).result = .error failure →
        ∃ offset, RefusedAt name text offset ∧
          RefusedAt name (front ++ text) (front.length + offset) := by
  have hclosed := (Template.read_strict_eq_ok_iff_tokens.mp hfront).2
  have hseam : Seam front text := Template.seam_of_closed hclosed hbrace
  have hrefused : ∀ failure, (Template.read .strict name text).result = .error failure →
      ∃ offset, RefusedAt name text offset ∧
        RefusedAt name (front ++ text) (front.length + offset) := by
    intro failure htext
    obtain ⟨offset, hleast, -⟩ := Template.read_strict_eq_error_iff.mp htext
    exact ⟨offset, refusedAt_of_isLeast name hleast,
      refusedAt_of_isLeast name (hseam.isLeast_right hclosed hleast)⟩
  refine ⟨⟨fun ⟨whole, hwhole⟩ ↦ ?_, fun ⟨more, htext⟩ ↦ ?_⟩, fun more htext ↦ ⟨?_, ?_⟩, hrefused⟩
  -- If the second text were refused, the whole would be refused, too.
  · cases htext : (Template.read .strict name text).result with
    | ok more => exact ⟨more, rfl⟩
    | error failure =>
      obtain ⟨offset, -, position, hread, -⟩ := hrefused failure htext
      exact absurd (hread.symm.trans hwhole) (by simp)
  · exact ⟨joined tokens more, hseam.read_strict_eq_ok hfront htext⟩
  · exact hseam.read_strict_eq_ok hfront htext
  · intro engine data
    exact renderText_of_seam data hseam (engine.settings.planOf_of_read_strict hfront)
      (engine.settings.planOf_of_read_strict htext)

/-- A placeholder, a closing brace too many and half an opening. -/
private def braceAtEnd : Text := ['{', '{', 'x', '}', '}', '}', '{']

/-- The braces on either side of the border open and close nothing. -/
theorem renderText_append_of_accepted_braces :
    (Template.read .strict none braceAtEnd).result = .ok [.ofRaw ['x'], .literal ['}', '{']] ∧
      ¬ (braceAtEnd.getLast? = some '{' ∧ ['}', '}', '{', '{', 'y'].head? = some '{') ∧
      (Template.read .strict none (braceAtEnd ++ ['}', '}', '{', '{', 'y', '}', '}'])).result
        = .ok [.ofRaw ['x'], .literal ['}', '{', '}', '}'], .ofRaw ['y']] ∧
      ∃ offset, RefusedAt none ['}', '}', '{', '{', 'y'] offset ∧
        RefusedAt none (braceAtEnd ++ ['}', '}', '{', '{', 'y']) (7 + offset) := by
  have hfront : (Template.read .strict none braceAtEnd).result
      = .ok [.ofRaw ['x'], .literal ['}', '{']] := by decide +kernel
  have haccepted : (Template.read .strict none ['}', '}', '{', '{', 'y', '}', '}']).result
      = .ok [.literal ['}', '}'], .ofRaw ['y']] := by decide +kernel
  have hrefused : (Template.read .strict none ['}', '}', '{', '{', 'y']).result
      = .error (.unclosed 1 3 none) := by decide +kernel
  refine ⟨hfront, by decide, ?_, ?_⟩
  · exact ((renderText_append_of_accepted _ hfront (by decide)).2.1 _ haccepted).1
  · exact (renderText_append_of_accepted _ hfront (by decide)).2.2 _ hrefused

end Engine

end TextTemplate
