import Mathlib.Order.Nat
import TextTemplate.Proofs.Engine.Requests
import TextTemplate.Proofs.Template.Outputs
import TextTemplate.Proofs.Template.Reading

/-!
# Filling a template in one pass

A template can be filled without tokens and plans. `fill` looks for the first closed opening of the
text and for the first closing braces after it, copies what stands before the one, puts in the value
of what stands between them, and goes on behind the other. What is put in is not looked at again,
since the pass only ever goes on with a part of the template.

Rendering gives the same output, for every text and all data. The scan takes placeholders off the
front of a text and characters one by one, so `fill` is first shown to do the same in these two
cases: `fill_placeholder` and `fill_cons`. The rest is the induction of the scan.
-/

namespace TextTemplate

namespace Template

open Token (opening closing)

/-! ## The pass -/

def ClosesAt (text : Text) (offset : Nat) : Prop := closing <+: text.drop offset

instance (text : Text) (offset : Nat) : Decidable (ClosesAt text offset) :=
  inferInstanceAs (Decidable (_ <+: _))

theorem closesAt_append (front text : Text) (offset : Nat) :
    ClosesAt (front ++ text) (front.length + offset) ↔ ClosesAt text offset := by
  rw [ClosesAt, ClosesAt, List.drop_length_add_append]

theorem ClosedAt.exists_closesAt {text : Text} {offset : Nat} (h : ClosedAt text offset) :
    ∃ stop, offset + 2 ≤ stop ∧ ClosesAt text stop := by
  obtain ⟨-, raw, after, htext, -⟩ := h
  refine ⟨offset + 2 + raw.length, Nat.le_add_right _ _, ?_⟩
  rw [ClosesAt, ← List.drop_drop, htext, List.append_assoc, List.drop_left]
  exact List.prefix_append _ _

instance (text : Text) : Decidable (∃ offset, ClosedAt text offset) :=
  decidable_of_iff (∃ offset < text.length, ClosedAt text offset)
    ⟨fun ⟨offset, _, h⟩ ↦ ⟨offset, h⟩, fun ⟨offset, h⟩ ↦ ⟨offset, h.1.lt_length, h⟩⟩

/-- The text, with the value of what stands between the first closed opening and the first closing
braces after it in their place, and what follows them filled in the same way. -/
def fill (value : Text → Except ShowFailure Text) (text : Text) :
    Except ShowFailure Text :=
  if h : ∃ offset, ClosedAt text offset then
    let start := Nat.find h
    let stop := Nat.find (Nat.find_spec h).exists_closesAt
    (value (Text.trim ((text.take stop).drop (start + 2)))).bind fun inserted ↦
      (fill value (text.drop (stop + 2))).map fun rest ↦ text.take start ++ inserted ++ rest
  else .ok text
termination_by text.length
decreasing_by
  have := (Nat.find_spec h).1.lt_length
  rw [List.length_drop]
  omega

variable {value : Text → Except ShowFailure Text} {text : Text}

theorem fill_of_not_closedAt (h : ∀ offset, ¬ ClosedAt text offset) :
    fill value text = .ok text := by
  rw [fill, dif_neg (not_exists.mpr h)]

/-- A text with closed openings is filled at the first of them. -/
theorem fill_eq {start stop : Nat} (hstart : IsLeast {offset | ClosedAt text offset} start)
    (hstop : IsLeast {offset | start + 2 ≤ offset ∧ ClosesAt text offset} stop) :
    fill value text
      = (value (Text.trim ((text.take stop).drop (start + 2)))).bind fun inserted ↦
        (fill value (text.drop (stop + 2))).map fun rest ↦ text.take start ++ inserted ++ rest := by
  have hexists : ∃ offset, ClosedAt text offset := ⟨start, hstart.1⟩
  obtain rfl := hstart.unique (Nat.isLeast_find hexists)
  obtain rfl := hstop.unique (Nat.isLeast_find (Nat.find_spec hexists).exists_closesAt)
  rw [fill, dif_pos hexists]

/-! ## A placeholder in front -/

/-- No closing braces begin inside a raw text, even if closing braces follow it. -/
theorem IsRaw.length_le_of_closesAt {raw after : Text} (hraw : IsRaw raw) {offset : Nat}
    (h : ClosesAt (raw ++ closing ++ after) offset) : raw.length ≤ offset := by
  induction raw generalizing offset with
  | nil => exact Nat.zero_le offset
  | cons c raw ih =>
    obtain ⟨-, hbrace, hraw⟩ := isRaw_cons_iff.mp hraw
    cases offset with
    | succ offset => exact Nat.succ_le_succ (ih hraw h)
    | zero =>
      obtain ⟨rest, htext⟩ := h
      obtain ⟨rfl, hbehind⟩ := List.cons.inj htext
      obtain ⟨hne, hhead⟩ := hbrace rfl
      obtain ⟨d, raw, rfl⟩ := List.exists_cons_of_ne_nil hne
      exact absurd (congrArg some (List.cons.inj hbehind).1.symm) hhead

theorem fill_placeholder {raw : Text} (hraw : IsRaw raw) (after : Text) :
    fill value (opening ++ raw ++ closing ++ after)
      = (value (Text.trim raw)).bind fun inserted ↦ (fill value after).map (inserted ++ ·) := by
  have hsplit : opening ++ raw ++ closing ++ after = (opening ++ raw) ++ (closing ++ after) :=
    List.append_assoc _ _ _
  have hlength : (opening ++ raw).length = 2 + raw.length := List.length_append
  have hstart : IsLeast {offset | ClosedAt (opening ++ raw ++ closing ++ after) offset} 0 :=
    ⟨closedAt_placeholder hraw after, fun offset _ ↦ Nat.zero_le offset⟩
  -- Closing braces before these would begin inside the raw text.
  have hstop : IsLeast {offset | 0 + 2 ≤ offset ∧
      ClosesAt (opening ++ raw ++ closing ++ after) offset} (2 + raw.length) := by
    refine ⟨⟨Nat.le_add_right _ _, ?_⟩, ?_⟩
    · rw [hsplit, ← hlength, ← Nat.add_zero (opening ++ raw).length, closesAt_append]
      exact List.prefix_append _ _
    · rintro offset ⟨hle, hcloses⟩
      obtain ⟨offset, rfl⟩ := Nat.exists_eq_add_of_le hle
      rw [List.append_assoc, List.append_assoc, ← List.append_assoc raw] at hcloses
      have hinside := (closesAt_append opening _ offset).mp hcloses
      exact Nat.add_le_add_left (hraw.length_le_of_closesAt hinside) 2
  have hbehind : (opening ++ raw ++ closing ++ after).drop (2 + raw.length + 2) = after := by
    rw [hsplit, ← List.drop_drop, List.drop_left' hlength]
    rfl
  rw [fill_eq hstart hstop, hbehind, hsplit, List.take_left' hlength]
  rfl

/-! ## A character in front -/

theorem closedAt_cons_succ {c : Char} {offset : Nat} :
    ClosedAt (c :: text) (offset + 1) ↔ ClosedAt text offset := by
  rw [Nat.add_comm]
  exact closedAt_append [c] text offset

theorem isLeast_closedAt_cons {c : Char} {start : Nat} (hopen : ¬ ClosedAt (c :: text) 0)
    (h : IsLeast {offset | ClosedAt text offset} start) :
    IsLeast {offset | ClosedAt (c :: text) offset} (start + 1) := by
  refine ⟨closedAt_cons_succ.mpr h.1, fun offset hclosed ↦ ?_⟩
  cases offset with
  | zero => exact absurd hclosed hopen
  | succ offset => exact Nat.succ_le_succ (h.2 (closedAt_cons_succ.mp hclosed))

theorem isLeast_closesAt_cons {c : Char} {start stop : Nat}
    (h : IsLeast {offset | start + 2 ≤ offset ∧ ClosesAt text offset} stop) :
    IsLeast {offset | start + 1 + 2 ≤ offset ∧ ClosesAt (c :: text) offset} (stop + 1) := by
  refine ⟨⟨Nat.succ_le_succ h.1.1, h.1.2⟩, fun offset ⟨hle, hcloses⟩ ↦ ?_⟩
  cases offset with
  | zero => exact absurd hle (Nat.not_succ_le_zero _)
  | succ offset => exact Nat.succ_le_succ (h.2 ⟨Nat.le_of_succ_le_succ hle, hcloses⟩)

theorem fill_cons {c : Char} (hopen : ¬ ClosedAt (c :: text) 0) :
    fill value (c :: text) = (fill value text).map (c :: ·) := by
  by_cases hexists : ∃ offset, ClosedAt text offset
  · have hstart := Nat.isLeast_find hexists
    have hstop := Nat.isLeast_find hstart.1.exists_closesAt
    rw [fill_eq hstart hstop,
      fill_eq (isLeast_closedAt_cons hopen hstart) (isLeast_closesAt_cons hstop)]
    simp only [Nat.add_right_comm _ 1 2, List.take_succ_cons, List.drop_succ_cons, List.cons_append]
    cases value _ with
    | error failure => rfl
    | ok inserted => cases fill value _ <;> rfl
  · have hnone : ∀ offset, ¬ ClosedAt (c :: text) offset := by
      rintro (_ | offset) hclosed
      · exact hopen hclosed
      · exact hexists ⟨offset, closedAt_cons_succ.mp hclosed⟩
    rw [fill_of_not_closedAt hnone, fill_of_not_closedAt (not_exists.mp hexists)]
    rfl

/-! ## The pipeline -/

/-- The plan of the tokens of a text fills it in one pass. -/
theorem run_tokens_eq_fill (text : Text) (data : Value) :
    (Plan.ofTokens (tokens text)).run data = fill data.textAt text := by
  induction text using scan_induction with
  | nil =>
    rw [tokens, Plan.run_ofTokens_nil, fill_of_not_closedAt]
    exact fun offset h ↦ absurd h.1.lt_length (Nat.not_lt_zero offset)
  | placeholder raw after hraw ih =>
    rw [tokens_placeholder hraw, fill_placeholder hraw, Token.ofRaw,
      Plan.run_ofTokens_placeholder_cons, ih]
  | literal c rest hopen ih =>
    rw [tokens_cons hopen, fill_cons hopen, Plan.run_ofTokens_consLiteral, ih]

end Template

/-! ## Rendering -/

theorem Settings.planOf_eq_ok {settings : Settings} {name : Option Text} {text : Text}
    (haccepted : settings.strict = true →
      ∃ tokens, (Template.read .strict name text).result = .ok tokens) :
    settings.planOf name text = .ok (.ofTokens (Template.tokens text)) := by
  have hread : (Template.read settings.strictness name text).result
      = .ok (Template.tokens text) := by
    cases hstrict : settings.strict with
    | false =>
      rw [strictness, hstrict]
      exact Template.read_lenient_result name text
    | true =>
      obtain ⟨tokens, hread⟩ := haccepted hstrict
      rw [strictness, hstrict, ← (Template.read_strict_eq_ok_iff.mp hread).1.eq_tokens]
      exact hread
  rw [planOf, hread]
  rfl

namespace Engine

/-- **Rendering a text fills it in one pass**, unless the engine is strict and refuses the text.
Whatever the values are, they come to stand in the output as they are. -/
theorem renderText_eq_fill (engine : Engine) (text : Text) (data : Value) (name : Option Text)
    (haccepted : engine.settings.strict = true →
      ∃ tokens, (Template.read .strict name text).result = .ok tokens) :
    (engine.renderText text data name).2.result
      = (Template.fill data.textAt text).mapError .value := by
  rw [renderText_result, Settings.planOf_eq_ok haccepted, ← Template.run_tokens_eq_fill]
  rfl

private def strictEngine : Engine where
  settings := ⟨['r'], Settings.usualEncoding, true, false⟩
  cache := none
  source := .ofStore (.memory (.ofTexts (.ofList [])))
  made := 0

private def neighbours : Text := ['{', '{', 'x', '}', '}', '{', '{', 'y', '}', '}']

/-- Values that look like a placeholder and parts of one. -/
private def bracedData : Value :=
  .dict [(.text ['x'], .text ['{', '{', 'y', '}', '}', '\n', '{', '{']),
    (.text ['y'], .text ['}', '}'])]

theorem renderText_eq_fill_bracedData :
    (strictEngine.settings.strict = true →
        ∃ tokens, (Template.read .strict none neighbours).result = .ok tokens) ∧
      (strictEngine.renderText neighbours bracedData none).2.result
        = (Template.fill bracedData.textAt neighbours).mapError .value ∧
      (strictEngine.renderText neighbours bracedData none).2.result
        = .ok ['{', '{', 'y', '}', '}', '\n', '{', '{', '}', '}'] := by
  have htokens : Template.tokens neighbours = [.ofRaw ['x'], .ofRaw ['y']] := by decide +kernel
  have haccepted : strictEngine.settings.strict = true →
      ∃ tokens, (Template.read .strict none neighbours).result = .ok tokens := by
    intro _
    rw [Template.read_strict_result, htokens]
    exact ⟨_, rfl⟩
  refine ⟨haccepted, renderText_eq_fill strictEngine neighbours bracedData none haccepted, ?_⟩
  rw [renderText_result, Settings.planOf_eq_ok haccepted, htokens]
  rfl

end Engine

end TextTemplate
