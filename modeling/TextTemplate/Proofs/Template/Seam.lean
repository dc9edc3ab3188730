import TextTemplate.Proofs.Template.Outputs
import TextTemplate.Proofs.Template.Reading

/-!
# Where two texts meet

The tokens of a text may change when another text is put behind it: a brace at its end may open
together with one at the start of the other, and an opening that was not closed may find closing
braces there. A border is a *seam* when neither happens. Then the scan goes over it as if it began
anew, and only two literals that meet become one. The first text keeps its openings and whether they
are closed, so strict reading of the whole is strict reading of the one and then of the other.

Both the end of a line and the end of a text whose openings are all closed make a seam.
-/

namespace TextTemplate

namespace Template

open Token (opening closing sourceOf)

/-! ## Joining token lists -/

/-- The tokens of one list and then of the other, where two literals that meet become one. -/
def joined : List Token → List Token → List Token
  | [.literal text], .literal other :: more => .literal (text ++ other) :: more
  | [], more => more
  | token :: rest, more => token :: joined rest more

theorem consLiteral_joined (c : Char) (front more : List Token) :
    consLiteral c (joined front more) = joined (consLiteral c front) more := by
  cases front with
  | nil =>
    rcases more with _ | ⟨text | ⟨expression, raw⟩, more⟩ <;> rfl
  | cons token rest =>
    cases token with
    | placeholder expression raw => rfl
    | literal text =>
      rcases rest with _ | ⟨next, rest⟩
      · rcases more with _ | ⟨other | ⟨expression, raw⟩, more⟩ <;> rfl
      · rfl

theorem run_ofTokens_joined (data : Value) (front more : List Token) :
    (Plan.ofTokens (joined front more)).run data
      = ((Plan.ofTokens front).run data).bind fun before ↦
        ((Plan.ofTokens more).run data).map (before ++ ·) := by
  fun_induction joined front more with
  | case1 text other more =>
    simp only [Plan.run_ofTokens_literal_cons, Plan.run_ofTokens_nil, Except.map, Except.bind]
    cases (Plan.ofTokens more).run data <;> simp
  | case2 more =>
    rw [Plan.run_ofTokens_nil]
    cases (Plan.ofTokens more).run data <;> rfl
  | case3 token rest more _ ih =>
    have hwhole := Plan.run_ofTokens_append data [token] (joined rest more)
    have hfront := Plan.run_ofTokens_append data [token] rest
    rw [List.singleton_append] at hwhole hfront
    rw [hwhole, hfront, ih]
    cases (Plan.ofTokens [token]).run data with
    | error failure => rfl
    | ok text =>
      cases (Plan.ofTokens rest).run data with
      | error failure => rfl
      | ok before => cases (Plan.ofTokens more).run data <;> simp [Except.map, Except.bind]

/-! ## Seams -/

/-- No opening goes over the border of the texts, and none that begins before it is closed only
behind it. -/
structure Seam (front text : Text) : Prop where
  /-- An opening that begins before the border is one of the first text. -/
  opensAt : ∀ offset < front.length, OpensAt (front ++ text) offset → OpensAt front offset
  /-- If it is closed, it is closed in the first text. -/
  closedAt : ∀ offset < front.length, ClosedAt (front ++ text) offset → ClosedAt front offset

theorem Closes.append {front : Text} (h : Closes front) (text : Text) : Closes (front ++ text) := by
  obtain ⟨raw, after, rfl, hline⟩ := h
  exact ⟨raw, after ++ text, List.append_assoc _ _ _, hline⟩

theorem OpensAt.append {front : Text} {offset : Nat} (h : OpensAt front offset) (text : Text) :
    OpensAt (front ++ text) offset :=
  (opensAt_append_of_lt h.lt_length).mpr (Or.inl h)

theorem ClosedAt.append {front : Text} {offset : Nat} (h : ClosedAt front offset) (text : Text) :
    ClosedAt (front ++ text) offset := by
  refine ⟨h.1.append text, ?_⟩
  rw [List.drop_append_of_le_length h.1.add_two_le]
  exact h.2.append text

theorem not_opensAt_singleton (c : Char) (offset : Nat) : ¬ OpensAt [c] offset := by
  intro hopen
  have hle := hopen.add_two_le
  rw [List.length_singleton] at hle
  omega

variable {front text : Text}

/-- The first text without a placeholder at its start still has a seam. -/
theorem Seam.drop (start : Text) (h : Seam (start ++ front) text) : Seam front text where
  opensAt offset hlt hopen := by
    rw [← opensAt_append start, ← List.append_assoc] at hopen
    rw [← opensAt_append start]
    refine h.opensAt _ ?_ hopen
    rw [List.length_append]
    exact Nat.add_lt_add_left hlt _
  closedAt offset hlt hclosed := by
    rw [← closedAt_append start, ← List.append_assoc] at hclosed
    rw [← closedAt_append start]
    refine h.closedAt _ ?_ hclosed
    rw [List.length_append]
    exact Nat.add_lt_add_left hlt _

/-- **Over a seam, the tokens of the texts are joined.** -/
theorem Seam.tokens_append (h : Seam front text) :
    tokens (front ++ text) = joined (tokens front) (tokens text) := by
  induction front using scan_induction with
  | nil =>
    rw [List.nil_append, tokens, joined]
  | placeholder raw after hraw ih =>
    rw [List.append_assoc, tokens_placeholder hraw, ih (h.drop _), tokens_placeholder hraw]
    rfl
  | literal c rest hopen ih =>
    have hseam : Seam rest text := Seam.drop [c] h
    have hopen' : ¬ ClosedAt (c :: (rest ++ text)) 0 :=
      fun hclosed ↦ hopen (h.closedAt 0 (Nat.succ_pos _) hclosed)
    rw [List.cons_append, tokens_cons hopen', ih hseam, consLiteral_joined, tokens_cons hopen]

/-! ## Openings that are not closed -/

theorem Seam.unclosedAt_iff (h : Seam front text) {offset : Nat} :
    UnclosedAt (front ++ text) offset ↔
      UnclosedAt front offset ∨
        ∃ further, offset = front.length + further ∧ UnclosedAt text further := by
  rcases Nat.lt_or_ge offset front.length with hlt | hle
  · constructor
    · rintro ⟨hopen, hcloses⟩
      have hopen' := h.opensAt offset hlt hopen
      exact Or.inl ⟨hopen', fun hcloses' ↦ hcloses (ClosedAt.append ⟨hopen', hcloses'⟩ text).2⟩
    · rintro (⟨hopen, hcloses⟩ | ⟨further, rfl, -⟩)
      · refine ⟨hopen.append text, fun hcloses' ↦ hcloses ?_⟩
        exact (h.closedAt offset hlt ⟨hopen.append text, hcloses'⟩).2
      · exact absurd hlt (Nat.not_lt_of_le (Nat.le_add_right _ _))
  · obtain ⟨further, rfl⟩ := Nat.exists_eq_add_of_le hle
    rw [unclosedAt_append]
    constructor
    · intro hunclosed
      exact Or.inr ⟨further, rfl, hunclosed⟩
    · rintro (hunclosed | ⟨other, hother, hunclosed⟩)
      · exact absurd hunclosed.1.lt_length (Nat.not_lt_of_le hle)
      · rwa [Nat.add_left_cancel hother]

theorem Seam.not_unclosedAt (h : Seam front text) (hfront : ∀ offset, ¬ UnclosedAt front offset)
    (htext : ∀ offset, ¬ UnclosedAt text offset) (offset : Nat) :
    ¬ UnclosedAt (front ++ text) offset := by
  intro hunclosed
  rcases h.unclosedAt_iff.mp hunclosed with hunclosed | ⟨further, -, hunclosed⟩
  · exact hfront offset hunclosed
  · exact htext further hunclosed

theorem Seam.isLeast_left (h : Seam front text) {offset : Nat}
    (hleast : IsLeast {offset | UnclosedAt front offset} offset) :
    IsLeast {offset | UnclosedAt (front ++ text) offset} offset := by
  refine ⟨h.unclosedAt_iff.mpr (Or.inl hleast.1), fun other hother ↦ ?_⟩
  rcases h.unclosedAt_iff.mp hother with hother | ⟨further, rfl, -⟩
  · exact hleast.2 hother
  · exact Nat.le_add_right_of_le hleast.1.1.lt_length.le

theorem Seam.isLeast_right (h : Seam front text) (hfront : ∀ offset, ¬ UnclosedAt front offset)
    {offset : Nat} (hleast : IsLeast {offset | UnclosedAt text offset} offset) :
    IsLeast {offset | UnclosedAt (front ++ text) offset} (front.length + offset) := by
  refine ⟨h.unclosedAt_iff.mpr (Or.inr ⟨offset, rfl, hleast.1⟩), fun other hother ↦ ?_⟩
  rcases h.unclosedAt_iff.mp hother with hother | ⟨further, rfl, hfurther⟩
  · exact absurd hother (hfront other)
  · exact Nat.add_le_add_left (hleast.2 hfurther) _

/-! ## Strict reading -/

section Strict

variable {name : Option Text}

theorem Seam.read_strict_of_front_error (h : Seam front text) {failure : TemplateFailure}
    (hfront : (read .strict name front).result = .error failure) :
    (read .strict name (front ++ text)).result = .error failure := by
  obtain ⟨offset, hleast, rfl⟩ := read_strict_eq_error_iff.mp hfront
  have hle := hleast.1.1.lt_length.le
  refine read_strict_eq_error_iff.mpr ⟨offset, h.isLeast_left hleast, ?_⟩
  rw [Position.ofOffset_append_left front text hle]

theorem Seam.read_strict_of_text_error (h : Seam front text) {tokens : List Token}
    (hfront : (read .strict name front).result = .ok tokens) {offset : Nat}
    (hleast : IsLeast {offset | UnclosedAt text offset} offset) :
    (read .strict name (front ++ text)).result
      = .error (.unclosedAt (Position.ofOffset (front ++ text) (front.length + offset)) name) := by
  have hclosed := (read_strict_eq_ok_iff_tokens.mp hfront).2
  exact read_strict_eq_error_iff.mpr ⟨_, h.isLeast_right hclosed hleast, rfl⟩

theorem Seam.read_strict_eq_ok (h : Seam front text) {tokens more : List Token}
    (hfront : (read .strict name front).result = .ok tokens)
    (htext : (read .strict name text).result = .ok more) :
    (read .strict name (front ++ text)).result = .ok (joined tokens more) := by
  obtain ⟨rfl, hclosed⟩ := read_strict_eq_ok_iff_tokens.mp hfront
  obtain ⟨rfl, hclosed'⟩ := read_strict_eq_ok_iff_tokens.mp htext
  exact read_strict_eq_ok_iff_tokens.mpr
    ⟨h.tokens_append.symm, h.not_unclosedAt hclosed hclosed'⟩

end Strict

/-! ## What makes a seam -/

/-- A text whose openings are all closed makes a seam with any text that does not begin with the
second brace of an opening. -/
theorem seam_of_closed (hclosed : ∀ offset, ¬ UnclosedAt front offset)
    (hbrace : ¬ (front.getLast? = some '{' ∧ text.head? = some '{')) : Seam front text := by
  have hopens (offset : Nat) (hlt : offset < front.length)
      (hopen : OpensAt (front ++ text) offset) : OpensAt front offset := by
    rcases (opensAt_append_of_lt hlt).mp hopen with hopen | ⟨-, hlast, hfirst⟩
    · exact hopen
    · exact absurd ⟨hlast, hfirst⟩ hbrace
  refine ⟨hopens, fun offset hlt h ↦ ?_⟩
  have hopen := hopens offset hlt h.1
  exact ⟨hopen, not_not.mp fun hcloses ↦ hclosed offset ⟨hopen, hcloses⟩⟩

theorem seam_singleton {c : Char} (hc : c ≠ '{') (text : Text) : Seam [c] text := by
  refine seam_of_closed (fun offset hunclosed ↦ ?_) fun hbrace ↦ hc (Option.some.inj hbrace.1)
  exact not_opensAt_singleton c offset hunclosed.1

/-- What closes before the end of a line does so within the line. -/
theorem closes_append_lineEnd_iff {c : Char} (hc : Text.isLineTerminator c = true) (rest : Text) :
    Closes (front ++ c :: rest) ↔ Closes front := by
  constructor
  · rintro ⟨raw, after, htext, hline⟩
    rcases List.append_eq_append_iff.mp htext with ⟨more, hmore, hrest⟩ | ⟨more, hfront, -⟩
    · -- The end of the line is not among what stands up to the closing braces.
      have hnotin : c ∉ raw ++ closing := by
        intro hmem
        rcases List.mem_append.mp hmem with hmem | hmem
        · exact absurd hc (by simp [hline c hmem])
        · obtain rfl : c = '}' := by simpa [closing] using hmem
          exact absurd hc (by decide)
      cases more with
      | nil => exact ⟨raw, [], by rw [hmore, List.append_nil, List.append_nil], hline⟩
      | cons d more =>
        obtain ⟨rfl, -⟩ := List.cons.inj hrest
        exact absurd (by simp [hmore]) hnotin
    · exact ⟨raw, more, hfront, hline⟩
  · exact fun h ↦ h.append _

theorem ne_openingBrace_of_isLineTerminator {c : Char} (hc : Text.isLineTerminator c = true) :
    c ≠ '{' := by
  rintro rfl
  exact absurd hc (by decide)

theorem seam_lineEnd {c : Char} (hc : Text.isLineTerminator c = true) (front rest : Text) :
    Seam front (c :: rest) := by
  have hopens (offset : Nat) (hlt : offset < front.length)
      (hopen : OpensAt (front ++ c :: rest) offset) : OpensAt front offset := by
    rcases (opensAt_append_of_lt hlt).mp hopen with hopen | ⟨-, -, hfirst⟩
    · exact hopen
    · exact absurd (Option.some.inj hfirst) (ne_openingBrace_of_isLineTerminator hc)
  refine ⟨hopens, fun offset hlt h ↦ ?_⟩
  have hopen := hopens offset hlt h.1
  refine ⟨hopen, (closes_append_lineEnd_iff hc rest).mp ?_⟩
  rw [← List.drop_append_of_le_length hopen.add_two_le]
  exact h.2

end Template

end TextTemplate
