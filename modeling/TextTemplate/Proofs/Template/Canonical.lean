import TextTemplate.Proofs.Template.Reading

/-!
# Token lists that can be read back

Not every token list is what reading gives for its source: neighbouring literals become one, a
literal may hold a placeholder of its own, and a brace at the end of a literal opens together with
the first brace of the placeholder after it. The canonical token lists are those where none of this
is the case. They are exactly the ones that come back when their source is read strictly.

Being canonical speaks about tokens and neighbours only, while a decomposition is about openings
anywhere in the text. What leads from one to the other is that an opening which begins in a literal
either lies in it or goes over its end, and that what follows a literal with an opening brace is a
placeholder, since it is no literal.
-/

namespace TextTemplate

namespace Template

open Token (opening closing sourceOf)

/-- The tokens are those of a text whose openings are all closed. -/
structure IsCanonical (tokens : List Token) : Prop extends WellShaped tokens where
  /-- No literal has an opening in it. -/
  no_opening : ∀ text, .literal text ∈ tokens → ¬ opening <:+: text
  /-- No literal right before a placeholder ends in an opening brace. -/
  no_brace_before_placeholder : ∀ text expression raw,
    [.literal text, .placeholder expression raw] <:+: tokens → text.getLast? ≠ some '{'

variable {tokens : List Token}

/-- No literal of a decomposition ends in a brace that opens with the next placeholder. -/
theorem IsDecomposition.getLast?_ne (h : IsDecomposition (sourceOf tokens) tokens)
    {text expression raw : Text}
    (hpair : [.literal text, .placeholder expression raw] <:+: tokens) :
    text.getLast? ≠ some '{' := by
  obtain ⟨front, rest, rfl⟩ := hpair
  have hraw : IsRaw raw := (h.placeholder_raw expression raw (by simp)).2
  intro hlast
  obtain ⟨begin, rfl⟩ := List.getLast?_eq_some_iff.mp hlast
  have hborder : begin.length + 1 = (begin ++ ['{']).length := by simp
  rw [List.append_assoc] at h
  refine h.not_closedAt ((sourceOf front).length + begin.length) ?_ ?_
  · exact inLiteral_append_add.mpr (Or.inl (Nat.lt_of_succ_le (Nat.le_of_eq hborder)))
  · rw [Token.sourceOf_append, closedAt_append]
    exact closedAt_of_before_placeholder hraw hborder hlast

theorem IsCanonical.not_opensAt (h : IsCanonical tokens) {offset : Nat}
    (hoffset : InLiteral tokens offset) : ¬ OpensAt (sourceOf tokens) offset := by
  obtain ⟨front, text, rest, inside, rfl, hinside, rfl⟩ := exists_of_inLiteral hoffset
  rw [Token.sourceOf_append, opensAt_append, Token.sourceOf_cons, Token.source,
    opensAt_append_of_lt hinside]
  rintro (hopen | ⟨-, hlast, hfirst⟩)
  · exact h.no_opening text (by simp) hopen.isInfix
  · rcases rest with _ | ⟨other | ⟨expression, raw⟩, rest⟩
    · exact absurd hfirst (by simp)
    · exact h.literals_apart text other ⟨front, rest, by simp⟩
    · exact h.no_brace_before_placeholder text expression raw ⟨front, rest, by simp⟩ hlast

theorem isCanonical_iff :
    IsCanonical tokens ↔ IsDecomposition (sourceOf tokens) tokens ∧
      ∀ text, .literal text ∈ tokens → ¬ opening <:+: text := by
  constructor
  · intro h
    exact ⟨⟨h.toWellShaped, rfl, fun offset hoffset hclosed ↦ h.not_opensAt hoffset hclosed.1⟩,
      h.no_opening⟩
  · rintro ⟨hdecomposition, hopening⟩
    exact ⟨hdecomposition.toWellShaped, hopening, fun _ _ _ ↦ hdecomposition.getLast?_ne⟩

/-- **Reading the source of tokens strictly gives them back exactly when they are canonical.** -/
theorem read_sourceOf_eq_ok_iff (name : Option Text) (tokens : List Token) :
    (read .strict name (sourceOf tokens)).result = .ok tokens ↔ IsCanonical tokens := by
  rw [read_strict_eq_ok_iff, isCanonical_iff]

end Template

end TextTemplate
