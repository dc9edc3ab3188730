import TextTemplate.Proofs.Text.Occurrence
import TextTemplate.Value.Sequence

/-!
# Three questions about one occurrence

A text is searched in three ways: for what stands before a needle, for what stands after it, and for
whether it stands anywhere. All three answers are about the first occurrence, also where occurrences
overlap and where the needle is empty.

Nothing before the needle may mean that it stands at the very start or nowhere at all. Only the
third answer tells these apart, so the law is stated by its two cases.
-/

namespace TextTemplate

namespace Value

/-- What the three searches of a text answer. -/
structure SearchedAlike (characters sought : Text) : Prop where
  /-- Whether the needle stands in the text always has an answer. -/
  exists_answer : ∃ found, contains (.text characters) (.text sought) = .ok found
  /-- If it does, the two parts with the needle between them are the text, and the needle does not
  start anywhere before the end of the first part. -/
  of_contains : contains (.text characters) (.text sought) = .ok true →
    ∃ before after, textBefore (.text characters) (.text sought) = .ok (.text before) ∧
      textAfter (.text characters) (.text sought) = .ok (.text after) ∧
      before ++ sought ++ after = characters ∧
      ∀ place < before.length, ¬ sought <+: characters.drop place
  /-- If it does not, no two texts around the needle make the text, nothing stands before the needle
  and everything after it. -/
  of_not_contains : contains (.text characters) (.text sought) = .ok false →
    (¬ ∃ before after, before ++ sought ++ after = characters) ∧
      textBefore (.text characters) (.text sought) = .ok (.text []) ∧
      textAfter (.text characters) (.text sought) = .ok (.text characters)

/-- **The three searches of a text speak of one and the same first occurrence.** -/
theorem searchedAlike (characters sought : Text) : SearchedAlike characters sought where
  exists_answer := ⟨Search.contains sought characters, rfl⟩
  of_contains h := by
    have hcontains : Search.contains sought characters = true := Except.ok.inj h
    exact ⟨Search.before sought characters, Search.after sought characters, rfl, rfl,
      Search.before_append_after hcontains, fun _ ↦ Search.not_prefix_drop_of_lt_before⟩
  of_not_contains h := by
    have hcontains : Search.contains sought characters = false := Except.ok.inj h
    obtain ⟨hbefore, hafter⟩ := Search.before_of_not_contains hcontains
    refine ⟨fun hinfix ↦ ?_, ?_, ?_⟩
    · rw [Search.contains_eq_true_iff.mpr hinfix] at hcontains
      exact Bool.noConfusion hcontains
    · rw [textBefore, hbefore]
    · rw [textAfter, hafter]

/-- A needle that overlaps itself is found where it starts first. -/
example : textBefore (.text "xababac".toList) (.text "aba".toList) = .ok (.text ['x']) ∧
    textAfter (.text "xababac".toList) (.text "aba".toList) = .ok (.text ['b', 'a', 'c']) :=
  ⟨rfl, rfl⟩

end Value

end TextTemplate
