import Mathlib.Data.List.DropRight
import TextTemplate.Text.Blank

/-!
# Texts without their outer blanks

A text is its trimmed text with blanks around it, and blanks around a text make no difference to
what is left of it. So trimming is settled by these two facts: a trimmed text stays as it is, and
other blanks may be put around it.
-/

namespace TextTemplate

namespace Text

variable {text before after : Text}

theorem trim_eq_rdropWhile (text : Text) :
    trim text = (text.dropWhile isBlank).rdropWhile isBlank := rfl

theorem trim_eq_nil_iff {text : Text} : trim text = [] ↔ ∀ c ∈ text, isBlank c = true := by
  rw [trim_eq_rdropWhile, List.rdropWhile_eq_nil_iff, ← List.dropWhile_eq_nil_iff,
    List.dropWhile_idempotent, List.dropWhile_eq_nil_iff]

theorem exists_eq_append_trim (text : Text) :
    ∃ before after, text = before ++ trim text ++ after ∧ (∀ c ∈ before, isBlank c = true) ∧
      ∀ c ∈ after, isBlank c = true := by
  refine ⟨text.takeWhile isBlank, (text.dropWhile isBlank).rtakeWhile isBlank, ?_, ?_, ?_⟩
  · rw [trim_eq_rdropWhile, List.append_assoc, List.rdropWhile_append_rtakeWhile,
      List.takeWhile_append_dropWhile]
  · intro c hc
    exact List.mem_takeWhile_imp hc
  · intro c hc
    exact List.mem_rtakeWhile_imp hc

theorem trim_isInfix (text : Text) : trim text <:+: text := by
  obtain ⟨before, after, htext, -⟩ := exists_eq_append_trim text
  exact ⟨before, after, htext.symm⟩

theorem trim_append_left (hbefore : ∀ c ∈ before, isBlank c = true) (text : Text) :
    trim (before ++ text) = trim text := by
  rw [trim_eq_rdropWhile, List.dropWhile_append_of_pos hbefore, ← trim_eq_rdropWhile]

theorem trim_append_right (text : Text) (hafter : ∀ c ∈ after, isBlank c = true) :
    trim (text ++ after) = trim text := by
  by_cases hblank : ∀ c ∈ text, isBlank c = true
  · have hwhole : ∀ c ∈ text ++ after, isBlank c = true :=
      List.forall_mem_append.mpr ⟨hblank, hafter⟩
    rw [trim_eq_nil_iff.mpr hblank, trim_eq_nil_iff.mpr hwhole]
  · -- What is left after the blanks in front is not empty, so it stops the dropping from the end.
    have hrest : (text.dropWhile isBlank).isEmpty = false := by
      rw [List.isEmpty_eq_false_iff, ne_eq, List.dropWhile_eq_nil_iff]
      exact hblank
    have hend : ∀ c ∈ after.reverse, isBlank c = true :=
      fun c hc ↦ hafter c (List.mem_reverse.mp hc)
    rw [trim_eq_rdropWhile, List.dropWhile_append, hrest, if_neg Bool.false_ne_true,
      List.rdropWhile, List.reverse_append, List.dropWhile_append_of_pos hend]
    rfl

/-- **Blanks around a text make no difference.** -/
theorem trim_around (hbefore : ∀ c ∈ before, isBlank c = true)
    (hafter : ∀ c ∈ after, isBlank c = true) : trim (before ++ text ++ after) = trim text := by
  rw [trim_append_right _ hafter, trim_append_left hbefore]

theorem trim_trim (text : Text) : trim (trim text) = trim text := by
  obtain ⟨before, after, htext, hbefore, hafter⟩ := exists_eq_append_trim text
  rw [← trim_around hbefore hafter, ← htext]

end Text

end TextTemplate
