import TextTemplate.Template.Scan

/-!
# Openings and their closings

Two opening braces are *closed* when two closing ones follow on the same line. What stands between
an opening and the first closing after it can be said without the scan: it has no line end, no
closing braces, and no brace at its end that would make closing braces together with the first of
the two. These three facts are `IsRaw`, and `upToClosing?_eq_some_iff` says that the scan for a
closing finds exactly such texts.

Offsets count characters. An opening is closed or not at an offset of a text, wherever the scan may
have come to when it passes there.
-/

namespace TextTemplate

namespace Template

/-! ## Between the delimiters -/

/-- The text may stand between the delimiters of a placeholder. -/
structure IsRaw (raw : Text) : Prop where
  /-- The text is on one line. -/
  one_line : ∀ c ∈ raw, Text.isLineTerminator c = false
  /-- It has no closing braces. -/
  no_closing : ¬ Token.closing <:+: raw
  /-- It does not end in a closing brace. -/
  no_brace_last : raw.getLast? ≠ some '}'

theorem isRaw_nil : IsRaw [] where
  one_line := by simp
  no_closing := by simp [Token.closing]
  no_brace_last := by simp

private theorem closing_infix_cons_iff {c : Char} {text : Text} :
    Token.closing <:+: c :: text ↔
      (c = '}' ∧ text.head? = some '}') ∨ Token.closing <:+: text := by
  rw [Token.closing, List.infix_cons_iff, List.cons_prefix_cons,
    List.singleton_prefix_iff_head?_eq_some, eq_comm]

/-- A brace may be added in front as long as none would stand next to it, either in the text or
right behind it. -/
theorem isRaw_cons_iff {c : Char} {raw : Text} :
    IsRaw (c :: raw) ↔
      Text.isLineTerminator c = false ∧ (c = '}' → raw ≠ [] ∧ raw.head? ≠ some '}') ∧
        IsRaw raw := by
  constructor
  · rintro ⟨hline, hclosing, hlast⟩
    rw [closing_infix_cons_iff, not_or] at hclosing
    refine ⟨hline c List.mem_cons_self, ?_, ?_, hclosing.2, ?_⟩
    · rintro rfl
      refine ⟨?_, fun hhead ↦ hclosing.1 ⟨rfl, hhead⟩⟩
      rintro rfl
      exact hlast rfl
    · exact fun d hd ↦ hline d (List.mem_cons_of_mem c hd)
    · intro hraw
      rw [List.getLast?_cons, hraw] at hlast
      exact hlast rfl
  · rintro ⟨hc, hbrace, hline, hclosing, hlast⟩
    refine ⟨?_, ?_, ?_⟩
    · intro d hd
      rcases List.mem_cons.mp hd with rfl | hd
      · exact hc
      · exact hline d hd
    · rw [closing_infix_cons_iff, not_or]
      exact ⟨fun ⟨hc, hhead⟩ ↦ (hbrace hc).2 hhead, hclosing⟩
    · rw [List.getLast?_cons]
      cases hraw : raw.getLast? with
      | none =>
        intro hc
        exact (hbrace (Option.some.inj hc)).1 (List.getLast?_eq_none_iff.mp hraw)
      | some d =>
        rw [hraw] at hlast
        exact hlast

/-! ## The scan for the closing braces -/

theorem upToClosing?_cons {c : Char} {rest : Text} (hc : Text.isLineTerminator c = false)
    (hbrace : c = '}' → rest.head? ≠ some '}') :
    upToClosing? (c :: rest) = (upToClosing? rest).map fun (raw, after) ↦ (c :: raw, after) := by
  rw [upToClosing?, if_neg (by simp [hc])]
  rintro rest' rfl rfl
  exact hbrace rfl rfl

/-- **The scan finds exactly the raw texts.** -/
theorem upToClosing?_eq_some_iff {text raw after : Text} :
    upToClosing? text = some (raw, after) ↔
      IsRaw raw ∧ text = raw ++ Token.closing ++ after := by
  constructor
  · intro h
    refine ⟨?_, eq_of_upToClosing? h⟩
    fun_induction upToClosing? text generalizing raw after with
    | case1 => exact absurd h (by simp)
    | case2 rest =>
      simp only [Option.some.injEq, Prod.mk.injEq] at h
      rw [← h.1]
      exact isRaw_nil
    | case3 => exact absurd h (by simp)
    | case4 c rest hstart hc ih =>
      simp only [Option.map_eq_some_iff, Prod.exists, Prod.mk.injEq] at h
      obtain ⟨raw', after', hrest, rfl, rfl⟩ := h
      refine isRaw_cons_iff.mpr ⟨by simpa using hc, ?_, ih hrest⟩
      -- A brace before the closing ones, or before another one, would itself begin a closing.
      have htext := eq_of_upToClosing? hrest
      rintro rfl
      constructor
      · rintro rfl
        exact hstart ('}' :: after') rfl htext
      · intro hhead
        obtain ⟨raw'', rfl⟩ := List.head?_eq_some_iff.mp hhead
        exact hstart (raw'' ++ Token.closing ++ after') rfl htext
  · rintro ⟨hraw, rfl⟩
    induction raw with
    | nil => rfl
    | cons c raw ih =>
      -- No closing braces begin in the raw text, not even with the first of those behind it.
      obtain ⟨hc, hbrace, hraw⟩ := isRaw_cons_iff.mp hraw
      have hhead : c = '}' → (raw ++ Token.closing ++ after).head? ≠ some '}' := by
        intro h
        obtain ⟨hne, hhead⟩ := hbrace h
        obtain ⟨d, raw', rfl⟩ := List.exists_cons_of_ne_nil hne
        exact hhead
      rw [List.cons_append, List.cons_append, upToClosing?_cons hc hhead, ih hraw]
      rfl

/-! ## Closed and unclosed openings -/

/-- Closing braces stand in the text before its first line ends. -/
def Closes (text : Text) : Prop :=
  ∃ raw after, text = raw ++ Token.closing ++ after ∧ ∀ c ∈ raw, Text.isLineTerminator c = false

theorem isSome_upToClosing?_iff {text : Text} : (upToClosing? text).isSome ↔ Closes text := by
  constructor
  · intro h
    obtain ⟨⟨raw, after⟩, hfound⟩ := Option.isSome_iff_exists.mp h
    obtain ⟨hraw, htext⟩ := upToClosing?_eq_some_iff.mp hfound
    exact ⟨raw, after, htext, hraw.one_line⟩
  · rintro ⟨raw, after, rfl, hline⟩
    induction raw with
    | nil => rfl
    | cons c raw ih =>
      have hrest := ih fun d hd ↦ hline d (List.mem_cons_of_mem c hd)
      rw [List.cons_append, List.cons_append]
      -- The braces that the scan finds may come before those that were given.
      by_cases hbrace : c = '}' → (raw ++ Token.closing ++ after).head? ≠ some '}'
      · rw [upToClosing?_cons (hline c List.mem_cons_self) hbrace, Option.isSome_map]
        exact hrest
      · rw [Classical.not_imp, Classical.not_not] at hbrace
        obtain ⟨rfl, hhead⟩ := hbrace
        obtain ⟨rest, hrest⟩ := List.head?_eq_some_iff.mp hhead
        rw [hrest]
        rfl

instance (text : Text) : Decidable (Closes text) := decidable_of_iff _ isSome_upToClosing?_iff

theorem closes_append_closing {raw after : Text} (hraw : IsRaw raw) :
    Closes (raw ++ Token.closing ++ after) :=
  ⟨raw, after, rfl, hraw.one_line⟩

def OpensAt (text : Text) (offset : Nat) : Prop := Token.opening <+: text.drop offset

/-- The opening braces at the offset are closed. -/
def ClosedAt (text : Text) (offset : Nat) : Prop :=
  OpensAt text offset ∧ Closes (text.drop (offset + 2))

/-- The opening braces at the offset are not closed. -/
def UnclosedAt (text : Text) (offset : Nat) : Prop :=
  OpensAt text offset ∧ ¬ Closes (text.drop (offset + 2))

instance (text : Text) (offset : Nat) : Decidable (OpensAt text offset) :=
  inferInstanceAs (Decidable (_ <+: _))

instance (text : Text) (offset : Nat) : Decidable (ClosedAt text offset) :=
  inferInstanceAs (Decidable (_ ∧ _))

instance (text : Text) (offset : Nat) : Decidable (UnclosedAt text offset) :=
  inferInstanceAs (Decidable (_ ∧ _))

section Offsets

theorem closedAt_opening_append {text : Text} :
    ClosedAt (Token.opening ++ text) 0 ↔ Closes text :=
  ⟨fun h ↦ h.2, fun h ↦ ⟨List.prefix_append _ _, h⟩⟩

variable (front text : Text) (offset : Nat)

theorem opensAt_append :
    OpensAt (front ++ text) (front.length + offset) ↔ OpensAt text offset := by
  rw [OpensAt, OpensAt, List.drop_length_add_append]

theorem closedAt_append :
    ClosedAt (front ++ text) (front.length + offset) ↔ ClosedAt text offset := by
  rw [ClosedAt, ClosedAt, opensAt_append, Nat.add_assoc, List.drop_length_add_append]

theorem unclosedAt_append :
    UnclosedAt (front ++ text) (front.length + offset) ↔ UnclosedAt text offset := by
  rw [UnclosedAt, UnclosedAt, opensAt_append, Nat.add_assoc, List.drop_length_add_append]

end Offsets

end Template

end TextTemplate
