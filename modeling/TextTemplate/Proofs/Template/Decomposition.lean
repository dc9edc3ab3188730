import TextTemplate.Proofs.Template.Closing

/-!
# The decomposition of a template

The tokens of a template can be told without the scan. They make up the text, their literals are as
long as they can be, what stands in a placeholder is raw, and no opening inside a literal is closed.
These four facts hold of the tokens that the scan finds, and of no others.

## The induction

Whatever is proved about the scan follows the three things it can do: stop at the end of the text,
take a placeholder, or put one more character into a literal. `scan_induction` says this about
texts, without the recursion of the scan, and `tokens_placeholder` and `tokens_cons` say what the
tokens are in the two cases. A literal that grows by a character at its front is `consLiteral`, so
each fact about tokens needs one lemma about a placeholder in front and one about `consLiteral`.
-/

namespace TextTemplate

namespace Template

open Token (opening closing sourceOf)

/-! ## What the scan does -/

theorem tokens_placeholder {raw : Text} (hraw : IsRaw raw) (after : Text) :
    tokens (opening ++ raw ++ closing ++ after) = .ofRaw raw :: tokens after := by
  have hfound : upToClosing? (raw ++ closing ++ after) = some (raw, after) :=
    upToClosing?_eq_some_iff.mpr ⟨hraw, rfl⟩
  change tokens ('{' :: '{' :: (raw ++ closing ++ after)) = _
  rw [tokens]
  split
  · rename_i raw' after' hfound'
    obtain ⟨rfl, rfl⟩ := Prod.mk.inj (Option.some.inj (hfound'.symm.trans hfound))
    rfl
  · rename_i hnone
    rw [hfound] at hnone
    exact absurd hnone (by simp)

theorem tokens_cons {c : Char} {rest : Text} (hopen : ¬ ClosedAt (c :: rest) 0) :
    tokens (c :: rest) = consLiteral c (tokens rest) := by
  by_cases hbraces : ∃ rest', c :: rest = opening ++ rest'
  · obtain ⟨rest', hrest⟩ := hbraces
    rw [hrest, closedAt_opening_append, ← isSome_upToClosing?_iff, Option.not_isSome_iff_eq_none]
      at hopen
    obtain ⟨rfl, rfl⟩ := List.cons.inj hrest
    change tokens ('{' :: '{' :: rest') = consLiteral '{' (tokens ('{' :: rest'))
    rw [tokens]
    split
    · rename_i hfound
      rw [hopen] at hfound
      exact absurd hfound (by simp)
    · rfl
  · -- Without two braces in front, the last equation of the scan applies.
    rw [tokens]
    rintro rest' rfl rfl
    exact hbraces ⟨rest', rfl⟩

/-- A text is empty, or begins with a placeholder, or with a character that opens none. -/
theorem scan_induction {motive : Text → Prop} (text : Text) (nil : motive [])
    (placeholder : ∀ raw after, IsRaw raw → motive after →
      motive (opening ++ raw ++ closing ++ after))
    (literal : ∀ c rest, ¬ ClosedAt (c :: rest) 0 → motive rest → motive (c :: rest)) :
    motive text := by
  fun_induction tokens text with
  | case1 => exact nil
  | case2 rest raw after hfound ih =>
    obtain ⟨hraw, rfl⟩ := upToClosing?_eq_some_iff.mp hfound
    exact placeholder raw after hraw ih
  | case3 rest hnone ih =>
    refine literal '{' ('{' :: rest) (fun hclosed ↦ ?_) ih
    rw [← Option.not_isSome_iff_eq_none, isSome_upToClosing?_iff] at hnone
    exact hnone hclosed.2
  | case4 c rest hstart ih =>
    refine literal c rest (fun hclosed ↦ ?_) ih
    obtain ⟨rest', hrest⟩ := hclosed.1
    obtain ⟨rfl, rfl⟩ := List.cons.inj hrest
    exact hstart rest' rfl rfl

/-! ## Well-shaped token lists -/

/-- What can be said about tokens one by one and about neighbours: literals are as long as they can
be, and placeholders are as they are written. -/
structure WellShaped (tokens : List Token) : Prop where
  /-- No literal is empty. -/
  literal_ne_nil : .literal [] ∉ tokens
  /-- No two literals are neighbours. -/
  literals_apart : ∀ text other, ¬ [.literal text, .literal other] <:+: tokens
  /-- Every placeholder is that of a raw text. -/
  placeholder_raw : ∀ expression raw, .placeholder expression raw ∈ tokens →
    expression = Text.trim raw ∧ IsRaw raw

theorem wellShaped_nil : WellShaped [] where
  literal_ne_nil := by simp
  literals_apart := by simp
  placeholder_raw := by simp

theorem wellShaped_placeholder_cons_iff {expression raw : Text} {tokens : List Token} :
    WellShaped (.placeholder expression raw :: tokens) ↔
      expression = Text.trim raw ∧ IsRaw raw ∧ WellShaped tokens := by
  constructor
  · rintro ⟨hne, hapart, hraw⟩
    obtain ⟨hexpression, hfirst⟩ := hraw expression raw List.mem_cons_self
    refine ⟨hexpression, hfirst, fun h ↦ hne (List.mem_cons_of_mem _ h), ?_, ?_⟩
    · exact fun text other h ↦ hapart text other (List.infix_cons h)
    · exact fun e r h ↦ hraw e r (List.mem_cons_of_mem _ h)
  · rintro ⟨hexpression, hfirst, hne, hapart, hraw⟩
    refine ⟨by simpa using hne, ?_, ?_⟩
    · intro text other h
      rcases List.infix_cons_iff.mp h with h | h
      · exact absurd (List.cons_prefix_cons.mp h).1 (by simp)
      · exact hapart text other h
    · intro e r h
      rcases List.mem_cons.mp h with h | h
      · obtain ⟨rfl, rfl⟩ := Token.placeholder.inj h
        exact ⟨hexpression, hfirst⟩
      · exact hraw e r h

theorem wellShaped_literal_cons_iff {text : Text} {tokens : List Token} :
    WellShaped (.literal text :: tokens) ↔
      text ≠ [] ∧ (∀ other, tokens.head? ≠ some (.literal other)) ∧ WellShaped tokens := by
  constructor
  · rintro ⟨hne, hapart, hraw⟩
    refine ⟨?_, ?_, fun h ↦ hne (List.mem_cons_of_mem _ h), ?_, ?_⟩
    · rintro rfl
      exact hne List.mem_cons_self
    · intro other hhead
      obtain ⟨rest, rfl⟩ := List.head?_eq_some_iff.mp hhead
      exact hapart text other ⟨[], rest, rfl⟩
    · exact fun text' other h ↦ hapart text' other (List.infix_cons h)
    · exact fun e r h ↦ hraw e r (List.mem_cons_of_mem _ h)
  · rintro ⟨htext, hhead, hne, hapart, hraw⟩
    refine ⟨?_, ?_, ?_⟩
    · intro h
      rcases List.mem_cons.mp h with h | h
      · exact htext (Token.literal.inj h).symm
      · exact hne h
    · intro text' other h
      rcases List.infix_cons_iff.mp h with h | h
      · obtain ⟨-, hother⟩ := List.cons_prefix_cons.mp h
        exact hhead other (List.singleton_prefix_iff_head?_eq_some.mp hother)
      · exact hapart text' other h
    · intro e r h
      rcases List.mem_cons.mp h with h | h
      · exact absurd h (by simp)
      · exact hraw e r h

theorem WellShaped.consLiteral {tokens : List Token} (h : WellShaped tokens) (c : Char) :
    WellShaped (consLiteral c tokens) := by
  cases tokens with
  | nil => exact wellShaped_literal_cons_iff.mpr ⟨by simp, by simp, h⟩
  | cons token rest =>
    cases token with
    | literal text =>
      obtain ⟨-, hhead, hrest⟩ := wellShaped_literal_cons_iff.mp h
      exact wellShaped_literal_cons_iff.mpr ⟨by simp, hhead, hrest⟩
    | placeholder expression raw => exact wellShaped_literal_cons_iff.mpr ⟨by simp, by simp, h⟩

theorem WellShaped.exists_eq_consLiteral {text : Text} {tokens : List Token}
    (h : WellShaped (.literal text :: tokens)) :
    ∃ c tokens', WellShaped tokens' ∧ Template.consLiteral c tokens' = .literal text :: tokens := by
  obtain ⟨htext, hhead, hrest⟩ := wellShaped_literal_cons_iff.mp h
  cases text with
  | nil => exact absurd rfl htext
  | cons c text =>
    cases text with
    | cons d text =>
      exact ⟨c, .literal (d :: text) :: tokens,
        wellShaped_literal_cons_iff.mpr ⟨by simp, hhead, hrest⟩, rfl⟩
    | nil =>
      -- A literal of one character comes from no literal at all, as none follows it.
      refine ⟨c, tokens, hrest, ?_⟩
      cases tokens with
      | nil => rfl
      | cons token tokens =>
        cases token with
        | literal other => exact absurd rfl (hhead other)
        | placeholder expression raw => rfl

/-! ## Offsets in literals -/

/-- The offset, counted from the first token on, lies in a literal. -/
def InLiteral : List Token → Nat → Prop
  | [], _ => False
  | .literal text :: rest, offset =>
    offset < text.length ∨ text.length ≤ offset ∧ InLiteral rest (offset - text.length)
  | .placeholder _ raw :: rest, offset =>
    (opening ++ raw ++ closing).length ≤ offset ∧
      InLiteral rest (offset - (opening ++ raw ++ closing).length)

theorem inLiteral_cons_add {token : Token} {tokens : List Token} {offset : Nat} :
    InLiteral (token :: tokens) (token.source.length + offset) ↔ InLiteral tokens offset := by
  cases token with
  | literal text =>
    have hpast : ¬ text.length + offset < text.length := by omega
    simp [InLiteral, Token.source, hpast]
  | placeholder expression raw => simp [InLiteral, Token.source]

theorem inLiteral_append_add {front tokens : List Token} {offset : Nat} :
    InLiteral (front ++ tokens) ((sourceOf front).length + offset) ↔ InLiteral tokens offset := by
  induction front with
  | nil => rw [List.nil_append, Token.sourceOf_nil, List.length_nil, Nat.zero_add]
  | cons token front ih =>
    rw [List.cons_append, Token.sourceOf_cons, List.length_append, Nat.add_assoc,
      inLiteral_cons_add, ih]

theorem exists_of_inLiteral {tokens : List Token} {offset : Nat} (h : InLiteral tokens offset) :
    ∃ front text rest inside, tokens = front ++ .literal text :: rest ∧ inside < text.length ∧
      offset = (sourceOf front).length + inside := by
  induction tokens generalizing offset with
  | nil => exact h.elim
  | cons token tokens ih =>
    have hrest (hle : token.source.length ≤ offset)
        (h : InLiteral tokens (offset - token.source.length)) :
        ∃ front text rest inside, token :: tokens = front ++ .literal text :: rest ∧
          inside < text.length ∧ offset = (sourceOf front).length + inside := by
      obtain ⟨front, text, rest, inside, rfl, hinside, hoffset⟩ := ih h
      refine ⟨token :: front, text, rest, inside, rfl, hinside, ?_⟩
      rw [Token.sourceOf_cons, List.length_append]
      omega
    cases token with
    | placeholder expression raw => exact hrest h.1 h.2
    | literal text =>
      rcases h with hlt | ⟨hle, h⟩
      · exact ⟨[], text, tokens, offset, rfl, hlt, (Nat.zero_add offset).symm⟩
      · exact hrest hle h

@[simp] theorem inLiteral_consLiteral_zero (c : Char) (tokens : List Token) :
    InLiteral (consLiteral c tokens) 0 := by
  fun_cases consLiteral c tokens <;> simp [InLiteral]

@[simp] theorem inLiteral_consLiteral_succ {c : Char} {tokens : List Token} {offset : Nat} :
    InLiteral (consLiteral c tokens) (offset + 1) ↔ InLiteral tokens offset := by
  fun_cases consLiteral c tokens <;> simp [InLiteral]

/-! ## The decomposition -/

/-- The tokens decompose the text: they are well-shaped, make it up, and leave no closed opening to
a literal. An opening counts as left to a literal when its first brace is, even if its second one
belongs to the next token. -/
structure IsDecomposition (text : Text) (tokens : List Token) : Prop extends WellShaped tokens where
  /-- The tokens are written as the text. -/
  sourceOf_eq : sourceOf tokens = text
  /-- No opening inside a literal is closed. -/
  not_closedAt : ∀ offset, InLiteral tokens offset → ¬ ClosedAt text offset

theorem isDecomposition_nil_iff {tokens : List Token} :
    IsDecomposition [] tokens ↔ tokens = [] := by
  constructor
  · intro h
    cases tokens with
    | nil => rfl
    | cons token tokens =>
      have hsource := (List.append_eq_nil_iff.mp h.sourceOf_eq).1
      cases token with
      | literal text =>
        exact absurd hsource (wellShaped_literal_cons_iff.mp h.toWellShaped).1
      | placeholder expression raw => exact absurd hsource (by simp [Token.source, opening])
  · rintro rfl
    exact ⟨wellShaped_nil, rfl, fun _ h ↦ h.elim⟩

theorem isDecomposition_placeholder_cons_iff {text expression raw : Text} {tokens : List Token} :
    IsDecomposition text (.placeholder expression raw :: tokens) ↔
      expression = Text.trim raw ∧ IsRaw raw ∧
        ∃ after, text = opening ++ raw ++ closing ++ after ∧ IsDecomposition after tokens := by
  constructor
  · rintro ⟨hshape, rfl, hclosed⟩
    obtain ⟨hexpression, hraw, hshape⟩ := wellShaped_placeholder_cons_iff.mp hshape
    refine ⟨hexpression, hraw, sourceOf tokens, rfl, hshape, rfl, fun offset hoffset ↦ ?_⟩
    rw [← closedAt_append (opening ++ raw ++ closing)]
    exact hclosed _ (inLiteral_cons_add.mpr hoffset)
  · rintro ⟨hexpression, hraw, after, rfl, hshape, rfl, hclosed⟩
    refine ⟨wellShaped_placeholder_cons_iff.mpr ⟨hexpression, hraw, hshape⟩, rfl, ?_⟩
    rintro offset ⟨hle, hoffset⟩
    have h := hclosed _ hoffset
    rwa [← closedAt_append (opening ++ raw ++ closing), Nat.add_sub_cancel' hle] at h

theorem isDecomposition_literal_cons_iff {text front : Text} {tokens : List Token} :
    IsDecomposition text (.literal front :: tokens) ↔
      front ≠ [] ∧ (∀ other, tokens.head? ≠ some (.literal other)) ∧
        ∃ after, text = front ++ after ∧ (∀ offset < front.length, ¬ ClosedAt text offset) ∧
          IsDecomposition after tokens := by
  constructor
  · rintro ⟨hshape, rfl, hclosed⟩
    obtain ⟨hfront, hhead, hshape⟩ := wellShaped_literal_cons_iff.mp hshape
    refine ⟨hfront, hhead, sourceOf tokens, rfl, fun offset h ↦ hclosed offset (Or.inl h), ?_⟩
    refine ⟨hshape, rfl, fun offset hoffset ↦ ?_⟩
    rw [← closedAt_append front]
    exact hclosed _ (inLiteral_cons_add.mpr hoffset)
  · rintro ⟨hfront, hhead, after, rfl, hinside, hshape, rfl, hclosed⟩
    refine ⟨wellShaped_literal_cons_iff.mpr ⟨hfront, hhead, hshape⟩, rfl, ?_⟩
    rintro offset (hlt | ⟨hle, hoffset⟩)
    · exact hinside offset hlt
    · have h := hclosed _ hoffset
      rwa [← closedAt_append front, Nat.add_sub_cancel' hle] at h

theorem isDecomposition_consLiteral_iff {c : Char} {text : Text} {tokens : List Token}
    (hshape : WellShaped tokens) :
    IsDecomposition (c :: text) (consLiteral c tokens) ↔
      ¬ ClosedAt (c :: text) 0 ∧ IsDecomposition text tokens := by
  constructor
  · rintro ⟨-, hsource, hclosed⟩
    rw [sourceOf_consLiteral, List.cons.injEq] at hsource
    refine ⟨hclosed 0 (inLiteral_consLiteral_zero c tokens), hshape, hsource.2, ?_⟩
    exact fun offset hoffset ↦ hclosed (offset + 1) (inLiteral_consLiteral_succ.mpr hoffset)
  · rintro ⟨hopen, -, rfl, hclosed⟩
    refine ⟨hshape.consLiteral c, sourceOf_consLiteral c tokens, fun offset hoffset ↦ ?_⟩
    cases offset with
    | zero => exact hopen
    | succ offset => exact hclosed offset (inLiteral_consLiteral_succ.mp hoffset)

theorem closedAt_placeholder {raw : Text} (hraw : IsRaw raw) (after : Text) :
    ClosedAt (opening ++ raw ++ closing ++ after) 0 := by
  rw [List.append_assoc, List.append_assoc, closedAt_opening_append, ← List.append_assoc]
  exact closes_append_closing hraw

theorem IsDecomposition.closedAt_zero {text expression raw : Text} {tokens : List Token}
    (h : IsDecomposition text (.placeholder expression raw :: tokens)) : ClosedAt text 0 := by
  obtain ⟨-, hraw, after, rfl, -⟩ := isDecomposition_placeholder_cons_iff.mp h
  exact closedAt_placeholder hraw after

theorem IsDecomposition.not_closedAt_zero {text front : Text} {tokens : List Token}
    (h : IsDecomposition text (.literal front :: tokens)) : ¬ ClosedAt text 0 := by
  refine h.not_closedAt 0 (Or.inl ?_)
  exact List.length_pos_iff.mpr (wellShaped_literal_cons_iff.mp h.toWellShaped).1

/-! ## Existence and uniqueness -/

/-- The tokens that the scan finds decompose the text. -/
theorem isDecomposition_tokens (text : Text) : IsDecomposition text (tokens text) := by
  induction text using scan_induction with
  | nil =>
    rw [tokens]
    exact isDecomposition_nil_iff.mpr rfl
  | placeholder raw after hraw ih =>
    rw [tokens_placeholder hraw]
    exact isDecomposition_placeholder_cons_iff.mpr ⟨rfl, hraw, after, rfl, ih⟩
  | literal c rest hopen ih =>
    rw [tokens_cons hopen]
    exact (isDecomposition_consLiteral_iff ih.toWellShaped).mpr ⟨hopen, ih⟩

/-- Nothing else decomposes it: the first character decides whether a placeholder or a literal comes
first, and raw texts end at the first closing braces. -/
theorem IsDecomposition.eq_tokens {text : Text} {other : List Token}
    (h : IsDecomposition text other) : other = tokens text := by
  induction text using scan_induction generalizing other with
  | nil => rw [isDecomposition_nil_iff.mp h, tokens]
  | placeholder raw after hraw ih =>
    rw [tokens_placeholder hraw]
    rcases other with _ | ⟨front | ⟨expression, raw'⟩, other⟩
    · exact absurd h.sourceOf_eq (by simp [opening])
    · exact absurd (closedAt_placeholder hraw after) h.not_closedAt_zero
    · obtain ⟨rfl, hraw', after', htext, hother⟩ := isDecomposition_placeholder_cons_iff.mp h
      simp only [List.append_assoc, List.append_cancel_left_eq] at htext
      -- Two raw texts in front of closing braces are the same one, the one that the scan finds.
      have hsame : some (raw, after) = some (raw', after') := by
        rw [← upToClosing?_eq_some_iff.mpr ⟨hraw, rfl⟩, ← upToClosing?_eq_some_iff.mpr ⟨hraw', rfl⟩,
          List.append_assoc, List.append_assoc, htext]
      obtain ⟨rfl, rfl⟩ := Prod.mk.inj (Option.some.inj hsame)
      rw [ih hother]
      rfl
  | literal c rest hopen ih =>
    rw [tokens_cons hopen]
    rcases other with _ | ⟨front | ⟨expression, raw⟩, other⟩
    · exact absurd h.sourceOf_eq (by simp)
    · -- The other list begins with a literal too, which loses its first character here.
      obtain ⟨d, other', hshape, hother⟩ := h.toWellShaped.exists_eq_consLiteral
      rw [← hother] at h ⊢
      have hsource := h.sourceOf_eq
      rw [sourceOf_consLiteral, List.cons.injEq] at hsource
      obtain ⟨rfl, -⟩ := hsource
      rw [ih ((isDecomposition_consLiteral_iff hshape).mp h).2]
    · exact absurd h.closedAt_zero hopen

end Template

end TextTemplate
