import Mathlib.Order.Bounds.Basic
import TextTemplate.Proofs.Template.Decomposition
import TextTemplate.Proofs.Text.Occurrence
import TextTemplate.Template.Reading

/-!
# Stray openings

An opening is stray when it stands inside a literal, both braces of it. In the decomposition of a
text these are the openings that are not closed, neither more nor fewer: an opening that begins
inside a placeholder has the closing braces of the placeholder after it, and one whose second brace
begins the next token stands right before a placeholder, whose closing braces serve it as well.

Reading looks for the first stray opening of each literal. These offsets are `strays`, and the first
of them is the least offset of an opening that is not closed.
-/

namespace TextTemplate

namespace Template

open Token (opening closing sourceOf)

/-! ## Openings at the border of two texts -/

section Border

variable {front text : Text} {offset : Nat}

theorem opensAt_iff :
    OpensAt text offset ↔ text[offset]? = some '{' ∧ text[offset + 1]? = some '{' := by
  have hbraces (rest : Text) :
      opening <+: rest ↔ rest[0]? = some '{' ∧ rest[1]? = some '{' := by
    rcases rest with _ | ⟨c, _ | ⟨d, rest⟩⟩ <;> simp [opening, eq_comm (a := '{')]
  rw [OpensAt, hbraces, List.getElem?_drop, List.getElem?_drop, Nat.add_zero]

theorem OpensAt.lt_length (h : OpensAt text offset) : offset < text.length := by
  obtain ⟨hlt, -⟩ := List.getElem?_eq_some_iff.mp (opensAt_iff.mp h).1
  exact hlt

theorem OpensAt.add_two_le (h : OpensAt text offset) : offset + 2 ≤ text.length := by
  have hle := h.length_le
  rw [List.length_drop] at hle
  have htwo : opening.length = 2 := rfl
  omega

theorem OpensAt.isInfix (h : OpensAt text offset) : opening <:+: text :=
  List.IsPrefix.isInfix h |>.trans (List.drop_suffix offset text).isInfix

/-- An opening that begins in the front text lies in it, or its second brace is the first character
of the other text. -/
theorem opensAt_append_of_lt (h : offset < front.length) :
    OpensAt (front ++ text) offset ↔
      OpensAt front offset ∨
        offset + 1 = front.length ∧ front.getLast? = some '{' ∧ text.head? = some '{' := by
  rw [opensAt_iff, opensAt_iff, List.getElem?_append_left h]
  -- The second brace is at `offset + 1`, inside the front text or right behind it.
  rcases Nat.lt_or_eq_of_le (Nat.succ_le_of_lt h) with hinside | hborder
  · rw [List.getElem?_append_left hinside]
    exact ⟨Or.inl, fun h ↦ h.resolve_right fun h ↦ absurd h.1 (Nat.ne_of_lt hinside)⟩
  · have hlast : front.getLast? = front[offset]? := by
      rw [List.getLast?_eq_getElem?, ← hborder, Nat.succ_sub_one]
    have hpast : front[offset + 1]? = none := List.getElem?_eq_none (Nat.le_of_eq hborder.symm)
    rw [List.getElem?_append_right (Nat.le_of_eq hborder.symm), hborder, Nat.sub_self,
      ← List.head?_eq_getElem?, hlast, ← hborder, hpast]
    simp

end Border

theorem closedAt_of_lt_placeholder {raw : Text} (hraw : IsRaw raw) {after : Text} {offset : Nat}
    (hlt : offset < (opening ++ raw ++ closing).length)
    (hopen : OpensAt (opening ++ raw ++ closing ++ after) offset) :
    ClosedAt (opening ++ raw ++ closing ++ after) offset := by
  have hlength : (opening ++ raw ++ closing).length = raw.length + 4 := by
    simp [opening, closing]
  -- The last two characters of a placeholder are no opening braces.
  have hle : offset ≤ raw.length := by
    have hfirst : (opening ++ raw ++ closing ++ after)[raw.length + 2]? = some '}' := by
      simp [opening, closing]
    have hsecond : (opening ++ raw ++ closing ++ after)[raw.length + 3]? = some '}' := by
      simp [opening, closing]
    rw [opensAt_iff] at hopen
    rw [hlength] at hlt
    by_contra hpast
    obtain rfl | rfl | rfl : offset = raw.length + 1 ∨ offset = raw.length + 2 ∨
        offset = raw.length + 3 := by omega
    · exact absurd (hopen.2.symm.trans hfirst) (by simp)
    · exact absurd (hopen.1.symm.trans hfirst) (by simp)
    · exact absurd (hopen.1.symm.trans hsecond) (by simp)
  have hrest : (opening ++ raw ++ closing ++ after).drop (offset + 2)
      = raw.drop offset ++ closing ++ after := by
    rw [List.append_assoc (raw.drop offset), ← List.drop_append_of_le_length hle,
      List.append_assoc, List.append_assoc]
    rfl
  exact ⟨hopen, raw.drop offset, after, hrest, fun c hc ↦
    hraw.one_line c (List.mem_of_mem_drop hc)⟩

/-- An opening whose second brace is the first of a placeholder is closed. -/
theorem closedAt_of_before_placeholder {front raw : Text} (hraw : IsRaw raw) {after : Text}
    {offset : Nat} (hborder : offset + 1 = front.length) (hlast : front.getLast? = some '{') :
    ClosedAt (front ++ (opening ++ raw ++ closing ++ after)) offset := by
  have hlt : offset < front.length := Nat.lt_of_succ_le (Nat.le_of_eq hborder)
  have hopen : OpensAt (front ++ (opening ++ raw ++ closing ++ after)) offset :=
    (opensAt_append_of_lt hlt).mpr (Or.inr ⟨hborder, hlast, rfl⟩)
  -- The closing braces come after the second brace of the placeholder and its raw text.
  have hrest : (front ++ (opening ++ raw ++ closing ++ after)).drop (offset + 2)
      = ('{' :: raw) ++ closing ++ after := by
    rw [← Nat.succ_add_eq_add_succ, Nat.succ_eq_add_one, hborder, List.drop_length_add_append]
    rfl
  refine ⟨hopen, '{' :: raw, after, hrest, fun c hc ↦ ?_⟩
  rcases List.mem_cons.mp hc with rfl | hc
  · rfl
  · exact hraw.one_line c hc

/-! ## Stray openings -/

/-- An opening stands at the offset, counted from the first token on, and both of its braces are in
one literal. -/
def StrayAt : List Token → Nat → Prop
  | [], _ => False
  | .literal text :: rest, offset =>
    OpensAt text offset ∨ text.length ≤ offset ∧ StrayAt rest (offset - text.length)
  | .placeholder _ raw :: rest, offset =>
    (opening ++ raw ++ closing).length ≤ offset ∧
      StrayAt rest (offset - (opening ++ raw ++ closing).length)

theorem strayAt_cons_add {token : Token} {tokens : List Token} {offset : Nat} :
    StrayAt (token :: tokens) (token.source.length + offset) ↔ StrayAt tokens offset := by
  cases token with
  | literal text =>
    have hpast : text.drop (text.length + offset) = [] := List.drop_of_length_le (by omega)
    simp [StrayAt, Token.source, OpensAt, opening, hpast]
  | placeholder expression raw => simp [StrayAt, Token.source]

/-- An opening that begins in a literal is not closed if it lies in the literal, and closed if it
goes over its end. -/
theorem IsDecomposition.unclosedAt_iff_opensAt {front after : Text} {tokens : List Token}
    (h : IsDecomposition (front ++ after) (.literal front :: tokens)) {offset : Nat}
    (hlt : offset < front.length) : UnclosedAt (front ++ after) offset ↔ OpensAt front offset := by
  obtain ⟨-, hhead, after', hafter', hinside, hafter⟩ := isDecomposition_literal_cons_iff.mp h
  obtain rfl := List.append_cancel_left hafter'
  constructor
  · rintro ⟨hopen, hcloses⟩
    rcases (opensAt_append_of_lt hlt).mp hopen with hopen | ⟨hborder, hlast, hfirst⟩
    · exact hopen
    · -- What has the second brace is neither nothing nor another literal.
      rcases tokens with _ | ⟨other | ⟨expression, raw⟩, tokens⟩
      · rw [← hafter.sourceOf_eq] at hfirst
        exact absurd hfirst (by simp)
      · exact absurd rfl (hhead other)
      · obtain ⟨-, hraw, after, rfl, -⟩ := isDecomposition_placeholder_cons_iff.mp hafter
        exact absurd (closedAt_of_before_placeholder hraw hborder hlast).2 hcloses
  · intro hopen
    have hopen : OpensAt (front ++ after) offset := (opensAt_append_of_lt hlt).mpr (Or.inl hopen)
    exact ⟨hopen, fun hcloses ↦ hinside offset hlt ⟨hopen, hcloses⟩⟩

/-- **In the decomposition of a text, the stray openings are those that are not closed.** -/
theorem IsDecomposition.unclosedAt_iff {text : Text} {tokens : List Token}
    (h : IsDecomposition text tokens) {offset : Nat} :
    UnclosedAt text offset ↔ StrayAt tokens offset := by
  induction tokens generalizing text offset with
  | nil =>
    rw [← h.sourceOf_eq]
    simp [UnclosedAt, OpensAt, opening, StrayAt]
  | cons token tokens ih =>
    cases token with
    | placeholder expression raw =>
      obtain ⟨-, hraw, after, rfl, hafter⟩ := isDecomposition_placeholder_cons_iff.mp h
      rcases Nat.lt_or_ge offset (opening ++ raw ++ closing).length with hlt | hle
      · -- Neither side holds inside a placeholder.
        have hnot : ¬ StrayAt (.placeholder expression raw :: tokens) offset :=
          fun hstray ↦ absurd hstray.1 (Nat.not_le_of_lt hlt)
        refine ⟨fun hunclosed ↦ ?_, fun hstray ↦ absurd hstray hnot⟩
        exact absurd (closedAt_of_lt_placeholder hraw hlt hunclosed.1).2 hunclosed.2
      · obtain ⟨further, rfl⟩ := Nat.exists_eq_add_of_le hle
        rw [unclosedAt_append, ih hafter]
        exact strayAt_cons_add.symm
    | literal front =>
      obtain ⟨-, -, after, rfl, -, hafter⟩ := isDecomposition_literal_cons_iff.mp h
      rcases Nat.lt_or_ge offset front.length with hlt | hle
      · rw [h.unclosedAt_iff_opensAt hlt]
        exact ⟨Or.inl, fun hstray ↦ hstray.resolve_right fun hpast ↦ Nat.not_le_of_lt hlt hpast.1⟩
      · obtain ⟨further, rfl⟩ := Nat.exists_eq_add_of_le hle
        rw [unclosedAt_append, ih hafter]
        exact strayAt_cons_add.symm

/-! ## The first stray opening of each literal -/

theorem strayOffset?_eq_none_iff {text : Text} :
    Token.strayOffset? (.literal text) = none ↔ ¬ opening <:+: text := by
  rw [Token.strayOffset?, Option.map_eq_none_iff, Search.cut?_eq_none_iff]

theorem isLeast_of_strayOffset? {text : Text} {offset : Nat}
    (h : Token.strayOffset? (.literal text) = some offset) :
    IsLeast {offset | OpensAt text offset} offset := by
  rw [Token.strayOffset?, Option.map_eq_some_iff] at h
  obtain ⟨⟨before, rest⟩, hcut, rfl⟩ := h
  constructor
  · change opening <+: text.drop before.length
    rw [Search.eq_append_of_cut? hcut, List.append_assoc, List.drop_left]
    exact List.prefix_append opening rest
  · intro other hother
    by_contra hlt
    exact Search.not_prefix_drop_of_cut? hcut (Nat.lt_of_not_le hlt) hother

/-- The offsets, counted from the first token on, of the first stray opening of each literal. -/
def strays : List Token → List Nat
  | [] => []
  | token :: rest => token.strayOffset?.toList ++ (strays rest).map (token.source.length + ·)

theorem strays_eq_nil_iff {tokens : List Token} :
    strays tokens = [] ↔ ∀ text, .literal text ∈ tokens → ¬ opening <:+: text := by
  induction tokens with
  | nil => simp [strays]
  | cons token tokens ih =>
    rw [strays, List.append_eq_nil_iff, List.map_eq_nil_iff, ih, Option.toList_eq_nil_iff]
    cases token with
    | literal front => simp [strayOffset?_eq_none_iff]
    | placeholder expression raw => simp [Token.strayOffset?]

theorem exists_literal_of_strayAt {tokens : List Token} {offset : Nat}
    (h : StrayAt tokens offset) : ∃ text, .literal text ∈ tokens ∧ opening <:+: text := by
  induction tokens generalizing offset with
  | nil => exact h.elim
  | cons token tokens ih =>
    have hrest {further : Nat} (hfurther : StrayAt tokens further) :
        ∃ text, .literal text ∈ token :: tokens ∧ opening <:+: text := by
      obtain ⟨text, hmem, hopening⟩ := ih hfurther
      exact ⟨text, List.mem_cons_of_mem token hmem, hopening⟩
    cases token with
    | placeholder expression raw => exact hrest h.2
    | literal front =>
      rcases h with hopen | ⟨-, hfurther⟩
      · exact ⟨front, List.mem_cons_self, OpensAt.isInfix hopen⟩
      · exact hrest hfurther

theorem strayAt_cons_of_none {token : Token} (hnone : token.strayOffset? = none)
    {tokens : List Token} {offset : Nat} :
    StrayAt (token :: tokens) offset ↔
      ∃ further, offset = token.source.length + further ∧ StrayAt tokens further := by
  constructor
  · intro h
    have hle : token.source.length ≤ offset := by
      cases token with
      | placeholder expression raw => exact h.1
      | literal front =>
        rcases h with hopen | ⟨hle, -⟩
        · exact absurd (OpensAt.isInfix hopen) (strayOffset?_eq_none_iff.mp hnone)
        · exact hle
    obtain ⟨further, rfl⟩ := Nat.exists_eq_add_of_le hle
    exact ⟨further, rfl, strayAt_cons_add.mp h⟩
  · rintro ⟨further, rfl, h⟩
    exact strayAt_cons_add.mpr h

/-- **The first of these offsets is the least one of a stray opening.** -/
theorem isLeast_of_head?_strays {tokens : List Token} {offset : Nat}
    (h : (strays tokens).head? = some offset) :
    IsLeast {offset | StrayAt tokens offset} offset := by
  induction tokens generalizing offset with
  | nil => exact absurd h (by simp [strays])
  | cons token tokens ih =>
    rw [strays] at h
    -- The first stray opening is in the first token that has one.
    cases hstray : token.strayOffset? with
    | none =>
      rw [hstray, Option.toList_none, List.nil_append, List.head?_map, Option.map_eq_some_iff] at h
      obtain ⟨further, hfurther, rfl⟩ := h
      obtain ⟨hmem, hleast⟩ := ih hfurther
      refine ⟨(strayAt_cons_of_none hstray).mpr ⟨further, rfl, hmem⟩, fun other hother ↦ ?_⟩
      obtain ⟨further', rfl, hfurther'⟩ := (strayAt_cons_of_none hstray).mp hother
      exact Nat.add_le_add_left (hleast hfurther') token.source.length
    | some inside =>
      rw [hstray, Option.toList_some, List.singleton_append, List.head?_cons] at h
      obtain rfl := Option.some.inj h
      cases token with
      | placeholder expression raw => exact absurd hstray (by simp [Token.strayOffset?])
      | literal front =>
        obtain ⟨hopen, hleast⟩ := isLeast_of_strayOffset? hstray
        refine ⟨Or.inl hopen, ?_⟩
        rintro other (hother | ⟨hle, -⟩)
        · exact hleast hother
        · exact Nat.le_trans (OpensAt.lt_length hopen).le hle

end Template

end TextTemplate
