import TextTemplate.Proofs.Distinct
import TextTemplate.Proofs.Template.Outputs

/-!
# What an output depends on

The expressions of a plan say on which values its output depends. Data that have the same texts at
all of them give the same output, and each one of them makes a difference: there are data that have
a text there, and these give another output than having no data at all.

For the difference, the segments of an expression are turned into dictionaries, one inside the
other, with a letter in the innermost: the `nest` of the segments. Other expressions may find
something in it, too. But everything in it is shown, and without data all of them are empty, so
the output can only become longer, and the letter makes it longer.
-/

namespace TextTemplate

/-! ## The expressions of tokens -/

namespace Token

def expression? : Token → Option Text
  | .literal _ => none
  | .placeholder expression _ => some expression

/-- The expressions of the placeholders in their order, as often as they are used. -/
def expressions (tokens : List Token) : List Text := tokens.filterMap expression?

theorem mem_expressions_iff {tokens : List Token} {expression : Text} :
    expression ∈ expressions tokens ↔ ∃ raw, .placeholder expression raw ∈ tokens := by
  rw [expressions, List.mem_filterMap]
  constructor
  · rintro ⟨token, hmem, htoken⟩
    cases token with
    | literal text => exact absurd htoken (by simp [expression?])
    | placeholder other raw =>
      obtain rfl : other = expression := Option.some.inj htoken
      exact ⟨raw, hmem⟩
  · rintro ⟨raw, hmem⟩
    exact ⟨_, hmem, rfl⟩

/-- The text with the placeholders filled by the function. -/
def filled (value : Text → Text) : List Token → Text
  | [] => []
  | .literal text :: rest => text ++ filled value rest
  | .placeholder expression _ :: rest => value expression ++ filled value rest

theorem length_filled_nil_le (value : Text → Text) (tokens : List Token) :
    (filled (fun _ ↦ []) tokens).length ≤ (filled value tokens).length := by
  induction tokens with
  | nil => exact Nat.le_refl 0
  | cons token rest ih =>
    cases token with
    | literal text =>
      rw [filled, filled, List.length_append, List.length_append]
      exact Nat.add_le_add_left ih _
    | placeholder expression raw =>
      rw [filled, filled, List.nil_append, List.length_append]
      exact Nat.le_add_left_of_le ih

theorem length_filled_nil_lt (value : Text → Text) {tokens : List Token} {expression : Text}
    (hmem : expression ∈ expressions tokens) (hvalue : value expression ≠ []) :
    (filled (fun _ ↦ []) tokens).length < (filled value tokens).length := by
  induction tokens with
  | nil => exact absurd hmem (by simp [expressions])
  | cons token rest ih =>
    cases token with
    | literal text =>
      rw [filled, filled, List.length_append, List.length_append]
      exact Nat.add_lt_add_left (ih hmem) _
    | placeholder other raw =>
      rw [filled, filled, List.nil_append, List.length_append]
      rcases List.mem_cons.mp hmem with rfl | hmem
      · have hpos := List.length_pos_iff.mpr hvalue
        have hle := length_filled_nil_le value rest
        omega
      · exact Nat.lt_add_left _ (ih hmem)

end Token

/-! ## A dictionary for an expression -/

namespace DataPath

/-- Dictionaries one inside the other, with a letter where the segments lead. -/
def nest : List Text → Value
  | [] => .text ['x']
  | segment :: rest => .dict [(.text segment, nest rest)]

theorem exists_written_nest (path : List Text) : ∃ text, (nest path).written = .ok text := by
  induction path with
  | nil => exact ⟨_, rfl⟩
  | cons segment rest ih =>
    obtain ⟨text, htext⟩ := ih
    refine ⟨'{' :: (Quoted.text segment ++ ':' :: ' ' :: text ++ ['}']), ?_⟩
    simp only [nest, Value.written, Value.writtenEntries, htext, Except.bind, Except.map, Text.join]

/-- Whatever is found in a nest has a text. -/
theorem exists_output_follow_nest (path segments : List Text) :
    ∃ text, ((follow (nest path) segments).mapError .signal).bind Value.output = .ok text := by
  induction segments generalizing path with
  | nil =>
    cases path with
    | nil => exact ⟨_, rfl⟩
    | cons segment rest => exact exists_written_nest (segment :: rest)
  | cons segment rest ih =>
    cases path with
    | nil =>
      rw [nest, follow_cons rfl, child_text, follow_missing]
      exact ⟨[], rfl⟩
    | cons first path =>
      rw [nest, follow_cons rfl, child_dict, entryAt]
      split
      · exact ih path
      · rw [entryAt, follow_missing]
        exact ⟨[], rfl⟩

theorem follow_nest (path : List Text) : follow (nest path) path = .ok (.text ['x']) := by
  induction path with
  | nil => rfl
  | cons segment rest ih => rw [nest, follow_cons rfl, child_dict, entryAt, if_pos rfl, ih]

end DataPath

namespace Plan

theorem expressions_ofTokens (tokens : List Token) :
    (ofTokens tokens).expressions = Distinct.firsts (· = ·) (Token.expressions tokens) := by
  have hexpression (token : Token) : (Step.ofToken token).expression? = token.expression? := by
    cases token <;> rfl
  rw [expressions, ofTokens, List.filterMap_map, Token.expressions]
  simp only [Function.comp_def, hexpression]

/-! ## Data with the same texts -/

/-- The output depends on the texts that the data have at the expressions. -/
theorem run_ofTokens_congr {data other : Value} {tokens : List Token}
    (h : ∀ expression ∈ Token.expressions tokens,
      data.textAt expression = other.textAt expression) :
    (ofTokens tokens).run data = (ofTokens tokens).run other := by
  induction tokens with
  | nil => rfl
  | cons token rest ih =>
    cases token with
    | literal text =>
      rw [run_ofTokens_literal_cons, run_ofTokens_literal_cons, ih h]
    | placeholder expression raw =>
      rw [run_ofTokens_placeholder_cons, run_ofTokens_placeholder_cons,
        h expression List.mem_cons_self,
        ih fun expression hmem ↦ h expression (List.mem_cons_of_mem _ hmem)]

/-! ## Data that make a difference -/

theorem run_ofTokens_eq_ok {data : Value} {value : Text → Text}
    (h : ∀ expression, data.textAt expression = .ok (value expression)) (tokens : List Token) :
    (ofTokens tokens).run data = .ok (Token.filled value tokens) := by
  induction tokens with
  | nil => rfl
  | cons token rest ih =>
    cases token with
    | literal text =>
      rw [run_ofTokens_literal_cons, ih]
      rfl
    | placeholder expression raw =>
      rw [run_ofTokens_placeholder_cons, h, ih]
      rfl

theorem exists_run_ofTokens_ne {tokens : List Token} {expression : Text}
    (hmem : expression ∈ Token.expressions tokens) :
    ∃ entries output, (ofTokens tokens).run (.dict entries) = .ok output ∧
      (ofTokens tokens).run (.dict []) ≠ .ok output := by
  obtain ⟨segment, rest, hsegments⟩ :=
    List.exists_cons_of_ne_nil (DataPath.segments_ne_nil expression)
  have htext (other : Text) :
      ∃ text, (DataPath.nest (segment :: rest)).textAt other = .ok text :=
    DataPath.exists_output_follow_nest _ _
  choose value hvalue using htext
  have hletter : value expression = ['x'] := by
    have h := hvalue expression
    rw [Value.textAt, hsegments, DataPath.follow_nest] at h
    exact (Except.ok.inj h).symm
  refine ⟨_, _, run_ofTokens_eq_ok hvalue tokens, fun hsame ↦ ?_⟩
  rw [run_ofTokens_eq_ok Value.textAt_dict_nil] at hsame
  have hlt := Token.length_filled_nil_lt value hmem (by simp [hletter])
  rw [Except.ok.inj hsame] at hlt
  exact Nat.lt_irrefl _ hlt

/-! ## The expressions of a plan -/

/-- The expressions are those of the tokens, and say what the output of their plan depends on. -/
structure DependsOn (tokens : List Token) (expressions : List Text) : Prop where
  /-- Data with the same texts at them give the same output. -/
  complete : ∀ data other : Value,
    (∀ expression ∈ expressions, data.textAt expression = other.textAt expression) →
      (ofTokens tokens).run data = (ofTokens tokens).run other
  /-- Each of them has entries that give another output than none. -/
  minimal : ∀ expression ∈ expressions, ∃ entries output,
    (ofTokens tokens).run (.dict entries) = .ok output ∧
      (ofTokens tokens).run (.dict []) ≠ .ok output
  /-- They are the expressions of the placeholders. -/
  mem_iff : ∀ expression, expression ∈ expressions ↔ ∃ raw, .placeholder expression raw ∈ tokens
  /-- Each of them is listed once. -/
  nodup : expressions.Nodup
  /-- They come in the order of their first use. -/
  inOrder : expressions.Pairwise fun a b ↦
    (Token.expressions tokens).idxOf a < (Token.expressions tokens).idxOf b

/-- **The expressions of a plan are exactly what its output depends on.** -/
theorem dependsOn_expressions (tokens : List Token) :
    DependsOn tokens (ofTokens tokens).expressions := by
  rw [expressions_ofTokens]
  refine ⟨fun data other hsame ↦ ?_, fun expression hmem ↦ ?_, fun expression ↦ ?_,
    Distinct.nodup_firsts _, Distinct.pairwise_firsts _⟩
  · exact run_ofTokens_congr fun expression hmem ↦
      hsame expression (Distinct.mem_firsts_iff.mpr hmem)
  · exact exists_run_ofTokens_ne (Distinct.mem_firsts_iff.mp hmem)
  · rw [Distinct.mem_firsts_iff, Token.mem_expressions_iff]

/-- An expression that is used twice is listed where it is used first. -/
example : (ofTokens [.ofRaw ['b'], .ofRaw [' ', 'a'], .literal ['c'], .ofRaw ['b']]).expressions
    = [['b'], ['a']] := by decide

end Plan

end TextTemplate
