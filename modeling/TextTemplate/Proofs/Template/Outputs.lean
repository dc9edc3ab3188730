import TextTemplate.Template.Plan
import TextTemplate.Template.Scan

/-!
# What a plan puts out

The plan of a token list copies the literals and shows, for each placeholder, the text that the data
have at its expression. This text is `Value.textAt`; a plan gets at the data in no other way. So its
output is said by one lemma for each kind of token, and there is one more for `consLiteral`, the way
in which literals grow.

A plan that is run without data is run on the empty dictionary. Since an expression has at least one
segment, nothing is found in either, and `textAt` need not tell them apart.
-/

namespace TextTemplate

namespace DataPath

@[simp] theorem follow_missing (segments : List Text) :
    follow .missing segments = .ok .missing := by
  cases segments with
  | nil => rfl
  | cons segment rest => exact follow_cons_of_isEmpty rfl segment rest

theorem segments_ne_nil (expression : Text) : segments expression ≠ [] := by
  rw [segments]
  split
  · exact Text.pieces_ne_nil '.' expression
  · exact List.cons_ne_nil _ _

theorem follow_none (expression : Text) :
    follow .none (segments expression) = .ok .missing := by
  obtain ⟨segment, rest, hsegments⟩ := List.exists_cons_of_ne_nil (segments_ne_nil expression)
  rw [hsegments, follow_cons_of_isEmpty rfl]

theorem follow_dict_nil (expression : Text) :
    follow (.dict []) (segments expression) = .ok .missing := by
  obtain ⟨segment, rest, hsegments⟩ := List.exists_cons_of_ne_nil (segments_ne_nil expression)
  rw [hsegments, follow_cons rfl, child_dict, entryAt, follow_missing]

end DataPath

namespace Value

/-- The text that the data have at an expression. -/
def textAt (data : Value) (expression : Text) : Except ShowFailure Text :=
  ((DataPath.follow data (DataPath.segments expression)).mapError .signal).bind output

@[simp] theorem textAt_dict_nil (expression : Text) : textAt (.dict []) expression = .ok [] := by
  rw [textAt, DataPath.follow_dict_nil]
  rfl

/-- Having no data and having none of them is the same. -/
theorem textAt_context (data : Value) (expression : Text) :
    textAt (Plan.context data) expression = textAt data expression := by
  cases data with
  | none => rw [Plan.context, textAt, textAt, DataPath.follow_dict_nil, DataPath.follow_none]
  | _ => rfl

end Value

namespace Plan

theorem run_ofTokens_literal_cons (text : Text) (tokens : List Token) (data : Value) :
    (ofTokens (.literal text :: tokens)).run data
      = ((ofTokens tokens).run data).map (text ++ ·) := rfl

theorem run_ofTokens_placeholder_cons (expression raw : Text) (tokens : List Token)
    (data : Value) :
    (ofTokens (.placeholder expression raw :: tokens)).run data
      = (data.textAt expression).bind fun inserted ↦
        ((ofTokens tokens).run data).map (inserted ++ ·) := by
  rw [← Value.textAt_context]
  exact Step.outputs_cons (context data) (.insert (DataPath.segments expression) expression)
    (tokens.map Step.ofToken)

theorem run_ofTokens_consLiteral (c : Char) (tokens : List Token) (data : Value) :
    (ofTokens (Template.consLiteral c tokens)).run data
      = ((ofTokens tokens).run data).map (c :: ·) := by
  fun_cases Template.consLiteral c tokens with
  | case1 text rest =>
    rw [run_ofTokens_literal_cons, run_ofTokens_literal_cons]
    cases (ofTokens rest).run data <;> rfl
  | case2 => exact run_ofTokens_literal_cons [c] _ data

end Plan

end TextTemplate
