import TextTemplate.Distinct
import TextTemplate.Template.Token
import TextTemplate.Value.DataPath
import TextTemplate.Value.Shown
/-!
# Render plans

A plan is a template that is ready to be filled: a list of steps, each of which either emits fixed
text or the value found at a path. A plan holds no data, and running it on a value is one pass over
its steps. The text of a value is never looked at again, so braces in it mean nothing. The pass ends
early only at a value that raises a signal instead of saying whether it is empty, or that has no
text.
-/

namespace TextTemplate

inductive Step where
  | emit (text : Text)
  /-- Emit the value that the segments lead to; the expression is what they were made from. -/
  | insert (segments : List Text) (expression : Text)
  deriving DecidableEq, Repr

namespace Step

def ofToken : Token → Step
  | .literal text => .emit text
  | .placeholder expression _ => .insert (DataPath.segments expression) expression

/-- What the step emits for the data. -/
def output (data : Value) : Step → Except ShowFailure Text
  | .emit text => .ok text
  | .insert segments _ => ((DataPath.follow data segments).mapError .signal).bind Value.output

def outputs (data : Value) : List Step → Except ShowFailure Text
  | [] => .ok []
  | step :: rest =>
    match step.output data with
    | .ok text => (outputs data rest).map (text ++ ·)
    | .error failure => .error failure

theorem outputs_cons (data : Value) (step : Step) (rest : List Step) :
    outputs data (step :: rest)
      = (step.output data).bind fun text ↦ (outputs data rest).map (text ++ ·) := by
  rw [outputs]
  cases step.output data <;> rfl

theorem outputs_append (data : Value) (steps more : List Step) :
    outputs data (steps ++ more)
      = (outputs data steps).bind fun text ↦ (outputs data more).map (text ++ ·) := by
  induction steps with
  | nil =>
    rw [List.nil_append]
    cases outputs data more <;> simp [outputs, Except.bind, Except.map]
  | cons step rest ih =>
    simp only [List.cons_append, outputs]
    cases step.output data with
    | error failure => rfl
    | ok text =>
      rw [ih]
      cases outputs data rest with
      | error failure => rfl
      | ok text' => cases outputs data more <;> simp [Except.map, Except.bind]

/-- The expression that the step looks up. -/
def expression? : Step → Option Text
  | .emit _ => none
  | .insert _ expression => some expression

end Step

/-- A compiled template. -/
structure Plan where
  steps : List Step
  deriving DecidableEq, Repr

namespace Plan

/-- The plan for a list of tokens. -/
def ofTokens (tokens : List Token) : Plan := ⟨tokens.map Step.ofToken⟩

def fixed (text : Text) : Plan := ⟨[.emit text]⟩

/-- What the steps are given: the data, or the empty dictionary when there are none. -/
def context : Value → Value
  | .none => .dict []
  | data => data

/-- The output for the data. -/
def run (plan : Plan) (data : Value) : Except ShowFailure Text :=
  Step.outputs (context data) plan.steps

@[simp] theorem run_ofTokens_nil (data : Value) : (ofTokens []).run data = .ok [] := rfl

theorem run_ofTokens_append (data : Value) (tokens more : List Token) :
    (ofTokens (tokens ++ more)).run data
      = ((ofTokens tokens).run data).bind fun text ↦
        ((ofTokens more).run data).map (text ++ ·) := by
  simp [ofTokens, run, Step.outputs_append]

/-- The expressions that the plan looks up, in the order of their first use. -/
def expressions (plan : Plan) : List Text :=
  Distinct.firsts (· = ·) (plan.steps.filterMap Step.expression?)

def summary (plan : Plan) : Text :=
  "RenderStep(steps=".toList ++ Text.ofNat plan.steps.length ++ ", variables=".toList
    ++ Value.listText (plan.expressions.map Quoted.text) ++ [')']

end Plan

end TextTemplate
