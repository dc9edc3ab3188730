import TextTemplate.Proofs.Engine.Requests
import TextTemplate.Proofs.Template.OnePass

/-!
# Which texts are refused

A text is compiled, or it is refused because one of its openings is not closed. Settings that are
not strict refuse no text, and strict ones refuse what strict reading refuses. Rendering a text
fails in the same way; if it fails otherwise, the text was compiled and a value of the data is not
shown.
-/

namespace TextTemplate

namespace Settings

variable {settings : Settings} {name : Option Text} {text : Text}

theorem planOf_of_strict (hstrict : settings.strict = true) :
    settings.planOf name text = (Template.read .strict name text).result.map Plan.ofTokens := by
  rw [planOf, strictness, hstrict]
  rfl

theorem planOf_of_lenient (hlenient : settings.strict = false) :
    settings.planOf name text = .ok (.ofTokens (Template.tokens text)) := by
  refine planOf_eq_ok fun hstrict ↦ ?_
  rw [hlenient] at hstrict
  exact absurd hstrict (by simp)

theorem planOf_eq_ok_iff {plan : Plan} :
    settings.planOf name text = .ok plan ↔
      plan = .ofTokens (Template.tokens text) ∧
        (settings.strict = true → ∀ offset, ¬ Template.UnclosedAt text offset) := by
  cases hstrict : settings.strict with
  | false =>
    rw [planOf_of_lenient hstrict, Except.ok.injEq, eq_comm]
    simp
  | true =>
    rw [planOf_of_strict hstrict]
    cases hread : (Template.read .strict name text).result with
    | ok tokens =>
      obtain ⟨rfl, hclosed⟩ := Template.read_strict_eq_ok_iff_tokens.mp hread
      rw [Except.map, Except.ok.injEq, eq_comm]
      exact ⟨fun h ↦ ⟨h, fun _ ↦ hclosed⟩, fun h ↦ h.1⟩
    | error failure =>
      refine iff_of_false (by simp [Except.map]) fun h ↦ ?_
      obtain ⟨offset, hunclosed⟩ := Template.exists_read_strict_eq_error_iff.mp ⟨failure, hread⟩
      exact h.2 rfl offset hunclosed

theorem planOf_eq_error_iff {failure : TemplateFailure} :
    settings.planOf name text = .error failure ↔
      settings.strict = true ∧ (Template.read .strict name text).result = .error failure := by
  cases hstrict : settings.strict with
  | false => simp [planOf_of_lenient hstrict]
  | true =>
    rw [planOf_of_strict hstrict]
    cases (Template.read .strict name text).result <;> simp [Except.map]

theorem planOf_of_read_strict (settings : Settings) {tokens : List Token}
    (hread : (Template.read .strict name text).result = .ok tokens) :
    settings.planOf name text = .ok (.ofTokens tokens) := by
  obtain ⟨rfl, hclosed⟩ := Template.read_strict_eq_ok_iff_tokens.mp hread
  exact planOf_eq_ok_iff.mpr ⟨rfl, fun _ ↦ hclosed⟩

/-- A text with an opening that is not closed is refused under strict settings only. -/
theorem exists_planOf_eq_error_iff (name : Option Text)
    (hunclosed : ∃ offset, Template.UnclosedAt text offset) :
    (∃ position, settings.planOf name text = .error (.unclosedAt position name)) ↔
      settings.strict = true := by
  constructor
  · rintro ⟨position, hplan⟩
    exact (planOf_eq_error_iff.mp hplan).1
  · intro hstrict
    obtain ⟨failure, hread⟩ := Template.exists_read_strict_eq_error_iff.mpr hunclosed
    obtain ⟨offset, -, rfl⟩ := Template.read_strict_eq_error_iff.mp hread
    exact ⟨_, planOf_eq_error_iff.mpr ⟨hstrict, hread⟩⟩

end Settings

namespace Engine

variable {engine : Engine} {name : Option Text} {text : Text} {data : Value}

/-- Rendering fails for the template exactly if the text is refused. -/
theorem renderText_eq_error_template_iff {failure : TemplateFailure} :
    (engine.renderText text data name).2.result = .error (.template failure) ↔
      engine.settings.planOf name text = .error failure := by
  rw [renderText_result]
  cases engine.settings.planOf name text with
  | error other => simp [Except.mapError, Except.bind]
  | ok plan => cases hrun : plan.run data <;> simp [Except.mapError, Except.bind, hrun]

theorem renderText_of_planOf_eq_ok {plan : Plan}
    (hplan : engine.settings.planOf name text = .ok plan) :
    (engine.renderText text data name).2.result = (plan.run data).mapError .value := by
  rw [renderText_result, hplan]
  rfl

theorem exists_planOf_eq_ok (hrender : ∀ failure,
    (engine.renderText text data name).2.result ≠ .error (.template failure)) :
    ∃ plan, engine.settings.planOf name text = .ok plan := by
  cases hplan : engine.settings.planOf name text with
  | ok plan => exact ⟨plan, rfl⟩
  | error failure => exact absurd (renderText_eq_error_template_iff.mpr hplan) (hrender failure)

theorem render_eq_error_template_iff {path : Text} {data : Value} {failure : TemplateFailure} :
    (engine.render path data).2.result = .error (.template failure) ↔
      (engine.compile path).2.result = .error (.template failure) := by
  rw [render_result]
  cases (engine.compile path).2.result with
  | error other => simp [Except.map, Except.bind]
  | ok compiled =>
    cases hrun : compiled.plan.run data <;> simp [Except.map, Except.bind, Except.mapError, hrun]

end Engine

end TextTemplate
