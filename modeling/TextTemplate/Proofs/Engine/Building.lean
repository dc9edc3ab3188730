import TextTemplate.Engine.Basic

/-!
# When settings are accepted and engines built

Settings are accepted when each of the four values is, and an engine is built when its directory is
a path and its settings are accepted. Both are said as equivalences, so that whoever knows that an
engine was built also knows what it was built from.
-/

namespace TextTemplate

namespace Settings

/-- The directory that an optional value names. -/
def rootOrMissing : Option Value → Except Complaint Text
  | some value => rootOf value
  | none => .error .missing

theorem ofInput_eq_ok_iff {input : Input} {settings : Settings} :
    ofInput input = .ok settings ↔
      rootOrMissing input.root = .ok settings.root ∧
        readOr usualEncoding textOf input.encoding = .ok settings.encoding ∧
        readOr true switchOf input.strict = .ok settings.strict ∧
        readOr false switchOf input.cacheEnabled = .ok settings.cacheEnabled := by
  obtain ⟨root?, encoding?, strict?, cacheEnabled?⟩ := input
  cases root? with
  | none => simp [ofInput, rootOrMissing]
  | some value =>
    unfold ofInput
    dsimp only [rootOrMissing]
    split
    · rename_i root encoding strict cacheEnabled hroot hencoding hstrict hcache
      rw [hroot, hencoding, hstrict, hcache]
      obtain ⟨_, _, _, _⟩ := settings
      simp
    · rename_i hrefused
      constructor
      · intro h
        exact absurd h (by simp)
      · rintro ⟨hroot, hencoding, hstrict, hcache⟩
        exact (hrefused _ _ _ _ hroot hencoding hstrict hcache).elim

end Settings

namespace Engine

variable {supply : Supply} {root : Value} {encoding strict cacheEnabled : Option Value}

/-- An engine is built exactly when its directory is a path and its settings are accepted. -/
theorem build_eq_ok_iff {engine : Engine} :
    build supply root encoding strict cacheEnabled = .ok engine ↔
      isPath root = true ∧
        Settings.ofInput ⟨some root, encoding, strict, cacheEnabled⟩ = .ok engine.settings ∧
        engine.cache = (if cacheEnabled.any Value.isTruthy then some .empty else none) ∧
        engine.source = supply.source encoding ∧ engine.made = 0 := by
  obtain ⟨settings, cache, source, made⟩ := engine
  rw [build]
  by_cases hroot : isPath root = true
  · rw [if_pos hroot]
    cases Settings.ofInput ⟨some root, encoding, strict, cacheEnabled⟩ with
    | error issues => simp
    | ok settings' =>
      simp only [Except.ok.injEq, Engine.mk.injEq, hroot, true_and]
      constructor
      · rintro ⟨rfl, rfl, rfl, rfl⟩
        exact ⟨rfl, rfl, rfl, rfl⟩
      · rintro ⟨rfl, rfl, rfl, rfl⟩
        exact ⟨rfl, rfl, rfl, rfl⟩
  · simp [hroot]

end Engine

end TextTemplate
