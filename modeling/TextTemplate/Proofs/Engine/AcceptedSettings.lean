import Mathlib.Data.List.DropRight
import TextTemplate.Proofs.Engine.Building
import TextTemplate.Proofs.Text.Trimming

/-!
# Engines from accepted settings

Settings are made to build engines from, and an engine has the settings that it was built from,
unless it cannot be built at all. The reason is the name of the directory, which is looked at a
second time. By then its last slashes are gone, and what is left may be blank: a name of blanks and
slashes is accepted, for it is not blank, and comes to the blanks, which are refused.

`normalRoot_eq_ok_iff` says without any dropping which directory a name comes to. That the second
look finds nothing to drop, and when it refuses what it finds, are two cases of this.
-/

namespace TextTemplate

/-! ## Blanks and slashes -/

namespace Settings

variable {name root : Text}

/-- The directory is named as it is in settings. -/
structure IsNormalRoot (root : Text) : Prop where
  ne_nil : root ≠ []
  /-- The name ends in no slash, unless it is one. -/
  no_slash_last : root = ['/'] ∨ root.getLast? ≠ some '/'

theorem normalRoot_of_blank (hblank : ∀ c ∈ name, isBlank c = true) :
    normalRoot name = .error .blankRoot := by
  rw [normalRoot, Text.trim_eq_nil_iff.mpr hblank]
  rfl

theorem normalRoot_of_not_blank (hname : ¬ ∀ c ∈ name, isBlank c = true) :
    normalRoot name = .ok (if name.rdropWhile (· = '/') = [] then ['/']
      else name.rdropWhile (· = '/')) := by
  have hdrop : Text.dropEndWhile (· = '/') name = name.rdropWhile (· = '/') := rfl
  rw [← Text.trim_eq_nil_iff, ← List.isEmpty_iff] at hname
  rw [normalRoot, if_neg hname, hdrop]
  cases name.rdropWhile (· = '/') <;> rfl

theorem normalRoot_append {slashes : Text} (hroot : IsNormalRoot root)
    (hslashes : ∀ c ∈ slashes, c = '/') (hname : ¬ ∀ c ∈ root ++ slashes, isBlank c = true) :
    normalRoot (root ++ slashes) = .ok root := by
  have hdrop : (root ++ slashes).rdropWhile (· = '/') = root.rdropWhile (· = '/') := by
    rw [List.rdropWhile, List.reverse_append, List.dropWhile_append_of_pos, ← List.rdropWhile]
    simpa using hslashes
  rw [normalRoot_of_not_blank hname, hdrop]
  rcases hroot.no_slash_last with rfl | hlast
  · rfl
  · have hself : root.rdropWhile (· = '/') = root := by
      rw [List.rdropWhile_eq_self_iff]
      intro hne hslash
      rw [List.getLast?_eq_some_getLast hne, of_decide_eq_true hslash] at hlast
      exact hlast rfl
    rw [hself, if_neg hroot.ne_nil]

/-- Every name is that of a directory in normal form with slashes after it. -/
theorem exists_isNormalRoot_append (hname : name ≠ []) :
    ∃ root slashes, name = root ++ slashes ∧ IsNormalRoot root ∧ ∀ c ∈ slashes, c = '/' := by
  by_cases hnil : name.rdropWhile (· = '/') = []
  · -- A name of slashes alone begins with the one that is kept.
    have hslashes : ∀ c ∈ name, c = '/' := by simpa using List.rdropWhile_eq_nil_iff.mp hnil
    obtain ⟨c, rest, rfl⟩ := List.exists_cons_of_ne_nil hname
    obtain rfl := hslashes c List.mem_cons_self
    exact ⟨['/'], rest, rfl, ⟨by simp, Or.inl rfl⟩,
      fun c hc ↦ hslashes c (List.mem_cons_of_mem _ hc)⟩
  · refine ⟨name.rdropWhile (· = '/'), name.rtakeWhile (· = '/'),
      List.rdropWhile_append_rtakeWhile.symm, ⟨hnil, Or.inr fun hlast ↦ ?_⟩, fun c hc ↦ ?_⟩
    · rw [List.getLast?_eq_some_getLast hnil] at hlast
      exact List.rdropWhile_last_not _ _ hnil (decide_eq_true (Option.some.inj hlast))
    · simpa using List.mem_rtakeWhile_imp hc

/-- **A name that is not blank comes to the directory in normal form that it is, up to slashes at
its end.** -/
theorem normalRoot_eq_ok_iff :
    normalRoot name = .ok root ↔
      (¬ ∀ c ∈ name, isBlank c = true) ∧ IsNormalRoot root ∧
        ∃ slashes, name = root ++ slashes ∧ ∀ c ∈ slashes, c = '/' := by
  by_cases hblank : ∀ c ∈ name, isBlank c = true
  · rw [normalRoot_of_blank hblank]
    exact iff_of_false (by simp) fun h ↦ h.1 hblank
  constructor
  · intro h
    have hne : name ≠ [] := by
      rintro rfl
      exact hblank (by simp)
    obtain ⟨root', slashes, rfl, hroot, hslashes⟩ := exists_isNormalRoot_append hne
    rw [normalRoot_append hroot hslashes hblank] at h
    obtain rfl := Except.ok.inj h
    exact ⟨hblank, hroot, slashes, rfl, hslashes⟩
  · rintro ⟨-, hroot, slashes, rfl, hslashes⟩
    exact normalRoot_append hroot hslashes hblank

theorem IsNormalRoot.normalRoot_eq (hroot : IsNormalRoot root)
    (hname : ¬ ∀ c ∈ root, isBlank c = true) : normalRoot root = .ok root :=
  normalRoot_eq_ok_iff.mpr ⟨hname, hroot, [], (List.append_nil root).symm, by simp⟩

/-- The name has blanks and then slashes, and nothing else. -/
def BlanksThenSlashes (name : Text) : Prop :=
  ∃ blanks slashes, name = blanks ++ slashes ∧ blanks ≠ [] ∧ slashes ≠ [] ∧
    (∀ c ∈ blanks, isBlank c = true) ∧ ∀ c ∈ slashes, c = '/'

/-- The names that are accepted and come to blanks are blanks and then slashes. -/
theorem blank_iff_of_normalRoot (h : normalRoot name = .ok root) :
    (∀ c ∈ root, isBlank c = true) ↔ BlanksThenSlashes name := by
  obtain ⟨hname, hroot, slashes, hsplit, hslashes⟩ := normalRoot_eq_ok_iff.mp h
  constructor
  · intro hblank
    refine ⟨root, slashes, hsplit, hroot.ne_nil, ?_, hblank, hslashes⟩
    rintro rfl
    rw [hsplit, List.append_nil] at hname
    exact hname hblank
  · rintro ⟨blanks, slashes', rfl, hne, -, hblanks, hslashes'⟩
    -- The blanks are a directory in normal form, so they are what the name comes to.
    have hnormal : IsNormalRoot blanks := by
      refine ⟨hne, Or.inr fun hlast ↦ ?_⟩
      exact absurd (hblanks '/' (List.mem_of_getLast? hlast)) (by decide)
    rw [normalRoot_append hnormal hslashes' hname] at h
    obtain rfl := Except.ok.inj h
    exact hblanks

/-! ## The settings -/

theorem ofInput_toInput (settings : Settings) :
    ofInput settings.toInput = match normalRoot settings.root with
      | .ok root => .ok { settings with root }
      | .error complaint => .error [⟨.root, complaint⟩] := by
  obtain ⟨root, encoding, strict, cacheEnabled⟩ := settings
  simp only [toInput, ofInput, rootOf, textOf, Except.bind, readOr, switchOf]
  cases normalRoot root <;> rfl

theorem normalRoot_of_ofInput {encoding strict cacheEnabled : Option Value} {settings : Settings}
    (haccepted : ofInput ⟨some (.text name), encoding, strict, cacheEnabled⟩ = .ok settings) :
    normalRoot name = .ok settings.root := (ofInput_eq_ok_iff.mp haccepted).1

end Settings

/-! ## The engine -/

namespace Engine

theorem ofSettings_of_blank (supply : Supply) {settings : Settings}
    (hblank : ∀ c ∈ settings.root, isBlank c = true) :
    ofSettings supply settings = .error (.settings [⟨.root, .blankRoot⟩]) := by
  have hpath : isPath (.text settings.root) = true := rfl
  have hrefused := settings.ofInput_toInput
  rw [Settings.normalRoot_of_blank hblank, Settings.toInput] at hrefused
  rw [ofSettings, build, if_pos hpath, hrefused]

theorem ofSettings_of_isNormalRoot (supply : Supply) {settings : Settings}
    (hroot : Settings.IsNormalRoot settings.root)
    (hname : ¬ ∀ c ∈ settings.root, isBlank c = true) :
    ∃ engine, ofSettings supply settings = .ok engine ∧ engine.settings = settings := by
  have haccepted := settings.ofInput_toInput
  rw [hroot.normalRoot_eq hname] at haccepted
  exact ⟨⟨settings, _, _, 0⟩, build_eq_ok_iff.mpr ⟨rfl, haccepted, rfl, rfl, rfl⟩, rfl⟩

/-- **Accepted settings are those of the engine that is built from them**, unless the name of the
directory was blanks and then slashes. Then the settings have a blank directory, and no engine is
built from them. -/
theorem ofSettings_of_accepted (supply : Supply) {name : Text}
    {encoding strict cacheEnabled : Option Value} {settings : Settings}
    (haccepted : Settings.ofInput ⟨some (.text name), encoding, strict, cacheEnabled⟩
      = .ok settings) :
    Settings.IsNormalRoot settings.root ∧
      ((∃ engine, ofSettings supply settings = .ok engine ∧ engine.settings = settings) ↔
        ¬ Settings.BlanksThenSlashes name) ∧
      (Settings.BlanksThenSlashes name →
        ofSettings supply settings = .error (.settings [⟨.root, .blankRoot⟩])) := by
  have hnormal := Settings.normalRoot_of_ofInput haccepted
  have hroot := (Settings.normalRoot_eq_ok_iff.mp hnormal).2.1
  rw [← Settings.blank_iff_of_normalRoot hnormal]
  refine ⟨hroot, ⟨?_, ofSettings_of_isNormalRoot supply hroot⟩, ofSettings_of_blank supply⟩
  rintro ⟨engine, hbuilt, -⟩ hblank
  rw [ofSettings_of_blank supply hblank] at hbuilt
  exact absurd hbuilt (by simp)

private def noTemplates : Supply := .given (.ofStore (.memory (.ofTexts (.ofList []))))

/-- The name has slashes at its end and is not blank before them. -/
theorem ofSettings_of_accepted_slashes :
    Settings.ofInput ⟨some (.text [' ', '/', 'a', '/', '/']), none, none, none⟩
        = .ok ⟨[' ', '/', 'a'], Settings.usualEncoding, true, false⟩ ∧
      ∃ engine,
        ofSettings noTemplates ⟨[' ', '/', 'a'], Settings.usualEncoding, true, false⟩ = .ok engine ∧
        engine.settings = ⟨[' ', '/', 'a'], Settings.usualEncoding, true, false⟩ := by
  have haccepted : Settings.ofInput ⟨some (.text [' ', '/', 'a', '/', '/']), none, none, none⟩
      = .ok ⟨[' ', '/', 'a'], Settings.usualEncoding, true, false⟩ := rfl
  have hname : ¬ Settings.BlanksThenSlashes [' ', '/', 'a', '/', '/'] := by
    rw [← Settings.blank_iff_of_normalRoot (Settings.normalRoot_of_ofInput haccepted)]
    exact fun hblank ↦ absurd (hblank 'a' (by simp)) (by decide)
  exact ⟨haccepted, (ofSettings_of_accepted noTemplates haccepted).2.1.mpr hname⟩

/-- The settings that are made from a blank and a slash are accepted, but no engine is built from
them. -/
theorem exists_accepted_without_engine :
    ∃ settings, Settings.ofInput ⟨some (.text [' ', '/']), none, none, none⟩ = .ok settings ∧
      ∀ supply, ofSettings supply settings = .error (.settings [⟨.root, .blankRoot⟩]) :=
  ⟨⟨[' '], Settings.usualEncoding, true, false⟩, rfl, fun _ ↦ rfl⟩

end Engine

end TextTemplate
