import TextTemplate.Proofs.Cache.Points

/-!
# Entries and history

What a path holds can be read off the history, and nothing else matters. Gets end in another order
than they begin in: while a text is compiled, the same path may be filled, filled again and dropped,
and what is stored in the end comes after all that. So the history lists gets when they end, and
what it keeps for a path is decided by the one that ended last.

`Session.Mirrors` says that the entries are those that the history keeps. It is an equivalence,
because a step that drops something has to be known to leave no entry behind. A moment matters for a
path only if it returns something for it or drops it; `keeps_cons_of_returned` and
`keeps_cons_of_not_returned` say this once, and every step of a session is a case of one of them.
-/

namespace TextTemplate

namespace Cache

/-! ## Reading the history -/

namespace Moment

/-- The path, the text and the template of a get that succeeds at the moment. -/
def returned? : Moment → Option (Text × Text × Compiled)
  | .reused path text compiled | .stored path text compiled => some (path, text, compiled)
  | .missed _ _ | .failed _ _ | .dropped _ => none

/-- The path is dropped at the moment, alone or with all others. -/
def Drops (path : Text) : Moment → Prop
  | .dropped none => True
  | .dropped (some only) => only = path
  | .reused _ _ _ | .missed _ _ | .stored _ _ _ | .failed _ _ => False

end Moment

namespace History

/-- Of the gets of the path that have succeeded, the one that ended last had this text and returned
this template, and the path was not dropped since. -/
def Keeps (history : History) (path text : Text) (compiled : Compiled) : Prop :=
  ∃ since moment before, history = since ++ moment :: before ∧
    moment.returned? = some (path, text, compiled) ∧
    ∀ later ∈ since, ¬ later.Drops path ∧
      ∀ text compiled, later.returned? ≠ some (path, text, compiled)

variable {history : History} {moment : Moment} {path text : Text} {compiled : Compiled}

@[simp] theorem not_keeps_nil : ¬ Keeps [] path text compiled := by
  rintro ⟨since, moment, before, h, -⟩
  exact absurd h (by simp)

theorem keeps_cons_iff :
    Keeps (moment :: history) path text compiled ↔
      moment.returned? = some (path, text, compiled) ∨
        (¬ moment.Drops path ∧ ∀ text compiled, moment.returned? ≠ some (path, text, compiled)) ∧
          history.Keeps path text compiled := by
  constructor
  · rintro ⟨since, moment', before, hsplit, hreturned, hsince⟩
    cases since with
    | nil =>
      obtain ⟨rfl, rfl⟩ := List.cons.inj hsplit
      exact .inl hreturned
    | cons later since =>
      obtain ⟨rfl, rfl⟩ := List.cons.inj hsplit
      obtain ⟨hlater, hsince⟩ := List.forall_mem_cons.mp hsince
      exact .inr ⟨hlater, since, moment', before, rfl, hreturned, hsince⟩
  · rintro (hreturned | ⟨hmoment, since, moment', before, rfl, hreturned, hsince⟩)
    · exact ⟨[], moment, history, rfl, hreturned, by simp⟩
    · exact ⟨moment :: since, moment', before, rfl, hreturned,
        List.forall_mem_cons.mpr ⟨hmoment, hsince⟩⟩

/-- The end of a get decides about its own path and about no other. -/
theorem keeps_cons_of_returned {p t : Text} {c : Compiled}
    (hmoment : moment.returned? = some (p, t, c)) :
    Keeps (moment :: history) path text compiled ↔
      if p = path then t = text ∧ c = compiled else history.Keeps path text compiled := by
  have hkept : ¬ moment.Drops path := by
    cases moment with
    | dropped gone => exact absurd hmoment (by simp [Moment.returned?])
    | _ => simp [Moment.Drops]
  by_cases hp : p = path <;> simp [keeps_cons_iff, hmoment, hkept, hp]

theorem keeps_cons_of_not_returned (hmoment : moment.returned? = none) :
    Keeps (moment :: history) path text compiled ↔
      ¬ moment.Drops path ∧ history.Keeps path text compiled := by
  simp [keeps_cons_iff, hmoment]

end History

/-! ## Reading the entries -/

variable {cache : Cache} {path text : Text}

theorem find?_eq_some_iff {compiled : Compiled} :
    cache.find? path text = some compiled ↔
      cache.entries.find? path = some (.ofText text, compiled) := by
  rw [find?]
  cases cache.entries.find? path with
  | none => simp
  | some entry =>
    obtain ⟨digest, kept⟩ := entry
    by_cases h : digest = .ofText text <;> simp [h]

theorem find?_eq_none_iff :
    cache.find? path text = none ↔
      ∀ compiled, cache.entries.find? path ≠ some (.ofText text, compiled) := by
  simp only [Option.eq_none_iff_forall_ne_some, ne_eq, find?_eq_some_iff]

theorem find?_invalidate_eq_some_iff {gone : Option Text} {entry : Digest × Compiled} :
    (cache.invalidate gone).result.entries.find? path = some entry ↔
      ¬ Moment.Drops path (.dropped gone) ∧ cache.entries.find? path = some entry := by
  cases gone with
  | none => simp [invalidate, Moment.Drops]
  | some only =>
    by_cases hpath : only = path
    · subst hpath
      cases hentry : cache.entries.find? only <;>
        simp [invalidate, hentry, Moment.Drops, Logged.quiet]
    · cases hentry : cache.entries.find? only <;>
        simp [invalidate, hentry, Moment.Drops, Logged.quiet, hpath, Ne.symm hpath]

/-! ## The entries are those that the history keeps -/

namespace Session

/-- A path has an entry if the history keeps something for it, and the entry is that. -/
def Mirrors (session : Session) : Prop :=
  ∀ path digest compiled, session.cache.entries.find? path = some (digest, compiled) ↔
    ∃ text, digest = .ofText text ∧ session.history.Keeps path text compiled

variable {session : Session} {compiled : Compiled}

theorem mirrors_start : start.Mirrors := by
  intro path digest compiled
  simp [start, empty]

/-- The law survives the end of a get as long as what it returned is in the entry. -/
theorem Mirrors.of_returned {moment : Moment} (h : session.Mirrors)
    (hmoment : moment.returned? = some (path, text, compiled)) {after : Cache}
    (hafter : ∀ other, after.entries.find? other
      = if other = path then some (.ofText text, compiled) else session.cache.entries.find? other) :
    (⟨after, moment :: session.history⟩ : Session).Mirrors := by
  intro other digest compiled'
  simp only [hafter, History.keeps_cons_of_returned hmoment]
  by_cases hother : other = path
  · subst hother
    simp only [if_true, Option.some.injEq, Prod.mk.injEq]
    constructor
    · rintro ⟨rfl, rfl⟩
      exact ⟨text, rfl, rfl, rfl⟩
    · rintro ⟨_, rfl, rfl, rfl⟩
      exact ⟨rfl, rfl⟩
  · simp only [if_neg hother, if_neg (Ne.symm hother)]
    exact h other digest compiled'

theorem Mirrors.of_not_returned {moment : Moment} (h : session.Mirrors)
    (hmoment : moment.returned? = none) {after : Cache}
    (hafter : ∀ other entry, after.entries.find? other = some entry ↔
      ¬ moment.Drops other ∧ session.cache.entries.find? other = some entry) :
    (⟨after, moment :: session.history⟩ : Session).Mirrors := by
  intro other digest compiled'
  simp only [hafter, h other, History.keeps_cons_of_not_returned hmoment]
  constructor
  · rintro ⟨hkept, text, hdigest, hkeeps⟩
    exact ⟨text, hdigest, hkept, hkeeps⟩
  · rintro ⟨text, hdigest, hkept, hkeeps⟩
    exact ⟨hkept, text, hdigest, hkeeps⟩

theorem stepsKeep_mirrors {ε : Type} (session : Session) (run : List (Call ε)) :
    StepsKeep Mirrors session run where
  reuse _ h hfind := h.of_returned rfl fun other ↦ by
    split
    · rename_i hother
      rw [hother]
      exact find?_eq_some_iff.mp hfind
    · rfl
  miss _ h _ := h.of_not_returned rfl fun other entry ↦ by simp [Moment.Drops, countMiss]
  store _ h _ := h.of_returned rfl fun other ↦ by simp [Cache.store]
  fail _ h := h.of_not_returned rfl fun other entry ↦ by simp [Moment.Drops]
  drop gone h := h.of_not_returned rfl fun other entry ↦ find?_invalidate_eq_some_iff

end Session

end Cache

end TextTemplate
