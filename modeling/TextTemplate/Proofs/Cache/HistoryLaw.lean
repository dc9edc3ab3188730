import Mathlib.Data.Set.Function
import TextTemplate.Proofs.Cache.Entries

/-!
# The history law of a cache

At every point of every run, inside compile functions too, the entries of a cache are those that its
history keeps. So a get compiles nothing exactly when the get of its path that ended last had a text
with the same digest and the path was not dropped since, and then it returns what that one returned.

## Where a template comes from

The entries alone do not say from which text a template was compiled: a get that finds a plan only
hands it on. `Session.Sourced` goes back to the compile function that gave it. If digests tell the
texts of a run apart, a get therefore returns only what was compiled from its own text at its own
path. That this was compiled from no other text as well needs compile functions that make new
templates; then the serial numbers tell these apart.
-/

namespace TextTemplate

namespace Cache

/-! ## Reading replies -/

namespace Reply

variable {ε : Type}

/-- The texts that a get called its compile function with. -/
def compiledTexts : Reply ε → List Text
  | .got _ texts _ _ => texts
  | .dropped _ | .listed _ _ => []

/-- The template that a get returned, or the failure of its compile function. -/
def outcome? : Reply ε → Option (Except ε Compiled)
  | .got outcome _ _ _ => some (outcome.map Got.compiled)
  | .dropped _ | .listed _ _ => none

end Reply

namespace Session

variable {ε : Type} {session point : Session} {run left during : List (Call ε)} {path text : Text}
  {data : Value} {compile : Text → Except ε Product} {compiled : Compiled}

/-! ## One get -/

/-- What a get of the text at the path has to do: `point` is the session at its start, `inner` the
one when its compile function has made its calls, and `after` the one at its end. -/
structure Served (point inner after : Session) (path text : Text)
    (compile : Text → Except ε Product) (reply : Reply ε) : Prop where
  /-- It compiles nothing exactly when the path has an entry with the digest of the text. -/
  compiledTexts_eq_nil_iff : reply.compiledTexts = [] ↔
    ∃ compiled, point.cache.entries.find? path = some (.ofText text, compiled)
  /-- Then it returns the template of this entry, and nothing else happens. -/
  of_entry : ∀ compiled, point.cache.entries.find? path = some (.ofText text, compiled) →
    reply.outcome? = some (.ok compiled) ∧
      after.history = .reused path text compiled :: point.history
  /-- Otherwise it compiles its own text once; what comes of this is stored and returned, unless it
  is a failure. -/
  of_no_entry : (∀ compiled, point.cache.entries.find? path ≠ some (.ofText text, compiled)) →
    reply.compiledTexts = [text] ∧
      reply.outcome? = some ((compile text).map inner.compiledOf) ∧
      after.history = (match compile text with
        | .ok product => .stored path text (inner.compiledOf product)
        | .error _ => .failed path text) :: inner.history

theorem Served.of_find?_eq_none {inner after : Session} {reply : Reply ε}
    (hfind : point.cache.find? path text = none) (htexts : reply.compiledTexts = [text])
    (houtcome : reply.outcome? = some ((compile text).map inner.compiledOf))
    (hhistory : after.history = (match compile text with
      | .ok product => .stored path text (inner.compiledOf product)
      | .error _ => .failed path text) :: inner.history) :
    Served point inner after path text compile reply := by
  have hnone := find?_eq_none_iff.mp hfind
  refine ⟨iff_of_false ?_ fun ⟨kept, h⟩ ↦ hnone kept h, fun kept h ↦ absurd h (hnone kept),
    fun _ ↦ ⟨htexts, houtcome, hhistory⟩⟩
  rw [htexts]
  exact List.cons_ne_nil text []

theorem served_obtain (point : Session) (path text : Text) (data : Value)
    (compile : Text → Except ε Product) (during : List (Call ε)) :
    Served point (point.compiling path text during)
      (point.call (.obtain path text data compile during)).1 path text compile
      (point.call (.obtain path text data compile during)).2.result := by
  cases hfind : point.cache.find? path text with
  | some compiled =>
    have hentry := find?_eq_some_iff.mp hfind
    rw [call_obtain_of_find?_eq_some hfind]
    refine ⟨iff_of_true rfl ⟨compiled, hentry⟩, fun compiled' hentry' ↦ ?_, fun hnone ↦ ?_⟩
    · obtain rfl : compiled = compiled' := by simpa [hentry] using hentry'
      exact ⟨rfl, rfl⟩
    · exact absurd hentry (hnone compiled)
  | none =>
    cases hcompile : compile text with
    | ok product =>
      obtain ⟨same, output, replies, stats, hreply, hafter⟩ :=
        call_obtain_of_ok data during hfind hcompile
      rw [hreply, hafter]
      exact .of_find?_eq_none hfind rfl (by rw [hcompile]; rfl) (by rw [hcompile]; rfl)
    | error failure =>
      obtain ⟨replies, stats, hreply, hafter⟩ := call_obtain_of_error data during hfind hcompile
      rw [hreply, hafter]
      exact .of_find?_eq_none hfind rfl (by rw [hcompile]; rfl) (by rw [hcompile]; rfl)

/-! ## The history grows -/

theorem stepsKeep_suffix (history : History) (session : Session) (run : List (Call ε)) :
    StepsKeep (fun point ↦ history <:+ point.history) session run where
  reuse _ h _ := h.trans (List.suffix_cons _ _)
  miss _ h _ := h.trans (List.suffix_cons _ _)
  store _ h _ := h.trans (List.suffix_cons _ _)
  fail _ h := h.trans (List.suffix_cons _ _)
  drop _ h := h.trans (List.suffix_cons _ _)

theorem history_suffix_calls (session : Session) (run : List (Call ε)) :
    session.history <:+ (session.calls run).1.history :=
  (stepsKeep_suffix session.history session run).end_of_run (List.suffix_refl _)

/-- What has happened at a point of a run has happened at its end. -/
theorem ComesTo.history_suffix (h : ComesTo session run point left) :
    point.history <:+ (session.calls run).1.history := by
  induction h with
  | here session run => exact history_suffix_calls session run
  | next _ ih =>
    rw [calls_cons_fst]
    exact ih
  | @inside session point path text data compile during rest left hfind _ ih =>
    rw [calls_cons_fst]
    refine (ih.trans ?_).trans (history_suffix_calls _ rest)
    have hserved := served_obtain session path text data compile during
    rw [(hserved.of_no_entry (find?_eq_none_iff.mp hfind)).2.2]
    exact List.suffix_cons _ _

/-! ## Where templates come from -/

/-- The texts that the gets of the run are made with. -/
def textsOf (session : Session) (run : List (Call ε)) : Set Text :=
  {text | ∃ point path data compile during left,
    ComesTo session run point (.obtain path text data compile during :: left)}

/-- The template of every entry was compiled at its path, from a text with its digest. -/
def Sourced (session : Session) : Prop :=
  ∀ path digest compiled, session.cache.entries.find? path = some (digest, compiled) →
    ∃ text, digest = .ofText text ∧ .stored path text compiled ∈ session.history

theorem sourced_start : start.Sourced := by
  intro path digest compiled hentry
  simp [start, empty] at hentry

theorem Sourced.of_entries {after : Cache} {moment : Moment} (h : session.Sourced)
    (hafter : ∀ path entry, after.entries.find? path = some entry →
      session.cache.entries.find? path = some entry) :
    (⟨after, moment :: session.history⟩ : Session).Sourced := by
  intro path digest compiled hentry
  obtain ⟨text, hdigest, hmem⟩ := h path digest compiled (hafter path _ hentry)
  exact ⟨text, hdigest, List.mem_cons_of_mem _ hmem⟩

theorem Sourced.store (h : session.Sourced) (path text : Text) (compiled : Compiled) :
    (session.store path text compiled).result.Sourced := by
  intro path' digest compiled' hentry
  simp only [Session.store, Logged.map, Cache.store, Table.find?_put] at hentry
  split at hentry
  · rename_i hpath
    obtain ⟨rfl, rfl⟩ := Prod.mk.inj (Option.some.inj hentry)
    exact ⟨text, rfl, hpath ▸ List.mem_cons_self⟩
  · obtain ⟨text', hdigest, hmem⟩ := h path' digest compiled' hentry
    exact ⟨text', hdigest, List.mem_cons_of_mem _ hmem⟩

theorem stepsKeep_sourced (session : Session) (run : List (Call ε)) :
    StepsKeep Sourced session run where
  reuse _ h _ := h.of_entries fun _ _ hentry ↦ hentry
  miss _ h _ := h.of_entries fun _ _ hentry ↦ hentry
  store _ h _ := h.store _ _ _
  fail _ h := h.of_entries fun _ _ hentry ↦ hentry
  drop _ h := h.of_entries fun _ _ hentry ↦ (find?_invalidate_eq_some_iff.mp hentry).2

theorem stepsKeep_stored_mem_textsOf (session : Session) (run : List (Call ε)) :
    StepsKeep (fun point ↦ ∀ path text compiled, .stored path text compiled ∈ point.history →
      text ∈ session.textsOf run) session run where
  reuse _ h _ path text compiled hmem := h path text compiled (by simpa using hmem)
  miss _ h _ path text compiled hmem := h path text compiled (by simpa using hmem)
  store hpoint h _ path text compiled hmem := by
    rcases List.mem_cons.mp hmem with heq | hmem
    · obtain ⟨-, rfl, -⟩ := Moment.stored.inj heq
      exact ⟨_, _, _, _, _, _, hpoint⟩
    · exact h path text compiled hmem
  fail _ h path text compiled hmem := h path text compiled (by simpa using hmem)
  drop _ h path text compiled hmem := h path text compiled (by simpa using hmem)

/-- A get returns what was compiled from its own text at its own path. -/
theorem stored_of_outcome (hdigest : (start.textsOf run).InjOn Digest.ofText)
    (hpoint : ComesTo start run point (.obtain path text data compile during :: left))
    (houtcome : (point.call (.obtain path text data compile during)).2.result.outcome?
      = some (.ok compiled)) :
    .stored path text compiled
      ∈ (point.call (.obtain path text data compile during)).1.history := by
  have hserved := served_obtain point path text data compile during
  by_cases hentry : ∃ kept, point.cache.entries.find? path = some (.ofText text, kept)
  · obtain ⟨kept, hentry⟩ := hentry
    obtain ⟨hreturned, hhistory⟩ := hserved.of_entry kept hentry
    obtain rfl : kept = compiled := by simpa [hreturned] using houtcome
    obtain ⟨source, hsource, hmem⟩ :=
      hpoint.of_stepsKeep (stepsKeep_sourced start run) sourced_start path _ kept hentry
    have hrun : source ∈ start.textsOf run :=
      hpoint.of_stepsKeep (stepsKeep_stored_mem_textsOf start run) (by simp [start]) path source
        kept hmem
    -- The get itself shows that its text is one of the run, so the digests decide.
    obtain rfl : text = source := hdigest ⟨_, _, _, _, _, _, hpoint⟩ hrun hsource
    rw [hhistory]
    exact List.mem_cons_of_mem _ hmem
  · obtain ⟨-, hreturned, hhistory⟩ := hserved.of_no_entry fun kept h ↦ hentry ⟨kept, h⟩
    rw [houtcome, Option.some.injEq] at hreturned
    cases hcompile : compile text with
    | error failure => simp [hcompile, Except.map] at hreturned
    | ok product =>
      obtain rfl : compiled = _ := by simpa [hcompile, Except.map] using hreturned
      rw [hhistory, hcompile]
      exact List.mem_cons_self

/-! ## Serial numbers -/

/-- Every compile function of the run that does not fail makes a new template. -/
def MakesFresh (session : Session) (run : List (Call ε)) : Prop :=
  ∀ point path text data compile during left,
    ComesTo session run point (.obtain path text data compile during :: left) →
      ∀ product, compile text = .ok product → ∃ plan, product = .fresh plan

/-- Serial numbers tell apart what was compiled. -/
structure Numbered (session : Session) : Prop where
  /-- Only numbers were given that are past. -/
  serial_lt_made : ∀ path text compiled, .stored path text compiled ∈ session.history →
    compiled.serial < session.history.made
  /-- None was given twice. -/
  eq_of_serial_eq : ∀ path text compiled path' text' compiled',
    .stored path text compiled ∈ session.history →
      .stored path' text' compiled' ∈ session.history →
        compiled.serial = compiled'.serial → path = path' ∧ text = text'

theorem numbered_start : start.Numbered where
  serial_lt_made := by simp [start]
  eq_of_serial_eq := by simp [start]

theorem made_cons (moment : Moment) (history : History) :
    History.made (moment :: history) = history.made + if moment.isStored then 1 else 0 :=
  List.countP_cons

theorem Numbered.of_not_stored {after : Cache} {moment : Moment} (h : session.Numbered)
    (hmoment : moment.isStored = false) :
    (⟨after, moment :: session.history⟩ : Session).Numbered := by
  have hmem {path text : Text} {compiled : Compiled}
      (hcons : .stored path text compiled ∈ moment :: session.history) :
      .stored path text compiled ∈ session.history := by
    rcases List.mem_cons.mp hcons with rfl | hcons
    · exact absurd hmoment (by simp [Moment.isStored])
    · exact hcons
  constructor
  · intro path text compiled hstored
    simp only [made_cons, hmoment, Bool.false_eq_true, if_false, Nat.add_zero]
    exact h.serial_lt_made path text compiled (hmem hstored)
  · intro path text compiled path' text' compiled' hstored hstored'
    exact h.eq_of_serial_eq path text compiled path' text' compiled' (hmem hstored) (hmem hstored')

theorem Numbered.store (h : session.Numbered) (path text : Text) (plan : Plan) :
    (session.store path text (session.number plan)).result.Numbered := by
  have hmade : (session.store path text (session.number plan)).result.history.made
      = session.history.made + 1 := by
    rw [history_store, made_cons, Moment.isStored, if_pos rfl]
  constructor
  · intro path' text' compiled hstored
    rw [hmade]
    rcases List.mem_cons.mp hstored with heq | hstored
    · obtain ⟨-, -, rfl⟩ := Moment.stored.inj heq
      exact Nat.lt_succ_self _
    · exact Nat.lt_succ_of_lt (h.serial_lt_made path' text' compiled hstored)
  · intro path₁ text₁ compiled₁ path₂ text₂ compiled₂ hstored₁ hstored₂ hserial
    -- At most one of two moments is the new one, and its number is past that of the other.
    rcases List.mem_cons.mp hstored₁ with heq₁ | hstored₁ <;>
      rcases List.mem_cons.mp hstored₂ with heq₂ | hstored₂
    · obtain ⟨rfl, rfl, -⟩ := Moment.stored.inj heq₁
      obtain ⟨rfl, rfl, -⟩ := Moment.stored.inj heq₂
      exact ⟨rfl, rfl⟩
    · obtain ⟨-, -, rfl⟩ := Moment.stored.inj heq₁
      exact absurd hserial (h.serial_lt_made path₂ text₂ compiled₂ hstored₂).ne'
    · obtain ⟨-, -, rfl⟩ := Moment.stored.inj heq₂
      exact absurd hserial (h.serial_lt_made path₁ text₁ compiled₁ hstored₁).ne
    · exact h.eq_of_serial_eq path₁ text₁ compiled₁ path₂ text₂ compiled₂ hstored₁ hstored₂ hserial

theorem stepsKeep_numbered (hfresh : MakesFresh session run) :
    StepsKeep Numbered session run where
  reuse _ h _ := h.of_not_stored rfl
  miss _ h _ := h.of_not_stored rfl
  store hpoint h hcompile := by
    obtain ⟨plan, rfl⟩ := hfresh _ _ _ _ _ _ _ hpoint _ hcompile
    exact h.store _ _ plan
  fail _ h := h.of_not_stored rfl
  drop _ h := h.of_not_stored rfl

/-! ## The law -/

/-- What holds of the run of the calls from an unused cache. -/
structure FollowsHistory (run : List (Call ε)) : Prop where
  /-- At every point, the entries are those that the history keeps. -/
  mirrors : ∀ point left, ComesTo start run point left → point.Mirrors
  /-- Every get does what the entries at its start say, and enters the history when it ends. -/
  served : ∀ point path text data compile during left,
    ComesTo start run point (.obtain path text data compile during :: left) →
      Served point (point.compiling path text during)
        (point.call (.obtain path text data compile during)).1 path text compile
        (point.call (.obtain path text data compile during)).2.result
  /-- So does every drop. -/
  dropped : ∀ point gone left, ComesTo start run point (.drop gone :: left) →
    (point.call (.drop gone : Call ε)).1.history = .dropped gone :: point.history
  /-- If no two texts of the run share a digest, a get returns what was compiled from its own text
  at its own path. -/
  compiled_here : (start.textsOf run).InjOn Digest.ofText →
    ∀ point path text data compile during left compiled,
      ComesTo start run point (.obtain path text data compile during :: left) →
        (point.call (.obtain path text data compile during)).2.result.outcome?
            = some (.ok compiled) →
          .stored path text compiled
            ∈ (point.call (.obtain path text data compile during)).1.history
  /-- If compile functions make new templates besides, it was compiled at no other path and from no
  other text in the whole run. -/
  compiled_nowhere_else : (start.textsOf run).InjOn Digest.ofText → start.MakesFresh run →
    ∀ point path text data compile during left compiled,
      ComesTo start run point (.obtain path text data compile during :: left) →
        (point.call (.obtain path text data compile during)).2.result.outcome?
            = some (.ok compiled) →
          ∀ path' text' compiled',
            .stored path' text' compiled' ∈ (start.calls run).1.history →
              compiled'.serial = compiled.serial → path' = path ∧ text' = text

/-- **Every run of a cache follows its history.** -/
theorem followsHistory (run : List (Call ε)) : FollowsHistory run where
  mirrors _ _ hpoint := hpoint.of_stepsKeep (stepsKeep_mirrors start run) mirrors_start
  served point path text data compile during _ _ :=
    served_obtain point path text data compile during
  dropped _ _ _ _ := rfl
  compiled_here hdigest _ _ _ _ _ _ _ _ hpoint houtcome :=
    stored_of_outcome hdigest hpoint houtcome
  compiled_nowhere_else hdigest hfresh _ path text _ _ _ _ compiled hpoint houtcome path' text'
      compiled' hstored hserial := by
    have hnumbered : (start.calls run).1.Numbered :=
      (stepsKeep_numbered hfresh).end_of_run numbered_start
    have hhere := hpoint.call.history_suffix.subset (stored_of_outcome hdigest hpoint houtcome)
    exact hnumbered.eq_of_serial_eq path' text' compiled' path text compiled hstored hhere hserial

/-- While a text is compiled, its path is filled from another text and everything is dropped. The
first template that is made is the one of the inner get, but the path holds the second, which the
last get then finds. -/
private def refilled : List (Call Unit) :=
  let compile (text : Text) : Except Unit Product := .ok (.fresh (.fixed text))
  [.obtain ['p'] ['t'] .none compile [.obtain ['p'] ['u'] .none compile [], .drop none],
    .obtain ['p'] ['t'] .none compile []]

private theorem not_comesTo_nil {first : Call ε} : ¬ ComesTo session [] point (first :: left) :=
  fun h ↦ nomatch h

private theorem get_of_comesTo_refilled {compile : Text → Except Unit Product}
    {during left : List (Call Unit)}
    (h : ComesTo start refilled point (.obtain path text data compile during :: left)) :
    (text = ['t'] ∨ text = ['u']) ∧ ∀ text, compile text = .ok (.fresh (.fixed text)) := by
  cases h with
  | here => exact ⟨.inl rfl, fun _ ↦ rfl⟩
  | next h =>
    cases h with
    | here => exact ⟨.inl rfl, fun _ ↦ rfl⟩
    | next h | inside _ h => exact absurd h not_comesTo_nil
  | inside _ h =>
    cases h with
    | here => exact ⟨.inr rfl, fun _ ↦ rfl⟩
    | next h =>
      cases h with
      | next h => exact absurd h not_comesTo_nil
    | inside _ h => exact absurd h not_comesTo_nil

theorem followsHistory_refilled :
    (start.textsOf refilled).InjOn Digest.ofText ∧ start.MakesFresh refilled ∧
      ∀ path text compiled, .stored path text compiled ∈ (start.calls refilled).1.history →
        compiled.serial = 1 → path = ['p'] ∧ text = ['t'] := by
  have hdigest : (start.textsOf refilled).InjOn Digest.ofText := by
    rintro text ⟨_, _, _, _, _, _, h⟩ other ⟨_, _, _, _, _, _, h'⟩ hsame
    have hapart : Digest.ofText ['t'] ≠ Digest.ofText ['u'] := by decide +kernel
    rcases (get_of_comesTo_refilled h).1 with rfl | rfl <;>
      rcases (get_of_comesTo_refilled h').1 with rfl | rfl
    · rfl
    · exact absurd hsame hapart
    · exact absurd hsame.symm hapart
    · rfl
  have hfresh : start.MakesFresh refilled := by
    intro point path text data compile during left h product hproduct
    rw [(get_of_comesTo_refilled h).2 text] at hproduct
    exact ⟨.fixed text, (Except.ok.inj hproduct).symm⟩
  refine ⟨hdigest, hfresh, ?_⟩
  refine (followsHistory refilled).compiled_nowhere_else hdigest hfresh _ _ _ _ _ _ _
    ⟨1, .fixed ['t']⟩ (.next (.here _ _)) ?_
  decide +kernel

end Session

end Cache

end TextTemplate
