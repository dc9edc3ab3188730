import TextTemplate.Proofs.Engine.Refusal

/-!
# Failed requests leave no trace

A request for a template fails when the source has no text for it, when the text is refused, or when
a value of the data is not shown. In the first two cases nothing is compiled and nothing is kept
or dropped: what the engine had for the path it still has, and finds again when an edit is reversed.
All that is left of the request are tallies: the source was asked once more, and a text that was
refused counts as a miss.

## Tallies

No answer but those that tell the tallies depends on them. So sessions which are the same without
their tallies stay the same in every run, and a failed request may be left out of a run or put into
it anywhere.
-/

namespace TextTemplate

namespace Cache

/-- The cache without its tally of misses. -/
def untallied (cache : Cache) : Cache := { cache with misses := 0 }

theorem untallied_invalidate (cache : Cache) (path : Option Text) :
    (cache.untallied.invalidate path) = (cache.invalidate path).map untallied := by
  cases path with
  | none => rfl
  | some path =>
    simp only [invalidate, untallied]
    cases cache.entries.find? path <;> rfl

end Cache

namespace Engine

/-- The engine without its tallies of misses and of what the source was asked for. -/
def untallied (engine : Engine) : Engine :=
  { engine with
    cache := engine.cache.map Cache.untallied
    source := { engine.source with asked := [] } }

/-! ## Single steps -/

variable {engine other : Engine}

theorem settings_eq_of_untallied (h : engine.untallied = other.untallied) :
    engine.settings = other.settings := congrArg (·.settings) h

theorem store_eq_of_untallied (h : engine.untallied = other.untallied) :
    engine.source.store = other.source.store := congrArg (·.source.store) h

theorem compileText_untallied (engine : Engine) (text : Text) (name : Option Text) :
    engine.untallied.compileText text name
      = ((engine.compileText text name).1.untallied, (engine.compileText text name).2) := by
  simp only [compileText, untallied]
  cases (Template.read engine.settings.strictness name text).result <;> rfl

theorem compileAt_untallied (engine : Engine) (path text : Text) :
    (engine.untallied.compileAt path text).1.untallied = (engine.compileAt path text).1.untallied ∧
      (engine.untallied.compileAt path text).2 = (engine.compileAt path text).2 := by
  obtain ⟨settings, _ | cache, source, made⟩ := engine
  · simp only [compileAt, untallied, compileText]
    cases (Template.read settings.strictness (some path) text).result <;> exact ⟨rfl, rfl⟩
  · have hfind : cache.untallied.find? path text = cache.find? path text := rfl
    simp only [compileAt, untallied, Option.map_some, hfind]
    cases cache.find? path text with
    | some compiled => exact ⟨rfl, rfl⟩
    | none =>
      simp only [compileText]
      cases (Template.read settings.strictness (some path) text).result <;> exact ⟨rfl, rfl⟩

theorem compileAt_congr (h : engine.untallied = other.untallied) (path text : Text) :
    (engine.compileAt path text).1.untallied = (other.compileAt path text).1.untallied ∧
      (engine.compileAt path text).2 = (other.compileAt path text).2 := by
  have hengine := compileAt_untallied engine path text
  have hother := compileAt_untallied other path text
  rw [← hengine.1, ← hengine.2, ← hother.1, ← hother.2, h]
  exact ⟨rfl, rfl⟩

theorem compile_snd_of_read_eq_ok {path text : Text}
    (hread : (engine.source.store.read (engine.resolve path)).result = .ok text) :
    (engine.compile path).2
      = (((engine.ask path).compileAt (engine.resolve path) text).2.map
          (Except.mapError .template)).after
          (engine.source.store.read (engine.resolve path)).events := by
  simp only [compile, ask, Source.read, hread]

theorem compile_snd_of_read_eq_error {path : Text} {failure : RenderFailure}
    (hread : (engine.source.store.read (engine.resolve path)).result = .error failure) :
    (engine.compile path).2
      = ⟨(engine.source.store.read (engine.resolve path)).events, .error failure⟩ := by
  simp only [compile, Source.read, hread]

theorem compile_congr (h : engine.untallied = other.untallied) (path : Text) :
    (engine.compile path).1.untallied = (other.compile path).1.untallied ∧
      (engine.compile path).2 = (other.compile path).2 := by
  have hresolve : engine.resolve path = other.resolve path := by
    rw [resolve, resolve, settings_eq_of_untallied h]
  have hask : (engine.ask path).untallied = (other.ask path).untallied := h
  have hstore := store_eq_of_untallied h
  cases hother : (other.source.store.read (other.resolve path)).result with
  | error failure =>
    have hengine := hother
    rw [← hstore, ← hresolve] at hengine
    rw [(compile_of_read_eq_error hengine).1, (compile_of_read_eq_error hother).1,
      compile_snd_of_read_eq_error hengine, compile_snd_of_read_eq_error hother, hstore, hresolve]
    exact ⟨hask, rfl⟩
  | ok text =>
    have hengine := hother
    rw [← hstore, ← hresolve] at hengine
    have hcompile := compileAt_congr hask (other.resolve path) text
    rw [(compile_of_read_eq_ok hengine).1, (compile_of_read_eq_ok hother).1,
      compile_snd_of_read_eq_ok hengine, compile_snd_of_read_eq_ok hother, hstore, hresolve,
      hcompile.2]
    exact ⟨hcompile.1, rfl⟩

theorem render_congr (h : engine.untallied = other.untallied) (path : Text) (data : Value) :
    (engine.render path data).1.untallied = (other.render path data).1.untallied ∧
      (engine.render path data).2 = (other.render path data).2 := by
  have hcompile := compile_congr h path
  refine ⟨by rw [render_fst, render_fst, hcompile.1], ?_⟩
  simp only [render, hcompile.2]
  cases (other.compile path).2.result with
  | error failure => rfl
  | ok template => cases htext : template.plan.run data <;> simp only [htext]

theorem compileText_congr (h : engine.untallied = other.untallied) (text : Text)
    (name : Option Text) :
    (engine.compileText text name).1.untallied = (other.compileText text name).1.untallied ∧
      (engine.compileText text name).2 = (other.compileText text name).2 := by
  have hengine := compileText_untallied engine text name
  rw [h, compileText_untallied, Prod.mk.injEq] at hengine
  exact ⟨hengine.1.symm, hengine.2.symm⟩

theorem invalidate_congr (h : engine.untallied = other.untallied) (path : Option Text) :
    (engine.invalidate path).map untallied = (other.invalidate path).map untallied := by
  have huntallied (engine : Engine) :
      (engine.untallied.invalidate path).map untallied
        = (engine.invalidate path).map untallied := by
    rcases engine with ⟨settings, _ | cache, source, made⟩
    · rfl
    · simp only [invalidate, untallied, Option.map_some, Cache.untallied_invalidate]
      rfl
  rw [← huntallied engine, h, huntallied other]

theorem renderText_congr (h : engine.untallied = other.untallied) (text : Text) (data : Value)
    (name : Option Text) :
    (engine.renderText text data name).1.untallied
        = (other.renderText text data name).1.untallied ∧
      (engine.renderText text data name).2 = (other.renderText text data name).2 := by
  have hcompile := compileText_congr h text name
  exact ⟨hcompile.1, by simp only [renderText, hcompile.2]⟩

/-! ## Runs -/

def Answer.untallied : Answer → Answer
  | .stats counted => .stats (counted.map fun stats ↦ { stats with misses := 0 })
  | .paths _ => .paths []
  | answer => answer

namespace Session

def untallied (session : Session) : Session := { session with engine := session.engine.untallied }

variable {session session' : Session}

/-- A request is answered alike whatever the tallies are, but for the tallies themselves. -/
theorem request_congr (h : session.untallied = session'.untallied) (request : Request) :
    (session.request request).1.untallied = (session'.request request).1.untallied ∧
      (session.request request).2.map Answer.untallied
        = (session'.request request).2.map Answer.untallied := by
  obtain ⟨engine, held⟩ := session
  obtain ⟨engine', held'⟩ := session'
  obtain rfl : held = held' := congrArg Session.held h
  have hengine : engine.untallied = engine'.untallied := congrArg Session.engine h
  have hcache : engine.cache.map Cache.untallied = engine'.cache.map Cache.untallied :=
    congrArg Engine.cache hengine
  cases request with
  | render path data =>
    have hrender := render_congr hengine path data
    simp only [Session.request, untallied, hrender.1, hrender.2, and_self]
  | compile path name =>
    have hcompile := compile_congr hengine path
    simp only [Session.request, Session.compile, untallied, hcompile.1, hcompile.2, and_self]
  | apply name data =>
    simp only [Session.request]
    cases held.find? name <;> exact ⟨h, rfl⟩
  | same name other =>
    simp only [Session.request]
    cases held.find? name <;> cases held.find? other <;> exact ⟨h, rfl⟩
  | renderText text data name =>
    have hrender := renderText_congr hengine text data name
    simp only [Session.request, untallied, hrender.1, hrender.2, and_self]
  | resolve path =>
    have hresolve : engine.resolve path = engine'.resolve path := by
      rw [resolve, resolve, settings_eq_of_untallied hengine]
    exact ⟨h, by simp only [Session.request, hresolve]⟩
  | settings =>
    have hsome : engine.cache.isSome = engine'.cache.isSome := by
      simpa using congrArg Option.isSome hcache
    exact ⟨h, by simp only [Session.request, hsome, settings_eq_of_untallied hengine]⟩
  | stats =>
    have hstats := congrArg (Option.map Cache.stats) hcache
    rw [Option.map_map, Option.map_map] at hstats
    refine ⟨h, congrArg (fun stats ↦ Logged.quiet (Answer.stats stats)) ?_⟩
    rw [Option.map_map, Option.map_map]
    exact hstats
  | size =>
    have hsize := congrArg (Option.map Cache.size) hcache
    rw [Option.map_map, Option.map_map] at hsize
    exact ⟨h, congrArg (fun size ↦ Logged.quiet (Answer.size size)) hsize⟩
  | invalidate path =>
    have hinvalidate := invalidate_congr hengine path
    have hresult := congrArg Logged.result hinvalidate
    have hevents := congrArg Logged.events hinvalidate
    exact ⟨congrArg (Session.mk · held) hresult, congrArg (Logged.mk · Answer.done) hevents⟩
  | change edit =>
    have hchange := congrArg (fun engine ↦ { engine with source := engine.source.change edit })
      hengine
    exact ⟨congrArg (Session.mk · held) hchange, rfl⟩
  | requests => exact ⟨h, rfl⟩

/-- **Sessions that are the same without their tallies answer every run alike**, and are the same
after it without their tallies. -/
theorem run_congr (h : session.untallied = session'.untallied) (requests : List Request) :
    (session.run requests).1.untallied = (session'.run requests).1.untallied ∧
      (session.run requests).2.map (Logged.map Answer.untallied)
        = (session'.run requests).2.map (Logged.map Answer.untallied) := by
  induction requests generalizing session session' with
  | nil => exact ⟨h, rfl⟩
  | cons first rest ih =>
    have hfirst := request_congr h first
    have hrest := ih hfirst.1
    refine ⟨hrest.1, ?_⟩
    simp only [run, List.map_cons, hfirst.2, hrest.2]

/-- A request leaves no trace in what comes after it: in every continuation the answers are those of
the run without it, but for the tallies, and so are the templates that are kept and held, and how
often a kept one was found. -/
structure LeavesNoTrace (session : Session) (request : Request) : Prop where
  /-- The answers, with what is logged on the way to them, are the same. -/
  answers_eq : ∀ later, ((session.request request).1.run later).2.map (Logged.map Answer.untallied)
    = (session.run later).2.map (Logged.map Answer.untallied)
  /-- The cache has the same entries and finds. -/
  cache_eq : ∀ later,
    ((session.request request).1.run later).1.engine.cache.map
        (fun cache ↦ (cache.entries, cache.hits))
      = (session.run later).1.engine.cache.map fun cache ↦ (cache.entries, cache.hits)
  /-- The same templates are held. -/
  held_eq : ∀ later, ((session.request request).1.run later).1.held = (session.run later).1.held

theorem leavesNoTrace_of_untallied {request : Request}
    (h : (session.request request).1.untallied = session.untallied) :
    LeavesNoTrace session request where
  answers_eq later := (run_congr h later).2
  cache_eq later := by
    have hcache := congrArg (·.engine.cache.map fun cache ↦ (cache.entries, cache.hits))
      (run_congr h later).1
    simp only [untallied, Engine.untallied, Option.map_map] at hcache
    exact hcache
  held_eq later := by
    have hheld := congrArg Session.held (run_congr h later).1
    exact hheld

end Session

/-! ## Failures -/

theorem compileText_of_eq_error {text : Text} {name : Option Text} {failure : TemplateFailure}
    (hfails : (engine.compileText text name).2.result = .error failure) :
    engine.settings.planOf name text = .error failure ∧
      (engine.compileText text name).1 = engine := by
  refine ⟨by rw [← compileText_result, hfails]; rfl, ?_⟩
  rw [compileText] at hfails ⊢
  cases hread : (Template.read engine.settings.strictness name text).result with
  | ok tokens => simp [hread] at hfails
  | error other => rfl

/-- A text is refused only after it was looked for in vain. -/
theorem compileAt_of_eq_error {path text : Text} {failure : TemplateFailure}
    (hfails : (engine.compileAt path text).2.result = .error failure) :
    engine.settings.planOf (some path) text = .error failure ∧
      (engine.compileAt path text).1
        = { engine with cache := engine.cache.map Cache.countMiss } := by
  cases hcache : engine.cache with
  | none =>
    rw [compileAt_of_cache_eq_none hcache] at hfails ⊢
    obtain ⟨hplan, hsame⟩ := compileText_of_eq_error hfails
    refine ⟨hplan, ?_⟩
    rw [hsame, Option.map_none, ← hcache]
  | some cache =>
    cases hfind : cache.find? path text with
    | some compiled =>
      -- What is found does not fail.
      rw [compileAt_of_find?_eq_some hcache hfind] at hfails
      exact nomatch hfails
    | none =>
      obtain ⟨hresult, hengine⟩ := compileAt_of_find?_eq_none hcache hfind
      rw [hresult] at hfails
      obtain ⟨hplan, hsame⟩ := compileText_of_eq_error hfails
      refine ⟨hplan, ?_⟩
      rw [hengine, hfails, hsame]
      rfl

theorem exists_of_mapError_eq_error {result : Except TemplateFailure Compiled}
    {failure : RenderFailure} (h : result.mapError .template = .error failure) :
    ∃ refusal, result = .error refusal ∧ failure = .template refusal := by
  cases result with
  | ok compiled => exact nomatch h
  | error refusal => exact ⟨refusal, rfl, (Except.error.inj h).symm⟩

/-- The failure that an answer tells. -/
def Answer.failure? : Answer → Option RenderFailure
  | .output (.error failure) | .plan (.error failure) => some failure
  | _ => none

namespace Session

variable {session : Session} {request : Request} {path : Text} {failure : RenderFailure}

/-- A request for a template fails as compiling the template does, and then nothing is held, or with
a value of the data that is not shown. -/
theorem request_of_failure? (hpath : request.template? = some path)
    (hfails : (session.request request).2.result.failure? = some failure) :
    ((session.engine.compile path).2.result = .error failure ∧
        (session.request request).1 = { session with engine := (session.engine.compile path).1 }) ∨
      ∃ data compiled unshown, request = .render path data ∧ failure = .value unshown ∧
        (session.engine.compile path).2.result = .ok compiled ∧
        compiled.plan.run data = .error unshown := by
  cases request with
  | render other data =>
    obtain rfl : other = path := Option.some.inj hpath
    have hengine : (session.request (.render other data)).1
        = { session with engine := (session.engine.compile other).1 } := by
      rw [← render_fst session.engine other data]
      rfl
    change (Answer.output (session.engine.render other data).2.result).failure? = _ at hfails
    rw [render_result] at hfails
    cases hcompile : (session.engine.compile other).2.result with
    | error compileFailure =>
      rw [hcompile] at hfails
      obtain rfl : compileFailure = failure := Option.some.inj hfails
      exact Or.inl ⟨rfl, hengine⟩
    | ok compiled =>
      rw [hcompile] at hfails
      -- The template is compiled, so all that may fail is a value of the data.
      cases hrun : compiled.plan.run data with
      | error unshown =>
        simp only [Except.map, Except.bind, hrun, Except.mapError, Answer.failure?,
          Option.some.injEq] at hfails
        exact Or.inr ⟨data, compiled, unshown, rfl, hfails.symm, rfl, hrun⟩
      | ok output =>
        simp [Except.map, Except.bind, hrun, Except.mapError, Answer.failure?] at hfails
  | compile other name =>
    obtain rfl : other = path := Option.some.inj hpath
    change (Answer.plan ((session.engine.compile other).2.result.map Compiled.plan)).failure? = _
      at hfails
    cases hcompile : (session.engine.compile other).2.result with
    | error compileFailure =>
      rw [hcompile] at hfails
      obtain rfl : compileFailure = failure := Option.some.inj hfails
      refine Or.inl ⟨rfl, ?_⟩
      simp only [Session.request, Session.compile, hcompile]
    | ok compiled =>
      rw [hcompile] at hfails
      exact absurd hfails (by simp [Except.map, Answer.failure?])
  | _ => exact absurd hpath (by simp [Request.template?])

theorem leavesNoTrace_of_read_eq_error (hpath : request.template? = some path)
    (hfails : (session.request request).2.result.failure? = some failure)
    {readFailure : RenderFailure}
    (hread : (session.engine.source.store.read (session.engine.resolve path)).result
      = .error readFailure) :
    failure = readFailure ∧ (session.request request).1.engine.cache = session.engine.cache ∧
      session.LeavesNoTrace request := by
  obtain ⟨hengine, hcompile⟩ := compile_of_read_eq_error hread
  rcases request_of_failure? hpath hfails with
    ⟨hfailure, hafter⟩ | ⟨data, compiled, unshown, -, -, hcompiled, -⟩
  · rw [hcompile] at hfailure
    rw [hengine] at hafter
    refine ⟨(Except.error.inj hfailure).symm, congrArg (·.engine.cache) hafter, ?_⟩
    refine leavesNoTrace_of_untallied ?_
    rw [hafter]
    rfl
  · rw [hcompile] at hcompiled
    exact nomatch hcompiled

theorem leavesNoTrace_of_refused (hpath : request.template? = some path)
    {parseFailure : TemplateFailure}
    (hfails : (session.request request).2.result.failure? = some (.template parseFailure))
    {text : Text}
    (hread : (session.engine.source.store.read (session.engine.resolve path)).result = .ok text) :
    session.engine.settings.planOf (some (session.engine.resolve path)) text
        = .error parseFailure ∧
      (session.request request).1.engine.cache = session.engine.cache.map Cache.countMiss ∧
      session.LeavesNoTrace request := by
  obtain ⟨hengine, hcompile⟩ := compile_of_read_eq_ok hread
  rcases request_of_failure? hpath hfails with
    ⟨hfailure, hafter⟩ | ⟨data, compiled, unshown, -, hunshown, -, -⟩
  · rw [hcompile] at hfailure
    obtain ⟨refusal, hrefused, hsame⟩ := exists_of_mapError_eq_error hfailure
    obtain rfl : parseFailure = refusal := RenderFailure.template.inj hsame
    obtain ⟨hplan, hcounted⟩ := compileAt_of_eq_error hrefused
    rw [hengine, hcounted] at hafter
    refine ⟨hplan, congrArg (·.engine.cache) hafter, leavesNoTrace_of_untallied ?_⟩
    rw [hafter]
    simp only [untallied, Engine.untallied, ask, Source.read, Option.map_map]
    rfl
  · exact absurd hunshown (by simp)

/-- **A request for a template that fails leaves no trace.** If the source has no text, the cache is
as it was; if the text is refused, that is counted as a miss. There is no other failure but a value
of the data that is not shown. -/
theorem failed_leavesNoTrace (hpath : request.template? = some path)
    (hfails : (session.request request).2.result.failure? = some failure) :
    (∀ readFailure,
        (session.engine.source.store.read (session.engine.resolve path)).result
            = .error readFailure →
          failure = readFailure ∧
            (session.request request).1.engine.cache = session.engine.cache ∧
            session.LeavesNoTrace request) ∧
      ∀ text,
        (session.engine.source.store.read (session.engine.resolve path)).result = .ok text →
          (∀ parseFailure, failure = .template parseFailure →
            session.engine.settings.planOf (some (session.engine.resolve path)) text
                = .error parseFailure ∧
              (session.request request).1.engine.cache
                = session.engine.cache.map (fun cache ↦
                  { cache with misses := cache.misses + 1 }) ∧
              session.LeavesNoTrace request) ∧
          ((∃ parseFailure, failure = .template parseFailure) ∨
            ∃ data compiled unshown, request = .render path data ∧ failure = .value unshown ∧
              (session.engine.compile path).2.result = .ok compiled ∧
              compiled.plan.run data = .error unshown) := by
  refine ⟨fun readFailure hread ↦ leavesNoTrace_of_read_eq_error hpath hfails hread,
    fun text hread ↦ ⟨?_, ?_⟩⟩
  · rintro parseFailure rfl
    exact leavesNoTrace_of_refused hpath hfails hread
  · rcases request_of_failure? hpath hfails with ⟨hfailure, -⟩ | hunshown
    · rw [(compile_of_read_eq_ok hread).2] at hfailure
      obtain ⟨refusal, -, hsame⟩ := exists_of_mapError_eq_error hfailure
      exact Or.inl ⟨refusal, hsame⟩
    · exact Or.inr hunshown

/-- An engine with a cache has compiled its one template, which then was edited so that it is
refused. -/
private def editedSession : Session where
  engine := {
    settings := ⟨['r'], Settings.usualEncoding, true, true⟩
    cache := some {
      entries := .ofList [(['r', '/', 'a'], (.ofText ['b'], ⟨0, .ofTokens [.literal ['b']]⟩))]
      hits := 0
      misses := 1 }
    source := .ofStore (.memory (.ofTexts (.ofList [(['r', '/', 'a'], ['{', '{'])])))
    made := 1 }
  held := .empty

/-- The edit is reversed, and the template is asked for again. -/
private def mending : List Request :=
  [.change (.write ['r', '/', 'a'] ['b']), .compile ['a'] (some ['m'])]

/-- The template that was compiled first is found again after the failure in between. -/
theorem failed_leavesNoTrace_edited :
    Request.template? (.render ['a'] .missing) = some ['a'] ∧
      (editedSession.request (.render ['a'] .missing)).2.result.failure?
        = some (.template (.unclosed 1 1 (some ['r', '/', 'a']))) ∧
      (editedSession.request (.render ['a'] .missing)).1.engine.cache.map Cache.stats
        = some ⟨1, 0, 2⟩ ∧
      editedSession.LeavesNoTrace (.render ['a'] .missing) ∧
      (((editedSession.request (.render ['a'] .missing)).1.run mending).1.held.find? ['m']).map
        Compiled.serial = some 0 := by
  have hfails : (editedSession.request (.render ['a'] .missing)).2.result.failure?
      = some (.template (.unclosed 1 1 (some ['r', '/', 'a']))) := by decide +kernel
  have hread : (editedSession.engine.source.store.read
      (editedSession.engine.resolve ['a'])).result = .ok ['{', '{'] := by decide +kernel
  have hfailed := (failed_leavesNoTrace rfl hfails).2 _ hread
  obtain ⟨-, hcache, htrace⟩ := hfailed.1 _ rfl
  exact ⟨rfl, hfails, by rw [hcache]; rfl, htrace, by decide +kernel⟩

end Session

end Engine

end TextTemplate
