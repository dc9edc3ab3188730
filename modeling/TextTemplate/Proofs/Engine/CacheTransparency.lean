import Mathlib.Data.Set.Function
import TextTemplate.Proofs.Engine.Building
import TextTemplate.Proofs.Engine.Requests

/-!
# No answer tells whether there is a cache

Whether an engine keeps compiled templates shows in its counters and in its log, but in none of the
answers to a render or a compilation. Over every run, an engine with a cache and one without answer
them alike, and each answer is that of the text which the source has at that moment.

## The invariant

A cache is *faithful* to a set of texts when every plan in it is the plan of one of these texts,
under the path it is kept at and the settings of the engine, and stands beside the digest of that
text. The set is that of all texts read in the run. As long as no two of them share a digest, a hit
gives what compiling would have given, however the entry came about: by an edit, by the reversal of
one, or after a failure in between. Every request keeps the invariant, since only texts of the set
are ever compiled at a path.
-/

namespace TextTemplate

/-! ## Faithful caches -/

namespace Cache

/-- Every plan is that of one of the texts, under the path it is kept at. -/
def Faithful (settings : Settings) (texts : Set Text) (cache : Cache) : Prop :=
  ∀ path digest compiled, cache.entries.find? path = some (digest, compiled) →
    ∃ text ∈ texts, digest = .ofText text ∧ settings.planOf (some path) text = .ok compiled.plan

variable {settings : Settings} {texts : Set Text} {cache : Cache}

theorem faithful_empty : empty.Faithful settings texts := by
  intro path digest compiled hfind
  simp [empty] at hfind

theorem Faithful.store (h : cache.Faithful settings texts) {path text : Text} {compiled : Compiled}
    (htext : text ∈ texts) (hplan : settings.planOf (some path) text = .ok compiled.plan) :
    (cache.store path text compiled).result.Faithful settings texts := by
  intro path' digest compiled' hfind
  simp only [Cache.store, Table.find?_put] at hfind
  split at hfind
  · simp only [Option.some.injEq, Prod.mk.injEq] at hfind
    obtain ⟨rfl, rfl⟩ := hfind
    subst path'
    exact ⟨text, htext, rfl, hplan⟩
  · exact h path' digest compiled' hfind

theorem Faithful.invalidate (h : cache.Faithful settings texts) (path : Option Text) :
    (cache.invalidate path).result.Faithful settings texts := by
  intro path' digest compiled hfind
  refine h path' digest compiled ?_
  cases path with
  | none => simp [Cache.invalidate] at hfind
  | some path =>
    simp only [Cache.invalidate] at hfind
    split at hfind
    · simp only [Table.find?_erase] at hfind
      split at hfind
      · exact absurd hfind (by simp)
      · exact hfind
    · exact hfind

/-- **A hit gives what compiling would have given**, if digests tell the texts apart. -/
theorem Faithful.planOf_of_find? (hdigest : texts.InjOn Digest.ofText)
    (h : cache.Faithful settings texts) {path text : Text} {compiled : Compiled}
    (htext : text ∈ texts) (hfind : cache.find? path text = some compiled) :
    settings.planOf (some path) text = .ok compiled.plan := by
  rw [find?] at hfind
  split at hfind
  · rename_i digest kept hentry
    split at hfind
    · rename_i hsame
      obtain ⟨text', htext', hdigest', hplan⟩ := h path digest kept hentry
      have htexts : text' = text := hdigest htext' htext (hdigest'.symm.trans hsame)
      rw [← htexts, hplan, Option.some.inj hfind]
    · exact absurd hfind (by simp)
  · exact absurd hfind (by simp)

end Cache

namespace Engine

/-! ## One request -/

/-- The cache, if there is one, is faithful. -/
def Faithful (texts : Set Text) (engine : Engine) : Prop :=
  ∀ cache ∈ engine.cache, cache.Faithful engine.settings texts

/-- The plan of the template at a path, when its text is compiled afresh. -/
def planAt (engine : Engine) (path : Text) : Except RenderFailure Plan :=
  (engine.source.store.read (engine.resolve path)).result.bind fun text ↦
    (engine.settings.planOf (some (engine.resolve path)) text).mapError .template

variable {texts : Set Text} {engine : Engine}

/-- Compiling with a faithful cache agrees with compiling afresh. -/
theorem compileAt_result (hdigest : texts.InjOn Digest.ofText) (h : engine.Faithful texts)
    {path text : Text} (htext : text ∈ texts) :
    (engine.compileAt path text).2.result.map Compiled.plan
      = engine.settings.planOf (some path) text := by
  cases hcache : engine.cache with
  | none => rw [compileAt_of_cache_eq_none hcache, compileText_result]
  | some cache =>
    cases hfind : cache.find? path text with
    | some compiled =>
      rw [compileAt_of_find?_eq_some hcache hfind,
        (h cache hcache).planOf_of_find? hdigest htext hfind]
      rfl
    | none => rw [(compileAt_of_find?_eq_none hcache hfind).1, compileText_result]

theorem Faithful.compileText (h : engine.Faithful texts) (text : Text) (name : Option Text) :
    (engine.compileText text name).1.Faithful texts := by
  obtain ⟨made, hmade⟩ := compileText_fst engine text name
  rw [hmade]
  exact h

theorem Faithful.compileAt (h : engine.Faithful texts) {path text : Text} (htext : text ∈ texts) :
    (engine.compileAt path text).1.Faithful texts := by
  cases hcache : engine.cache with
  | none =>
    rw [compileAt_of_cache_eq_none hcache]
    exact h.compileText text (some path)
  | some cache =>
    cases hfind : cache.find? path text with
    | some compiled =>
      rw [compileAt_of_find?_eq_some hcache hfind]
      rintro _ ⟨⟩
      exact h cache hcache
    | none =>
      obtain ⟨made, hmade⟩ := compileText_fst engine text (some path)
      have hplan := compileText_result engine text (some path)
      rw [(compileAt_of_find?_eq_none hcache hfind).2, hmade]
      rintro _ ⟨⟩
      -- Only a miss whose text compiles adds an entry.
      cases hresult : (engine.compileText text (some path)).2.result with
      | ok compiled =>
        rw [hresult] at hplan
        exact (h cache hcache).store htext hplan.symm
      | error failure => exact h cache hcache

/-- What the source gives for the path, if it gives anything, is one of the texts. -/
def ReadsFrom (texts : Set Text) (engine : Engine) (path : Text) : Prop :=
  ∀ text, (engine.source.store.read (engine.resolve path)).result = .ok text → text ∈ texts

theorem compile_result (hdigest : texts.InjOn Digest.ofText) (h : engine.Faithful texts)
    {path : Text} (htexts : engine.ReadsFrom texts path) :
    (engine.compile path).2.result.map Compiled.plan = engine.planAt path := by
  rw [planAt]
  cases hread : (engine.source.store.read (engine.resolve path)).result with
  | error failure => rw [(compile_of_read_eq_error hread).2]; rfl
  | ok text =>
    have hasked : (engine.ask path).Faithful texts := h
    change _ = ((engine.ask path).settings.planOf _ text).mapError _
    rw [(compile_of_read_eq_ok hread).2, ← compileAt_result hdigest hasked (htexts text hread)]
    cases ((engine.ask path).compileAt (engine.resolve path) text).2.result <;> rfl

theorem Faithful.compile (h : engine.Faithful texts) {path : Text}
    (htexts : engine.ReadsFrom texts path) : (engine.compile path).1.Faithful texts := by
  have hasked : (engine.ask path).Faithful texts := h
  cases hread : (engine.source.store.read (engine.resolve path)).result with
  | error failure => rwa [(compile_of_read_eq_error hread).1]
  | ok text =>
    rw [(compile_of_read_eq_ok hread).1]
    exact hasked.compileAt (htexts text hread)

/-- Every request keeps the invariant. -/
theorem Faithful.afterRequest (h : engine.Faithful texts) {request : Request}
    (htexts : ∀ path ∈ request.template?, engine.ReadsFrom texts path) :
    (engine.afterRequest request).Faithful texts := by
  cases request with
  | render path data => exact h.compile (htexts path rfl)
  | compile path name => exact h.compile (htexts path rfl)
  | renderText text data name => exact h.compileText text name
  | invalidate path =>
    simp only [Engine.afterRequest, Engine.invalidate]
    split
    · exact h
    · rename_i cache hcache
      rintro _ ⟨⟩
      exact (h cache hcache).invalidate path
  | _ => exact h

/-! ## Answers -/

/-- The plan of a template depends on how paths are resolved and texts compiled, and on the
source. -/
theorem planAt_congr {other : Engine} (hresolve : engine.resolve = other.resolve)
    (hplan : engine.settings.planOf = other.settings.planOf)
    (hsource : engine.source = other.source) (path : Text) : engine.planAt path = other.planAt path := by
  rw [planAt, planAt, hresolve, hplan, hsource]

/-- The answer to a request for a template when its text is compiled afresh. -/
def freshAnswer? (engine : Engine) : Request → Option Answer
  | .render path data =>
    some (.output ((engine.planAt path).bind fun plan ↦ (plan.run data).mapError .value))
  | .compile path _ => some (.plan (engine.planAt path))
  | _ => none

theorem freshAnswer?_congr {other : Engine} (hplan : engine.planAt = other.planAt)
    (request : Request) : engine.freshAnswer? request = other.freshAnswer? request := by
  cases request <;> simp only [freshAnswer?, hplan]

theorem isSome_freshAnswer? (engine : Engine) (request : Request) :
    (engine.freshAnswer? request).isSome = request.template?.isSome := by
  cases request <;> rfl

/-- Requests for templates are answered as if there were no cache. -/
theorem Session.request_result (hdigest : texts.InjOn Digest.ofText) {session : Session}
    (h : session.engine.Faithful texts) {request : Request}
    (htexts : ∀ path ∈ request.template?, session.engine.ReadsFrom texts path) {answer : Answer}
    (hanswer : session.engine.freshAnswer? request = some answer) :
    (session.request request).2.result = answer := by
  cases request with
  | render path data =>
    have hplan := compile_result hdigest h (htexts path rfl)
    cases hanswer
    change Answer.output (session.engine.render path data).2.result = _
    rw [render_result, hplan]
  | compile path name =>
    have hplan := compile_result hdigest h (htexts path rfl)
    cases hanswer
    rw [← hplan]
    rfl
  | _ => exact absurd hanswer (by simp [freshAnswer?])

/-- What the source fails with at the path, or what rendering its text under the resolved path
gives. -/
def renderAfresh (engine : Engine) (path : Text) (data : Value) : Except RenderFailure Text :=
  (engine.source.store.read (engine.resolve path)).result.bind fun text ↦
    (engine.renderText text data (some (engine.resolve path))).2.result

theorem planAt_bind_run (engine : Engine) (path : Text) (data : Value) :
    ((engine.planAt path).bind fun plan ↦ (plan.run data).mapError .value)
      = engine.renderAfresh path data := by
  rw [planAt, renderAfresh]
  cases (engine.source.store.read (engine.resolve path)).result with
  | error failure => rfl
  | ok text => exact (renderText_result ..).symm

/-- A request for a template is answered by what rendering the present text of the source gives. A
plan gives it for all data. -/
def AnsweredAfresh (engine : Engine) : Request → Answer → Prop
  | .render path data, .output result => result = engine.renderAfresh path data
  | .compile path _, .plan result =>
    ∀ data, (result.bind fun plan ↦ (plan.run data).mapError .value)
      = engine.renderAfresh path data
  | .render _ _, _ | .compile _ _, _ => False
  | _, _ => True

theorem answeredAfresh_freshAnswer? {request : Request} {answer : Answer}
    (hanswer : engine.freshAnswer? request = some answer) :
    engine.AnsweredAfresh request answer := by
  cases request with
  | render path data =>
    cases hanswer
    exact planAt_bind_run engine path data
  | compile path name =>
    cases hanswer
    exact planAt_bind_run engine path
  | _ => exact absurd hanswer (by simp [freshAnswer?])

/-! ## Runs -/

namespace Session

theorem readsFrom_of_textRead? {session : Session} {request : Request}
    (htexts : ∀ text ∈ session.textRead? request, text ∈ texts) :
    ∀ path ∈ request.template?, session.engine.ReadsFrom texts path := by
  intro path hpath text hread
  refine htexts text ?_
  rw [textRead?, Option.mem_def.mp hpath, Option.bind_some, hread]
  rfl

theorem faithful_run {session : Session} (h : session.engine.Faithful texts)
    {requests : List Request} (htexts : ∀ text ∈ session.textsRead requests, text ∈ texts) :
    (session.run requests).1.engine.Faithful texts := by
  induction requests generalizing session with
  | nil => exact h
  | cons first rest ih =>
    rw [run_cons_fst]
    refine ih ?_ fun text htext ↦ htexts text (List.mem_append_right _ htext)
    rw [engine_request]
    refine h.afterRequest (readsFrom_of_textRead? fun text htext ↦ htexts text ?_)
    exact List.mem_append_left _ (Option.mem_toList.mpr htext)

/-- **Every request for a template in a run is answered as if there were no cache**, if digests tell
the texts of the run apart. -/
theorem request_result_of_run {session : Session} {before after : List Request} {request : Request}
    (hdigest : {text | text ∈ session.textsRead (before ++ request :: after)}.InjOn Digest.ofText)
    (h : session.engine.Faithful {text | text ∈ session.textsRead (before ++ request :: after)})
    {answer : Answer} (hanswer : (session.run before).1.engine.freshAnswer? request = some answer) :
    ((session.run before).1.request request).2.result = answer := by
  have hsplit : session.textsRead (before ++ request :: after) = session.textsRead before
      ++ (((session.run before).1.textRead? request).toList
        ++ ((session.run before).1.request request).1.textsRead after) :=
    textsRead_append session before (request :: after)
  -- The texts read before the request keep the cache faithful, and its own text is one of the run.
  refine request_result hdigest (faithful_run h ?_) (readsFrom_of_textRead? ?_) hanswer
  · intro text htext
    change text ∈ session.textsRead _
    rw [hsplit]
    exact List.mem_append_left _ htext
  · intro text htext
    change text ∈ session.textsRead _
    rw [hsplit]
    exact List.mem_append_right _ (List.mem_append_left _ (Option.mem_toList.mpr htext))

end Session

/-! ## Two engines side by side -/

/-- The engine with an unused cache, and with settings that ask for one. -/
def withCache (engine : Engine) : Engine :=
  { engine with settings := { engine.settings with cacheEnabled := true }, cache := some .empty }

theorem faithful_withCache (texts : Set Text) (engine : Engine) :
    engine.withCache.Faithful texts := by
  rintro _ ⟨⟩
  exact Cache.faithful_empty

theorem faithful_of_cache_eq_none (hcache : engine.cache = none) : engine.Faithful texts := by
  intro cache hmem
  rw [hcache] at hmem
  exact absurd hmem (by simp)

theorem build_withCache {supply : Supply} {root : Value} {encoding strict : Option Value}
    {plain : Engine} (hplain : build supply root encoding strict (some (.bool false)) = .ok plain) :
    build supply root encoding strict (some (.bool true)) = .ok plain.withCache ∧
      plain.cache = none := by
  obtain ⟨hroot, hsettings, hcache, hsource, hmade⟩ := build_eq_ok_iff.mp hplain
  refine ⟨build_eq_ok_iff.mpr ⟨hroot, ?_, rfl, hsource, hmade⟩, hcache⟩
  obtain ⟨hdirectory, hencoding, hstrict, -⟩ := Settings.ofInput_eq_ok_iff.mp hsettings
  exact Settings.ofInput_eq_ok_iff.mpr ⟨hdirectory, hencoding, hstrict, rfl⟩

/-- Over a run, two engines answer every request for a template alike, and as its text at that
moment has it; and both ask the source for every such template once. -/
structure Transparent (cached plain : Engine) (requests : List Request) : Prop where
  /-- The answers to requests for templates are the same. -/
  answer_eq : ∀ before request after, requests = before ++ request :: after →
    request.template?.isSome →
      (((Session.start cached).run before).1.request request).2.result
        = (((Session.start plain).run before).1.request request).2.result
  /-- They are what the text at the source gives at that moment. -/
  answer_afresh : ∀ before request after, requests = before ++ request :: after →
    ((Session.start plain).run before).1.engine.AnsweredAfresh request
      (((Session.start plain).run before).1.request request).2.result
  /-- The source of the engine with a cache is asked once for every template. -/
  cached_requests : ((Session.start cached).run requests).1.engine.source.requests
    = plain.source.requests
      ++ requests.filterMap fun request ↦ request.template?.map plain.resolve
  /-- So is the source of the engine without one. -/
  plain_requests : ((Session.start plain).run requests).1.engine.source.requests
    = plain.source.requests
      ++ requests.filterMap fun request ↦ request.template?.map plain.resolve

/-- At every moment of a run, an engine and its copy with a cache have the same source and compile
afresh to the same plans. -/
theorem planAt_run_withCache (plain : Engine) (requests : List Request) :
    ((Session.start plain.withCache).run requests).1.engine.planAt
      = ((Session.start plain).run requests).1.engine.planAt := by
  have hsettings : ((Session.start plain.withCache).run requests).1.engine.settings
      = { plain.settings with cacheEnabled := true } := Session.run_settings ..
  have hsettings' : ((Session.start plain).run requests).1.engine.settings = plain.settings :=
    Session.run_settings ..
  funext path
  refine planAt_congr ?_ ?_ ?_ path
  · funext path'
    rw [resolve, resolve, hsettings, hsettings']
    rfl
  · rw [hsettings, hsettings']
    rfl
  · rw [Session.run_source, Session.run_source]
    rfl

theorem transparent_withCache {plain : Engine} (hcache : plain.cache = none)
    {requests : List Request}
    (hdigest : {text | text ∈ (Session.start plain).textsRead requests}.InjOn Digest.ofText) :
    Transparent plain.withCache plain requests := by
  have htexts : (Session.start plain.withCache).textsRead requests
      = (Session.start plain).textsRead requests := by
    refine Session.textsRead_congr ?_ ?_ requests <;> rfl
  -- Both engines give the fresh answer of the engine without a cache.
  have hplain (before request after) (hsplit : requests = before ++ request :: after) (answer)
      (hanswer : ((Session.start plain).run before).1.engine.freshAnswer? request = some answer) :
      (((Session.start plain).run before).1.request request).2.result = answer := by
    rw [hsplit] at hdigest
    exact Session.request_result_of_run hdigest (faithful_of_cache_eq_none hcache) hanswer
  have hcached (before request after) (hsplit : requests = before ++ request :: after) (answer)
      (hanswer : ((Session.start plain).run before).1.engine.freshAnswer? request = some answer) :
      (((Session.start plain.withCache).run before).1.request request).2.result = answer := by
    rw [← htexts, hsplit] at hdigest
    refine Session.request_result_of_run hdigest (faithful_withCache _ plain) ?_
    rw [freshAnswer?_congr (planAt_run_withCache plain before), hanswer]
  refine ⟨?_, ?_, Session.run_requests .., Session.run_requests ..⟩
  · intro before request after hsplit hrequest
    rw [← isSome_freshAnswer? ((Session.start plain).run before).1.engine] at hrequest
    obtain ⟨answer, hanswer⟩ := Option.isSome_iff_exists.mp hrequest
    rw [hcached before request after hsplit answer hanswer,
      hplain before request after hsplit answer hanswer]
  · intro before request after hsplit
    cases hanswer : ((Session.start plain).run before).1.engine.freshAnswer? request with
    | some answer =>
      rw [hplain before request after hsplit answer hanswer]
      exact answeredAfresh_freshAnswer? hanswer
    | none =>
      cases request with
      | render path data | compile path name => exact absurd hanswer (by simp [freshAnswer?])
      | _ => exact trivial

/-- **A cache is never seen in an answer.** -/
theorem exists_cached_transparent {supply : Supply} {root : Value}
    {encoding strict : Option Value} {plain : Engine}
    (hplain : build supply root encoding strict (some (.bool false)) = .ok plain)
    (requests : List Request)
    (hdigest : {text | text ∈ (Session.start plain).textsRead requests}.InjOn Digest.ofText) :
    ∃ cached, build supply root encoding strict (some (.bool true)) = .ok cached ∧
      Transparent cached plain requests := by
  obtain ⟨hcached, hcache⟩ := build_withCache hplain
  exact ⟨plain.withCache, hcached, transparent_withCache hcache hdigest⟩

private def letterEngine : Engine where
  settings := ⟨['r'], Settings.usualEncoding, true, false⟩
  cache := none
  source := .ofStore (.memory (.ofTexts (.ofList [(['r', '/', 'a'], ['{', '{', 'x', '}', '}'])])))
  made := 0

/-- The template is edited so that it does not parse, and the edit is reversed; it is asked for
before, in between and after. -/
private def brokenAndMended : List Request :=
  [.render ['a'] (.dict [(.text ['x'], .int 1)]),
    .change (.write ['r', '/', 'a'] ['{', '{']),
    .compile ['a'] none,
    .change (.write ['r', '/', 'a'] ['{', '{', 'x', '}', '}']),
    .render ['a'] (.dict [(.text ['x'], .int 2)])]

theorem exists_cached_transparent_brokenAndMended :
    build (.given letterEngine.source) (.text ['r']) none none (some (.bool false))
        = .ok letterEngine ∧
      {text | text ∈ (Session.start letterEngine).textsRead brokenAndMended}.InjOn
        Digest.ofText ∧
      ∃ cached, build (.given letterEngine.source) (.text ['r']) none none (some (.bool true))
          = .ok cached ∧
        Transparent cached letterEngine brokenAndMended := by
  have hbuild : build (.given letterEngine.source) (.text ['r']) none none (some (.bool false))
      = .ok letterEngine := rfl
  have hdigest : {text | text ∈ (Session.start letterEngine).textsRead brokenAndMended}.InjOn
      Digest.ofText := by
    -- Three texts are read, two of them the same, so there are two digests to compare.
    intro text htext other hother hsame
    have hapart : ∀ text ∈ (Session.start letterEngine).textsRead brokenAndMended,
        ∀ other ∈ (Session.start letterEngine).textsRead brokenAndMended,
          Digest.ofText text = Digest.ofText other → text = other := by
      decide +kernel
    exact hapart text htext other hother hsame
  exact ⟨hbuild, hdigest, exists_cached_transparent hbuild brokenAndMended hdigest⟩

end Engine

end TextTemplate
