import TextTemplate.Engine.Session

/-!
# What requests do to settings and source

Compiled templates may be kept or not, but neither the settings nor the source depend on that. The
settings never change. The source changes by what the request alone says: a render or a compilation
asks it for the resolved path, once, whether or not a plan is found in a cache, and a change is
carried out. Two sessions that differ in their caches only therefore stay at the same source
throughout a run.

The answers depend on the settings and the text alone. `Settings.planOf` is the plan that a text is
compiled to when nothing is kept; compiling by any route has to agree with it.
-/

namespace TextTemplate

/-- The plan that a text under a name is compiled to when nothing is kept. -/
def Settings.planOf (settings : Settings) (name : Option Text) (text : Text) :
    Except TemplateFailure Plan :=
  (Template.read settings.strictness name text).result.map Plan.ofTokens

namespace Engine

/-! ## Compiling and rendering -/

theorem compileText_fst (engine : Engine) (text : Text) (name : Option Text) :
    ∃ made, (engine.compileText text name).1 = { engine with made } := by
  rw [compileText]
  cases (Template.read engine.settings.strictness name text).result with
  | ok tokens => exact ⟨engine.made + 1, rfl⟩
  | error failure => exact ⟨engine.made, rfl⟩

theorem compileText_result (engine : Engine) (text : Text) (name : Option Text) :
    (engine.compileText text name).2.result.map Compiled.plan
      = engine.settings.planOf name text := by
  rw [compileText, Settings.planOf]
  cases (Template.read engine.settings.strictness name text).result <;> rfl

theorem compileAt_of_cache_eq_none {engine : Engine} (hcache : engine.cache = none)
    (path text : Text) : engine.compileAt path text = engine.compileText text (some path) := by
  rw [compileAt, hcache]

theorem compileAt_of_find?_eq_some {engine : Engine} {cache : Cache} {path text : Text}
    {compiled : Compiled} (hcache : engine.cache = some cache)
    (hfind : cache.find? path text = some compiled) :
    engine.compileAt path text
      = ({ engine with cache := some cache.countHit }, .quiet (.ok compiled)) := by
  simp only [compileAt, hcache, hfind]

/-- On a miss the text is compiled as without a cache, and what comes of it is kept. -/
theorem compileAt_of_find?_eq_none {engine : Engine} {cache : Cache} {path text : Text}
    (hcache : engine.cache = some cache) (hfind : cache.find? path text = none) :
    (engine.compileAt path text).2.result = (engine.compileText text (some path)).2.result ∧
      (engine.compileAt path text).1
        = { (engine.compileText text (some path)).1 with
            cache := some (match (engine.compileText text (some path)).2.result with
              | .ok compiled => (cache.countMiss.store path text compiled).result
              | .error _ => cache.countMiss) } := by
  simp only [compileAt, hcache, hfind]
  cases hmade : (engine.compileText text (some path)).2.result <;> simp [Logged.after, Logged.map]

theorem compileAt_fst (engine : Engine) (path text : Text) :
    ∃ cache made, (engine.compileAt path text).1 = { engine with cache, made } := by
  obtain ⟨made, hmade⟩ := compileText_fst engine text (some path)
  cases hcache : engine.cache with
  | none => exact ⟨engine.cache, made, by rw [compileAt_of_cache_eq_none hcache, hmade]⟩
  | some cache =>
    cases hfind : cache.find? path text with
    | some compiled =>
      exact ⟨some cache.countHit, engine.made, by rw [compileAt_of_find?_eq_some hcache hfind]⟩
    | none => exact ⟨_, made, by rw [(compileAt_of_find?_eq_none hcache hfind).2, hmade]⟩

/-- The engine after its source was asked for the template at a path. -/
def ask (engine : Engine) (path : Text) : Engine :=
  { engine with source := (engine.source.read (engine.resolve path)).1 }

theorem compile_of_read_eq_error {engine : Engine} {path : Text} {failure : RenderFailure}
    (hread : (engine.source.store.read (engine.resolve path)).result = .error failure) :
    (engine.compile path).1 = engine.ask path ∧
      (engine.compile path).2.result = .error failure := by
  simp [compile, ask, Source.read, hread]

theorem compile_of_read_eq_ok {engine : Engine} {path text : Text}
    (hread : (engine.source.store.read (engine.resolve path)).result = .ok text) :
    (engine.compile path).1 = ((engine.ask path).compileAt (engine.resolve path) text).1 ∧
      (engine.compile path).2.result
        = ((engine.ask path).compileAt (engine.resolve path) text).2.result.mapError .template := by
  simp [compile, ask, Source.read, hread, Logged.after, Logged.map]

/-- Compiling the template at a path asks the source once, whatever comes of it, and beyond that
changes no more than cache and number. -/
theorem compile_fst (engine : Engine) (path : Text) :
    ∃ cache made, (engine.compile path).1 = { engine.ask path with cache, made } := by
  cases hread : (engine.source.store.read (engine.resolve path)).result with
  | error failure => exact ⟨engine.cache, engine.made, (compile_of_read_eq_error hread).1⟩
  | ok text =>
    rw [(compile_of_read_eq_ok hread).1]
    exact compileAt_fst (engine.ask path) (engine.resolve path) text

theorem render_fst (engine : Engine) (path : Text) (data : Value) :
    (engine.render path data).1 = (engine.compile path).1 := by
  unfold render
  dsimp only
  split
  · split <;> rfl
  · rfl

theorem render_result (engine : Engine) (path : Text) (data : Value) :
    (engine.render path data).2.result
      = ((engine.compile path).2.result.map Compiled.plan).bind fun plan ↦
        (plan.run data).mapError .value := by
  unfold render
  dsimp only
  cases (engine.compile path).2.result with
  | error failure => rfl
  | ok template =>
    simp only [Except.map, Except.bind]
    cases template.plan.run data <;> rfl

theorem renderText_result (engine : Engine) (text : Text) (data : Value) (name : Option Text) :
    (engine.renderText text data name).2.result
      = ((engine.settings.planOf name text).mapError .template).bind fun plan ↦
        (plan.run data).mapError .value := by
  rw [← compileText_result, renderText]
  dsimp only [Logged.map]
  cases (engine.compileText text name).2.result <;> rfl

theorem invalidate_result (engine : Engine) (path : Option Text) :
    ∃ cache, (engine.invalidate path).result = { engine with cache } := by
  rw [invalidate]
  cases engine.cache with
  | none => exact ⟨engine.cache, rfl⟩
  | some cache => exact ⟨some (cache.invalidate path).result, rfl⟩

/-! ## Single requests -/

/-- The engine after a request, which does not depend on the templates that are held. -/
def afterRequest (engine : Engine) : Request → Engine
  | .render path _ | .compile path _ => (engine.compile path).1
  | .renderText text _ name => (engine.compileText text name).1
  | .invalidate path => (engine.invalidate path).result
  | .change edit => { engine with source := engine.source.change edit }
  | _ => engine

theorem Session.engine_request (session : Session) (request : Request) :
    (session.request request).1.engine = session.engine.afterRequest request := by
  cases request with
  | render path data => exact render_fst ..
  | apply name data => simp only [Session.request]; split <;> rfl
  | same name other => simp only [Session.request]; split <;> rfl
  | _ => rfl

theorem afterRequest_settings (engine : Engine) (request : Request) :
    (engine.afterRequest request).settings = engine.settings := by
  cases request with
  | render path data | compile path _ =>
    obtain ⟨cache, made, h⟩ := compile_fst engine path
    simp only [afterRequest, h, ask]
  | renderText text data name =>
    obtain ⟨made, h⟩ := compileText_fst engine text name
    rw [afterRequest, h]
  | invalidate path =>
    obtain ⟨cache, h⟩ := invalidate_result engine path
    rw [afterRequest, h]
  | _ => rfl

namespace Request

def template? : Request → Option Text
  | .render path _ | .compile path _ => some path
  | _ => none

/-- The source after a request, when paths are resolved like this. -/
def sourceAfter (resolve : Text → Text) (source : Source) : Request → Source
  | .render path _ | .compile path _ => (source.read (resolve path)).1
  | .change edit => source.change edit
  | _ => source

theorem requests_sourceAfter (resolve : Text → Text) (source : Source) (request : Request) :
    (request.sourceAfter resolve source).requests
      = source.requests ++ (request.template?.map resolve).toList := by
  cases request <;> simp [sourceAfter, template?, Source.read, Source.requests, Source.change]

end Request

theorem afterRequest_source (engine : Engine) (request : Request) :
    (engine.afterRequest request).source = request.sourceAfter engine.resolve engine.source := by
  cases request with
  | render path data | compile path _ =>
    obtain ⟨cache, made, h⟩ := compile_fst engine path
    simp only [afterRequest, h, ask, Request.sourceAfter]
  | renderText text data name =>
    obtain ⟨made, h⟩ := compileText_fst engine text name
    simp only [afterRequest, h, Request.sourceAfter]
  | invalidate path =>
    obtain ⟨cache, h⟩ := invalidate_result engine path
    simp only [afterRequest, h, Request.sourceAfter]
  | _ => rfl

/-! ## Runs -/

namespace Session

theorem run_cons_fst (session : Session) (first : Request) (rest : List Request) :
    (session.run (first :: rest)).1 = ((session.request first).1.run rest).1 := rfl

theorem request_settings (session : Session) (request : Request) :
    (session.request request).1.engine.settings = session.engine.settings := by
  rw [engine_request, afterRequest_settings]

theorem request_resolve (session : Session) (request : Request) :
    (session.request request).1.engine.resolve = session.engine.resolve := by
  funext path
  rw [resolve, resolve, request_settings]

/-- What no request changes in an engine, no run changes. -/
theorem run_constant {α : Type} (f : Engine → α)
    (hstep : ∀ engine request, f (engine.afterRequest request) = f engine) (session : Session)
    (requests : List Request) : f (session.run requests).1.engine = f session.engine := by
  induction requests generalizing session with
  | nil => rfl
  | cons first rest ih => rw [run_cons_fst, ih, engine_request, hstep]

theorem run_settings (session : Session) (requests : List Request) :
    (session.run requests).1.engine.settings = session.engine.settings :=
  run_constant Engine.settings afterRequest_settings session requests

theorem run_source (session : Session) (requests : List Request) :
    (session.run requests).1.engine.source
      = requests.foldl (fun source request ↦ request.sourceAfter session.engine.resolve source)
          session.engine.source := by
  induction requests generalizing session with
  | nil => rfl
  | cons first rest ih =>
    rw [run_cons_fst, ih, request_resolve, engine_request, afterRequest_source, List.foldl_cons]

/-- The source is asked once for every template that has to be compiled, in the order of the
requests, and for nothing else. -/
theorem run_requests (session : Session) (requests : List Request) :
    (session.run requests).1.engine.source.requests
      = session.engine.source.requests
        ++ requests.filterMap fun request ↦ request.template?.map session.engine.resolve := by
  induction requests generalizing session with
  | nil => simp [run]
  | cons first rest ih =>
    rw [run_cons_fst, ih, request_resolve, engine_request, afterRequest_source,
      Request.requests_sourceAfter, List.append_assoc, List.filterMap_cons]
    congr 1
    cases first.template? <;> rfl

/-! ## The texts of a run -/

/-- The text that the source gives for a request, if it is asked for one and has it. -/
def textRead? (session : Session) (request : Request) : Option Text :=
  request.template?.bind fun path ↦
    (session.engine.source.store.read (session.engine.resolve path)).result.toOption

/-- The texts that the source gives in a run, in order. -/
def textsRead (session : Session) : List Request → List Text
  | [] => []
  | first :: rest => (session.textRead? first).toList ++ (session.request first).1.textsRead rest

theorem textsRead_append (session : Session) (before after : List Request) :
    session.textsRead (before ++ after)
      = session.textsRead before ++ (session.run before).1.textsRead after := by
  induction before generalizing session with
  | nil => rfl
  | cons first rest ih =>
    rw [List.cons_append, textsRead, textsRead, ih, run_cons_fst, List.append_assoc]

theorem textsRead_congr {session other : Session}
    (hresolve : session.engine.resolve = other.engine.resolve)
    (hsource : session.engine.source = other.engine.source) (requests : List Request) :
    session.textsRead requests = other.textsRead requests := by
  induction requests generalizing session other with
  | nil => rfl
  | cons first rest ih =>
    have hfirst : session.textRead? first = other.textRead? first := by
      rw [textRead?, textRead?, hresolve, hsource]
    rw [textsRead, textsRead, hfirst]
    congr 1
    refine ih ?_ ?_
    · rw [request_resolve, request_resolve, hresolve]
    · rw [engine_request, engine_request, afterRequest_source, afterRequest_source, hresolve,
        hsource]

end Session

end Engine

end TextTemplate
