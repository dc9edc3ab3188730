import TextTemplate.Engine.Basic
/-!
# Working with an engine

A session is an engine together with the compiled templates that are held by name. Requests are put
to it one after the other; between them the texts at the source may change.
-/

namespace TextTemplate

namespace Engine

/-- An engine and the compiled templates that are held. -/
structure Session where
  engine : Engine
  /-- The compiled templates by name. -/
  held : Table Compiled

/-- What an engine is asked for. -/
inductive Request where
  /-- The output of the template at a path. -/
  | render (path : Text) (data : Value)
  /-- The plan of the template at a path, to be held under a name if there is one. -/
  | compile (path : Text) (name : Option Text)
  /-- The output of a held template. -/
  | apply (name : Text) (data : Value)
  /-- Whether two held templates are one and the same. -/
  | same (name other : Text)
  /-- The output of a text, which may have a name. -/
  | renderText (text : Text) (data : Value) (name : Option Text)
  | resolve (path : Text)
  | settings
  | stats
  | size
  /-- That one path of the cache be dropped, or all of them. -/
  | invalidate (path : Option Text)
  /-- That the source be changed. -/
  | change (change : Store.Change)
  | requests

/-- What comes of a request. -/
inductive Answer where
  | output (result : Except RenderFailure Text)
  | plan (result : Except RenderFailure Plan)
  /-- Whether two templates are the same. -/
  | same (answer : Bool)
  | path (path : Text)
  | settings (settings : Settings) (hasCache : Bool)
  | stats (stats : Option Cache.Stats)
  | size (size : Option Nat)
  | done
  | paths (paths : List Text)
  /-- No template is held under the name. -/
  | notHeld (name : Text)

namespace Session

def start (engine : Engine) : Session := ⟨engine, .empty⟩

/-- Compiles a template and holds it. -/
def compile (session : Session) (path : Text) (name : Option Text) :
    Session × Logged (Except RenderFailure Plan) :=
  let (engine, compiled) := session.engine.compile path
  let held := match name, compiled.result with
    | some name, .ok template => session.held.put name template
    | _, _ => session.held
  (⟨engine, held⟩, compiled.map fun result ↦ result.map Compiled.plan)

/-- Grants a request. -/
def request (session : Session) : Request → Session × Logged Answer
  | .render path data =>
    let (engine, output) := session.engine.render path data
    ({ session with engine }, output.map .output)
  | .compile path name =>
    let (session, plan) := session.compile path name
    (session, plan.map .plan)
  | .apply name data =>
    match session.held.find? name with
    | some template =>
      (session, .quiet (.output ((template.plan.run data).mapError .value)))
    | none => (session, .quiet (.notHeld name))
  | .same name other =>
    match session.held.find? name, session.held.find? other with
    | some a, some b => (session, .quiet (.same (a.serial = b.serial)))
    | none, _ => (session, .quiet (.notHeld name))
    | _, none => (session, .quiet (.notHeld other))
  | .renderText text data name =>
    let (engine, output) := session.engine.renderText text data name
    ({ session with engine }, output.map .output)
  | .resolve path => (session, .quiet (.path (session.engine.resolve path)))
  | .settings =>
    (session, .quiet (.settings session.engine.settings session.engine.cache.isSome))
  | .stats => (session, .quiet (.stats (session.engine.cache.map Cache.stats)))
  | .size => (session, .quiet (.size (session.engine.cache.map Cache.size)))
  | .invalidate path =>
    let changed := session.engine.invalidate path
    ({ session with engine := changed.result }, changed.map fun _ ↦ .done)
  | .change change =>
    let source := session.engine.source.change change
    ({ session with engine := { session.engine with source } }, .quiet .done)
  | .requests => (session, .quiet (.paths session.engine.source.requests))

def run (session : Session) : List Request → Session × List (Logged Answer)
  | [] => (session, [])
  | first :: rest =>
    let (session, answer) := session.request first
    let (session, answers) := session.run rest
    (session, answer :: answers)

end Session

end Engine

end TextTemplate
