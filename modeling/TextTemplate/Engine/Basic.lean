import TextTemplate.Cache.Basic
import TextTemplate.Settings
import TextTemplate.Source.Basic
import TextTemplate.Template.Reading
/-!
# The engine

An engine renders the templates under one directory. Rendering is one pass: the path is resolved,
the source is asked for the text, the text is taken apart, its tokens are made into a plan, and the
plan is run on the data. When the engine has a cache, a text that was compiled before is not
compiled again, but the source is always asked first: the cache never answers for it.

An engine is built from values of any kind. Its settings are what the values mean, but whether it
has a cache and how its own files are decoded depends on the values themselves.
-/

namespace TextTemplate

namespace Settings

/-- The path of a template under the directory. -/
def resolve (settings : Settings) (path : Text) : Text :=
  if settings.root = ['/'] then '/' :: path else settings.root ++ '/' :: path

/-- What is done at an opening without an end. -/
def strictness (settings : Settings) : Strictness := .ofBool settings.strict

end Settings

/-- A renderer of templates. -/
structure Engine where
  settings : Settings
  cache : Option Cache
  source : Source
  /-- The number of templates that were compiled so far; it is the serial number of the next one. -/
  made : Nat

namespace Engine

/-! ## Building -/

/-- Where an engine is to get its texts from. -/
inductive Supply where
  | given (source : Source)
  /-- From the files of a system, with these encodings besides those described here. -/
  | files (system : FileSystem) (codecs : Codecs)

/-- Why no engine can be built. -/
inductive BuildFailure where
  /-- The directory is neither a text nor a byte string. -/
  | rootNotPath
  | settings (issues : List Settings.Issue)
  deriving DecidableEq, Repr

/-- The name of an encoding that was given as a text. -/
def encodingName : Option Value → Option Text
  | none => some Settings.usualEncoding
  | some (.text name) => some name
  | some _ => none

/-- The source of an engine that is built with this encoding. -/
def Supply.source (supply : Supply) (encoding : Option Value) : Source :=
  match supply with
  | .given source => source
  | .files system codecs => .ofStore (.files ⟨system, codecs, encodingName encoding⟩)

def isPath : Value → Bool
  | .text _ | .bytes _ => true
  | _ => false

/-- An engine with a directory and with values for the other settings, of which all may be absent.
It has a cache if the value for the cache counts as a yes. -/
def build (supply : Supply) (root : Value) (encoding strict cacheEnabled : Option Value) :
    Except BuildFailure Engine :=
  if isPath root then
    match Settings.ofInput ⟨some root, encoding, strict, cacheEnabled⟩ with
    | .ok settings => .ok {
        settings
        cache := if cacheEnabled.any Value.isTruthy then some .empty else none
        source := supply.source encoding
        made := 0 }
    | .error issues => .error (.settings issues)
  else .error .rootNotPath

/-- An engine with a directory and the usual settings, which reads files. -/
def usual (system : FileSystem) (codecs : Codecs) (root : Value) : Except BuildFailure Engine :=
  build (.files system codecs) root none none none

def ofSettings (supply : Supply) (settings : Settings) : Except BuildFailure Engine :=
  build supply (.text settings.root) (some (.text settings.encoding))
    (some (.bool settings.strict)) (some (.bool settings.cacheEnabled))

def ofInput (supply : Supply) (input : Settings.Input) : Except BuildFailure Engine :=
  match Settings.ofInput input with
  | .ok settings => ofSettings supply settings
  | .error issues => .error (.settings issues)

/-! ## Rendering -/

def resolve (engine : Engine) (path : Text) : Text := engine.settings.resolve path

/-- Compiles a text that may go by a name. -/
def compileText (engine : Engine) (text : Text) (name : Option Text) :
    Engine × Logged (Except TemplateFailure Compiled) :=
  let read := Template.read engine.settings.strictness name text
  match read.result with
  | .ok tokens =>
    ({ engine with made := engine.made + 1 },
      ⟨read.events ++ [.tokenized name tokens.length], .ok ⟨engine.made, .ofTokens tokens⟩⟩)
  | .error failure => (engine, ⟨read.events, .error failure⟩)

/-- Compiles the text at a resolved path, or finds that this was done before. -/
def compileAt (engine : Engine) (path text : Text) :
    Engine × Logged (Except TemplateFailure Compiled) :=
  match engine.cache with
  | none => engine.compileText text (some path)
  | some cache =>
    match cache.find? path text with
    | some compiled => ({ engine with cache := some cache.countHit }, .quiet (.ok compiled))
    | none =>
      let (engine, made) := engine.compileText text (some path)
      match made.result with
      | .ok compiled =>
        let stored := cache.countMiss.store path text compiled
        ({ engine with cache := some stored.result }, stored.map (fun _ ↦ .ok compiled)
          |>.after made.events)
      | .error failure =>
        ({ engine with cache := some cache.countMiss }, ⟨made.events, .error failure⟩)

/-- Reads and compiles the template at a path. -/
def compile (engine : Engine) (path : Text) : Engine × Logged (Except RenderFailure Compiled) :=
  let resolved := engine.resolve path
  let (source, read) := engine.source.read resolved
  let engine := { engine with source }
  match read.result with
  | .ok text =>
    let (engine, compiled) := engine.compileAt resolved text
    (engine, compiled.map (Except.mapError .template) |>.after read.events)
  | .error failure => (engine, ⟨read.events, .error failure⟩)

def render (engine : Engine) (path : Text) (data : Value) :
    Engine × Logged (Except RenderFailure Text) :=
  let (engine, compiled) := engine.compile path
  match compiled.result with
  | .ok template =>
    match template.plan.run data with
    | .ok output => (engine, ⟨compiled.events ++ [.rendered path output.length], .ok output⟩)
    | .error failure => (engine, ⟨compiled.events, .error (.value failure)⟩)
  | .error failure => (engine, ⟨compiled.events, .error failure⟩)

/-- The name that a text goes by when nothing else is said. -/
def usualName : Option Text := some "<string>".toList

/-- Renders a text. Neither source nor cache has a part in this. -/
def renderText (engine : Engine) (text : Text) (data : Value) (name : Option Text) :
    Engine × Logged (Except RenderFailure Text) :=
  let (engine, compiled) := engine.compileText text name
  (engine, compiled.map fun result ↦
    (result.mapError .template).bind fun template ↦ (template.plan.run data).mapError .value)

def invalidate (engine : Engine) (path : Option Text) : Logged Engine :=
  match engine.cache with
  | none => .quiet engine
  | some cache => (cache.invalidate path).map fun cache ↦ { engine with cache := some cache }

end Engine

end TextTemplate
