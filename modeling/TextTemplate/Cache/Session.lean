import TextTemplate.Cache.History
/-!
# Using a cache

A session is a cache together with its history. It is used by calls: asking for the plan of a text,
dropping plans, and listing them. Compiling a text may make further calls before it ends, to any
depth, so a call to get a plan carries the calls that are made while its text is compiled; they are
made only if it is. Which ones they are may depend on what came of earlier ones, but a run that has
ended made certain calls, and its compile functions came to certain results.

A compile function gives a new plan, or a compiled template that there is already, such as one that
it got from the cache itself.

Every change of a session is one of the five steps that the history knows, and running a call is
nothing but a sequence of them.
-/

namespace TextTemplate

namespace Cache

/-- What a compile function gives. -/
inductive Product where
  /-- A new plan, which makes a compiled template of its own. -/
  | fresh (plan : Plan)
  /-- A compiled template that there is already. -/
  | existing (compiled : Compiled)
  deriving DecidableEq, Repr

/-- A cache and what has happened to it. -/
structure Session where
  /-- The cache as it is now. -/
  cache : Cache
  /-- How it came to this. -/
  history : History

namespace Session

/-- A session with an unused cache. -/
def start : Session := ⟨.empty, []⟩

/-! ## Steps -/

/-- Returns a plan that was found. -/
def reuse (session : Session) (path text : Text) (compiled : Compiled) : Session :=
  ⟨session.cache.countHit, .reused path text compiled :: session.history⟩

def miss (session : Session) (path text : Text) : Session :=
  ⟨session.cache.countMiss, .missed path text :: session.history⟩

/-- The compiled template that a plan makes at this point. -/
def number (session : Session) (plan : Plan) : Compiled := ⟨session.history.made, plan⟩

/-- The compiled template that a compile function gives at this point. -/
def compiledOf (session : Session) : Product → Compiled
  | .fresh plan => session.number plan
  | .existing compiled => compiled

/-- Ends to compile, and stores and returns the result. -/
def store (session : Session) (path text : Text) (compiled : Compiled) : Logged Session :=
  (session.cache.store path text compiled).map fun cache ↦
    ⟨cache, .stored path text compiled :: session.history⟩

def fail (session : Session) (path text : Text) : Session :=
  { session with history := .failed path text :: session.history }

def drop (session : Session) (path : Option Text) : Logged Session :=
  (session.cache.invalidate path).map fun cache ↦ ⟨cache, .dropped path :: session.history⟩

@[simp] theorem history_reuse (session : Session) (path text : Text) (compiled : Compiled) :
    (session.reuse path text compiled).history = .reused path text compiled :: session.history :=
  rfl

@[simp] theorem history_miss (session : Session) (path text : Text) :
    (session.miss path text).history = .missed path text :: session.history := rfl

@[simp] theorem history_store (session : Session) (path text : Text) (compiled : Compiled) :
    (session.store path text compiled).result.history
      = .stored path text compiled :: session.history := rfl

@[simp] theorem history_fail (session : Session) (path text : Text) :
    (session.fail path text).history = .failed path text :: session.history := rfl

@[simp] theorem history_drop (session : Session) (path : Option Text) :
    (session.drop path).result.history = .dropped path :: session.history := rfl

/-- The compiled template is the one that was returned for the path last. -/
def isLatest (session : Session) (path : Text) (compiled : Compiled) : Bool :=
  (session.history.latest? path).any fun latest ↦ latest.serial = compiled.serial

end Session

/-! ## Calls -/

/-- A use of a cache; `ε` is the type of failures to compile. -/
inductive Call (ε : Type) where
  /-- Gets the compiled template of a text at a path and runs it on data. When the text has to be
  compiled, the calls in `during` are made first. -/
  | obtain (path text : Text) (data : Value) (compile : Text → Except ε Product)
    (during : List (Call ε))
  | drop (path : Option Text)
  | list

instance {ε : Type} : Inhabited (Call ε) := ⟨.list⟩

/-- Gets a compiled template with a compile function that makes plans. -/
def Call.get {ε : Type} (path text : Text) (data : Value) (compile : Text → Except ε Plan)
    (during : List (Call ε)) : Call ε :=
  .obtain path text data (fun text ↦ (compile text).map .fresh) during

structure Got where
  compiled : Compiled
  /-- It is the one that was returned for the path last. -/
  same : Bool
  output : Except ShowFailure Text

/-- What comes of a call, with the numbers of the cache after it. -/
inductive Reply (ε : Type) where
  /-- A compiled template or a failure to compile; the texts that were compiled; and what came of
  the calls in between. -/
  | got (outcome : Except ε Got) (compiled : List Text) (during : List (Reply ε)) (stats : Stats)
  | dropped (stats : Stats)
  | listed (listing : List (Text × Digest)) (stats : Stats)

namespace Session

variable {ε : Type}

mutual

/-- Makes a call. -/
def call (session : Session) : Call ε → Session × Logged (Reply ε)
  | .obtain path text data compile during =>
    match session.cache.find? path text with
    | some compiled =>
      let after := session.reuse path text compiled
      let got := ⟨compiled, session.isLatest path compiled, compiled.plan.run data⟩
      (after, .quiet (.got (.ok got) [] [] after.cache.stats))
    | none =>
      let (session, inner) := calls (session.miss path text) during
      match compile text with
      | .ok product =>
        let compiled := session.compiledOf product
        let after := session.store path text compiled
        let got := ⟨compiled, session.isLatest path compiled, compiled.plan.run data⟩
        (after.result,
          ⟨inner.events ++ after.events,
            .got (.ok got) [text] inner.result after.result.cache.stats⟩)
      | .error failure =>
        let after := session.fail path text
        (after, inner.map fun replies ↦ .got (.error failure) [text] replies after.cache.stats)
  | .drop path =>
    let after := session.drop path
    (after.result, after.map fun session ↦ .dropped session.cache.stats)
  | .list => (session, .quiet (.listed session.cache.listing session.cache.stats))

def calls (session : Session) : List (Call ε) → Session × Logged (List (Reply ε))
  | [] => (session, .quiet [])
  | first :: rest =>
    let (session, reply) := call session first
    let (session, replies) := calls session rest
    (session, ⟨reply.events ++ replies.events, reply.result :: replies.result⟩)

end

end Session

end Cache

end TextTemplate
