import TextTemplate.Cache.Session

/-!
# The points of a run

A call may make further calls before it ends, so a run of calls comes to more points than the ends
of its calls. `ComesTo` says which: the run starts at a point, is at one after every call, and while
a text is compiled it comes to the points of the calls that are made meanwhile. Between two points
next to each other lies one of the five steps of a session, or the end of one call at the start of
another.

## The induction

`run_induction` follows what a run can do next: it is over, or finds a plan, or finds none and runs
the calls in between before it ends the call, or drops something, or lists the paths. What is to
hold at all points has to be kept by the steps that the run takes. `StepsKeep` says so, and
`ComesTo.of_stepsKeep` is the one induction from which every law of the cache is then derived.
-/

namespace TextTemplate

namespace Cache

namespace Session

variable {ε : Type} {session : Session} {path text : Text} {data : Value}
  {compile : Text → Except ε Product} {during rest : List (Call ε)}

/-! ## What a call does -/

/-- The session when the calls are made that a compile function makes. -/
def compiling (session : Session) (path text : Text) (during : List (Call ε)) : Session :=
  ((session.miss path text).calls during).1

theorem call_obtain_of_find?_eq_some {compiled : Compiled}
    (hfind : session.cache.find? path text = some compiled) :
    session.call (.obtain path text data compile during)
      = (session.reuse path text compiled,
          .quiet (.got (.ok ⟨compiled, session.isLatest path compiled, compiled.plan.run data⟩) [] []
            (session.reuse path text compiled).cache.stats)) := by
  simp only [call, hfind]

theorem call_obtain_of_ok {product : Product} (data : Value) (during : List (Call ε))
    (hfind : session.cache.find? path text = none) (hcompile : compile text = .ok product) :
    ∃ same output replies stats,
      (session.call (.obtain path text data compile during)).2.result
          = .got (.ok ⟨(session.compiling path text during).compiledOf product, same, output⟩) [text]
              replies stats ∧
        (session.call (.obtain path text data compile during)).1
          = ((session.compiling path text during).store path text
              ((session.compiling path text during).compiledOf product)).result := by
  simp only [call, hfind, hcompile]
  exact ⟨_, _, _, _, rfl, rfl⟩

theorem call_obtain_of_error {failure : ε} (data : Value) (during : List (Call ε))
    (hfind : session.cache.find? path text = none) (hcompile : compile text = .error failure) :
    ∃ replies stats,
      (session.call (.obtain path text data compile during)).2.result
          = .got (.error failure) [text] replies stats ∧
        (session.call (.obtain path text data compile during)).1
          = (session.compiling path text during).fail path text := by
  simp only [call, hfind, hcompile]
  exact ⟨_, _, rfl, rfl⟩

theorem calls_cons_fst (session : Session) (first : Call ε) (rest : List (Call ε)) :
    (session.calls (first :: rest)).1 = ((session.call first).1.calls rest).1 := by
  rw [calls]

/-- A run is over, or makes a first call and goes on. If the first call compiles a text, the calls
in between are a run of their own. -/
theorem run_induction {motive : Session → List (Call ε) → Prop} (session : Session)
    (calls : List (Call ε)) (nil : ∀ session, motive session [])
    (cons : ∀ session first rest,
      (∀ path text data compile during, first = .obtain path text data compile during →
        session.cache.find? path text = none → motive (session.miss path text) during) →
      motive (session.call first).1 rest → motive session (first :: rest)) :
    motive session calls := by
  -- Of a single call, the induction knows what holds of the run that begins with it.
  refine Session.calls.induct
    (fun session first ↦ ∀ rest, motive (session.call first).1 rest → motive session (first :: rest))
    motive ?_ ?_ ?_ ?_ ?_ nil ?_ session calls
  · intro session path text data compile during compiled hfind rest hrest
    refine cons session _ rest ?_ hrest
    rintro _ _ _ _ _ ⟨⟩ hnone
    rw [hfind] at hnone
    exact absurd hnone (by simp)
  · intro session path text data compile during _ _ _ _ _ _ hduring rest hrest
    refine cons session _ rest ?_ hrest
    rintro _ _ _ _ _ ⟨⟩ -
    exact hduring
  · intro session path text data compile during _ _ _ _ _ _ hduring rest hrest
    refine cons session _ rest ?_ hrest
    rintro _ _ _ _ _ ⟨⟩ -
    exact hduring
  · intro session path rest hrest
    exact cons session _ rest (fun _ _ _ _ _ h ↦ nomatch h) hrest
  · intro session rest hrest
    exact cons session _ rest (fun _ _ _ _ _ h ↦ nomatch h) hrest
  · rintro session first rest _ _ hfirst _ _ _ ihfirst ihrest
    exact ihfirst rest (by rwa [hfirst])

/-! ## Points -/

/-- The run of the calls from the session comes to a point, at which the calls in `left` are the
next ones at the same depth. -/
inductive ComesTo : Session → List (Call ε) → Session → List (Call ε) → Prop where
  /-- The start is a point. -/
  | here (session : Session) (calls : List (Call ε)) : ComesTo session calls session calls
  /-- After the first call, the run goes on with the others. -/
  | next {session point : Session} {first : Call ε} {rest left : List (Call ε)}
    (later : ComesTo (session.call first).1 rest point left) :
    ComesTo session (first :: rest) point left
  /-- While a text is compiled, the run comes to the points of the calls that are made meanwhile. -/
  | inside {session point : Session} {path text : Text} {data : Value}
    {compile : Text → Except ε Product} {during rest left : List (Call ε)}
    (hfind : session.cache.find? path text = none)
    (meanwhile : ComesTo (session.miss path text) during point left) :
    ComesTo session (.obtain path text data compile during :: rest) point left

theorem ComesTo.call {run left : List (Call ε)} {point : Session} {first : Call ε}
    (h : ComesTo session run point (first :: left)) : ComesTo session run (point.call first).1 left := by
  generalize hleft : first :: left = left' at h
  induction h with
  | here session =>
    subst hleft
    exact .next (.here _ _)
  | next _ ih => exact .next (ih hleft)
  | inside hfind _ ih => exact .inside hfind (ih hleft)

/-! ## What the steps keep -/

/-- The steps that the run of the calls from the session takes keep the property. -/
structure StepsKeep (P : Session → Prop) (session : Session) (calls : List (Call ε)) : Prop where
  /-- Finding a plan keeps it. -/
  reuse {point : Session} {path text : Text} {data : Value} {compile : Text → Except ε Product}
    {during left : List (Call ε)} {compiled : Compiled} :
    ComesTo session calls point (.obtain path text data compile during :: left) → P point →
      point.cache.find? path text = some compiled → P (point.reuse path text compiled)
  /-- Finding none keeps it. -/
  miss {point : Session} {path text : Text} {data : Value} {compile : Text → Except ε Product}
    {during left : List (Call ε)} :
    ComesTo session calls point (.obtain path text data compile during :: left) → P point →
      point.cache.find? path text = none → P (point.miss path text)
  /-- Storing what a text was compiled to keeps it. -/
  store {point inner : Session} {path text : Text} {data : Value}
    {compile : Text → Except ε Product} {during left : List (Call ε)} {product : Product} :
    ComesTo session calls point (.obtain path text data compile during :: left) → P inner →
      compile text = .ok product → P (inner.store path text (inner.compiledOf product)).result
  /-- Failing to compile keeps it. -/
  fail {point inner : Session} {path text : Text} {data : Value}
    {compile : Text → Except ε Product} {during left : List (Call ε)} :
    ComesTo session calls point (.obtain path text data compile during :: left) → P inner →
      P (inner.fail path text)
  /-- Dropping paths keeps it. -/
  drop {point : Session} (path : Option Text) : P point → P (point.drop path).result

variable {P : Session → Prop} {run : List (Call ε)}

theorem StepsKeep.next {first : Call ε} (h : StepsKeep P session (first :: rest)) :
    StepsKeep P (session.call first).1 rest where
  reuse hpoint := h.reuse (.next hpoint)
  miss hpoint := h.miss (.next hpoint)
  store hpoint := h.store (.next hpoint)
  fail hpoint := h.fail (.next hpoint)
  drop := h.drop

theorem StepsKeep.inside (hfind : session.cache.find? path text = none)
    (h : StepsKeep P session (.obtain path text data compile during :: rest)) :
    StepsKeep P (session.miss path text) during where
  reuse hpoint := h.reuse (.inside hfind hpoint)
  miss hpoint := h.miss (.inside hfind hpoint)
  store hpoint := h.store (.inside hfind hpoint)
  fail hpoint := h.fail (.inside hfind hpoint)
  drop := h.drop

/-- A call keeps the property if the calls that are made while it compiles do. -/
theorem StepsKeep.call {first : Call ε} (h : StepsKeep P session (first :: rest))
    (hstart : P session)
    (hinner : ∀ path text data compile during, first = .obtain path text data compile during →
      session.cache.find? path text = none → P (session.compiling path text during)) :
    P (session.call first).1 := by
  cases first with
  | obtain path text data compile during =>
    cases hfind : session.cache.find? path text with
    | some compiled =>
      rw [call_obtain_of_find?_eq_some hfind]
      exact h.reuse (.here _ _) hstart hfind
    | none =>
      have hinner := hinner path text data compile during rfl hfind
      cases hcompile : compile text with
      | ok product =>
        obtain ⟨_, _, _, _, -, hcall⟩ := call_obtain_of_ok data during hfind hcompile
        rw [hcall]
        exact h.store (.here _ _) hinner hcompile
      | error failure =>
        obtain ⟨_, _, -, hcall⟩ := call_obtain_of_error data during hfind hcompile
        rw [hcall]
        exact h.fail (.here _ _) hinner
  | drop path =>
    rw [Session.call]
    exact h.drop path hstart
  | list =>
    rw [Session.call]
    exact hstart

theorem StepsKeep.end_of_run (h : StepsKeep P session run) (hstart : P session) :
    P (session.calls run).1 := by
  induction session, run using run_induction with
  | nil session =>
    rw [Session.calls]
    exact hstart
  | cons session first rest ihduring ihrest =>
    rw [calls_cons_fst]
    refine ihrest h.next (h.call hstart ?_)
    rintro path text data compile during rfl hfind
    exact ihduring path text data compile during rfl hfind (h.inside hfind)
      (h.miss (.here _ _) hstart hfind)

/-- **What the steps keep holds at every point of the run.** -/
theorem ComesTo.of_stepsKeep {point : Session} {left : List (Call ε)}
    (hpoint : ComesTo session run point left) (h : StepsKeep P session run) (hstart : P session) :
    P point := by
  induction hpoint with
  | here => exact hstart
  | next _ ih =>
    refine ih h.next (h.call hstart ?_)
    rintro path text data compile during rfl hfind
    exact (h.inside hfind).end_of_run (h.miss (.here _ _) hstart hfind)
  | inside hfind _ ih => exact ih (h.inside hfind) (h.miss (.here _ _) hstart hfind)

end Session

end Cache

end TextTemplate
