import TextTemplate.Proofs.Cache.Points
import TextTemplate.Proofs.Table

/-!
# The counters of a cache

A cache counts hits and misses and tells how many entries it has. Against this stands a count that
does not look at the cache: a reply says which texts were compiled for it, whether a template came
of it and what replies it got in between, so `Reply.tally` can be read off the replies alone. While
a text is being compiled there is no reply yet, but a get and a compile function have begun, and
that is all that has to be added to the replies in between.

## The induction

`Grows` compares two sessions and a tally: the counters grow by exactly what the tally says, and the
entries by no more than what was compiled. Both are stated as growth, because the calls that a
compile function makes start from counters of any height and may find, fill and drop entries of
calls that are not over. Growth adds up along a run, so the five steps of a session are all that has
to be looked at.
-/

namespace TextTemplate

namespace Cache

/-! ## Counting calls -/

/-- The calls of a run in numbers. -/
@[ext]
structure Tally where
  /-- The gets that have begun. -/
  begun : Nat
  /-- The calls of compile functions that have begun. -/
  compiling : Nat
  /-- The gets that have returned a template without compiling. -/
  reused : Nat
  /-- The calls of compile functions that have given a template. -/
  compiled : Nat
  deriving DecidableEq, Repr

namespace Tally

instance : Zero Tally := ⟨⟨0, 0, 0, 0⟩⟩

instance : Add Tally where
  add a b := ⟨a.begun + b.begun, a.compiling + b.compiling, a.reused + b.reused,
    a.compiled + b.compiled⟩

theorem zero_def : (0 : Tally) = ⟨0, 0, 0, 0⟩ := rfl

theorem add_def (a b : Tally) : a + b = ⟨a.begun + b.begun, a.compiling + b.compiling,
    a.reused + b.reused, a.compiled + b.compiled⟩ := rfl

/-- One get without the calls in between: it called its compile function with each of the texts, and
if a template came of it, either a call had given it or there was no need for one. -/
def ofGet {ε α : Type} (outcome : Except ε α) (texts : List Text) : Tally where
  begun := 1
  compiling := texts.length
  reused := if outcome.isOk && texts.isEmpty then 1 else 0
  compiled := if outcome.isOk then texts.length else 0

/-- One get that has called its compile function and is not over. -/
def pending : Tally := ⟨1, 1, 0, 0⟩

end Tally

namespace Reply

variable {ε : Type}

mutual

/-- The calls that the reply is about, those in between included. -/
def tally : Reply ε → Tally
  | .got outcome texts during _ => .ofGet outcome texts + tallyOf during
  | .dropped _ | .listed _ _ => 0

def tallyOf : List (Reply ε) → Tally
  | [] => 0
  | reply :: replies => tally reply + tallyOf replies

end

end Reply

namespace Session

variable {ε : Type} {session before between after point : Session} {run left during : List (Call ε)}
  {path text : Text} {data : Value} {compile : Text → Except ε Product} {tally later : Tally}

/-- The run comes to the point, as `ComesTo` says, and the tally counts the calls until then. -/
inductive CountsTo : Session → List (Call ε) → Tally → Session → List (Call ε) → Prop where
  /-- At the start, nothing has been called. -/
  | here (session : Session) (calls : List (Call ε)) : CountsTo session calls 0 session calls
  /-- After the first call, its reply tells what it was made of. -/
  | next {session point : Session} {first : Call ε} {rest left : List (Call ε)} {tally : Tally}
    (later : CountsTo (session.call first).1 rest tally point left) :
    CountsTo session (first :: rest) ((session.call first).2.result.tally + tally) point left
  /-- While a text is compiled, a get is pending. -/
  | inside {session point : Session} {path text : Text} {data : Value}
    {compile : Text → Except ε Product} {during rest left : List (Call ε)} {tally : Tally}
    (hfind : session.cache.find? path text = none)
    (meanwhile : CountsTo (session.miss path text) during tally point left) :
    CountsTo session (.obtain path text data compile during :: rest) (.pending + tally) point left

/-- At every point of a run the calls until then are counted. -/
theorem comesTo_iff_exists_countsTo :
    ComesTo session run point left ↔ ∃ tally, CountsTo session run tally point left := by
  constructor
  · intro h
    induction h with
    | here session run => exact ⟨0, .here session run⟩
    | next _ ih =>
      obtain ⟨tally, htally⟩ := ih
      exact ⟨_, .next htally⟩
    | inside hfind _ ih =>
      obtain ⟨tally, htally⟩ := ih
      exact ⟨_, .inside hfind htally⟩
  · rintro ⟨tally, h⟩
    induction h with
    | here session run => exact .here session run
    | next _ ih => exact .next ih
    | inside hfind _ ih => exact .inside hfind ih

/-! ## Growth -/

/-- From the session before to the one after, hits and misses grow by what the tally says, and the
entries by no more than what was compiled. -/
structure Grows (before after : Session) (tally : Tally) : Prop where
  /-- Every get that has begun has called its compile function or returned without it. -/
  begun : tally.begun = tally.reused + tally.compiling
  /-- Hits are the gets that have returned without compiling. -/
  hits : after.cache.hits = before.cache.hits + tally.reused
  /-- Misses are the calls of compile functions. -/
  misses : after.cache.misses = before.cache.misses + tally.compiling
  /-- An entry comes from a compile function that has given a template. -/
  size_le : after.cache.size ≤ before.cache.size + tally.compiled

theorem Grows.refl (session : Session) : Grows session session 0 := by
  constructor <;> simp [Tally.zero_def]

theorem Grows.trans (h : Grows before between tally) (h' : Grows between after later) :
    Grows before after (tally + later) := by
  obtain ⟨hbegun, hhits, hmisses, hsize⟩ := h
  obtain ⟨hbegun', hhits', hmisses', hsize'⟩ := h'
  constructor <;> simp only [Tally.add_def] <;> omega

theorem grows_reuse (session : Session) (path text : Text) (compiled : Compiled) :
    Grows session (session.reuse path text compiled) ⟨1, 0, 1, 0⟩ where
  begun := rfl
  hits := rfl
  misses := rfl
  size_le := Nat.le_refl _

theorem grows_miss (session : Session) (path text : Text) :
    Grows session (session.miss path text) .pending where
  begun := rfl
  hits := rfl
  misses := rfl
  size_le := Nat.le_refl _

theorem grows_store (session : Session) (path text : Text) (compiled : Compiled) :
    Grows session (session.store path text compiled).result ⟨0, 0, 0, 1⟩ where
  begun := rfl
  hits := rfl
  misses := rfl
  size_le := Table.size_put_le _ path _

theorem grows_fail (session : Session) (path text : Text) :
    Grows session (session.fail path text) 0 :=
  ⟨rfl, rfl, rfl, Nat.le_refl _⟩

theorem grows_drop (session : Session) (gone : Option Text) :
    Grows session (session.drop gone).result 0 := by
  cases gone with
  | none => exact ⟨rfl, rfl, rfl, Nat.zero_le _⟩
  | some path =>
    cases hentry : session.cache.entries.find? path with
    | none =>
      rw [drop, invalidate, hentry]
      exact ⟨rfl, rfl, rfl, Nat.le_refl _⟩
    | some entry =>
      rw [drop, invalidate, hentry]
      exact ⟨rfl, rfl, rfl, Table.size_erase_le _ path⟩

/-! ## Growth of a run -/

/-- A reply counts the whole of a get at once: it was pending, then came the calls in between, and
at last its compile function gave a template. -/
theorem tally_call_of_ok {product : Product} (data : Value) (during : List (Call ε))
    (hfind : session.cache.find? path text = none) (hcompile : compile text = .ok product) :
    (session.call (.obtain path text data compile during)).2.result.tally
      = .pending + Reply.tallyOf ((session.miss path text).calls during).2.result
        + ⟨0, 0, 0, 1⟩ := by
  rw [Session.call, hfind]
  simp only [hcompile, Reply.tally, Tally.ofGet, Tally.pending, Tally.add_def]
  ext <;> simp [Except.isOk, Except.toBool, Nat.add_comm]

theorem tally_call_of_error {failure : ε} (data : Value) (during : List (Call ε))
    (hfind : session.cache.find? path text = none) (hcompile : compile text = .error failure) :
    (session.call (.obtain path text data compile during)).2.result.tally
      = .pending + Reply.tallyOf ((session.miss path text).calls during).2.result + 0 := by
  rw [Session.call, hfind]
  simp only [hcompile, Logged.map, Reply.tally, Tally.ofGet, Tally.pending, Tally.add_def,
    Tally.zero_def]
  ext <;> simp [Except.isOk, Except.toBool]

/-- One call, given the growth of the calls that are made while it compiles. -/
theorem Grows.call (session : Session) (first : Call ε)
    (hduring : ∀ path text data compile during, first = .obtain path text data compile during →
      session.cache.find? path text = none →
        Grows (session.miss path text) (session.compiling path text during)
          (Reply.tallyOf ((session.miss path text).calls during).2.result)) :
    Grows session (session.call first).1 (session.call first).2.result.tally := by
  cases first with
  | obtain path text data compile during =>
    cases hfind : session.cache.find? path text with
    | some compiled =>
      rw [call_obtain_of_find?_eq_some hfind]
      exact grows_reuse session path text compiled
    | none =>
      -- Whatever becomes of the text, a miss and the calls in between come first.
      have hinner := (grows_miss session path text).trans
        (hduring path text data compile during rfl hfind)
      cases hcompile : compile text with
      | ok product =>
        obtain ⟨_, _, _, _, -, hafter⟩ := call_obtain_of_ok data during hfind hcompile
        rw [hafter, tally_call_of_ok data during hfind hcompile]
        exact hinner.trans (grows_store _ path text _)
      | error failure =>
        obtain ⟨_, _, -, hafter⟩ := call_obtain_of_error data during hfind hcompile
        rw [hafter, tally_call_of_error data during hfind hcompile]
        exact hinner.trans (grows_fail _ path text)
  | drop gone =>
    rw [Session.call]
    exact grows_drop session gone
  | list =>
    rw [Session.call]
    exact Grows.refl session

theorem calls_cons_snd_result (session : Session) (first : Call ε) (rest : List (Call ε)) :
    (session.calls (first :: rest)).2.result
      = (session.call first).2.result :: ((session.call first).1.calls rest).2.result := by
  rw [calls]

theorem grows_calls (session : Session) (run : List (Call ε)) :
    Grows session (session.calls run).1 (Reply.tallyOf (session.calls run).2.result) := by
  induction session, run using run_induction with
  | nil session =>
    rw [calls]
    exact Grows.refl session
  | cons session first rest ihduring ihrest =>
    rw [calls_cons_fst, calls_cons_snd_result, Reply.tallyOf]
    refine Grows.trans (Grows.call session first ?_) ihrest
    intro path text data compile during hfirst hfind
    exact ihduring path text data compile during hfirst hfind

/-- **From the start of a run to any of its points, the session grows by the calls until then.** -/
theorem CountsTo.grows (h : CountsTo session run tally point left) : Grows session point tally := by
  induction h with
  | here session run => exact Grows.refl session
  | @next session point first rest left tally _ ih =>
    refine Grows.trans (Grows.call session first ?_) ih
    intro path text data compile during _ _
    exact grows_calls _ during
  | @inside session point path text data compile during rest left tally _ _ ih =>
    exact (grows_miss session path text).trans ih

theorem countsTo_end (session : Session) (run : List (Call ε)) :
    CountsTo session run (Reply.tallyOf (session.calls run).2.result) (session.calls run).1 [] := by
  induction run generalizing session with
  | nil =>
    rw [calls]
    exact .here session []
  | cons first rest ih =>
    rw [calls_cons_fst, calls_cons_snd_result, Reply.tallyOf]
    exact .next (ih _)

/-! ## Entries -/

theorem stepsKeep_hasDistinctKeys (session : Session) (run : List (Call ε)) :
    StepsKeep (fun point ↦ point.cache.entries.HasDistinctKeys) session run where
  reuse _ h _ := h
  miss _ h _ := h
  store _ h _ := h.put _ _
  fail _ h := h
  drop {point} gone h := by
    cases gone with
    | none => exact Table.hasDistinctKeys_empty
    | some path =>
      cases hentry : point.cache.entries.find? path with
      | none =>
        rw [drop, invalidate, hentry]
        exact h
      | some entry =>
        rw [drop, invalidate, hentry]
        exact h.erase path

/-! ## The law -/

/-- What the numbers of a cache say at a point of a run, where the tally counts the calls until
then. -/
structure ShowsTally (point : Session) (tally : Tally) : Prop where
  /-- Hits and misses together are the gets that have begun. -/
  hits_add_misses : point.cache.stats.hits + point.cache.stats.misses = tally.begun
  /-- Misses are the calls of compile functions that have begun. -/
  misses : point.cache.stats.misses = tally.compiling
  /-- Hits are the gets that have returned without compiling. -/
  hits : point.cache.stats.hits = tally.reused
  /-- The entries are counted by the size. -/
  entries : point.cache.stats.entries = point.cache.size
  /-- They are as many as there are paths with an entry. -/
  size : point.cache.size = {path | (point.cache.entries.find? path).isSome = true}.ncard
  /-- They are no more than the calls of compile functions that have given a template. -/
  size_le : point.cache.size ≤ tally.compiled

/-- What holds of the numbers of a cache in a run from an unused cache. -/
structure KeepsCount (run : List (Call ε)) : Prop where
  /-- At every point, inside compile functions too, the calls until then are counted. -/
  counted : ∀ point left, ComesTo start run point left →
    ∃ tally, CountsTo start run tally point left
  /-- At the end the replies tell how many they were. -/
  ended : CountsTo start run (Reply.tallyOf (start.calls run).2.result) (start.calls run).1 []
  /-- The cache shows what is counted. -/
  shown : ∀ tally point left, CountsTo start run tally point left → point.ShowsTally tally
  /-- Dropping anything at any point touches no counter. -/
  dropped : ∀ point gone left, ComesTo start run point (.drop gone :: left) →
    (point.call (.drop gone : Call ε)).1.cache.stats.hits = point.cache.stats.hits ∧
      (point.call (.drop gone : Call ε)).1.cache.stats.misses = point.cache.stats.misses

/-- **The counters of a cache account for every call.** -/
theorem keepsCount (run : List (Call ε)) : KeepsCount run where
  counted point left h := comesTo_iff_exists_countsTo.mp h
  ended := countsTo_end start run
  shown tally point left h := by
    have hgrows := h.grows
    have hhits : point.cache.hits = tally.reused := by
      rw [hgrows.hits]
      exact Nat.zero_add _
    have hmisses : point.cache.misses = tally.compiling := by
      rw [hgrows.misses]
      exact Nat.zero_add _
    have hkeys : point.cache.entries.HasDistinctKeys :=
      (comesTo_iff_exists_countsTo.mpr ⟨tally, h⟩).of_stepsKeep
        (stepsKeep_hasDistinctKeys start run) Table.hasDistinctKeys_empty
    have hsize := hgrows.size_le
    refine ⟨?_, hmisses, hhits, rfl, hkeys.size_eq_ncard, ?_⟩
    · rw [stats, hhits, hmisses, hgrows.begun]
    · simpa [start, empty, size, Table.size, Table.empty] using hsize
  dropped point gone left _ := by
    have hdrop := grows_drop point gone
    exact ⟨hdrop.hits, hdrop.misses⟩

/-- A compile function fails after it has filled its own path, found what it had put there, and
dropped everything: three gets, two of them compiled, one template, and no entry. -/
example :
    let compile (text : Text) : Except Unit Product := .ok (.fresh (.fixed text))
    let run : List (Call Unit) := [.obtain ['p'] ['t'] .none (fun _ ↦ .error ())
      [.obtain ['p'] ['u'] .none compile [], .obtain ['p'] ['u'] .none compile [], .drop none]]
    (start.calls run).1.cache.stats = ⟨0, 1, 2⟩ ∧
      Reply.tallyOf (start.calls run).2.result = ⟨3, 2, 1, 1⟩ := by
  decide +kernel

end Session

end Cache

end TextTemplate
