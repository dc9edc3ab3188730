import TextTemplate.Proofs.Engine.CacheTransparency
import TextTemplate.Proofs.Engine.Refusal

/-!
# What an engine takes from its settings

An engine refuses openings that are not closed as its settings say, and looks for templates where
they say. Whether it has a cache, and in which encoding it reads its own files, is taken from the
values that the settings were made from. Where these are texts and truth values that makes no
difference, but a value may mean no and still count as a yes: the words for no are texts that are
not empty. An engine that was asked for no cache in words has one.

Requests change none of this, so it is said of an engine at any moment of a run.
-/

namespace TextTemplate

/-! ## A no that counts as a yes -/

namespace Settings

/-- The value means no for a switch, but counts as a yes: it is a word for no, or a number that is
not zero but nearer to zero than to any other binary number. -/
def NoInDisguise : Value → Prop
  | .text word => switchOfWord word = .ok false
  | .bytes content => ∃ word, Utf8.decode? content = some word ∧ switchOfWord word = .ok false
  | .decimal _ d => d.isZero = false ∧ (binaryOfDecimal d).isZero = true
  | .fraction q => q ≠ 0 ∧ (Binary64.nearest (q < 0) q.num.natAbs q.den).isZero = true
  | _ => False

theorem switchOfWord_nil : switchOfWord [] = .error .neitherYesNorNo := rfl

theorem switchOfInt_eq_ok {n : Int} {answer : Bool} (h : switchOfInt n = .ok answer) :
    answer = decide (n ≠ 0) := by
  unfold switchOfInt at h
  split_ifs at h with hzero hone
  · simp [hzero, ← Except.ok.inj h]
  · simp [hone, ← Except.ok.inj h]

theorem switchOfBinary_eq_ok {x : Binary64} {answer : Bool} (h : switchOfBinary x = .ok answer) :
    answer = !x.isZero := by
  unfold switchOfBinary at h
  split_ifs at h with hzero hone
  · simp [hzero, ← Except.ok.inj h]
  · simp [hzero, ← Except.ok.inj h]

theorem isZero_binaryOfDecimal {d : Decimal} (h : d.isZero = true) :
    (binaryOfDecimal d).isZero = true := by
  cases d with
  | finite negative coefficient exponent =>
    obtain rfl : coefficient = 0 := of_decide_eq_true h
    rfl
  | _ => exact absurd h (by simp [Decimal.isZero])

theorem isZero_nearest_zero (negative : Bool) (denominator : Nat) :
    (Binary64.nearest negative 0 denominator).isZero = true := rfl

theorem isEmpty_of_switchOfWord {word : Text} {answer : Bool}
    (h : switchOfWord word = .ok answer) : word.isEmpty = false := by
  cases word with
  | nil => exact absurd h (by rw [switchOfWord_nil]; simp)
  | cons c word => rfl

/-- **What counts as a yes among the values that mean yes or no**: those that mean yes, and those
that mean no in disguise. -/
theorem isTruthy_iff_of_switchOf {value : Value} {answer : Bool}
    (h : switchOf value = .ok answer) :
    value.isTruthy = true ↔ answer = true ∨ NoInDisguise value := by
  cases value with
  | bool b => simp [Value.isTruthy, NoInDisguise, Except.ok.inj h]
  | int n => simp [Value.isTruthy, NoInDisguise, switchOfInt_eq_ok h]
  | float _ x => simp [Value.isTruthy, NoInDisguise, switchOfBinary_eq_ok h]
  | decimal _ d =>
    rw [Value.isTruthy, NoInDisguise, switchOfBinary_eq_ok h]
    -- A zero comes to a binary zero, but so do other numbers close to it.
    by_cases hzero : d.isZero = true
    · simp [hzero, isZero_binaryOfDecimal hzero]
    · cases (binaryOfDecimal d).isZero <;> simp [hzero]
  | fraction q =>
    rw [Value.isTruthy, NoInDisguise, switchOfBinary_eq_ok h]
    by_cases hzero : q = 0
    · simp [hzero, isZero_nearest_zero]
    · cases (Binary64.nearest (q < 0) q.num.natAbs q.den).isZero <;> simp [hzero]
  | text word =>
    have hword : switchOfWord word = .ok answer := h
    rw [Value.isTruthy, NoInDisguise, isEmpty_of_switchOfWord hword, hword]
    cases answer <;> simp
  | bytes content =>
    cases hdecode : Utf8.decode? content with
    | none => exact absurd h (by simp [switchOf, hdecode])
    | some word =>
      have hword : switchOfWord word = .ok answer := by simpa [switchOf, hdecode] using h
      have hcontent : content.isEmpty = false := by
        cases content with
        | nil =>
          rw [Utf8.decode?, Option.some.injEq] at hdecode
          rw [← hdecode, switchOfWord_nil] at hword
          exact absurd hword (by simp)
        | cons b content => rfl
      rw [Value.isTruthy, NoInDisguise, hcontent, hdecode]
      cases answer <;> simp [hword]
  | _ => exact absurd h (by simp [switchOf])

theorem NoInDisguise.switchOf_eq {value : Value} (h : NoInDisguise value) :
    switchOf value = .ok false := by
  cases value with
  | text word => exact h
  | bytes content =>
    obtain ⟨word, hdecode, hword⟩ := h
    simp only [switchOf, hdecode, hword]
  | decimal _ d => exact if_pos h.2
  | fraction q => exact if_pos h.2
  | _ => exact h.elim

end Settings

namespace Engine

open Settings (NoInDisguise)
open Template (UnclosedAt)

/-! ## What a run leaves as it is -/

theorem isSome_cache_compileText (engine : Engine) (text : Text) (name : Option Text) :
    (engine.compileText text name).1.cache.isSome = engine.cache.isSome := by
  obtain ⟨made, hmade⟩ := compileText_fst engine text name
  rw [hmade]

theorem isSome_cache_compileAt (engine : Engine) (path text : Text) :
    (engine.compileAt path text).1.cache.isSome = engine.cache.isSome := by
  cases hcache : engine.cache with
  | none => rw [compileAt_of_cache_eq_none hcache, isSome_cache_compileText, hcache]
  | some cache =>
    cases hfind : cache.find? path text with
    | some compiled => rw [compileAt_of_find?_eq_some hcache hfind]; rfl
    | none => rw [(compileAt_of_find?_eq_none hcache hfind).2]; rfl

theorem isSome_cache_compile (engine : Engine) (path : Text) :
    (engine.compile path).1.cache.isSome = engine.cache.isSome := by
  cases hread : (engine.source.store.read (engine.resolve path)).result with
  | error failure => rw [(compile_of_read_eq_error hread).1, ask]
  | ok text => rw [(compile_of_read_eq_ok hread).1, isSome_cache_compileAt, ask]

/-- No request makes or takes away a cache. -/
theorem isSome_cache_afterRequest (engine : Engine) (request : Request) :
    (engine.afterRequest request).cache.isSome = engine.cache.isSome := by
  cases request with
  | render path data | compile path _ => exact isSome_cache_compile engine path
  | renderText text data name => exact isSome_cache_compileText engine text name
  | invalidate path =>
    rw [afterRequest, invalidate]
    cases hcache : engine.cache with
    | none => exact congrArg Option.isSome hcache
    | some cache => rfl
  | _ => rfl

/-- The encoding in which the files of a source are read, if it has files. -/
def filesEncoding? (source : Source) : Option (Option Text) :=
  match source.store with
  | .memory _ => none
  | .files files => some files.encoding

theorem filesEncoding?_sourceAfter (resolve : Text → Text) (source : Source) (request : Request) :
    filesEncoding? (request.sourceAfter resolve source) = filesEncoding? source := by
  obtain ⟨store, asked⟩ := source
  cases request with
  | change edit => cases store <;> rfl
  | _ => rfl

theorem filesEncoding?_afterRequest (engine : Engine) (request : Request) :
    filesEncoding? (engine.afterRequest request).source = filesEncoding? engine.source := by
  rw [afterRequest_source, filesEncoding?_sourceAfter]

/-! ## What is refused -/

variable {engine : Engine} {texts : Set Text}

theorem compile_eq_error_iff (hdigest : texts.InjOn Digest.ofText) (h : engine.Faithful texts)
    {path text : Text} (htext : text ∈ texts)
    (hread : (engine.source.store.read (engine.resolve path)).result = .ok text)
    {failure : TemplateFailure} :
    (engine.compile path).2.result = .error (.template failure) ↔
      engine.settings.planOf (some (engine.resolve path)) text = .error failure := by
  have hreads : engine.ReadsFrom texts path := by
    intro other hother
    rw [hread] at hother
    rwa [← Except.ok.inj hother]
  have hplan := compile_result hdigest h hreads
  rw [planAt, hread, Except.bind] at hplan
  cases hcompile : (engine.compile path).2.result <;>
    cases hfresh : engine.settings.planOf (some (engine.resolve path)) text <;>
    simp_all [Except.map, Except.mapError]

/-! ## The engine -/

/-- What an engine does by its settings, and by the values that its encoding and its cache were
asked for with. The texts are those that it has read. -/
structure FollowsSettings (supply : Supply) (encoding cacheEnabled : Option Value)
    (texts : Set Text) (engine : Engine) : Prop where
  /-- There is a cache exactly if the settings ask for one, unless a no counts as a yes. -/
  cache_iff : (engine.cache.isSome = true ↔ engine.settings.cacheEnabled = true) ↔
    ∀ value ∈ cacheEnabled, ¬ NoInDisguise value
  /-- If a no counts as a yes, there is a cache that the settings do not ask for. -/
  cache_of_disguise : ∀ value ∈ cacheEnabled, NoInDisguise value →
    engine.settings.cacheEnabled = false ∧ engine.cache.isSome = true
  /-- A text with an opening that is not closed is refused exactly if the settings are strict. -/
  text_refused_iff : ∀ text data name, (∃ offset, UnclosedAt text offset) →
    ((∃ position, (engine.renderText text data name).2.result
        = .error (.template (.unclosedAt position name))) ↔
      engine.settings.strict = true)
  /-- So is the template at a path, if digests tell its text from those that were read before. -/
  template_refused_iff : ∀ path text,
    (engine.source.store.read (engine.resolve path)).result = .ok text →
      (∃ offset, UnclosedAt text offset) → (insert text texts).InjOn Digest.ofText →
        ((∃ position, (engine.compile path).2.result
            = .error (.template (.unclosedAt position (some (engine.resolve path))))) ↔
          engine.settings.strict = true) ∧
        ∀ data, (∃ position, (engine.render path data).2.result
            = .error (.template (.unclosedAt position (some (engine.resolve path))))) ↔
          engine.settings.strict = true
  /-- A template is looked for under the directory of the settings. -/
  asked_eq : ∀ path, (engine.compile path).1.source.asked
    = (if engine.settings.root = ['/'] then '/' :: path else engine.settings.root ++ '/' :: path)
      :: engine.source.asked
  /-- The engine's own files are read in the encoding of the settings, if it was not given as a byte
  string. -/
  own_files : ∀ system codecs, supply = .files system codecs →
    (∀ content, encoding ≠ some (.bytes content)) →
      ∃ files, engine.source.store = .files files ∧
        files.encoding = some engine.settings.encoding

variable {supply : Supply} {root : Value} {encoding strict cacheEnabled : Option Value}

theorem isSome_cache_of_build
    (hbuilt : build supply root encoding strict cacheEnabled = .ok engine) :
    engine.cache.isSome = true ↔
      engine.settings.cacheEnabled = true ∨ ∃ value ∈ cacheEnabled, NoInDisguise value := by
  obtain ⟨-, hsettings, hcache, -, -⟩ := build_eq_ok_iff.mp hbuilt
  have hswitch := (Settings.ofInput_eq_ok_iff.mp hsettings).2.2.2
  rw [hcache]
  cases cacheEnabled with
  | none =>
    have hdisabled : engine.settings.cacheEnabled = false := (Except.ok.inj hswitch).symm
    simp [hdisabled]
  | some value =>
    have htruthy := Settings.isTruthy_iff_of_switchOf hswitch
    by_cases hyes : value.isTruthy = true <;> simp_all

theorem encodingName_of_build
    (hbuilt : build supply root encoding strict cacheEnabled = .ok engine)
    (hbytes : ∀ content, encoding ≠ some (.bytes content)) :
    encodingName encoding = some engine.settings.encoding := by
  obtain ⟨-, hsettings, -, -, -⟩ := build_eq_ok_iff.mp hbuilt
  have hencoding := (Settings.ofInput_eq_ok_iff.mp hsettings).2.1
  cases encoding with
  | none => simpa [encodingName, Settings.readOr] using hencoding
  | some value =>
    cases value with
    | text name => simpa [encodingName, Settings.readOr, Settings.textOf] using hencoding
    | bytes content => exact absurd rfl (hbytes content)
    | _ => exact absurd hencoding (by simp [Settings.readOr, Settings.textOf])

theorem cacheEnabled_of_build
    (hbuilt : build supply root encoding strict cacheEnabled = .ok engine)
    (hno : ∃ value ∈ cacheEnabled, NoInDisguise value) : engine.settings.cacheEnabled = false := by
  obtain ⟨-, hsettings, -, -, -⟩ := build_eq_ok_iff.mp hbuilt
  have hswitch := (Settings.ofInput_eq_ok_iff.mp hsettings).2.2.2
  obtain ⟨value, rfl, hno⟩ := hno
  exact (Except.ok.inj (hno.switchOf_eq.symm.trans hswitch)).symm

theorem ownFiles_run_of_build {system : FileSystem} {codecs : Codecs}
    (hbuilt : build (.files system codecs) root encoding strict cacheEnabled = .ok engine)
    (requests : List Request) :
    ∃ files, ((Session.start engine).run requests).1.engine.source.store = .files files ∧
      files.encoding = encodingName encoding := by
  obtain ⟨-, -, -, hsource, -⟩ := build_eq_ok_iff.mp hbuilt
  have hkept : filesEncoding? ((Session.start engine).run requests).1.engine.source
      = some (encodingName encoding) := by
    rw [Session.run_constant (filesEncoding? ·.source) filesEncoding?_afterRequest, Session.start,
      hsource]
    rfl
  rw [filesEncoding?] at hkept
  cases hstore : ((Session.start engine).run requests).1.engine.source.store with
  | memory memory =>
    rw [hstore] at hkept
    exact nomatch hkept
  | files files =>
    rw [hstore] at hkept
    exact ⟨files, rfl, Option.some.inj hkept⟩

theorem faithful_of_build (texts : Set Text)
    (hbuilt : build supply root encoding strict cacheEnabled = .ok engine) :
    engine.Faithful texts := by
  obtain ⟨-, -, hcache, -, -⟩ := build_eq_ok_iff.mp hbuilt
  intro cache hmem
  rw [hcache] at hmem
  split_ifs at hmem
  · obtain rfl : Cache.empty = cache := Option.some.inj hmem
    exact Cache.faithful_empty
  · exact nomatch hmem

/-- The template at a path is refused as its settings say, however the cache came about. -/
theorem compile_refused_iff (hfaithful : engine.Faithful texts)
    (hdigest : texts.InjOn Digest.ofText) {path text : Text} (htext : text ∈ texts)
    (hread : (engine.source.store.read (engine.resolve path)).result = .ok text)
    (hunclosed : ∃ offset, UnclosedAt text offset) :
    (∃ position, (engine.compile path).2.result
        = .error (.template (.unclosedAt position (some (engine.resolve path))))) ↔
      engine.settings.strict = true := by
  rw [← Settings.exists_planOf_eq_error_iff (some (engine.resolve path)) hunclosed]
  exact exists_congr fun position ↦ compile_eq_error_iff hdigest hfaithful htext hread

/-- **What an engine that was built takes from its settings**, at any moment of a run. -/
theorem build_followsSettings
    (hbuilt : build supply root encoding strict cacheEnabled = .ok engine)
    (requests : List Request) :
    Settings.ofInput ⟨some root, encoding, strict, cacheEnabled⟩
        = .ok ((Session.start engine).run requests).1.engine.settings ∧
      FollowsSettings supply encoding cacheEnabled
        {text | text ∈ (Session.start engine).textsRead requests}
        ((Session.start engine).run requests).1.engine := by
  obtain ⟨-, hsettings, -, -, -⟩ := build_eq_ok_iff.mp hbuilt
  have hnow : ((Session.start engine).run requests).1.engine.settings = engine.settings :=
    Session.run_settings ..
  have hsome : ((Session.start engine).run requests).1.engine.cache.isSome = true ↔
      engine.settings.cacheEnabled = true ∨ ∃ value ∈ cacheEnabled, NoInDisguise value := by
    rw [Session.run_constant (·.cache.isSome) isSome_cache_afterRequest]
    exact isSome_cache_of_build hbuilt
  refine ⟨hnow ▸ hsettings, ?_, ?_, ?_, ?_, ?_, ?_⟩
  · rw [hsome, hnow]
    by_cases hno : ∃ value ∈ cacheEnabled, NoInDisguise value
    · have hoff := cacheEnabled_of_build hbuilt hno
      simp_all
    · simp_all
  · intro value hvalue hno
    rw [hsome, hnow]
    exact ⟨cacheEnabled_of_build hbuilt ⟨value, hvalue, hno⟩, Or.inr ⟨value, hvalue, hno⟩⟩
  · intro text data name hunclosed
    rw [← Settings.exists_planOf_eq_error_iff name hunclosed]
    exact exists_congr fun position ↦ renderText_eq_error_template_iff
  · intro path text hread hunclosed hdigest
    -- The cache may hold the texts that were read before, so those are told apart, too.
    have hfaithful : ((Session.start engine).run requests).1.engine.Faithful
        (insert text {text | text ∈ (Session.start engine).textsRead requests}) :=
      Session.faithful_run (faithful_of_build _ hbuilt) fun other hother ↦
        Set.mem_insert_of_mem text hother
    have hcompile := compile_refused_iff hfaithful hdigest (Set.mem_insert text _) hread hunclosed
    refine ⟨hcompile, fun data ↦ ?_⟩
    rw [← hcompile]
    exact exists_congr fun position ↦ render_eq_error_template_iff
  · intro path
    obtain ⟨cache, made, hcompile⟩ :=
      compile_fst ((Session.start engine).run requests).1.engine path
    rw [hcompile]
    rfl
  · rintro system codecs rfl hbytes
    obtain ⟨files, hstore, hencoding⟩ := ownFiles_run_of_build hbuilt requests
    exact ⟨files, hstore, by rw [hencoding, hnow, encodingName_of_build hbuilt hbytes]⟩

private def noFiles : Supply := .files (.usual .empty []) .none

/-- An engine without any files that keeps openings that are not closed, and has a cache. -/
private def wordyEngine : Engine where
  settings := ⟨['r'], Settings.usualEncoding, false, false⟩
  cache := some .empty
  source := noFiles.source none
  made := 0

/-- Both switches are given as words for no. -/
theorem build_followsSettings_words :
    build noFiles (.text ['r', '/']) none (some (.text "FALSE".toList))
        (some (.text "Off".toList)) = .ok wordyEngine ∧
      Settings.ofInput ⟨some (.text ['r', '/']), none, some (.text "FALSE".toList),
        some (.text "Off".toList)⟩
          = .ok ((Session.start wordyEngine).run [.invalidate none]).1.engine.settings ∧
      FollowsSettings noFiles none (some (.text "Off".toList))
        {text | text ∈ (Session.start wordyEngine).textsRead [.invalidate none]}
        ((Session.start wordyEngine).run [.invalidate none]).1.engine := by
  have hbuilt : build noFiles (.text ['r', '/']) none (some (.text "FALSE".toList))
      (some (.text "Off".toList)) = .ok wordyEngine := rfl
  exact ⟨hbuilt, build_followsSettings hbuilt [.invalidate none]⟩

/-- An engine that was asked for no cache has one. -/
theorem exists_built_against_settings :
    ∃ engine, build noFiles (.text ['r']) none none (some (.text "off".toList)) = .ok engine ∧
      engine.settings.cacheEnabled = false ∧ engine.cache.isSome = true :=
  ⟨_, rfl, rfl, rfl⟩

end Engine

end TextTemplate
