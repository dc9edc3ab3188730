import TextTemplate.Proofs.Engine.FollowsSettings
import TextTemplate.Proofs.Source.FileText

/-!
# How templates in files fail

Whoever renders templates out of files has to be ready for three failures of templates: there is no
file, the file cannot be read, or its text has an opening that is not closed. The first two have the
path that was looked for, and what they say of the files is true.

These are not all. A null character in the path or in the name of the encoding, a character of the
path that file names cannot have, a name of an encoding that nothing decodes, and a decoder that
fails for other reasons than the bytes are no failures of a template, and they are not made into
one. The last two come out only when there is a file to decode, so a missing file is missing in any
encoding.

## How this is proved

`ReadFailure` and `CompileFailure` list the failures with their reasons. Reading and compiling fail
with what is listed and with nothing else; all the rest is read off the lists.
-/

namespace TextTemplate

namespace Files

variable {files : Files} {name path : Text} {failure : RenderFailure}

/-! ## Reading -/

/-- The files can be asked for the path, in an encoding of this name. -/
structure CanAsk (files : Files) (name path : Text) : Prop where
  no_null : '\x00' ∉ name
  isAskable : files.IsAskable path

/-- Why there is no text to be read at a path, in the encoding of this name. -/
inductive ReadFailure (files : Files) (name path : Text) : RenderFailure → Prop
  | nullInEncoding (hname : '\x00' ∈ name) : ReadFailure files name path .nullInEncoding
  | unwritablePath (hname : '\x00' ∉ name) (hpath : files.system.canWrite path = false) :
    ReadFailure files name path .unwritablePath
  | nullInPath (hname : '\x00' ∉ name) (hwrite : files.system.canWrite path = true)
      (hpath : '\x00' ∈ path) : ReadFailure files name path .nullInPath
  /-- There is no file. -/
  | absent {cause : OpenFailure} (hask : files.CanAsk name path)
      (h : files.system.Unopened (.ofText path) cause) (habsent : cause.isAbsence = true) :
    ReadFailure files name path (.template (.notFound path))
  /-- The system does not open the file, for another reason. -/
  | refused {cause : OpenFailure} (hask : files.CanAsk name path)
      (h : files.system.Unopened (.ofText path) cause) (hother : cause.isAbsence = false) :
    ReadFailure files name path
      (.template (.unreadable path (cause.reason (Location.ofText path).text)))
  /-- There is a file, but nothing decodes it. -/
  | noDecoder {content : List UInt8} {reason : Text} (hask : files.CanAsk name path)
      (h : files.system.HasFile (.ofText path) content)
      (hdecoder : Encoding.decoder files.codecs name = .error reason) :
    ReadFailure files name path (.noDecoder reason)
  /-- The file holds no text in the encoding. -/
  | undecodable {content : List UInt8} {decoder : List UInt8 → Decoded}
      (hask : files.CanAsk name path) (h : files.system.HasFile (.ofText path) content)
      (hdecoder : Encoding.decoder files.codecs name = .ok decoder)
      (hbytes : decoder content = .invalid) :
    ReadFailure files name path (.template (.unreadable path ("not valid ".toList ++ name)))
  /-- The decoder fails for another reason. -/
  | decoderFailed {content : List UInt8} {decoder : List UInt8 → Decoded} {reason : Text}
      (hask : files.CanAsk name path) (h : files.system.HasFile (.ofText path) content)
      (hdecoder : Encoding.decoder files.codecs name = .ok decoder)
      (hbytes : decoder content = .failed reason) :
    ReadFailure files name path (.decoderFailed reason)

/-- Something decodes what the path has, if it has a file, and does not fail of itself. -/
def CanDecode (files : Files) (name path : Text) : Prop :=
  ∀ content, files.system.HasFile (.ofText path) content →
    ∃ decoder, Encoding.decoder files.codecs name = .ok decoder ∧
      ∀ reason, decoder content ≠ .failed reason

/-- Where the files can be asked, and decoded if they are there, the failure is one of the
template. -/
theorem ReadFailure.exists_template (h : ReadFailure files name path failure)
    (hask : files.CanAsk name path) (hdecode : files.CanDecode name path) :
    ∃ refusal, failure = .template refusal := by
  cases h with
  | nullInEncoding hname => exact absurd hname hask.no_null
  | unwritablePath hname hpath =>
    rw [hask.isAskable.canWrite] at hpath
    exact Bool.noConfusion hpath
  | nullInPath hname hwrite hpath => exact absurd hpath hask.isAskable.no_null
  | noDecoder hask h hdecoder =>
    obtain ⟨decoder, hknown, -⟩ := hdecode _ h
    rw [hdecoder] at hknown
    cases hknown
  | decoderFailed hask h hdecoder hbytes =>
    obtain ⟨decoder, hknown, hnever⟩ := hdecode _ h
    obtain rfl := Except.ok.inj (hdecoder.symm.trans hknown)
    exact absurd hbytes (hnever _)
  | absent | refused | undecodable => exact ⟨_, rfl⟩

theorem refuse_of_isAbsence {cause : OpenFailure} (h : cause.isAbsence = true) (opened : Text) :
    (refuse path opened cause).result = .error (.template (.notFound path)) := by
  rw [refuse, if_pos h]
  rfl

theorem refuse_of_not_isAbsence {cause : OpenFailure} (h : cause.isAbsence = false)
    (opened : Text) : (refuse path opened cause).result
      = .error (.template (.unreadable path (cause.reason opened))) := by
  rw [refuse, h, if_neg Bool.false_ne_true]

theorem ReadFailure.read_eq (h : ReadFailure files name path failure)
    (hencoding : files.encoding = some name) : (files.read path).result = .error failure := by
  cases h with
  | nullInEncoding hname => exact read_of_null_in_encoding hencoding hname
  | unwritablePath hname hpath => exact read_of_unwritable hencoding hname hpath
  | nullInPath hname hwrite hpath => exact read_of_null_in_path hencoding hname hwrite hpath
  | absent hask h habsent =>
    rw [read_of_isAskable hencoding hask.no_null hask.isAskable,
      FileSystem.open?_eq_error_iff.mpr h]
    exact refuse_of_isAbsence habsent _
  | refused hask h hother =>
    rw [read_of_isAskable hencoding hask.no_null hask.isAskable,
      FileSystem.open?_eq_error_iff.mpr h]
    exact refuse_of_not_isAbsence hother _
  | noDecoder hask h hdecoder =>
    rw [read_of_holds hencoding hask.no_null ⟨hask.isAskable, h⟩, decode, hdecoder]
  | undecodable hask h hdecoder hbytes | decoderFailed hask h hdecoder hbytes =>
    simp only [read_of_holds hencoding hask.no_null ⟨hask.isAskable, h⟩, decode, hdecoder, hbytes]

theorem exists_text_or_readFailure (hencoding : files.encoding = some name) (path : Text) :
    (∃ text, (files.read path).result = .ok text) ∨
      ∃ failure, ReadFailure files name path failure := by
  by_cases hname : '\x00' ∈ name
  · exact Or.inr ⟨_, .nullInEncoding hname⟩
  cases hwrite : files.system.canWrite path with
  | false => exact Or.inr ⟨_, .unwritablePath hname hwrite⟩
  | true =>
  by_cases hpath : '\x00' ∈ path
  · exact Or.inr ⟨_, .nullInPath hname hwrite hpath⟩
  have hask : files.CanAsk name path := ⟨hname, hwrite, hpath⟩
  cases hopen : files.system.open? (.ofText path) with
  | error cause =>
    have hunopened := FileSystem.open?_eq_error_iff.mp hopen
    cases habsent : cause.isAbsence with
    | true => exact Or.inr ⟨_, .absent hask hunopened habsent⟩
    | false => exact Or.inr ⟨_, .refused hask hunopened habsent⟩
  | ok content =>
    have hfile := FileSystem.open?_eq_ok_iff.mp hopen
    cases hdecoder : Encoding.decoder files.codecs name with
    | error reason => exact Or.inr ⟨_, .noDecoder hask hfile hdecoder⟩
    | ok decoder =>
      cases hbytes : decoder content with
      | invalid => exact Or.inr ⟨_, .undecodable hask hfile hdecoder hbytes⟩
      | failed reason => exact Or.inr ⟨_, .decoderFailed hask hfile hdecoder hbytes⟩
      | text characters =>
        refine Or.inl ⟨characters, ?_⟩
        simp only [read_of_holds hencoding hname ⟨hask.isAskable, hfile⟩, decode, hdecoder, hbytes]

/-- **Reading fails with what is listed and with nothing else.** -/
theorem read_eq_error_iff (hencoding : files.encoding = some name) :
    (files.read path).result = .error failure ↔ ReadFailure files name path failure := by
  constructor
  · intro hread
    obtain ⟨text, htext⟩ | ⟨other, hother⟩ := exists_text_or_readFailure hencoding path
    · rw [hread] at htext
      exact absurd htext (by simp)
    · obtain rfl := Except.error.inj (hread.symm.trans (hother.read_eq hencoding))
      exact hother
  · exact fun hfailure ↦ hfailure.read_eq hencoding

end Files

namespace Engine

open Files (ReadFailure)
open Template (UnclosedAt)

variable {engine : Engine} {system : FileSystem} {codecs : Codecs} {root : Value}
  {encoding strict cacheEnabled : Option Value} {name path : Text} {failure : RenderFailure}

/-! ## Compiling -/

/-- Why the text at a resolved path is not compiled: it is not read, or strict reading refuses it at
its first opening that is not closed. -/
inductive CompileFailure (files : Files) (name : Text) (strict : Bool) (path : Text) :
    RenderFailure → Prop
  | read {failure : RenderFailure} (h : ReadFailure files name path failure) :
    CompileFailure files name strict path failure
  | unclosed {text : Text} {offset : Nat} (hread : (files.read path).result = .ok text)
    (hstrict : strict = true) (hleast : IsLeast {offset | UnclosedAt text offset} offset) :
    CompileFailure files name strict path
      (.template (.unclosedAt (Position.ofOffset text offset) (some path)))

/-- An engine that was just built compiles what it reads, unless its settings refuse the text. -/
theorem compile_eq_error_iff_of_build {supply : Supply} {text : Text}
    (hbuilt : build supply root encoding strict cacheEnabled = .ok engine)
    (hread : (engine.source.store.read (engine.resolve path)).result = .ok text) :
    (engine.compile path).2.result = .error failure ↔
      ∃ refusal, failure = .template refusal ∧
        engine.settings.planOf (some (engine.resolve path)) text = .error refusal := by
  -- Nothing was compiled before, so there are no digests to be told apart.
  have hcompile {refusal : TemplateFailure} :
      (engine.compile path).2.result = .error (.template refusal) ↔
        engine.settings.planOf (some (engine.resolve path)) text = .error refusal :=
    compile_eq_error_iff (Set.injOn_singleton _ _) (faithful_of_build {text} hbuilt)
      (Set.mem_singleton text) hread
  constructor
  · intro h
    obtain ⟨refusal, rfl⟩ : ∃ refusal, failure = .template refusal := by
      rw [(compile_of_read_eq_ok hread).2] at h
      cases hresult : ((engine.ask path).compileAt (engine.resolve path) text).2.result with
      | ok compiled => simp [hresult, Except.mapError] at h
      | error refusal =>
        rw [hresult] at h
        exact ⟨refusal, (Except.error.inj h).symm⟩
    exact ⟨refusal, rfl, hcompile.mp h⟩
  · rintro ⟨refusal, rfl, hplan⟩
    exact hcompile.mpr hplan

theorem store_of_build
    (hbuilt : build (.files system codecs) root encoding strict cacheEnabled = .ok engine) :
    engine.source.store = .files ⟨system, codecs, encodingName encoding⟩ := by
  obtain ⟨-, -, -, hsource, -⟩ := build_eq_ok_iff.mp hbuilt
  rw [hsource]
  rfl

/-- **Compiling fails with what is listed and with nothing else.** -/
theorem compile_eq_error_iff_compileFailure
    (hbuilt : build (.files system codecs) root encoding strict cacheEnabled = .ok engine)
    (hname : encodingName encoding = some name) :
    (engine.compile path).2.result = .error failure ↔
      CompileFailure ⟨system, codecs, some name⟩ name engine.settings.strict (engine.resolve path)
        failure := by
  have hstore : engine.source.store = .files ⟨system, codecs, some name⟩ :=
    hname ▸ store_of_build hbuilt
  have hasked : (engine.source.store.read (engine.resolve path)).result
      = (Files.read ⟨system, codecs, some name⟩ (engine.resolve path)).result := by
    rw [hstore]
    rfl
  cases hread : (Files.read ⟨system, codecs, some name⟩ (engine.resolve path)).result with
  | error reason =>
    rw [(compile_of_read_eq_error (hasked.trans hread)).2]
    constructor
    · intro h
      obtain rfl := Except.error.inj h
      exact .read ((Files.read_eq_error_iff rfl).mp hread)
    · rintro (h | ⟨htext, -, -⟩)
      · obtain rfl := Except.error.inj (hread.symm.trans (h.read_eq rfl))
        rfl
      · rw [hread] at htext
        exact absurd htext (by simp)
  | ok text =>
    rw [compile_eq_error_iff_of_build hbuilt (hasked.trans hread)]
    constructor
    · rintro ⟨refusal, rfl, hplan⟩
      obtain ⟨hstrict, hrefused⟩ := Settings.planOf_eq_error_iff.mp hplan
      obtain ⟨offset, hleast, rfl⟩ := Template.read_strict_eq_error_iff.mp hrefused
      exact .unclosed hread hstrict hleast
    · rintro (h | ⟨htext, hstrict, hleast⟩)
      · rw [h.read_eq rfl] at hread
        exact absurd hread (by simp)
      · rw [hread] at htext
        obtain rfl := Except.ok.inj htext
        exact ⟨_, rfl, Settings.planOf_eq_error_iff.mpr
          ⟨hstrict, Template.read_strict_eq_error_iff.mpr ⟨_, hleast, rfl⟩⟩⟩

/-! ## The failures one by one -/

/-- How compiling the template at a path fails when templates are read from these files, decoded in
the encoding of this name. -/
structure FailsByFiles (files : Files) (name : Text) (engine : Engine) (path : Text) : Prop where
  /-- Compiling fails with what is listed and with nothing else. -/
  fails_iff : ∀ failure, (engine.compile path).2.result = .error failure ↔
    CompileFailure files name engine.settings.strict (engine.resolve path) failure
  /-- A template is not found exactly if the system says that there is no file at the resolved path,
  and this is the path that the failure has. -/
  notFound_iff : ∀ asked, (engine.compile path).2.result = .error (.template (.notFound asked)) ↔
    asked = engine.resolve path ∧ files.CanAsk name asked ∧
      ∃ cause, files.system.Unopened (.ofText asked) cause ∧ cause.isAbsence = true
  /-- A template is not readable exactly if the system does not open the resolved path for another
  reason, or the bytes are not valid. -/
  unreadable_iff : ∀ asked reason,
    (engine.compile path).2.result = .error (.template (.unreadable asked reason)) ↔
      asked = engine.resolve path ∧ files.CanAsk name asked ∧
        ((∃ cause, files.system.Unopened (.ofText asked) cause ∧ cause.isAbsence = false ∧
            reason = cause.reason (Location.ofText asked).text) ∨
          ∃ content decoder, files.system.HasFile (.ofText asked) content ∧
            Encoding.decoder files.codecs name = .ok decoder ∧ decoder content = .invalid ∧
            reason = "not valid ".toList ++ name)
  /-- Any other failure of a template is an opening that is not closed. -/
  otherwise : ∀ failure, (engine.compile path).2.result = .error (.template failure) →
    (∀ asked, failure ≠ .notFound asked) → (∀ asked reason, failure ≠ .unreadable asked reason) →
      ∃ position, failure = .unclosedAt position (some (engine.resolve path))
  /-- All failures are failures of templates, except where the files cannot be asked, or there is a
  file and no decoder for it, or one that fails of itself. -/
  template_iff : (∀ failure, (engine.compile path).2.result = .error failure →
      ∃ refusal, failure = .template refusal) ↔
    files.CanAsk name (engine.resolve path) ∧ files.CanDecode name (engine.resolve path)

theorem canAsk_and_canDecode_of_template {files : Files}
    (htemplate : ∀ failure, ReadFailure files name path failure →
      ∃ refusal, failure = .template refusal) :
    files.CanAsk name path ∧ files.CanDecode name path := by
  have hnever {failure : RenderFailure} (hother : ∀ refusal, failure ≠ .template refusal) :
      ¬ ReadFailure files name path failure := by
    intro h
    obtain ⟨refusal, hrefusal⟩ := htemplate failure h
    exact hother refusal hrefusal
  have hencoding : '\x00' ∉ name := fun h ↦ hnever (by simp) (.nullInEncoding h)
  have hwrite : files.system.canWrite path = true := by
    rw [← Bool.not_eq_false]
    exact fun h ↦ hnever (by simp) (.unwritablePath hencoding h)
  have hnull : '\x00' ∉ path := fun h ↦ hnever (by simp) (.nullInPath hencoding hwrite h)
  have hask : files.CanAsk name path := ⟨hencoding, hwrite, hnull⟩
  refine ⟨hask, fun content hfile ↦ ?_⟩
  cases hdecoder : Encoding.decoder files.codecs name with
  | error reason => exact absurd (.noDecoder hask hfile hdecoder) (hnever (by simp))
  | ok decoder =>
    refine ⟨decoder, rfl, fun reason hbytes ↦ ?_⟩
    exact hnever (by simp) (.decoderFailed hask hfile hdecoder hbytes)

/-- **How an engine fails that was built over files.** -/
theorem failsByFiles_of_build
    (hbuilt : build (.files system codecs) root encoding strict cacheEnabled = .ok engine)
    (hname : encodingName encoding = some name) (path : Text) :
    FailsByFiles ⟨system, codecs, some name⟩ name engine path := by
  have hfails {failure : RenderFailure} : (engine.compile path).2.result = .error failure ↔
      CompileFailure ⟨system, codecs, some name⟩ name engine.settings.strict (engine.resolve path)
        failure := compile_eq_error_iff_compileFailure hbuilt hname
  refine ⟨fun _ ↦ hfails, fun asked ↦ ?_, fun asked reason ↦ ?_, fun failure h hfound hread ↦ ?_,
    ?_⟩
  · rw [hfails]
    constructor
    · rintro (h | _)
      cases h with
      | absent hask h habsent => exact ⟨rfl, hask, _, h, habsent⟩
    · rintro ⟨rfl, hask, cause, h, habsent⟩
      exact .read (.absent hask h habsent)
  · rw [hfails]
    constructor
    · rintro (h | _)
      cases h with
      | refused hask h hother => exact ⟨rfl, hask, Or.inl ⟨_, h, hother, rfl⟩⟩
      | undecodable hask h hdecoder hbytes =>
        exact ⟨rfl, hask, Or.inr ⟨_, _, h, hdecoder, hbytes, rfl⟩⟩
    · rintro ⟨rfl, hask, ⟨cause, h, hother, rfl⟩ | ⟨content, decoder, h, hdecoder, hbytes, rfl⟩⟩
      · exact .read (.refused hask h hother)
      · exact .read (.undecodable hask h hdecoder hbytes)
  · obtain h | ⟨-, -, -⟩ := hfails.mp h
    · cases h with
      | absent => exact absurd rfl (hfound _)
      | refused | undecodable => exact absurd rfl (hread _ _)
    · exact ⟨_, rfl⟩
  · constructor
    · intro htemplate
      exact canAsk_and_canDecode_of_template fun failure h ↦
        htemplate failure (hfails.mpr (.read h))
    · rintro ⟨hask, hdecode⟩ failure hfailure
      obtain h | ⟨-, -, -⟩ := hfails.mp hfailure
      · exact h.exists_template hask hdecode
      · exact ⟨_, rfl⟩

private def denied : OpenFailure := ⟨13, "Permission denied".toList⟩

/-- A directory with a file, whose one byte begins nothing in UTF-8, a directory, and a file that the
system does not open. -/
private def brokenSystem : FileSystem where
  root := .directory (.ofList [(['r'], .directory (.ofList
    [(['a'], .file [0xFF]), (['d'], .empty), (['s'], .file [])]))])
  workingDirectory := []
  width? := (FileSystem.usual .empty []).width?
  width?_ascii := (FileSystem.usual .empty []).width?_ascii
  refusal? names := if names = [['r'], ['s']] then some denied else none

private def brokenEngine : Engine where
  settings := ⟨['/', 'r'], Settings.usualEncoding, true, false⟩
  cache := none
  source := .ofStore (.files ⟨brokenSystem, .none, some Settings.usualEncoding⟩)
  made := 0

/-- The first and the last file are not readable. At the directory, and below the file, none is
found. -/
theorem failsByFiles_of_build_broken :
    build (.files brokenSystem .none) (.text ['/', 'r']) none none none = .ok brokenEngine ∧
      encodingName none = some Settings.usualEncoding ∧
      FailsByFiles ⟨brokenSystem, .none, some Settings.usualEncoding⟩ Settings.usualEncoding
        brokenEngine ['a'] ∧
      (brokenEngine.compile ['a']).2.result
        = .error (.template (.unreadable "/r/a".toList "not valid utf-8".toList)) ∧
      (brokenEngine.compile ['s']).2.result
        = .error (.template (.unreadable "/r/s".toList "Permission denied".toList)) ∧
      (brokenEngine.compile ['d']).2.result = .error (.template (.notFound "/r/d".toList)) ∧
      (brokenEngine.compile ['a', '/', 'd']).2.result
        = .error (.template (.notFound "/r/a/d".toList)) := by
  have hbuilt : build (.files brokenSystem .none) (.text ['/', 'r']) none none none
      = .ok brokenEngine := rfl
  have hfails := failsByFiles_of_build hbuilt rfl ['a']
  have hfile : brokenSystem.HasFile (.ofText "/r/a".toList) [0xFF] :=
    FileSystem.open?_eq_ok_iff.mp rfl
  refine ⟨hbuilt, rfl, hfails, ?_, rfl, rfl, rfl⟩
  refine (hfails.unreadable_iff _ _).mpr ⟨rfl, ⟨by decide, rfl, by decide⟩, Or.inr ?_⟩
  exact ⟨_, Encoding.utf8.decoded, hfile,
    Encoding.decoder_of_ofName? (Encoding.ofName?_usualName .utf8) _, by decide +kernel, rfl⟩

/-- A path with a null character, and a file in an encoding that there is not, are refused with
something else than a failure of a template. -/
theorem exists_failure_of_no_template :
    (∃ engine, build (.files brokenSystem .none) (.text ['/', 'r']) none none none = .ok engine ∧
        (engine.compile ['\x00']).2.result = .error .nullInPath) ∧
      ∃ engine, build (.files brokenSystem .none) (.text ['/', 'r']) (some (.text ['?'])) none none
          = .ok engine ∧
        (engine.compile ['a']).2.result = .error (.noDecoder "unknown encoding: ?".toList) :=
  ⟨⟨brokenEngine, rfl, rfl⟩, ⟨_, rfl, rfl⟩⟩

end Engine

end TextTemplate
