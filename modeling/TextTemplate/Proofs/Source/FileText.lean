import TextTemplate.Proofs.Codec.Encoding
import TextTemplate.Proofs.Source.Opening
import TextTemplate.Source.Basic

/-!
# The texts of files

Reading a file is opening its location and decoding the bytes. Before that three things are refused:
a null character in the name of the encoding, a character of the path that cannot be written in
names, and a null character in the path, in this order.

In an encoding without a mark nothing is lost or changed on the way: a file is read as a text
exactly if it holds the encoding of that text. Line ends and a mark at the start are characters
like all others.
-/

namespace TextTemplate

namespace Files

variable {files : Files} {path name : Text}

/-! ## Reading and opening -/

/-- The path can be asked for: it can be written in names and has no null character. -/
structure IsAskable (files : Files) (path : Text) : Prop where
  canWrite : files.system.canWrite path = true
  no_null : '\x00' ∉ path

/-- There is a file with these bytes at the path. -/
def Holds (files : Files) (path : Text) (content : List UInt8) : Prop :=
  files.IsAskable path ∧ files.system.HasFile (.ofText path) content

theorem read_of_null_in_encoding (hencoding : files.encoding = some name)
    (hname : '\x00' ∈ name) : (files.read path).result = .error .nullInEncoding := by
  have hcontains : name.contains '\x00' = true := List.contains_iff_mem.mpr hname
  rw [read, hencoding]
  dsimp only
  rw [if_pos hcontains]
  rfl

theorem read_of_unwritable (hencoding : files.encoding = some name) (hname : '\x00' ∉ name)
    (hpath : files.system.canWrite path = false) :
    (files.read path).result = .error .unwritablePath := by
  rw [read, hencoding]
  dsimp only
  rw [if_neg (mt List.contains_iff_mem.mp hname), hpath]
  rfl

theorem read_of_null_in_path (hencoding : files.encoding = some name) (hname : '\x00' ∉ name)
    (hwrite : files.system.canWrite path = true) (hpath : '\x00' ∈ path) :
    (files.read path).result = .error .nullInPath := by
  have hcontains : path.contains '\x00' = true := List.contains_iff_mem.mpr hpath
  rw [read, hencoding]
  dsimp only
  rw [if_neg (mt List.contains_iff_mem.mp hname), hwrite, if_neg (by decide), if_pos hcontains]
  rfl

theorem read_of_isAskable (hencoding : files.encoding = some name) (hname : '\x00' ∉ name)
    (hpath : files.IsAskable path) : (files.read path).result
      = match files.system.open? (.ofText path) with
        | .ok bytes => decode files.codecs path name bytes
        | .error failure => (refuse path (Location.ofText path).text failure).result := by
  rw [read, hencoding]
  dsimp only
  rw [if_neg (mt List.contains_iff_mem.mp hname), hpath.canWrite, if_neg (by decide),
    if_neg (mt List.contains_iff_mem.mp hpath.no_null)]
  cases files.system.open? (.ofText path) <;> rfl

theorem read_of_holds {content : List UInt8} (hencoding : files.encoding = some name)
    (hname : '\x00' ∉ name) (h : files.Holds path content) :
    (files.read path).result = decode files.codecs path name content := by
  rw [read_of_isAskable hencoding hname h.1, FileSystem.open?_eq_ok_iff.mpr h.2]

/-- A text is read exactly if the path can be asked for and has a file that decodes to it. -/
theorem read_eq_ok_iff_holds (hencoding : files.encoding = some name) {text : Text} :
    (files.read path).result = .ok text ↔
      '\x00' ∉ name ∧ ∃ content, files.Holds path content ∧
        decode files.codecs path name content = .ok text := by
  constructor
  · intro hread
    by_cases hname : '\x00' ∈ name
    · rw [read_of_null_in_encoding hencoding hname] at hread
      cases hread
    cases hwrite : files.system.canWrite path with
    | false =>
      rw [read_of_unwritable hencoding hname hwrite] at hread
      cases hread
    | true =>
    by_cases hpath : '\x00' ∈ path
    · rw [read_of_null_in_path hencoding hname hwrite hpath] at hread
      cases hread
    have hask : files.IsAskable path := ⟨hwrite, hpath⟩
    rw [read_of_isAskable hencoding hname hask] at hread
    cases hopen : files.system.open? (.ofText path) with
    | ok content =>
      rw [hopen] at hread
      exact ⟨hname, content, ⟨hask, FileSystem.open?_eq_ok_iff.mp hopen⟩, hread⟩
    | error failure =>
      rw [hopen] at hread
      dsimp only [refuse] at hread
      cases hanswer : failure.isAbsence <;> rw [hanswer] at hread <;> cases hread
  · rintro ⟨hname, content, hholds, hdecode⟩
    rw [read_of_holds hencoding hname hholds, hdecode]

theorem message_unreadable {reason : Text} (hreason : reason ≠ []) :
    (TemplateFailure.unreadable path reason).message
      = "Could not read template: ".toList ++ path ++ (" (".toList ++ reason ++ [')']) := by
  cases reason with
  | nil => exact absurd rfl hreason
  | cons c rest => rfl

theorem decode_of_ofName? {encoding : Encoding} (hname : Encoding.ofName? name = some encoding)
    (codecs : Codecs) (bytes : List UInt8) :
    decode codecs path name bytes = match encoding.decode? bytes with
      | some text => .ok text
      | none => .error (.template (.unreadable path ("not valid ".toList ++ name))) := by
  rw [decode, Encoding.decoder_of_ofName? hname]
  cases hbytes : encoding.decode? bytes <;> simp only [Encoding.decoded, hbytes]

/-! ## What a file is read as -/

/-- In the encoding, under this name, files are read as the texts that they hold. -/
structure ReadsFaithfully (encoding : Encoding) (name : Text) : Prop where
  /-- A file is read as a text exactly if it holds the encoding of the text. -/
  ok_iff : ∀ files : Files, files.encoding = some name → ∀ path content,
    files.Holds path content → ∀ text,
      (files.read path).result = .ok text ↔ encoding.encode? text = some content
  /-- A file that holds the encoding of no text is not valid in the encoding. -/
  not_valid : ∀ files : Files, files.encoding = some name → ∀ path content,
    files.Holds path content → (∀ text, encoding.encode? text ≠ some content) →
      (files.read path).result
          = .error (.template (.unreadable path ("not valid ".toList ++ name))) ∧
        (TemplateFailure.unreadable path ("not valid ".toList ++ name)).message
          = "Could not read template: ".toList ++ path
            ++ (" (".toList ++ ("not valid ".toList ++ name) ++ [')'])
  /-- Files with different bytes are not read as the same text. -/
  ne_of_ne : ∀ files other : Files, files.encoding = some name → other.encoding = some name →
    ∀ path path' content content', files.Holds path content → other.Holds path' content' →
      content ≠ content' → ∀ text, (files.read path).result = .ok text →
        (other.read path').result ≠ .ok text

variable {encoding : Encoding} {content : List UInt8}

theorem read_eq_ok_iff (hmark : encoding ≠ .utf8Marked)
    (hname : Encoding.ofName? name = some encoding) (hnull : '\x00' ∉ name)
    (hencoding : files.encoding = some name) (h : files.Holds path content) {text : Text} :
    (files.read path).result = .ok text ↔ encoding.encode? text = some content := by
  rw [read_of_holds hencoding hnull h, decode_of_ofName? hname,
    ← Encoding.decode?_eq_some_iff hmark]
  cases encoding.decode? content <;> simp

theorem read_of_not_valid (hmark : encoding ≠ .utf8Marked)
    (hname : Encoding.ofName? name = some encoding) (hnull : '\x00' ∉ name)
    (hencoding : files.encoding = some name) (h : files.Holds path content)
    (hvalid : ∀ text, encoding.encode? text ≠ some content) :
    (files.read path).result
      = .error (.template (.unreadable path ("not valid ".toList ++ name))) := by
  have hdecode : encoding.decode? content = none := by
    refine Option.eq_none_iff_forall_ne_some.mpr fun text htext ↦ ?_
    exact hvalid text ((Encoding.decode?_eq_some_iff hmark).mp htext)
  rw [read_of_holds hencoding hnull h, decode_of_ofName? hname, hdecode]

/-- **Reading files loses and changes nothing**, in all encodings without a mark and under each of
their names. -/
theorem readsFaithfully (hmark : encoding ≠ .utf8Marked) :
    ReadsFaithfully encoding encoding.usualName ∧
      ∀ name, Encoding.ofName? name = some encoding → '\x00' ∉ name →
        ReadsFaithfully encoding name := by
  have hall (name : Text) (hname : Encoding.ofName? name = some encoding) (hnull : '\x00' ∉ name) :
      ReadsFaithfully encoding name := by
    refine ⟨fun files hencoding path content h text ↦ ?_,
      fun files hencoding path content h hvalid ↦ ?_,
      fun files other hfiles hother path path' content content' h h' hne text htext htext' ↦ ?_⟩
    · exact read_eq_ok_iff hmark hname hnull hencoding h
    · refine ⟨read_of_not_valid hmark hname hnull hencoding h hvalid, message_unreadable ?_⟩
      exact List.append_ne_nil_of_left_ne_nil (by decide) name
    · rw [read_eq_ok_iff hmark hname hnull hfiles h] at htext
      rw [read_eq_ok_iff hmark hname hnull hother h', htext] at htext'
      exact hne (Option.some.inj htext')
  exact ⟨hall _ (Encoding.ofName?_usualName encoding) (Encoding.null_not_mem_usualName encoding),
    hall⟩

/-- A text with a mark in front and line ends of every kind. -/
private def markedLines : Text := ['\uFEFF', 'é', '\r', '\n', '\r', '😀', '\n']

/-- Files of which one holds the text in UTF-16. -/
private def markedFiles : Files where
  system := .usual (.directory (.ofList [(['a'], .file (Utf16.encode markedLines))])) []
  codecs := .none
  encoding := some Encoding.utf16.usualName

/-- The text is read with its mark and all its line ends. -/
theorem readsFaithfully_markedLines :
    Encoding.utf16 ≠ .utf8Marked ∧ ReadsFaithfully .utf16 Encoding.utf16.usualName ∧
      markedFiles.Holds ['a'] (Utf16.encode markedLines) ∧
      (markedFiles.read ['a']).result = .ok markedLines := by
  have hfaithful : ReadsFaithfully .utf16 Encoding.utf16.usualName :=
    (readsFaithfully (by decide)).1
  have hholds : markedFiles.Holds ['a'] (Utf16.encode markedLines) :=
    ⟨⟨rfl, by decide⟩, FileSystem.open?_eq_ok_iff.mp rfl⟩
  exact ⟨by decide, hfaithful, hholds, (hfaithful.ok_iff _ rfl _ _ hholds _).mpr rfl⟩

end Files

end TextTemplate
