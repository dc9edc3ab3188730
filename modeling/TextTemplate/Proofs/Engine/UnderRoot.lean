import Mathlib.Tactic.SplitIfs
import TextTemplate.Proofs.Engine.AcceptedSettings
import TextTemplate.Proofs.Engine.Requests
import TextTemplate.Proofs.Source.FileText

/-!
# Paths stay under the directory

The path of a template is put behind the name of the engine's directory, with a slash between them,
and what comes out is read as a location. Its names are those of the directory and then those of the
path, however many slashes and single dots there are anywhere. So a path that leads up nowhere is
a way down from the directory, also when it begins with a slash.

## Slashes in front

Only slashes in front of all names have a meaning, and they can come from the path only when the
directory is the topmost one. A location that begins with exactly two slashes keeps both. It means
the same as with one, but is longer by one byte, and so it may be the first that is too long.
-/

namespace TextTemplate

/-! ## Names of joined texts -/

namespace Text

theorem mem_iff_mem_pieces {c separator : Char} (hc : c ≠ separator) (text : Text) :
    c ∈ text ↔ ∃ piece ∈ pieces separator text, c ∈ piece := by
  fun_induction pieces separator text with
  | case1 => simp
  | case2 rest ih => simp [hc, ih]
  | case3 d rest _ hpieces => exact absurd hpieces (pieces_ne_nil separator rest)
  | case4 d rest _ piece more hpieces ih =>
    rw [hpieces] at ih
    simp [ih, or_assoc]

end Text

namespace Location

variable {text : Text}

theorem namesOf_append (text rest : Text) :
    namesOf (text ++ '/' :: rest) = namesOf text ++ namesOf rest := by
  rw [namesOf, Text.pieces_append, List.filter_append, namesOf, namesOf]

theorem mem_namesOf_iff {name : Text} :
    name ∈ namesOf text ↔ name ∈ Text.pieces '/' text ∧ name ≠ [] ∧ name ≠ ['.'] := by
  simp [namesOf, List.mem_filter]

theorem mem_iff_mem_namesOf {c : Char} (hslash : c ≠ '/') (hdot : c ≠ '.') (text : Text) :
    c ∈ text ↔ ∃ name ∈ namesOf text, c ∈ name := by
  rw [Text.mem_iff_mem_pieces hslash]
  constructor
  · rintro ⟨piece, hpiece, hc⟩
    refine ⟨piece, mem_namesOf_iff.mpr ⟨hpiece, List.ne_nil_of_mem hc, ?_⟩, hc⟩
    rintro rfl
    exact hdot (List.mem_singleton.mp hc)
  · rintro ⟨name, hname, hc⟩
    exact ⟨name, (mem_namesOf_iff.mp hname).1, hc⟩

/-- A text that does not consist of slashes has the same slashes in front whatever follows. -/
theorem rootOf_append (hslashes : ∃ c ∈ text, c ≠ '/') (rest : Text) :
    rootOf (text ++ rest) = rootOf text := by
  -- The slashes in front end before the text does.
  have hlength : (text.takeWhile (· = '/')).length ≠ text.length := by
    intro hlength
    have hall : text.takeWhile (· = '/') = text :=
      (List.takeWhile_prefix _).eq_of_length hlength
    obtain ⟨c, hc, hne⟩ := hslashes
    exact hne (of_decide_eq_true (List.takeWhile_eq_self_iff.mp hall c hc))
  rw [rootOf, rootOf, List.takeWhile_append, if_neg hlength]

theorem isAbsolute_slash_cons (text : Text) : (ofText ('/' :: text)).isAbsolute = true := by
  have hfront : ('/' :: text).takeWhile (· = '/') = '/' :: text.takeWhile (· = '/') :=
    List.takeWhile_cons_of_pos (decide_eq_true rfl)
  rw [isAbsolute, ofText, rootOf, hfront, List.length_cons]
  rcases (text.takeWhile (· = '/')).length with _ | _ | n <;> rfl

end Location

/-! ## Resolved paths -/

namespace Settings

variable {settings : Settings} {input : Input}

theorem isNormalRoot_of_ofInput (haccepted : ofInput input = .ok settings) :
    IsNormalRoot settings.root := by
  have hroot := (ofInput_eq_ok_iff.mp haccepted).1
  cases hvalue : input.root with
  | none =>
    rw [hvalue] at hroot
    exact absurd hroot (by simp [rootOrMissing])
  | some value =>
    rw [hvalue, rootOrMissing, rootOf] at hroot
    cases hname : textOf value with
    | error complaint =>
      rw [hname] at hroot
      exact absurd hroot (by simp [Except.bind])
    | ok name =>
      rw [hname] at hroot
      exact (normalRoot_eq_ok_iff.mp hroot).2.1

/-- The names of a resolved path are those of the directory and then those of the path. -/
theorem namesOf_resolve (settings : Settings) (path : Text) :
    Location.namesOf (settings.resolve path)
      = Location.namesOf settings.root ++ Location.namesOf path := by
  rw [resolve]
  split_ifs with hroot
  · rw [hroot]
    exact Location.namesOf_append [] path
  · exact Location.namesOf_append settings.root path

theorem IsNormalRoot.exists_ne_slash {root : Text} (h : IsNormalRoot root) (htop : root ≠ ['/']) :
    ∃ c ∈ root, c ≠ '/' := by
  have hlast := h.no_slash_last.resolve_left htop
  refine ⟨root.getLast h.ne_nil, List.getLast_mem h.ne_nil, fun hslash ↦ hlast ?_⟩
  rw [List.getLast?_eq_some_getLast h.ne_nil, hslash]

/-- Below another directory than the topmost one, a path brings no slashes in front. -/
theorem rootOf_resolve (h : IsNormalRoot settings.root) (htop : settings.root ≠ ['/'])
    (path : Text) :
    Location.rootOf (settings.resolve path) = Location.rootOf settings.root := by
  rw [resolve, if_neg htop, Location.rootOf_append (h.exists_ne_slash htop)]

theorem isAbsolute_resolve (h : IsNormalRoot settings.root) (path : Text) :
    (Location.ofText (settings.resolve path)).isAbsolute
      = (Location.ofText settings.root).isAbsolute := by
  by_cases htop : settings.root = ['/']
  · rw [resolve, if_pos htop, htop, Location.isAbsolute_slash_cons, Location.isAbsolute_slash_cons]
  · simp only [Location.isAbsolute, Location.ofText, rootOf_resolve h htop]

theorem mem_resolve_iff {c : Char} (hslash : c ≠ '/') (path : Text) :
    c ∈ settings.resolve path ↔ c ∈ settings.root ∨ c ∈ path := by
  rw [resolve]
  split_ifs with hroot <;> simp [hroot, hslash]

end Settings

/-! ## Going down -/

namespace FileSystem

variable {system : FileSystem} {start place : Place} {tree : FileTree} {around : List FileTree}
  {front rest names : List Text} {content : List UInt8}

/-- From a tree the names lead down to a file with these bytes, and none of them is too long. -/
def FileBelow (system : FileSystem) (tree : FileTree) (names : List Text)
    (content : List UInt8) : Prop :=
  (∀ name ∈ names, system.lengthOf name ≤ nameLimit) ∧ tree.part? names = some (.file content)

/-- A file with these bytes is reached when the names are followed down from the directory with this
name, wherever that is. -/
def FileUnder (system : FileSystem) (directory : Text) (names : List Text)
    (content : List UInt8) : Prop :=
  ∃ top around, system.Leads (system.start (.ofText directory)) (Location.namesOf directory)
      ⟨top, around⟩ ∧ system.FileBelow top names content

theorem Leads.exists_of_prefix (h : system.Leads start names place) (hfront : front <+: names) :
    ∃ middle, system.Leads start front middle := by
  induction h with
  | start => exact ⟨start, List.prefix_nil.mp hfront ▸ .start⟩
  | up h hfile ih =>
    rcases List.prefix_concat_iff.mp hfront with rfl | hfront
    · exact ⟨_, h.up hfile⟩
    · exact ih hfront
  | down h hname hchild ih =>
    rcases List.prefix_concat_iff.mp hfront with rfl | hfront
    · exact ⟨_, h.down hname hchild⟩
    · exact ih hfront

theorem fileBelow_nil_iff : system.FileBelow tree [] content ↔ tree = .file content := by
  simp [FileBelow, FileTree.part?]

theorem fileBelow_cons_iff {name : Text} :
    system.FileBelow tree (name :: names) content ↔
      system.lengthOf name ≤ nameLimit ∧
        ∃ child, tree.children.find? name = some child ∧
          system.FileBelow child names content := by
  rw [FileBelow, FileTree.part?, List.forall_mem_cons, Option.bind_eq_some_iff]
  constructor
  · rintro ⟨⟨hname, hnames⟩, child, hchild, hfile⟩
    exact ⟨hname, child, hchild, hnames, hfile⟩
  · rintro ⟨hname, child, hchild, hnames, hfile⟩
    exact ⟨⟨hname, hnames⟩, child, hchild, hfile⟩

theorem descend_eq_ok_iff_fileBelow (hup : Location.above ∉ names) :
    system.descend ⟨tree, around⟩ names = .ok content ↔ system.FileBelow tree names content := by
  induction names generalizing tree around with
  | nil => cases tree <;> simp [descend, fileBelow_nil_iff]
  | cons name names ih =>
    simp only [List.mem_cons, not_or] at hup
    rw [fileBelow_cons_iff]
    cases tree with
    -- Nothing is below a file, and a directory is only left downwards.
    | file other => simp [descend, FileTree.children]
    | directory children =>
      rw [descend_cons_of_not_atFile id, if_neg (Ne.symm hup.1)]
      by_cases hlong : nameLimit < system.lengthOf name
      · rw [if_pos hlong]
        exact iff_of_false (by simp) fun h ↦ absurd h.1 (Nat.not_le.mpr hlong)
      · rw [if_neg hlong, and_iff_right (Nat.not_lt.mp hlong), Place.child?]
        cases (FileTree.directory children).children.find? name with
        | none => simp
        | some child => simp [Place.enter, ih hup.2]

/-- Behind other names, names that do not lead up open the file below what the others lead to. -/
theorem descend_append_eq_ok_iff (front : List Text) (hup : Location.above ∉ rest) :
    system.descend start (front ++ rest) = .ok content ↔
      ∃ top around, system.Leads start front ⟨top, around⟩ ∧
        system.FileBelow top rest content := by
  constructor
  · intro h
    obtain ⟨_, hall⟩ := descend_eq_ok_iff.mp h
    obtain ⟨⟨top, around⟩, hfront⟩ := hall.exists_of_prefix (List.prefix_append front rest)
    rw [hfront.descend_append] at h
    exact ⟨top, around, hfront, (descend_eq_ok_iff_fileBelow hup).mp h⟩
  · rintro ⟨top, around, hfront, hfile⟩
    rw [hfront.descend_append]
    exact (descend_eq_ok_iff_fileBelow hup).mpr hfile

/-- Slashes and dots can always be written, so it only matters what else is there. -/
theorem canWrite_congr {text other : Text}
    (h : ∀ c, c ≠ '/' → c ≠ '.' → (c ∈ text ↔ c ∈ other)) :
    system.canWrite text = system.canWrite other := by
  have hone {text other : Text} (h : ∀ c ∈ other, c ≠ '/' → c ≠ '.' → c ∈ text)
      (htext : system.canWrite text = true) : system.canWrite other = true := by
    refine List.all_eq_true.mpr fun c hc ↦ ?_
    by_cases hslash : c = '/'
    · rw [hslash, system.width?_ascii _ (by decide), Option.isSome_some]
    by_cases hdot : c = '.'
    · rw [hdot, system.width?_ascii _ (by decide), Option.isSome_some]
    · exact List.all_eq_true.mp htext c (h c hc hslash hdot)
  exact Bool.eq_iff_iff.mpr ⟨hone fun c hc hslash hdot ↦ (h c hslash hdot).mpr hc,
    hone fun c hc hslash hdot ↦ (h c hslash hdot).mp hc⟩

end FileSystem

/-! ## Outcomes -/

namespace RenderFailure

/-- The failure without the path that it has. -/
def withoutPath : RenderFailure → RenderFailure
  | .template (.notFound _) => .template (.notFound [])
  | .template (.unreadable _ reason) => .template (.unreadable [] reason)
  | failure => failure

/-- What kind of failure it is, without the path and the reason that it has. -/
def kind : RenderFailure → RenderFailure
  | .template (.notFound _) => .template (.notFound [])
  | .template (.unreadable _ _) => .template (.unreadable [] [])
  | failure => failure

end RenderFailure

namespace Files

open RenderFailure (withoutPath kind)

variable {files : Files} {path other : Text}

/-- Paths that open the same are read the same, up to what `view` does not see of failures. -/
theorem read_congr {view : RenderFailure → RenderFailure}
    (hwrite : files.system.canWrite path = files.system.canWrite other)
    (hnull : '\x00' ∈ path ↔ '\x00' ∈ other)
    (hopen : files.system.open? (.ofText path) = files.system.open? (.ofText other))
    (hinvalid : ∀ reason, view (.template (.unreadable path reason))
      = view (.template (.unreadable other reason)))
    (hrefuse : ∀ failure,
      (refuse path (Location.ofText path).text failure).result.mapError view
        = (refuse other (Location.ofText other).text failure).result.mapError view) :
    (files.read path).result.mapError view = (files.read other).result.mapError view := by
  -- Reading asks the same questions of both paths, and the answers agree one after the other.
  cases hencoding : files.encoding with
  | none => rw [read, read, hencoding]
  | some name =>
    by_cases hname : '\x00' ∈ name
    · rw [read_of_null_in_encoding hencoding hname, read_of_null_in_encoding hencoding hname]
    cases hcan : files.system.canWrite other with
    | false =>
      rw [read_of_unwritable hencoding hname hcan,
        read_of_unwritable hencoding hname (hwrite.trans hcan)]
    | true =>
    by_cases hpath : '\x00' ∈ path
    · rw [read_of_null_in_path hencoding hname (hwrite.trans hcan) hpath,
        read_of_null_in_path hencoding hname hcan (hnull.mp hpath)]
    rw [read_of_isAskable hencoding hname ⟨hwrite.trans hcan, hpath⟩,
      read_of_isAskable hencoding hname ⟨hcan, mt hnull.mpr hpath⟩, hopen]
    cases files.system.open? (.ofText other) with
    | error failure => exact hrefuse failure
    | ok bytes =>
      dsimp only [decode]
      cases Encoding.decoder files.codecs name with
      | error reason => rfl
      | ok decoder =>
        dsimp only
        cases decoder bytes with
        | text characters => rfl
        | invalid => exact congrArg Except.error (hinvalid _)
        | failed reason => rfl

theorem refuse_withoutPath (opened : Text) (failure : OpenFailure) :
    (refuse path opened failure).result.mapError withoutPath
      = (refuse other opened failure).result.mapError withoutPath := by
  rw [refuse, refuse]
  cases failure.isAbsence <;> rfl

theorem refuse_kind (opened opened' : Text) (failure : OpenFailure) :
    (refuse path opened failure).result.mapError kind
      = (refuse other opened' failure).result.mapError kind := by
  rw [refuse, refuse]
  cases failure.isAbsence <;> rfl

end Files

namespace Engine

open RenderFailure (withoutPath kind)

variable {engine : Engine} {system : FileSystem} {path other : Text}

theorem namesOf_resolve_congr (hnames : Location.namesOf other = Location.namesOf path) :
    Location.namesOf (engine.resolve other) = Location.namesOf (engine.resolve path) := by
  rw [resolve, resolve, Settings.namesOf_resolve, Settings.namesOf_resolve, hnames]

theorem ofText_resolve_congr (hroot : Settings.IsNormalRoot engine.settings.root)
    (hnames : Location.namesOf other = Location.namesOf path)
    (hslashes : engine.settings.root = ['/'] →
      Location.rootOf (engine.resolve other) = Location.rootOf (engine.resolve path)) :
    Location.ofText (engine.resolve other) = Location.ofText (engine.resolve path) := by
  have hfront : Location.rootOf (engine.resolve other) = Location.rootOf (engine.resolve path) := by
    by_cases htop : engine.settings.root = ['/']
    · exact hslashes htop
    · rw [resolve, resolve, Settings.rootOf_resolve hroot htop,
        Settings.rootOf_resolve hroot htop]
  rw [Location.ofText, Location.ofText, hfront, namesOf_resolve_congr hnames]

theorem startNames_resolve (hroot : Settings.IsNormalRoot engine.settings.root) (path : Text) :
    system.startNames (.ofText (engine.resolve path))
      = system.startNames (.ofText engine.settings.root) := by
  rw [FileSystem.startNames, FileSystem.startNames, resolve, Settings.isAbsolute_resolve hroot]

theorem start_resolve (hroot : Settings.IsNormalRoot engine.settings.root) (path : Text) :
    system.start (.ofText (engine.resolve path)) = system.start (.ofText engine.settings.root) := by
  rw [FileSystem.start, startNames_resolve hroot, FileSystem.start]

theorem ownRefusal?_resolve_congr (hroot : Settings.IsNormalRoot engine.settings.root)
    (hnames : Location.namesOf other = Location.namesOf path) :
    system.ownRefusal? (.ofText (engine.resolve other))
      = system.ownRefusal? (.ofText (engine.resolve path)) := by
  have hall : (Location.ofText (engine.resolve other)).names
      = (Location.ofText (engine.resolve path)).names := namesOf_resolve_congr hnames
  rw [FileSystem.ownRefusal?, FileSystem.ownRefusal?, startNames_resolve hroot,
    startNames_resolve hroot, hall]

/-- Paths with the same names open the same under the directory, if they are both short enough or
both too long. -/
theorem open?_resolve_congr (hroot : Settings.IsNormalRoot engine.settings.root)
    (hnames : Location.namesOf other = Location.namesOf path)
    (hfits : system.Fits (.ofText (engine.resolve other)) ↔
      system.Fits (.ofText (engine.resolve path))) :
    system.open? (.ofText (engine.resolve other)) = system.open? (.ofText (engine.resolve path)) := by
  have hall : (Location.ofText (engine.resolve other)).names
      = (Location.ofText (engine.resolve path)).names := namesOf_resolve_congr hnames
  have hrefusal : system.ownRefusal? (.ofText (engine.resolve other))
      = system.ownRefusal? (.ofText (engine.resolve path)) := ownRefusal?_resolve_congr hroot hnames
  by_cases hfit : system.Fits (.ofText (engine.resolve path))
  · cases hown : system.ownRefusal? (.ofText (engine.resolve path)) with
    | some failure =>
      rw [FileSystem.open?_of_refused hfit hown,
        FileSystem.open?_of_refused (hfits.mpr hfit) (hrefusal.trans hown)]
    | none =>
      rw [FileSystem.open?_of_granted hfit hown,
        FileSystem.open?_of_granted (hfits.mpr hfit) (hrefusal.trans hown),
        start_resolve hroot, start_resolve hroot, hall]
  · rw [FileSystem.open?_of_not_fits hfit, FileSystem.open?_of_not_fits (mt hfits.mp hfit)]

theorem mem_resolve_congr (hnames : Location.namesOf other = Location.namesOf path) {c : Char}
    (hslash : c ≠ '/') (hdot : c ≠ '.') : c ∈ engine.resolve other ↔ c ∈ engine.resolve path := by
  rw [resolve, resolve, Settings.mem_resolve_iff hslash, Settings.mem_resolve_iff hslash,
    Location.mem_iff_mem_namesOf hslash hdot other, hnames,
    ← Location.mem_iff_mem_namesOf hslash hdot]

theorem hasFile_resolve_iff (hroot : Settings.IsNormalRoot engine.settings.root)
    (hup : Location.above ∉ Location.namesOf path) {content : List UInt8} :
    system.HasFile (.ofText (engine.resolve path)) content ↔
      system.Fits (.ofText (engine.resolve path)) ∧
        system.ownRefusal? (.ofText (engine.resolve path)) = none ∧
        system.FileUnder engine.settings.root (Location.namesOf path) content := by
  have hnames : (Location.ofText (engine.resolve path)).names
      = Location.namesOf engine.settings.root ++ Location.namesOf path :=
    engine.settings.namesOf_resolve path
  have hleads : (∃ around, system.Leads (system.start (.ofText (engine.resolve path)))
        (Location.ofText (engine.resolve path)).names ⟨.file content, around⟩) ↔
      system.FileUnder engine.settings.root (Location.namesOf path) content := by
    rw [← FileSystem.descend_eq_ok_iff, hnames, start_resolve hroot]
    exact FileSystem.descend_append_eq_ok_iff _ hup
  rw [← hleads]
  exact ⟨fun h ↦ ⟨h.fits, h.granted, h.leads⟩, fun h ↦ ⟨h.1, h.2.1, h.2.2⟩⟩

/-! ## What paths reach -/

/-- A path reaches what is under the engine's directory by its names, and nothing else. -/
structure StaysUnder (engine : Engine) (path : Text) : Prop where
  /-- The resolved path is what the source is asked for. -/
  asked_eq : (engine.compile path).1.source.asked = engine.resolve path :: engine.source.asked
  /-- The names of the resolved path are those of the directory and then those of the path. -/
  names_eq : (Location.ofText (engine.resolve path)).names
    = Location.namesOf engine.settings.root ++ Location.namesOf path
  /-- The way to it starts at the root exactly if the way to the directory does. -/
  isAbsolute_eq : (Location.ofText (engine.resolve path)).isAbsolute
    = (Location.ofText engine.settings.root).isAbsolute
  /-- The file that a system opens there is the one under the directory by the names of the path.
  It opens every such file, unless the resolved path is too long or it refuses on its own grounds. -/
  open_iff : ∀ (system : FileSystem) content,
    system.open? (.ofText (engine.resolve path)) = .ok content ↔
      system.Fits (.ofText (engine.resolve path)) ∧
        system.ownRefusal? (.ofText (engine.resolve path)) = none ∧
        system.FileUnder engine.settings.root (Location.namesOf path) content
  /-- What is read there is what the bytes of this file decode to. -/
  read_iff : ∀ (files : Files) name, files.encoding = some name → ∀ text,
    (files.read (engine.resolve path)).result = .ok text ↔
      '\x00' ∉ name ∧ files.IsAskable (engine.resolve path) ∧
        ∃ content, files.system.Fits (.ofText (engine.resolve path)) ∧
          files.system.ownRefusal? (.ofText (engine.resolve path)) = none ∧
          files.system.FileUnder engine.settings.root (Location.namesOf path) content ∧
          Files.decode files.codecs (engine.resolve path) name content = .ok text
  /-- A path with the same names comes to the same location. Right under the topmost directory this
  takes that repeated slashes in front make no difference. -/
  same_location : ∀ other, Location.namesOf other = Location.namesOf path →
    (engine.settings.root = ['/'] →
      Location.rootOf (engine.resolve other) = Location.rootOf (engine.resolve path)) →
    Location.ofText (engine.resolve other) = Location.ofText (engine.resolve path)
  /-- So it is read as the same text or fails in the same way, for the same reason. -/
  same_outcome : ∀ other, Location.namesOf other = Location.namesOf path →
    (engine.settings.root = ['/'] →
      Location.rootOf (engine.resolve other) = Location.rootOf (engine.resolve path)) →
    ∀ files : Files,
      (files.read (engine.resolve other)).result.mapError withoutPath
        = (files.read (engine.resolve path)).result.mapError withoutPath
  /-- Where repeated slashes in front do make a difference, there still is the same text or the same
  kind of failure, unless just one of the two locations is too long. -/
  same_kind : ∀ other, Location.namesOf other = Location.namesOf path → ∀ files : Files,
    (engine.settings.root = ['/'] →
      (files.system.Fits (.ofText (engine.resolve other)) ↔
        files.system.Fits (.ofText (engine.resolve path)))) →
    (files.read (engine.resolve other)).result.mapError kind
      = (files.read (engine.resolve path)).result.mapError kind

/-- **A path that does not lead up stays under the directory**, whatever slashes and dots it has. -/
theorem staysUnder_of_accepted {input : Settings.Input}
    (haccepted : Settings.ofInput input = .ok engine.settings)
    (hup : Location.above ∉ Text.pieces '/' path) : StaysUnder engine path := by
  have hroot := Settings.isNormalRoot_of_ofInput haccepted
  have hdown : Location.above ∉ Location.namesOf path := fun h ↦
    hup (Location.mem_namesOf_iff.mp h).1
  have hwrite {other : Text} (hnames : Location.namesOf other = Location.namesOf path)
      (files : Files) : files.system.canWrite (engine.resolve other)
        = files.system.canWrite (engine.resolve path) :=
    FileSystem.canWrite_congr fun _ hslash hdot ↦ mem_resolve_congr hnames hslash hdot
  have hnull {other : Text} (hnames : Location.namesOf other = Location.namesOf path) :
      '\x00' ∈ engine.resolve other ↔ '\x00' ∈ engine.resolve path :=
    mem_resolve_congr hnames (by decide) (by decide)
  refine ⟨?_, engine.settings.namesOf_resolve path, Settings.isAbsolute_resolve hroot path,
    fun system content ↦ ?_, fun files name hencoding text ↦ ?_,
    fun other hother hslashes ↦ ofText_resolve_congr hroot hother hslashes,
    fun other hother hslashes files ↦ ?_, fun other hother files hfits ↦ ?_⟩
  · obtain ⟨cache, made, hcompile⟩ := compile_fst engine path
    rw [hcompile]
    rfl
  · rw [FileSystem.open?_eq_ok_iff, hasFile_resolve_iff hroot hdown]
  · simp only [Files.read_eq_ok_iff_holds hencoding, Files.Holds, hasFile_resolve_iff hroot hdown,
      and_assoc, exists_and_left]
  · have hsame := ofText_resolve_congr hroot hother hslashes
    refine Files.read_congr (hwrite hother files) (hnull hother) (congrArg files.system.open? hsame)
      (fun reason ↦ rfl) fun failure ↦ ?_
    rw [hsame]
    exact Files.refuse_withoutPath _ failure
  · refine Files.read_congr (hwrite hother files) (hnull hother)
      (open?_resolve_congr hroot hother ?_) (fun reason ↦ rfl) (Files.refuse_kind _ _)
    by_cases htop : engine.settings.root = ['/']
    · exact hfits htop
    · rw [ofText_resolve_congr hroot hother fun h ↦ absurd h htop]

/-- A system in which a directory at the top has a directory with a file. -/
private def nestedSystem : FileSystem :=
  .usual (.directory (.ofList [(['r'],
    .directory (.ofList [(['a'], .directory (.ofList [(['b'], .file [0x78])]))]))])) [['r'], ['a']]

/-- An engine over this directory, whose name was given with a slash at its end. -/
private def nestedEngine : Engine where
  settings := ⟨['/', 'r'], Settings.usualEncoding, true, false⟩
  cache := none
  source := .ofStore (.files ⟨nestedSystem, .none, some Settings.usualEncoding⟩)
  made := 0

/-- The slashes and the dot make no difference, and neither does the working directory. -/
theorem staysUnder_of_accepted_slashes :
    Settings.ofInput ⟨some (.text ['/', 'r', '/']), none, none, none⟩ = .ok nestedEngine.settings ∧
      Location.above ∉ Text.pieces '/' "/a//./b/".toList ∧
      StaysUnder nestedEngine "/a//./b/".toList ∧
      Location.namesOf "/a//./b/".toList = [['a'], ['b']] ∧
      nestedSystem.open? (.ofText (nestedEngine.resolve "/a//./b/".toList)) = .ok [0x78] ∧
      nestedSystem.FileUnder ['/', 'r'] [['a'], ['b']] [0x78] := by
  have haccepted : Settings.ofInput ⟨some (.text ['/', 'r', '/']), none, none, none⟩
      = .ok nestedEngine.settings := rfl
  have hup : Location.above ∉ Text.pieces '/' "/a//./b/".toList := by decide
  have hstays : StaysUnder nestedEngine "/a//./b/".toList := staysUnder_of_accepted haccepted hup
  have hopen : nestedSystem.open? (.ofText (nestedEngine.resolve "/a//./b/".toList))
      = .ok [0x78] := rfl
  exact ⟨haccepted, hup, hstays, rfl, hopen, ((hstays.open_iff _ _).mp hopen).2.2⟩

end Engine

end TextTemplate
