import Mathlib.Tactic.SplitIfs
import TextTemplate.Source.FileSystem

/-!
# What is at a location

Names lead from a place in a tree to another place, one name after the other: two dots lead to what
is around the place, and every other name to what the directory there has by that name. Nothing
leads on from a file, and neither does a name that is too long.

Where names do not lead to a file, there are four reasons. What they lead to is a directory, or a
part of them leads to a file, to a directory without the next name, or to one that is asked for a
name that is too long. Opening tells exactly these cases apart. A location may also be too long as a
whole, and the system may refuse it on grounds of its own.

## The invariant

Opening goes through the names from the front. `outcome_descend` follows it with the names that are
done and the place they lead to; what is said in the end is about all names from the start. Because
the way gone so far grows at its end, `Leads` does, too.
-/

namespace TextTemplate

/-! ## Places -/

def Place.AtFile (place : Place) : Prop :=
  match place.here with
  | .file _ => True
  | .directory _ => False

namespace FileSystem

/-! ## Ways -/

/-- A name that opening looks for in a directory. -/
structure IsSought (system : FileSystem) (name : Text) : Prop where
  ne_above : name ≠ Location.above
  length_le : system.lengthOf name ≤ nameLimit

/-- Names lead from the start to a place. -/
inductive Leads (system : FileSystem) (start : Place) : List Text → Place → Prop
  /-- No names lead nowhere else. -/
  | start : Leads system start [] start
  /-- Two dots lead to what is around the place. -/
  | up {names : List Text} {place : Place} (h : Leads system start names place)
      (hfile : ¬ place.AtFile) : Leads system start (names ++ [Location.above]) place.up
  /-- Another name leads to what the place has by it. -/
  | down {names : List Text} {place : Place} {name : Text} {child : FileTree}
      (h : Leads system start names place) (hname : system.IsSought name)
      (hchild : place.child? name = some child) :
    Leads system start (names ++ [name]) (place.enter child)

/-- The names lead to no file, for this reason. -/
inductive Fails (system : FileSystem) (start : Place) (names : List Text) : OpenFailure → Prop
  /-- They are those of a directory. -/
  | directory {place : Place} (h : Leads system start names place) (hfile : ¬ place.AtFile) :
    Fails system start names .isDirectory
  /-- They go on below a file. -/
  | belowFile {front rest : List Text} {name : Text} {place : Place}
      (hnames : names = front ++ name :: rest) (h : Leads system start front place)
      (hfile : place.AtFile) : Fails system start names .notDirectory
  /-- They are those of nothing. -/
  | nothing {front rest : List Text} {name : Text} {place : Place}
      (hnames : names = front ++ name :: rest) (h : Leads system start front place)
      (hfile : ¬ place.AtFile) (hname : system.IsSought name)
      (hchild : place.child? name = none) : Fails system start names .absent
  /-- A directory on the way is asked for a name that is too long. -/
  | tooLong {front rest : List Text} {name : Text} {place : Place}
      (hnames : names = front ++ name :: rest) (h : Leads system start front place)
      (hfile : ¬ place.AtFile) (habove : name ≠ Location.above)
      (hlong : nameLimit < system.lengthOf name) : Fails system start names .nameTooLong

/-! ## One name -/

variable {system : FileSystem} {start place : Place} {front rest names : List Text} {name : Text}
  {failure : OpenFailure} {content : List UInt8}

theorem descend_nil_of_not_atFile (hfile : ¬ place.AtFile) :
    system.descend place [] = .error .isDirectory := by
  obtain ⟨here, around⟩ := place
  cases here with
  | file content => exact absurd trivial hfile
  | directory children => rfl

theorem descend_cons_of_atFile (hfile : place.AtFile) :
    system.descend place (name :: rest) = .error .notDirectory := by
  obtain ⟨here, around⟩ := place
  cases here with
  | file content => rfl
  | directory children => exact hfile.elim

theorem descend_cons_of_not_atFile (hfile : ¬ place.AtFile) :
    system.descend place (name :: rest) =
      if name = Location.above then system.descend place.up rest
      else if nameLimit < system.lengthOf name then .error .nameTooLong
      else match place.child? name with
        | some child => system.descend (place.enter child) rest
        | none => .error .absent := by
  obtain ⟨here, around⟩ := place
  cases here with
  | file content => exact absurd trivial hfile
  | directory children => rfl

theorem not_atFile_of_child? {child : FileTree} (h : place.child? name = some child) :
    ¬ place.AtFile := by
  obtain ⟨here, around⟩ := place
  cases here with
  | file content => exact nomatch h
  | directory children => exact id

/-! ## All names -/

/-- Where names lead, opening gets. -/
theorem Leads.descend_append (h : system.Leads start front place) (rest : List Text) :
    system.descend start (front ++ rest) = system.descend place rest := by
  induction h generalizing rest with
  | start => rfl
  | up h hfile ih =>
    rw [List.append_assoc, ih, List.singleton_append, descend_cons_of_not_atFile hfile, if_pos rfl]
  | down h hname hchild ih =>
    rw [List.append_assoc, ih, List.singleton_append,
      descend_cons_of_not_atFile (not_atFile_of_child? hchild), if_neg hname.ne_above,
      if_neg (Nat.not_lt.mpr hname.length_le), hchild]

def Outcome (system : FileSystem) (start : Place) (names : List Text) :
    Except OpenFailure (List UInt8) → Prop
  | .ok content => ∃ around, system.Leads start names ⟨.file content, around⟩
  | .error failure => system.Fails start names failure

/-- From wherever the names so far lead, opening says the truth about all of them. -/
theorem outcome_descend (h : system.Leads start front place) (names : List Text) :
    system.Outcome start (front ++ names) (system.descend place names) := by
  induction names generalizing front place with
  | nil =>
    rw [List.append_nil]
    by_cases hfile : place.AtFile
    · obtain ⟨_ | _, around⟩ := place
      · exact ⟨around, h⟩
      · exact hfile.elim
    · rw [descend_nil_of_not_atFile hfile]
      exact .directory h hfile
  | cons name rest ih =>
    by_cases hfile : place.AtFile
    · rw [descend_cons_of_atFile hfile]
      exact .belowFile rfl h hfile
    rw [descend_cons_of_not_atFile hfile]
    split_ifs with habove hlong
    · subst habove
      simpa using ih (h.up hfile)
    · exact .tooLong rfl h hfile habove hlong
    · have hname : system.IsSought name := ⟨habove, Nat.not_lt.mp hlong⟩
      cases hchild : place.child? name with
      | none => exact .nothing rfl h hfile hname hchild
      | some child => simpa using ih (h.down hname hchild)

theorem descend_eq_ok_iff :
    system.descend start names = .ok content ↔
      ∃ around, system.Leads start names ⟨.file content, around⟩ := by
  constructor
  · intro h
    have houtcome : system.Outcome start names _ := outcome_descend .start names
    rwa [h] at houtcome
  · rintro ⟨around, h⟩
    rw [← List.append_nil names, h.descend_append, descend]

theorem descend_eq_error_iff :
    system.descend start names = .error failure ↔ system.Fails start names failure := by
  constructor
  · intro h
    have houtcome : system.Outcome start names _ := outcome_descend .start names
    rwa [h] at houtcome
  · rintro (⟨h, hfile⟩ | ⟨rfl, h, hfile⟩ | ⟨rfl, h, hfile, hname, hchild⟩ |
      ⟨rfl, h, hfile, habove, hlong⟩)
    · rw [← List.append_nil names, h.descend_append, descend_nil_of_not_atFile hfile]
    · rw [h.descend_append, descend_cons_of_atFile hfile]
    · rw [h.descend_append, descend_cons_of_not_atFile hfile, if_neg hname.ne_above,
        if_neg (Nat.not_lt.mpr hname.length_le), hchild]
    · rw [h.descend_append, descend_cons_of_not_atFile hfile, if_neg habove, if_pos hlong]

/-! ## Locations -/

variable {location : Location}

/-- The location is short enough as a whole. -/
def Fits (system : FileSystem) (location : Location) : Prop :=
  system.lengthOf location.text < locationLimit

/-- Why the system itself does not open the location, if it does not. -/
def ownRefusal? (system : FileSystem) (location : Location) : Option OpenFailure :=
  system.refusal? (system.startNames location ++ location.names)

/-- There is a file with these bytes at the location, and the system opens it. -/
structure HasFile (system : FileSystem) (location : Location) (content : List UInt8) : Prop where
  fits : system.Fits location
  granted : system.ownRefusal? location = none
  leads : ∃ around, system.Leads (system.start location) location.names ⟨.file content, around⟩

/-- The location is not opened, for this reason. -/
inductive Unopened (system : FileSystem) (location : Location) : OpenFailure → Prop
  /-- It is too long as a whole. -/
  | tooLong (h : ¬ system.Fits location) : Unopened system location .nameTooLong
  /-- The system itself refuses. -/
  | refused {failure : OpenFailure} (hfits : system.Fits location)
      (h : system.ownRefusal? location = some failure) : Unopened system location failure
  /-- Its names lead to no file. -/
  | fails {failure : OpenFailure} (hfits : system.Fits location)
      (hgranted : system.ownRefusal? location = none)
      (h : system.Fails (system.start location) location.names failure) :
    Unopened system location failure

theorem open?_of_not_fits (hfits : ¬ system.Fits location) :
    system.open? location = .error .nameTooLong := if_pos (Nat.not_lt.mp hfits)

theorem open?_of_refused (hfits : system.Fits location)
    (h : system.ownRefusal? location = some failure) : system.open? location = .error failure := by
  rw [open?, if_neg (Nat.not_le.mpr hfits), ← ownRefusal?, h]

theorem open?_of_granted (hfits : system.Fits location)
    (h : system.ownRefusal? location = none) :
    system.open? location = system.descend (system.start location) location.names := by
  rw [open?, if_neg (Nat.not_le.mpr hfits), ← ownRefusal?, h]

/-- **A location is opened exactly if there is a file and the system opens it**, and the bytes are
those of the file. -/
theorem open?_eq_ok_iff : system.open? location = .ok content ↔ system.HasFile location content := by
  by_cases hfits : system.Fits location
  · cases hrefusal : system.ownRefusal? location with
    | some failure =>
      rw [open?_of_refused hfits hrefusal]
      refine iff_of_false nofun fun h ↦ ?_
      rw [h.granted] at hrefusal
      cases hrefusal
    | none =>
      rw [open?_of_granted hfits hrefusal, descend_eq_ok_iff]
      exact ⟨fun h ↦ ⟨hfits, hrefusal, h⟩, fun h ↦ h.leads⟩
  · rw [open?_of_not_fits hfits]
    exact iff_of_false nofun fun h ↦ hfits h.fits

theorem open?_eq_error_iff :
    system.open? location = .error failure ↔ system.Unopened location failure := by
  constructor
  · intro hopen
    by_cases hfits : system.Fits location
    · cases hrefusal : system.ownRefusal? location with
      | some other =>
        rw [open?_of_refused hfits hrefusal] at hopen
        obtain rfl := Except.error.inj hopen
        exact .refused hfits hrefusal
      | none =>
        rw [open?_of_granted hfits hrefusal, descend_eq_error_iff] at hopen
        exact .fails hfits hrefusal hopen
    · rw [open?_of_not_fits hfits] at hopen
      obtain rfl := Except.error.inj hopen
      exact .tooLong hfits
  · rintro (hfits | ⟨hfits, hrefusal⟩ | ⟨hfits, hgranted, h⟩)
    · exact open?_of_not_fits hfits
    · exact open?_of_refused hfits hrefusal
    · rw [open?_of_granted hfits hgranted, descend_eq_error_iff.mpr h]

end FileSystem

end TextTemplate
