import TextTemplate.Source.FileTree
import TextTemplate.Text.Quoted
/-!
# File systems

A file system is a tree of files with a working directory in it. An absolute location is looked for
from the root, a relative one from the working directory, one name after the other. On the way it
may go up again, so the place it has reached is a tree together with the directories around it.

A name is refused for its length only when its turn comes: going through a file or a missing
directory fails before. A location that is too long as a whole is refused before anything else.

What else keeps a location from being opened, such as the rights of files, is not described here. It
is a part of the system that may be anything, and so is the way in which names are written as bytes.
-/

namespace TextTemplate

/-- What a system says where it opens no file: the number of the failure and its words. -/
structure OpenFailure where
  number : Nat
  words : Text
  deriving DecidableEq, Repr

namespace OpenFailure

def absent : OpenFailure := ⟨2, "No such file or directory".toList⟩

def notDirectory : OpenFailure := ⟨20, "Not a directory".toList⟩

def isDirectory : OpenFailure := ⟨21, "Is a directory".toList⟩

/-- A name on the way, or the whole location, is longer than any can be. -/
def nameTooLong : OpenFailure := ⟨36, "File name too long".toList⟩

/-- The failure says that there is no file. Only its number counts. -/
def isAbsence (failure : OpenFailure) : Bool :=
  [absent, notDirectory, isDirectory].any fun kind ↦ kind.number = failure.number

/-- A full account of the failure, with the location that was to be opened. -/
def account (failure : OpenFailure) (opened : Text) : Text :=
  "[Errno ".toList ++ Text.ofNat failure.number ++ "] ".toList ++ failure.words ++ ": ".toList
    ++ Quoted.text opened

/-- The reason in a few words, if there are any. -/
def reason (failure : OpenFailure) (opened : Text) : Text :=
  if failure.words.isEmpty then failure.account opened else failure.words

end OpenFailure

/-- A tree that was reached, and the directories that lead to it, the innermost first. -/
structure Place where
  here : FileTree
  around : List FileTree

namespace Place

/-- The place around this one. Around the topmost there is only itself. -/
def up : Place → Place
  | ⟨_, outer :: around⟩ => ⟨outer, around⟩
  | ⟨here, []⟩ => ⟨here, []⟩

def child? (place : Place) (name : Text) : Option FileTree := place.here.children.find? name

def enter (place : Place) (child : FileTree) : Place := ⟨child, place.here :: place.around⟩

end Place

structure FileSystem where
  root : FileTree
  /-- The names that lead straight to the working directory. -/
  workingDirectory : List Text
  /-- How many bytes a character takes in a name, if it may stand in one. -/
  width? : Char → Option Nat
  /-- Names are written in an extension of ASCII. -/
  width?_ascii : ∀ c : Char, c.toNat < 128 → width? c = some 1
  /-- Why the system itself does not open what the names lead to from the root, if it does not. -/
  refusal? : List Text → Option OpenFailure

namespace FileSystem

/-- A system with names in UTF-8 that opens whatever is there. -/
def usual (root : FileTree) (workingDirectory : List Text) : FileSystem where
  root
  workingDirectory
  width? c := some c.utf8Size
  width?_ascii _ hc :=
    congrArg some (Char.utf8Size_eq_one_iff.mpr (UInt32.le_iff_toNat_le.mpr (Nat.le_of_lt_succ hc)))
  refusal? _ := none

/-- The text can be written in names. -/
def canWrite (system : FileSystem) (text : Text) : Bool :=
  text.all fun c ↦ (system.width? c).isSome

/-- The number of bytes that a text takes in names. -/
def lengthOf (system : FileSystem) : Text → Nat
  | [] => 0
  | c :: rest => (system.width? c).getD 0 + lengthOf system rest

/-- The straight way to where a location starts. -/
def startNames (system : FileSystem) (location : Location) : List Text :=
  if location.isAbsolute then [] else system.workingDirectory

/-- The place where a location starts. A working directory that was removed has nothing in it. -/
def start (system : FileSystem) (location : Location) : Place :=
  (system.startNames location).foldl
    (fun place name ↦ place.enter ((place.child? name).getD .empty)) ⟨system.root, []⟩

/-! ## Opening files -/

/-- The greatest length of a name, in bytes. -/
def nameLimit : Nat := 255

/-- The length in bytes that a whole location stays below. -/
def locationLimit : Nat := 4096

/-- Goes from a place through the names. -/
def descend (system : FileSystem) (place : Place) :
    List Text → Except OpenFailure (List UInt8)
  | [] =>
    match place.here with
    | .file content => .ok content
    | .directory _ => .error .isDirectory
  | name :: rest =>
    match place.here with
    | .file _ => .error .notDirectory
    | .directory _ =>
      if name = Location.above then descend system place.up rest
      else if nameLimit < system.lengthOf name then .error .nameTooLong
      else
        match place.child? name with
        | some child => descend system (place.enter child) rest
        | none => .error .absent

/-- The bytes of the file at a location. -/
def open? (system : FileSystem) (location : Location) : Except OpenFailure (List UInt8) :=
  if locationLimit ≤ system.lengthOf location.text then .error .nameTooLong
  else
    match system.refusal? (system.startNames location ++ location.names) with
    | some failure => .error failure
    | none => system.descend (system.start location) location.names

/-! ## Changing files -/

def makeDirectory (system : FileSystem) (location : Location) : FileSystem :=
  match system.root.pave (system.startNames location) location.names with
  | some (root, _) => { system with root }
  | none => system

/-- The system with a file. The last name is the file's, so it does not lead up. -/
def write (system : FileSystem) (location : Location) (content : List UInt8) : FileSystem :=
  match location.names.getLast?,
    system.root.pave (system.startNames location) location.names.dropLast with
  | some name, some (root, reached) =>
    if name = Location.above then system
    else { system with root := .graft (.file content) (reached ++ [name]) root }
  | _, _ => system

/-- The system without what is at a location. -/
def remove (system : FileSystem) (location : Location) : FileSystem :=
  match system.root.straight? (system.startNames location) location.names with
  | some names => { system with root := .prune names system.root }
  | none => system

end FileSystem

end TextTemplate
