import TextTemplate.Source.Location
import TextTemplate.Table
/-!
# Trees of files

A tree of files is a file or a directory of named trees. A part of it is reached straight down, name
by name. Without links a place has one straight way down to it, so a change at the end of any other
way, which may go up again in between, first finds the straight one and then changes the tree along
it. Above the topmost directory there is only itself.

Writing makes the directories that are missing on its way, those included that the way leaves again.
-/

namespace TextTemplate

inductive FileTree where
  | file (content : List UInt8)
  | directory (children : Table FileTree)

namespace FileTree

def empty : FileTree := .directory .empty

/-- What is in a directory; nothing is in a file. -/
def children : FileTree → Table FileTree
  | .file _ => .empty
  | .directory children => children

/-- The part of the tree at the names. -/
def part? : List Text → FileTree → Option FileTree
  | [], tree => some tree
  | name :: rest, tree => (tree.children.find? name).bind (part? rest)

/-- The tree in which the part at the names is replaced, with directories made on the way. -/
def graft (leaf : FileTree) : List Text → FileTree → FileTree
  | [], _ => leaf
  | name :: rest, tree =>
    let child := (tree.children.find? name).getD empty
    .directory (tree.children.put name (graft leaf rest child))

/-- The tree without the part at the names. -/
def prune : List Text → FileTree → FileTree
  | [], _ => empty
  | [name], tree => .directory (tree.children.erase name)
  | name :: rest, tree =>
    match tree.children.find? name with
    | none => tree
    | some child => .directory (tree.children.put name (prune rest child))

/-- Goes on from a directory, given by the straight way to it, and makes the directories that are
missing. What comes out is the tree with them and the straight way to the last one; there is nothing
when a file is in the way. -/
def pave (tree : FileTree) (reached : List Text) : List Text → Option (FileTree × List Text)
  | [] => some (tree, reached)
  | name :: rest =>
    if name = Location.above then pave tree reached.dropLast rest
    else
      let reached := reached ++ [name]
      match part? reached tree with
      | some (.directory _) => pave tree reached rest
      | some (.file _) => none
      | none => pave (graft empty reached tree) reached rest

/-- The straight way to where the names lead from a directory, when only directories are on the
way. -/
def straight? (tree : FileTree) (reached : List Text) : List Text → Option (List Text)
  | [] => some reached
  | name :: rest =>
    match part? reached tree with
    | some (.directory _) =>
      if name = Location.above then straight? tree reached.dropLast rest
      else straight? tree (reached ++ [name]) rest
    | _ => none

end FileTree

end TextTemplate
