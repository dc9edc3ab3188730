import TextTemplate.Digest
import TextTemplate.Log
import TextTemplate.Table
import TextTemplate.Template.Plan
/-!
# Keeping compiled templates

A cache keeps, for every path, the plan that was last compiled for it and the digest of the text
that it was compiled from. The plan is used again only while the text at the path has that digest,
so a changed text is compiled anew. Two counters say how often a plan was found and how often not.

Compiled templates are told apart by serial numbers: two of them are one and the same exactly when
their numbers agree, whatever their plans look like.
-/

namespace TextTemplate

/-- A plan with the number of its making. -/
structure Compiled where
  serial : Nat
  plan : Plan
  deriving DecidableEq, Repr

/-- Compiled templates by path. -/
structure Cache where
  /-- The digest of the text and what it was compiled to. -/
  entries : Table (Digest × Compiled)
  hits : Nat
  misses : Nat

namespace Cache

def empty : Cache := ⟨.empty, 0, 0⟩

/-- What is kept for a path, if it was compiled from this text. -/
def find? (cache : Cache) (path text : Text) : Option Compiled :=
  match cache.entries.find? path with
  | some (digest, compiled) => if digest = .ofText text then some compiled else none
  | none => none

/-- The cache after a plan was found. -/
def countHit (cache : Cache) : Cache := { cache with hits := cache.hits + 1 }

/-- The cache after no plan was found. -/
def countMiss (cache : Cache) : Cache := { cache with misses := cache.misses + 1 }

/-- Keeps what a text was compiled to. -/
def store (cache : Cache) (path text : Text) (compiled : Compiled) : Logged Cache where
  events := [.cached path]
  result := { cache with entries := cache.entries.put path (.ofText text, compiled) }

/-- Drops what is kept for one path, or for all of them when none is given. -/
def invalidate (cache : Cache) : Option Text → Logged Cache
  | none => ⟨[.cleared cache.entries.size], { cache with entries := .empty }⟩
  | some path =>
    match cache.entries.find? path with
    | some _ => ⟨[.invalidated path], { cache with entries := cache.entries.erase path }⟩
    | none => .quiet cache

structure Stats where
  entries : Nat
  hits : Nat
  misses : Nat
  deriving DecidableEq, Repr

def size (cache : Cache) : Nat := cache.entries.size

def stats (cache : Cache) : Stats := ⟨cache.size, cache.hits, cache.misses⟩

/-- The paths in order, with the digests of what was compiled for them. -/
def listing (cache : Cache) : List (Text × Digest) :=
  cache.entries.sorted.map fun (path, digest, _) ↦ (path, digest)

end Cache

end TextTemplate
