import TextTemplate.Artifact
import TextTemplate.Lru

/-!
# Caches of compiled templates

A cache keeps compiled templates under their keys. Every artifact that is made for a cache gets a
stamp of its own, so that a kept artifact can be told from one that was compiled again.
-/

namespace TextTemplate

/-- An artifact and the stamp of its making. -/
structure StampedArtifact where
  artifact : Artifact
  stamp : Nat

/-- A bounded cache of compiled templates. -/
structure ArtifactCache where
  kept : Lru CacheKey StampedArtifact
  /-- The stamp of the next artifact. -/
  nextStamp : Nat

namespace ArtifactCache

/-- The number of artifacts that a cache keeps unless told otherwise. -/
def defaultCapacity : Nat := 128

/-- A cache without artifacts. -/
def empty (capacity : Nat) : ArtifactCache := ⟨.empty capacity, 0⟩

def size (c : ArtifactCache) : Nat := c.kept.size

def isEmpty (c : ArtifactCache) : Bool := c.kept.isEmpty

def capacity (c : ArtifactCache) : Nat := c.kept.capacity

def contains (key : CacheKey) (c : ArtifactCache) : Bool := c.kept.contains key

/-- The artifact of a key, which counts as used. -/
def get? (key : CacheKey) (c : ArtifactCache) : Option StampedArtifact × ArtifactCache :=
  let (found, kept) := c.kept.get? key
  (found, { c with kept := kept })

/-- Stamps a new artifact. -/
def stamp (a : Artifact) (c : ArtifactCache) : StampedArtifact × ArtifactCache :=
  (⟨a, c.nextStamp⟩, { c with nextStamp := c.nextStamp + 1 })

/-- Keeps an artifact under its own key. The key of the artifact that had to leave comes back. -/
def insert (a : StampedArtifact) (c : ArtifactCache) : Option CacheKey × ArtifactCache :=
  let (evicted, kept) := c.kept.insert a.artifact.key a
  (evicted, { c with kept := kept })

/-- Drops the artifact of a key, which comes back. -/
def erase (key : CacheKey) (c : ArtifactCache) : Option StampedArtifact × ArtifactCache :=
  let (found, kept) := c.kept.erase key
  (found, { c with kept := kept })

/-- Drops all artifacts. -/
def clear (c : ArtifactCache) : ArtifactCache := { c with kept := c.kept.clear }

/-- The artifact of a source, compiled and kept if the cache has none. A source that does not
compile leaves the cache as it was. -/
def getOrCompile (source : String) (customNames : List String) (c : ArtifactCache) :
    Except CompileError StampedArtifact × ArtifactCache :=
  match c.get? (.derive source customNames) with
  | (some a, c) => (.ok a, c)
  | (none, c) =>
    match Artifact.compile? source customNames with
    | .error e => (.error e, c)
    | .ok a =>
      let (a, c) := c.stamp a
      (.ok a, (c.insert a).2)

/-- How a cache shows itself. -/
def description (c : ArtifactCache) : String :=
  "ArtifactCache \x7b len: " ++ toString c.size ++ ", capacity: " ++ toString c.capacity ++ " \x7d"

end ArtifactCache

end TextTemplate
