import TextTemplate.Engine
import TextTemplate.Proofs.Lowering

/-!
# Caches that hold what they are asked for

A cache finds its artifacts by a digest of the source and of the names of the added helpers. It is
faithful to a list of requests if each artifact that it keeps is what one of them compiles to and
stands under the key of that request. Where no two requests of the list share a key, a faithful
cache answers each of them as compiling does (`getOrCompile_artifact`), and it stays faithful
whatever is asked, put in or dropped.
-/

namespace TextTemplate

/-- What a cache is asked for: a source, and the names of the helpers that its rendering adds. -/
structure Request where
  source : String
  customNames : List String
deriving DecidableEq, Repr

namespace Request

def key (q : Request) : CacheKey := .derive q.source q.customNames

def compile? (q : Request) : Except CompileError Artifact :=
  Artifact.compile? q.source q.customNames

/-- The same source, and the same set of names. -/
def Same (p q : Request) : Prop :=
  p.source = q.source ∧ ∀ n, n ∈ p.customNames ↔ n ∈ q.customNames

/-- Requests that are not the same have different keys. -/
def CollisionFree (requests : List Request) : Prop :=
  ∀ p ∈ requests, ∀ q ∈ requests, p.key = q.key → p.Same q

/-- Different requests with different keys do not collide. -/
theorem collisionFree_of_injective {requests : List Request}
    (h : ∀ p ∈ requests, ∀ q ∈ requests, p.key = q.key → p = q) : CollisionFree requests := by
  intro p hp q hq keys
  rw [h p hp q hq keys]
  exact ⟨rfl, fun _ => Iff.rfl⟩

theorem collisionFree_nil : CollisionFree [] := nofun

/-- Fewer requests collide no more. -/
theorem CollisionFree.mono {requests more : List Request} (h : CollisionFree more)
    (sub : requests ⊆ more) : CollisionFree requests :=
  fun p hp q hq => h p (sub hp) q (sub hq)

/-- Requests that are the same have the same artifact, their keys being equal. -/
theorem compile?_congr {p q : Request} (same : p.Same q) (keys : p.key = q.key) :
    p.compile? = q.compile? := by
  rcases same with ⟨source, names⟩
  have visible : ∀ n, n ∈ Helper.standardNames ++ p.customNames ↔
      n ∈ Helper.standardNames ++ q.customNames := by
    intro n
    rw [List.mem_append, List.mem_append, names n]
  simp only [key] at keys
  simp only [compile?, Artifact.compile?, Artifact.ofTemplate, keys,
    Program.ofTemplate_congr visible]
  rw [source]

end Request

namespace Artifact

/-- An artifact carries the key of its request. -/
theorem key_of_compile? {source : String} {customNames : List String} {a : Artifact}
    (h : compile? source customNames = .ok a) : a.key = .derive source customNames := by
  unfold compile? at h
  split at h
  · cases h
  · cases h
    rfl

/-- An artifact holds the program of the template that its source spells. -/
theorem program_of_compile? {source : String} {customNames : List String} {a : Artifact}
    (h : compile? source customNames = .ok a) :
    ∃ t, Template.ofSource? source = .ok t ∧
      a.program = .ofTemplate (Helper.standardNames ++ customNames) t := by
  unfold compile? at h
  split at h
  · cases h
  · next t spelled =>
    cases h
    exact ⟨t, spelled, rfl⟩

/-- A source that spells a template compiles, whatever helpers are added. -/
theorem compile?_of_ofSource? {source : String} {t : Template}
    (spelled : Template.ofSource? source = .ok t) (names : List String) :
    ∃ a, compile? source names = .ok a ∧
      a.program = .ofTemplate (Helper.standardNames ++ names) t := by
  rw [compile?, spelled]
  exact ⟨_, rfl, rfl⟩

end Artifact

namespace ArtifactCache

variable {requests : List Request} {c : ArtifactCache}

/-- Each artifact of the cache is what one of the requests compiles to. -/
def Faithful (requests : List Request) (c : ArtifactCache) : Prop :=
  ∀ entry ∈ c.kept.entries,
    ∃ q ∈ requests, q.key = entry.1 ∧ q.compile? = .ok entry.2.artifact

/-- A cache without artifacts has none that is wrong. -/
theorem faithful_empty (capacity : Nat) : Faithful requests (empty capacity) := by
  intro entry held
  cases held

theorem faithful_clear : Faithful requests c.clear := by
  intro entry held
  cases held

/-- A hit only moves an artifact to the front. -/
theorem Faithful.get? (key : CacheKey) (h : Faithful requests c) :
    Faithful requests (c.get? key).2 :=
  fun entry held => h entry (Lru.mem_of_mem_get? held)

theorem Faithful.erase (key : CacheKey) (h : Faithful requests c) :
    Faithful requests (c.erase key).2 :=
  fun entry held => h entry (Lru.mem_of_mem_erase held)

/-- What a request compiles to may be put in. -/
theorem Faithful.insert {q : Request} {a : StampedArtifact} (asked : q ∈ requests)
    (compiled : q.compile? = .ok a.artifact) (h : Faithful requests c) :
    Faithful requests (c.insert a).2 := by
  intro entry held
  rcases Lru.mem_of_mem_insert held with rfl | ⟨held, _⟩
  · exact ⟨q, asked, (Artifact.key_of_compile? compiled).symm, compiled⟩
  · exact h entry held

/-- A kept artifact is what any request with its key compiles to. -/
theorem Faithful.compile?_of_get? {q : Request} {a : StampedArtifact}
    (free : Request.CollisionFree requests) (h : Faithful requests c) (asked : q ∈ requests)
    (found : (c.get? q.key).1 = some a) : q.compile? = .ok a.artifact := by
  have kept : c.kept.peek? q.key = some a := by
    simp only [ArtifactCache.get?, Lru.get?] at found
    split at found
    · cases found
    · next b held =>
      rw [held]
      exact found
  rcases h _ (Lru.mem_of_peek? kept) with ⟨p, askedBefore, keys, compiled⟩
  rw [← Request.compile?_congr (free p askedBefore q asked keys) keys]
  exact compiled

/-- A faithful cache answers a request as compiling does. -/
theorem getOrCompile_artifact {q : Request} (free : Request.CollisionFree requests)
    (h : Faithful requests c) (asked : q ∈ requests) :
    (c.getOrCompile q.source q.customNames).1.map (·.artifact) = q.compile? := by
  have answer : ∀ a, (c.get? (.derive q.source q.customNames)).1 = some a →
      q.compile? = .ok a.artifact := fun _ found => h.compile?_of_get? free asked found
  unfold getOrCompile
  split
  -- A hit is right because the cache is faithful, a miss because it compiles.
  · next a c' found =>
    rw [answer a (congrArg Prod.fst found)]
    rfl
  · simp only [Request.compile?]
    cases Artifact.compile? q.source q.customNames <;> rfl

/-- A faithful cache stays faithful when it is asked. -/
theorem Faithful.getOrCompile {q : Request} (h : Faithful requests c) (asked : q ∈ requests) :
    Faithful requests (c.getOrCompile q.source q.customNames).2 := by
  have afterGet := h.get? q.key
  simp only [Request.key] at afterGet
  -- Looking up may reorder the keys, so it is faithful first, and then what is stored on top of it.
  unfold ArtifactCache.getOrCompile
  split
  · next a c' found =>
    rw [found] at afterGet
    exact afterGet
  · next c' missing =>
    rw [missing] at afterGet
    split
    · exact afterGet
    · next a compiled => exact Faithful.insert asked compiled afterGet

end ArtifactCache

end TextTemplate
