import Mathlib
import TextTemplate.Calendar.CommonLocales
import TextTemplate.Proofs.Simulation

/-!
# Caches do not show

Any number of engines may share a cache. Whatever they have loaded, rendered and dropped through it,
and whatever has been put in, an engine renders a source to the very output or error that compiling
it on the spot gives (`render_of_faithful`): as long as no two of the requests that the cache
has been asked for share a key.

A `CacheMove` is one use of the cache. Each move keeps the cache faithful to the requests made so
far (`CacheMove.faithful_run`); the requests of a rendering are its source and the texts that its
template includes.
-/

namespace TextTemplate

/-- The output of a source that is compiled on the spot and rendered without a cache, and the
registry as it has become. -/
def renderDirectly (source : String) (root : Value) (helpers : HelperTable)
    (registry : Option Registry) (maxDepth : Nat) :
    Except EngineError String × Option Registry :=
  match Artifact.compile? source helpers.customNames with
  | .error cause => (.error (.compile cause), registry)
  | .ok a =>
    let (out, registry) := a.renderAlone helpers maxDepth root registry
    (out.mapError .render, registry)

/-- What a rendering asks a cache for: its source, and each text that the source includes. -/
def renderRequests (source : String) (root : Value) (helpers : HelperTable)
    (registry : Option Registry) (maxDepth : Nat) : List Request :=
  let texts := match Template.ofSource? source with
    | .error _ => []
    | .ok t => t.includedTexts helpers maxDepth (Helper.standardNames ++ helpers.customNames) root
        registry
  (source :: texts).map fun text => ⟨text, helpers.customNames⟩

/-- A use of a cache, through an engine with its own options or directly. -/
inductive CacheMove where
  | load (options : EngineOptions) (source : String) (customNames : List String)
  | render (options : EngineOptions) (source : String) (root : Value) (helpers : HelperTable)
    (registry : Option Registry)
  | remove (options : EngineOptions) (source : String) (customNames : List String)
  | clear
  | get (key : CacheKey)
  /-- Puts in what a source compiles to, if it does. -/
  | insert (source : String) (customNames : List String) (stamp : Nat)

namespace CacheMove

/-- What a move makes of the cache. -/
def run (c : ArtifactCache) : CacheMove → ArtifactCache
  | load options source customNames => ((Engine.ofCache c options).load source customNames).2.cache
  | render options source root helpers registry =>
    ((Engine.ofCache c options).render source root helpers registry).2.1.cache
  | remove options source customNames =>
    ((Engine.ofCache c options).remove source customNames).2.cache
  | clear => c.clear
  | get key => (c.get? key).2
  | insert source customNames stamp =>
    match Artifact.compile? source customNames with
    | .error _ => c
    | .ok a => (c.insert ⟨a, stamp⟩).2

/-- The requests of a move. -/
def requests : CacheMove → List Request
  | load _ source customNames => [⟨source, customNames⟩]
  | render options source root helpers registry =>
    renderRequests source root helpers registry options.maxDepth
  | remove .. => []
  | clear => []
  | get _ => []
  | insert source customNames _ => [⟨source, customNames⟩]

/-- What moves make of a cache, one after the other. -/
def runAll (c : ArtifactCache) (moves : List CacheMove) : ArtifactCache := moves.foldl run c

end CacheMove

/-- The output of an engine over a cache that has come through some moves, and the registry as it
has become. -/
def renderAfter (capacity : Nat) (moves : List CacheMove) (options : EngineOptions)
    (source : String) (root : Value) (helpers : HelperTable) (registry : Option Registry) :
    Except EngineError String × Option Registry :=
  let cache := CacheMove.runAll (.empty capacity) moves
  let (out, _, registry) := (Engine.ofCache cache options).render source root helpers registry
  (out, registry)

/-- What a cache has been asked for when a rendering after some moves is done. -/
def requestsAfter (moves : List CacheMove) (options : EngineOptions) (source : String)
    (root : Value) (helpers : HelperTable) (registry : Option Registry) : List Request :=
  moves.flatMap CacheMove.requests ++
    renderRequests source root helpers registry options.maxDepth

/-! ## One rendering -/

section
variable {requests : List Request} {c : ArtifactCache} {source : String} {root : Value}
  {helpers : HelperTable} {registry : Option Registry} {options : EngineOptions}

/-- An engine over a faithful cache renders as if there was no cache, and the cache stays
faithful. -/
theorem render_of_faithful (free : Request.CollisionFree requests) (faithful : c.Faithful requests)
    (asked : renderRequests source root helpers registry options.maxDepth ⊆ requests) :
    let rendered := (Engine.ofCache c options).render source root helpers registry
    (rendered.1, rendered.2.2) =
        renderDirectly source root helpers registry options.maxDepth ∧
      rendered.2.1.cache.Faithful requests := by
  have sourceAsked : ⟨source, helpers.customNames⟩ ∈ requests := asked (List.mem_cons_self ..)
  have answer := ArtifactCache.getOrCompile_artifact free faithful sourceAsked
  have after := faithful.getOrCompile sourceAsked
  simp only [Request.compile?] at answer after
  cases loading : c.getOrCompile source helpers.customNames with
  | mk loaded c' =>
    rw [loading] at answer after
    cases loaded with
    | error cause =>
      -- Compiling fails on the spot as well, and nothing is rendered.
      simp only [Engine.render, Engine.load, Engine.ofCache, renderDirectly, loading, ← answer]
      exact ⟨rfl, after⟩
    | ok stamped =>
      have compiled : Artifact.compile? source helpers.customNames = .ok stamped.artifact :=
        answer.symm
      rcases Artifact.program_of_compile? compiled with ⟨t, spelled, program⟩
      have m : Matches requests ⟨registry, some c'⟩ ⟨registry, []⟩ :=
        ⟨rfl, fun _ => free, fun d same => by cases same; exact after⟩
      -- The texts that the template includes are asked for in the same rendering.
      have textsAsked : ∀ text ∈ t.includedTexts helpers options.maxDepth
          (Helper.standardNames ++ helpers.customNames) root registry,
          ⟨text, helpers.customNames⟩ ∈ requests := by
        intro text held
        apply asked
        rw [renderRequests, spelled]
        exact List.mem_map_of_mem (List.mem_cons_of_mem _ held)
      rcases render_eq_reading program textsAsked m with ⟨sameOut, m'⟩
      have alone : stamped.artifact.renderAlone helpers options.maxDepth root registry =
          t.interpret helpers options.maxDepth (Helper.standardNames ++ helpers.customNames) root
            registry := Artifact.renderAlone_eq_interpret program
      simp only [Template.interpret, ← sameOut, ← m'.registry] at alone
      simp only [Engine.render, Engine.load, Engine.ofCache, renderDirectly, loading, compiled,
        alone]
      generalize (stamped.artifact.render helpers options.maxDepth root).run.run
        ⟨registry, some c'⟩ = rendered at m' ⊢
      rcases rendered with ⟨out, session⟩
      have kept : (session.cache.getD c').Faithful requests := by
        cases h : session.cache with
        | none => exact after
        | some d => exact m'.faithful d h
      cases out with
      | error cause => exact ⟨rfl, kept⟩
      | ok text => exact ⟨rfl, kept⟩

end

/-- A source that spells a template is rendered as the template is read. -/
theorem renderDirectly_of_spelled {source : String} {t : Template} (root : Value)
    (helpers : HelperTable) (registry : Option Registry) (maxDepth : Nat)
    (spelled : Template.ofSource? source = .ok t) :
    (renderDirectly source root helpers registry maxDepth).1 =
      (t.interpret helpers maxDepth (Helper.standardNames ++ helpers.customNames) root
        registry).1.mapError .render := by
  simp only [renderDirectly, Artifact.compile?, spelled]
  rw [Artifact.renderAlone_eq_interpret rfl]

/-! ## Any history -/

namespace CacheMove

variable {requests : List Request} {c : ArtifactCache}

/-- A move keeps a cache faithful to requests that its own are among. -/
theorem faithful_run (free : Request.CollisionFree requests) (faithful : c.Faithful requests)
    (move : CacheMove) (asked : move.requests ⊆ requests) : (move.run c).Faithful requests := by
  cases move with
  | load options source customNames =>
    -- A load fills the cache by a compilation of a request among these.
    have sourceAsked : (⟨source, customNames⟩ : Request) ∈ requests :=
      asked (List.mem_cons_self ..)
    have after := faithful.getOrCompile sourceAsked
    simp only [run, Engine.load, Engine.ofCache]
    exact after
  | render options source root helpers registry =>
    rw [run]
    exact (render_of_faithful free faithful asked).2
  | remove options source customNames => exact faithful.erase _
  | clear => exact ArtifactCache.faithful_clear
  | get key => exact faithful.get? key
  | insert source customNames stamp =>
    have sourceAsked : (⟨source, customNames⟩ : Request) ∈ requests :=
      asked (List.mem_cons_self ..)
    rw [run]
    split
    · exact faithful
    · next a compiled => exact faithful.insert sourceAsked compiled

/-- A cache stays faithful along any moves whose requests are among those without collisions. -/
theorem faithful_runAll (free : Request.CollisionFree requests) (faithful : c.Faithful requests)
    (moves : List CacheMove) (asked : moves.flatMap CacheMove.requests ⊆ requests) :
    (runAll c moves).Faithful requests := by
  induction moves generalizing c with
  | nil => exact faithful
  | cons move rest ih =>
    rw [List.flatMap_cons, List.append_subset] at asked
    exact ih (faithful_run free faithful move asked.1) asked.2

end CacheMove

/-- What a cache has come through does not show: the rendering is the one without a cache. -/
theorem renderAfter_of_collisionFree {capacity : Nat} {moves : List CacheMove}
    {options : EngineOptions} {source : String} {root : Value} {helpers : HelperTable}
    {registry : Option Registry}
    (free : Request.CollisionFree
      (requestsAfter moves options source root helpers registry)) :
    renderAfter capacity moves options source root helpers registry =
      renderDirectly source root helpers registry options.maxDepth := by
  have faithful := CacheMove.faithful_runAll free (ArtifactCache.faithful_empty capacity) moves
    (List.subset_append_left ..)
  exact (render_of_faithful free faithful (List.subset_append_right ..)).1

/-- **A cache never shows in an output.** An engine over a cache of any capacity that has come
through any moves renders a source as if it was compiled on the spot and there was no cache; so two
such caches give the same. No two requests that a cache has been asked for may share a key. -/
theorem renderAfter_eq_renderDirectly (capacity : Nat) (moves : List CacheMove)
    (options : EngineOptions) (source : String) (root : Value) (helpers : HelperTable)
    (registry : Option Registry)
    (free : Request.CollisionFree
      (requestsAfter moves options source root helpers registry)) :
    renderAfter capacity moves options source root helpers registry =
        renderDirectly source root helpers registry options.maxDepth ∧
      ∀ capacity' moves', Request.CollisionFree
          (requestsAfter moves' options source root helpers registry) →
        renderAfter capacity' moves' options source root helpers registry =
          renderAfter capacity moves options source root helpers registry := by
  have here : renderAfter capacity moves options source root helpers registry =
      renderDirectly source root helpers registry options.maxDepth :=
    renderAfter_of_collisionFree free
  refine ⟨here, ?_⟩
  intro capacity' moves' free'
  rw [here]
  exact renderAfter_of_collisionFree free'

/-- A rendering whose source its own inclusion had evicted, before everything was dropped. -/
theorem renderAfter_evicted_and_cleared :
    let helpers := HelperTable.standard .common
    let source := "\x7b\x7b>p\x7d\x7d"
    let moves : List CacheMove :=
      [.render ⟨1, 4⟩ source .null helpers (some ⟨[("p", "x")], none, 0⟩), .clear]
    let registry : Registry := ⟨[("p", "y")], none, 0⟩
    Request.CollisionFree (requestsAfter moves ⟨1, 4⟩ source .null helpers (some registry)) ∧
      renderAfter 1 moves ⟨1, 4⟩ source .null helpers (some registry) =
        renderDirectly source .null helpers (some registry) 4 := by
  intro helpers source moves registry
  have requests : requestsAfter moves ⟨1, 4⟩ source .null helpers (some registry) =
      [⟨"\x7b\x7b>p\x7d\x7d", []⟩, ⟨"x", []⟩, ⟨"\x7b\x7b>p\x7d\x7d", []⟩, ⟨"y", []⟩] := by
    dsimp only [moves, source, helpers, registry]
    cbv
  -- The keys are computed, and equal ones belong to equal requests.
  have free : Request.CollisionFree
      [⟨"\x7b\x7b>p\x7d\x7d", []⟩, ⟨"x", []⟩, ⟨"\x7b\x7b>p\x7d\x7d", []⟩, ⟨"y", []⟩] :=
    Request.collisionFree_of_injective (by decide +kernel)
  rw [← requests] at free
  exact ⟨free, (renderAfter_eq_renderDirectly 1 _ _ _ _ _ _ free).1⟩

end TextTemplate
