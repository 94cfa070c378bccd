import TextTemplate.Proofs.Coherence
import TextTemplate.Proofs.Record

/-!
# What a session does for an inclusion

The program of a partial comes in two steps: its text is looked up in the registry of the session
(`Session.lookUp`), and the text is compiled through the cache (`Session.compile`). Each step is a
function of the session, and so is the whole (`run_partialProgram`).
-/

namespace TextTemplate

namespace Session

/-- The session after the text of a partial has been looked up. -/
def lookUp (name : String) (s : Session) : Session :=
  { s with registry := (Registry.textOf name s.registry).2 }

/-- The artifact of a text, by way of the cache if there is one, and the session afterwards. -/
def compile (text : String) (customNames : List String) (s : Session) :
    Except CompileError Artifact × Session :=
  match s.cache with
  | none => (Artifact.compile? text customNames, s)
  | some c =>
    ((c.getOrCompile text customNames).1.map (·.artifact),
      { s with cache := some (c.getOrCompile text customNames).2 })

/-- The program of a partial, and the session afterwards. -/
def program (customNames : List String) (name : String) (s : Session) :
    Except RenderError Program × Session :=
  match (Registry.textOf name s.registry).1 with
  | .error e => (.error e, s.lookUp name)
  | .ok text =>
    let compiled := (s.lookUp name).compile text customNames
    ((compiled.1.map (·.program)).mapError (.partialCompile name), compiled.2)

end Session

/-- Asking for a text changes the registry alone. -/
theorem run_resolve (name : String) (s : Session) :
    (Render.resolve name).run.run s =
      ((Registry.textOf name s.registry).1, s.lookUp name) := by
  simp only [Render.resolve, run_bind, run_get, Session.lookUp]
  rcases h : s.registry with _ | registry
  · cases s
    cases h
    rfl
  · simp only [run_bind, run_set, Registry.textOf]
    rcases (registry.resolve name).1 with causes | _ | text <;> rfl

/-- The compiler of a rendering is that of the cache in its session. -/
theorem run_compile_eq (text : String) (customNames : List String) (s : Session) :
    (Render.compile text customNames).run.run s =
      (.ok (s.compile text customNames).1, (s.compile text customNames).2) := by
  simp only [Render.compile, run_bind, run_get, Session.compile]
  cases s.cache <;> rfl

theorem run_partialProgram (helpers : HelperTable) (name : String) (s : Session) :
    (Render.partialProgram helpers name).run.run s = s.program helpers.customNames name := by
  rw [Render.partialProgram, run_bind, run_resolve, Session.program]
  cases (Registry.textOf name s.registry).1 with
  | error e => rfl
  | ok text =>
    dsimp only
    rw [run_bind, run_compile_eq]
    cases ((s.lookUp name).compile text helpers.customNames).1 <;> rfl

namespace Session

variable {requests : List Request} {customNames : List String}

/-- Compiling a text leaves the registry alone. -/
theorem registry_compile (text : String) (customNames : List String) (s : Session) :
    (s.compile text customNames).2.registry = s.registry := by
  unfold compile
  cases s.cache <;> rfl

theorem isSome_cache_compile (text : String) (customNames : List String) (s : Session) :
    (s.compile text customNames).2.cache.isSome = s.cache.isSome := by
  unfold compile
  cases cached : s.cache with
  | none => exact congrArg Option.isSome cached
  | some c => rfl

/-- To find a program asks the registry for its text, once. -/
theorem registry_program (customNames : List String) (name : String) (s : Session) :
    (s.program customNames name).2.registry = (Registry.textOf name s.registry).2 := by
  unfold program
  cases (Registry.textOf name s.registry).1 with
  | error e => rfl
  | ok text => exact registry_compile text customNames (s.lookUp name)

/-- The text of a program is not found, its resolver fails, or the text does not compile. -/
theorem error_of_program {name : String} {s : Session} {e : RenderError}
    (failed : (s.program customNames name).1 = .error e) :
    e = .partialNotFound name ∨ (∃ causes, e = .partialResolve name causes) ∨
      ∃ cause, e = .partialCompile name cause := by
  unfold program at failed
  -- A program is missing because its text is, or because the text does not compile.
  cases found : (Registry.textOf name s.registry).1 with
  | error e =>
    rw [found] at failed
    cases failed
    exact (Registry.error_of_textOf found).imp_right .inl
  | ok text =>
    rw [found] at failed
    dsimp only at failed
    cases compiled : ((s.lookUp name).compile text customNames).1 with
    | error cause =>
      rw [compiled] at failed
      cases failed
      exact .inr (.inr ⟨cause, rfl⟩)
    | ok a =>
      rw [compiled] at failed
      cases failed

/-- A session whose cache is faithful gives the artifact of a text, and its cache stays faithful. -/
theorem compile_of_faithful {text : String} {s : Session}
    (free : s.cache.isSome → Request.CollisionFree requests)
    (faithful : ∀ c, s.cache = some c → c.Faithful requests)
    (asked : ⟨text, customNames⟩ ∈ requests) :
    (s.compile text customNames).1 = Artifact.compile? text customNames ∧
      ∀ c, (s.compile text customNames).2.cache = some c → c.Faithful requests := by
  unfold compile
  cases cached : s.cache with
  | none => exact ⟨rfl, faithful⟩
  | some c =>
    -- A faithful cache answers as the compiler does, as long as no two requests share a key.
    have answer :=
      ArtifactCache.getOrCompile_artifact (free (by rw [cached]; rfl)) (faithful c cached) asked
    have after := (faithful c cached).getOrCompile asked
    simp only at answer after
    refine ⟨answer, ?_⟩
    intro left same
    cases same
    exact after

end Session

end TextTemplate
