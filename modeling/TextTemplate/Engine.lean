import TextTemplate.Render
import TextTemplate.Value.Datum

/-!
# Engines

An engine compiles sources through its cache and renders them. A source is compiled for the names of
the helpers that its rendering adds.
-/

namespace TextTemplate

/-- What an engine may be told when it is made. -/
structure EngineOptions where
  cacheCapacity : Nat
  maxDepth : Nat
deriving DecidableEq, Repr

namespace EngineOptions

def standard : EngineOptions := ⟨ArtifactCache.defaultCapacity, defaultMaxDepth⟩

/-- Asks for a capacity; there is always room for one artifact. -/
def withCapacity (capacity : Nat) (options : EngineOptions) : EngineOptions :=
  { options with cacheCapacity := max capacity 1 }

/-- Asks for a depth of inclusions. -/
def withMaxDepth (depth : Nat) (options : EngineOptions) : EngineOptions :=
  { options with maxDepth := depth }

end EngineOptions

/-- Why an engine has no output. -/
inductive EngineError where
  | compile (cause : CompileError)
  | render (cause : RenderError)
  | value (cause : ValueError)
deriving DecidableEq, Repr

def EngineError.message : EngineError → String
  | compile cause => "Compile error: " ++ cause.message
  | render cause => "Render error: " ++ cause.message
  | value cause => cause.message

/-- A cache and the options of renderings. -/
structure Engine where
  options : EngineOptions
  cache : ArtifactCache

namespace Engine

/-- An engine with a cache of its own. -/
def ofOptions (options : EngineOptions) : Engine := ⟨options, .empty options.cacheCapacity⟩

/-- An engine over a cache, which keeps its own capacity. -/
def ofCache (cache : ArtifactCache) (options : EngineOptions) : Engine := ⟨options, cache⟩

/-- The artifact of a source, compiled on first use. -/
def load (source : String) (customNames : List String) (engine : Engine) :
    Except CompileError StampedArtifact × Engine :=
  let (loaded, cache) := engine.cache.getOrCompile source customNames
  (loaded, { engine with cache := cache })

/-- Drops the artifact of a source and tells whether there was one. -/
def remove (source : String) (customNames : List String) (engine : Engine) : Bool × Engine :=
  let (found, cache) := engine.cache.erase (.derive source customNames)
  (found.isSome, { engine with cache := cache })

/-- Renders a source on a context. The engine and the registry come back as they have become. -/
def render (source : String) (root : Value) (helpers : HelperTable) (registry : Option Registry)
    (engine : Engine) : Except EngineError String × Engine × Option Registry :=
  match engine.load source helpers.customNames with
  | (.error cause, engine) => (.error (.compile cause), engine, registry)
  | (.ok loaded, engine) =>
    let depth := engine.options.maxDepth
    let session : Session := ⟨registry, some engine.cache⟩
    let (out, session) := (loaded.artifact.render helpers depth root).run.run session
    let engine := { engine with cache := session.cache.getD engine.cache }
    match out with
    | .ok text => (.ok text, engine, session.registry)
    | .error cause => (.error (.render cause), engine, session.registry)

/-- Renders a source on data. -/
def renderData (source : String) (data : Datum) (helpers : HelperTable)
    (registry : Option Registry) (engine : Engine) :
    Except EngineError String × Engine × Option Registry :=
  match data.toValue? with
  | .error cause => (.error (.value cause), engine, registry)
  | .ok root => engine.render source root helpers registry

end Engine

end TextTemplate
