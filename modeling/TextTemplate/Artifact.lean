import TextTemplate.CacheKey
import TextTemplate.Program.Lowering

/-!
# Compiled templates

An artifact is a program with a key and the name of an entry point. `Artifact.compile?` reads a
source; the helpers that it may refer to are the standard ones and those whose names it is given.
-/

namespace TextTemplate

/-- A compiled template. -/
structure Artifact where
  key : CacheKey
  entryPoint : String
  program : Program
deriving Repr

namespace Artifact

/-- The artifact of a template on its own, with no key yet. -/
def ofTemplate (helpers : List String) (entryPoint : String) (t : Template) : Artifact :=
  ⟨⟨0⟩, entryPoint, .ofTemplate helpers t⟩

/-- The artifact of a source, where `customNames` are the names of the added helpers. -/
def compile? (source : String) (customNames : List String) : Except CompileError Artifact :=
  match Template.ofSource? source with
  | .error e => .error e
  | .ok t =>
    let key := CacheKey.derive source customNames
    .ok { ofTemplate (Helper.standardNames ++ customNames) key.entryPoint t with key := key }

end Artifact

end TextTemplate
