import TextTemplate.ArtifactCache
import TextTemplate.Partial.Registry

/-!
# Rendering

A program is run on a context, with a table of helpers. Inclusions find their texts in a registry,
which may grow, and compile them through a cache, if there is one; what both have become is part of
the result also where rendering fails. The result is a list of fragments, so that what came from the
template can be told from what came from data.

Inclusions nest to a bounded depth: `Program.run` recurses on the depth that is left, and the steps
of one program are run by recursion on its steps.
-/

namespace TextTemplate

/-- A piece of output. -/
inductive Fragment where
  /-- Text of a template. -/
  | literal (s : String)
  /-- The text of a value. -/
  | data (s : String)
deriving DecidableEq, Repr

namespace Fragment

def text : Fragment → String
  | literal s => s
  | data s => s

/-- The output that fragments make up. -/
def join (fragments : List Fragment) : String := String.join (fragments.map text)

end Fragment

/-- What rendering reads and changes besides its output. -/
structure Session where
  registry : Option Registry
  cache : Option ArtifactCache

/-- A computation that may fail and may change the session. -/
abbrev Render := ExceptT RenderError (StateM Session)

namespace Render

/-- A result that does not depend on the session. -/
def lift {α : Type} (x : Except RenderError α) : Render α := ExceptT.mk (pure x)

/-- The results of a computation for each member of a list, in one list. The members are counted
from `index`. -/
def forEach {α β : Type} (f : Nat → α → Render (List β)) (index : Nat) : List α → Render (List β)
  | [] => pure []
  | a :: rest => do
    let bs ← f index a
    let more ← forEach f (index + 1) rest
    return bs ++ more

end Render

/-- What a step of a program sees: the context and the values bound by loops, innermost first. -/
structure Frame where
  root : Value
  locals : List Value

namespace Frame

/-- The frame of a template that has just been entered. -/
def ofContext (root : Value) : Frame := ⟨root, []⟩

/-- The frame inside a loop, for a member and for its index if that is bound. -/
def enter (item : Value) (index : Option Nat) (frame : Frame) : Frame :=
  match index with
  | none => { frame with locals := item :: frame.locals }
  | some i => { frame with locals := .integer (Int64.ofNat i) :: item :: frame.locals }

/-- The context of an inclusion: the entries of this one with parameters added, which win. A context
that is no map has no entries. -/
def partialContext (params : List (String × Value)) (frame : Frame) : Value :=
  match frame.root with
  | .map entries => .map (Keyed.insertAll entries params)
  | _ => .map (Keyed.insertAll [] params)

end Frame

namespace Expr

/-- Applies helpers one after the other. -/
def pipe (helpers : HelperTable) (v : Value) : List String → Except RenderError Value
  | [] => .ok v
  | name :: rest => do
    let v ← helpers.call name [v]
    pipe helpers v rest

/-- The result for an absent value: a helper that is not there is an error whatever the data are. -/
def absent (helpers : HelperTable) (e : Expr) : Except RenderError Value :=
  match e.pipes.find? (!helpers.contains ·) with
  | some name => .error (.unknownHelper name)
  | none =>
    match e.guard with
    | .required => .error (.missingValue e.path)
    | .optional => .ok .null

/-- The result for the value at the beginning of an expression. -/
def evalFrom (helpers : HelperTable) (e : Expr) : Option Value → Except RenderError Value
  | none => e.absent helpers
  | some .null => e.absent helpers
  | some v => do
    let v ← pipe helpers v e.pipes
    if e.guard = .required ∧ v.isNull then .error (.missingValue e.path) else return v

/-- The value of an expression. Where a value may be absent, a helper without pipes is only looked
up: the value is that it is there. -/
def eval (helpers : HelperTable) (frame : Frame) (e : Expr) : Except RenderError Value :=
  match e.base with
  | .binding slot => e.evalFrom helpers ((slotValue? slot frame.locals).bind (·.getPath? e.tail))
  | .context key => e.evalFrom helpers ((frame.root.get? key).bind (·.getPath? e.tail))
  | .helper name =>
    if e.guard = .optional ∧ e.pipes = [] then
      if helpers.contains name then .ok (.bool true) else .error (.unknownHelper name)
    else do
      let v ← helpers.call name []
      e.evalFrom helpers (some v)

/-- The values of named expressions, in order. -/
def evalParams (helpers : HelperTable) (frame : Frame) :
    List (String × Expr) → Except RenderError (List (String × Value))
  | [] => .ok []
  | (name, e) :: rest => do
    let v ← e.eval helpers frame
    let more ← evalParams helpers frame rest
    return (name, v) :: more

end Expr

/-- The name of an included template. -/
def IncludeName.eval (helpers : HelperTable) (frame : Frame) :
    IncludeName → Except RenderError String
  | fixed name => .ok name
  | computed e => do
    let v ← e.eval helpers frame
    return v.display

/-- How inclusions are run: in a frame, by a name, with parameters. -/
abbrev Includer := Frame → IncludeName → List (String × Expr) → Render (List Fragment)

mutual

/-- Runs a step. -/
def Op.run (helpers : HelperTable) (includer : Includer) (frame : Frame) :
    Op → Render (List Fragment)
  | .text s => pure [.literal s]
  | .emit value escape => do
    let v ← Render.lift (value.eval helpers frame)
    let v ← if escape then Render.lift (helpers.call Helper.escapeName [v]) else pure v
    return [.data v.display]
  | .branch condition body otherwise => do
    let v ← Render.lift (condition.eval helpers frame)
    if v.isTruthy then Op.runAll helpers includer frame body
    else Op.runAll helpers includer frame otherwise
  | .loop items index body => do
    let v ← Render.lift (items.eval helpers frame)
    match v with
    | .null => pure []
    | .list members =>
      Render.forEach
        (fun i item =>
          Op.runAll helpers includer (frame.enter item (if index then some i else none)) body)
        0 members
    | v => throw (.nonIterable items.path v.typeName)
  | .inclusion name params => includer frame name params

/-- Runs steps one after the other. -/
def Op.runAll (helpers : HelperTable) (includer : Includer) (frame : Frame) :
    List Op → Render (List Fragment)
  | [] => pure []
  | op :: rest => do
    let out ← Op.run helpers includer frame op
    let more ← Op.runAll helpers includer frame rest
    return out ++ more

end

/-- The artifact of a text, by way of the cache of the session. -/
def Render.compile (source : String) (customNames : List String) :
    Render (Except CompileError Artifact) := do
  let session ← get
  match session.cache with
  | none => return Artifact.compile? source customNames
  | some cache =>
    let (compiled, cache) := cache.getOrCompile source customNames
    set { session with cache := some cache }
    return compiled.map (·.artifact)

/-- The text of a partial, by way of the registry of the session. -/
def Render.resolve (name : String) : Render String := do
  let session ← get
  match session.registry with
  | none => throw (.partialNotFound name)
  | some registry =>
    let (found, registry) := registry.resolve name
    set { session with registry := some registry }
    match found with
    | .error causes => throw (.partialResolve name causes)
    | .ok none => throw (.partialNotFound name)
    | .ok (some text) => return text

/-- The program of a partial. -/
def Render.partialProgram (helpers : HelperTable) (name : String) : Render Program := do
  let text ← Render.resolve name
  match ← Render.compile text helpers.customNames with
  | .error cause => throw (.partialCompile name cause)
  | .ok artifact => return artifact.program

/-- Refuses an inclusion, the depth being used up. -/
def Includer.refuse (helpers : HelperTable) (maxDepth : Nat) : Includer := fun frame name _ => do
  let name ← Render.lift (name.eval helpers frame)
  throw (.partialDepthExceeded name maxDepth)

/-- Runs the program of a partial on its context by `run`. The partial is found and compiled before
its parameters are evaluated. -/
def Includer.enter (helpers : HelperTable) (run : Value → Program → Render (List Fragment)) :
    Includer := fun frame name params => do
  let name ← Render.lift (name.eval helpers frame)
  let program ← Render.partialProgram helpers name
  let values ← Render.lift (Expr.evalParams helpers frame params)
  run (frame.partialContext values) program

/-- Runs a program on a context, where `depth` more inclusions may nest out of `maxDepth`. -/
def Program.run (helpers : HelperTable) (maxDepth : Nat) :
    (depth : Nat) → Value → Program → Render (List Fragment)
  | 0, root, program =>
    Op.runAll helpers (.refuse helpers maxDepth) (.ofContext root) program.ops
  | depth + 1, root, program =>
    Op.runAll helpers (.enter helpers (Program.run helpers maxDepth depth)) (.ofContext root)
      program.ops

/-- The number of inclusions that may nest unless told otherwise. -/
def defaultMaxDepth : Nat := 32

/-- The output of an artifact on a context. -/
def Artifact.render (helpers : HelperTable) (maxDepth : Nat) (root : Value) (a : Artifact) :
    Render String := do
  let fragments ← a.program.run helpers maxDepth maxDepth root
  return Fragment.join fragments

end TextTemplate
