import TextTemplate.Render

/-!
# Templates read without a program

`Template.interpret` gives a template its output by walking over its nodes, with the bindings of the
loops around a node in a list of names and values. There are no slots and nothing is resolved
beforehand:

* the head of a path is the innermost binding of that name, whatever its tail leads to; else, if it
  is the whole path and names a helper, that helper; else a key of the context;
* the index of a loop is bound after its member, so that it hides a member of the same name;
* the value of a loop is read outside its bindings;
* an included template starts without bindings.

The reading keeps a record of the texts that it has included.
-/

namespace TextTemplate

/-- What a node sees: the names of the helpers that its template may refer to, the context, and the
bindings of the loops around it, innermost first. -/
structure Env where
  visible : List String
  root : Value
  bound : List (String × Value)

namespace Env

/-- The environment inside a loop. -/
def enter (item : String) (index : Option String) (i : Nat) (value : Value) (env : Env) : Env :=
  match index with
  | none => { env with bound := (item, value) :: env.bound }
  | some index =>
    { env with bound := (index, .integer (Int64.ofNat i)) :: (item, value) :: env.bound }

/-- The context of an included template. Parameters win, and a context that is no map is dropped. -/
def rootWith (params : List (String × Value)) (env : Env) : Value :=
  match env.root with
  | .map entries => .map (Keyed.insertAll entries params)
  | _ => .map (Keyed.insertAll [] params)

end Env

/-! ## The value of an accessor -/

namespace Accessor

variable (helpers : HelperTable) (env : Env)

/-- Whether the accessor is the bare name of a helper that no loop hides. -/
def namesHelper (a : Accessor) : Bool :=
  a.tail = [] && (env.bound.lookup a.head).isNone && env.visible.contains a.head

/-- The value at the path, null where there is none. -/
def pathValue (a : Accessor) : Except RenderError Value :=
  match env.bound.lookup a.head with
  | some v => .ok ((v.getPath? a.tail).getD .null)
  | none =>
    if a.namesHelper env then helpers.call a.head []
    else .ok ((env.root.getPath? a.path).getD .null)

/-- A value through pipes, left to right. Null passes by the pipes, but not if one of them is
unknown. -/
def piped (v : Value) (pipes : List String) : Except RenderError Value :=
  if v.isNull then
    match pipes.find? fun name => !helpers.contains name with
    | some name => .error (.unknownHelper name)
    | none => .ok .null
  else pipes.foldlM (fun v name => helpers.call name [v]) v

/-- The value of the path through the pipes. -/
def pipedValue (a : Accessor) : Except RenderError Value := do
  let v ← a.pathValue helpers env
  piped helpers v a.pipes

/-- The value where there has to be one. -/
def requiredValue (a : Accessor) : Except RenderError Value := do
  let v ← a.pipedValue helpers env
  if v.isNull then .error (.missingValue a.dotted) else .ok v

/-- The value where there may be none. The bare name of a helper only asks whether it is there. -/
def optionalValue (a : Accessor) : Except RenderError Value :=
  if a.namesHelper env ∧ a.pipes = [] then
    if helpers.contains a.head then .ok (.bool true) else .error (.unknownHelper a.head)
  else a.pipedValue helpers env

end Accessor

/-! ## Readings -/

/-- What a reading changes besides its output: the registry, and the record of the included texts,
last first. -/
structure Reader where
  registry : Option Registry
  included : List String

/-- A reading that may fail. -/
abbrev Reading := ExceptT RenderError (StateM Reader)

namespace Reading

/-- A result that does not depend on the reader. -/
def lift {α : Type} (x : Except RenderError α) : Reading α := ExceptT.mk (pure x)

/-- The outputs for the members of a list, one after the other. The members are counted from `i`. -/
def eachMember (body : Nat → Value → Reading String) (i : Nat) : List Value → Reading String
  | [] => pure ""
  | v :: rest => do
    let out ← body i v
    let more ← eachMember body (i + 1) rest
    return out ++ more

/-- The text of an included template. -/
def resolve (name : String) : Reading String := do
  let reader ← get
  match reader.registry with
  | none => throw (.partialNotFound name)
  | some registry =>
    let (found, registry) := registry.resolve name
    set { reader with registry := some registry }
    match found with
    | .error causes => throw (.partialResolve name causes)
    | .ok none => throw (.partialNotFound name)
    | .ok (some text) => return text

/-- The template that an included text spells. The text goes into the record. -/
def parse (name text : String) : Reading Template := do
  modify fun reader => { reader with included := text :: reader.included }
  match Template.ofSource? text with
  | .error cause => throw (.partialCompile name cause)
  | .ok t => return t

end Reading

namespace PartialName

/-- The name that an inclusion asks for. -/
def value (helpers : HelperTable) (env : Env) : PartialName → Except RenderError String
  | fixed name => .ok name
  | computed a => do
    let v ← a.requiredValue helpers env
    return v.display

end PartialName

namespace Interpretation

/-- How inclusions are read. -/
abbrev Inclusion := Env → PartialName → List (String × Accessor) → Reading String

mutual

/-- The output of a node. -/
def node (helpers : HelperTable) (including : Inclusion) (env : Env) : Node → Reading String
  | .text s => pure s
  | .interpolation value escaped => do
    let v ← Reading.lift (value.requiredValue helpers env)
    if escaped && value.pipes.getLast? != some Helper.escapeName then
      let v ← Reading.lift (helpers.call Helper.escapeName [v])
      return v.display
    else return v.display
  | .ifThen condition body => do
    let v ← Reading.lift (condition.optionalValue helpers env)
    if v.isTruthy then nodes helpers including env body else pure ""
  | .ifThenElse condition body otherwise => do
    let v ← Reading.lift (condition.optionalValue helpers env)
    if v.isTruthy then nodes helpers including env body else nodes helpers including env otherwise
  | .each items item index body => do
    let v ← Reading.lift (items.optionalValue helpers env)
    match v with
    | .null => pure ""
    | .list members =>
      Reading.eachMember (fun i v => nodes helpers including (env.enter item index i v) body) 0
        members
    | v => throw (.nonIterable items.dotted v.typeName)
  | .inclusion name params => including env name (params.getD [])

/-- The output of nodes, one after the other. -/
def nodes (helpers : HelperTable) (including : Inclusion) (env : Env) : List Node → Reading String
  | [] => pure ""
  | n :: rest => do
    let out ← node helpers including env n
    let more ← nodes helpers including env rest
    return out ++ more

end

/-- Reads an inclusion by way of `body`, or refuses it where none may nest any deeper. The text is
found and read before the parameters have values. -/
def inclusion (helpers : HelperTable) (maxDepth : Nat)
    (body : Option (Env → Template → Reading String)) : Inclusion := fun env name params => do
  let name ← Reading.lift (name.value helpers env)
  match body with
  | none => throw (.partialDepthExceeded name maxDepth)
  | some body => do
    let text ← Reading.resolve name
    let t ← Reading.parse name text
    let values ← Reading.lift <| params.mapM fun (key, a) => do
      let v ← a.optionalValue helpers env
      return (key, v)
    body ⟨Helper.standardNames ++ helpers.customNames, env.rootWith values, []⟩ t

/-- The output of a template, where `depth` more inclusions may nest out of `maxDepth`. -/
def template (helpers : HelperTable) (maxDepth : Nat) :
    (depth : Nat) → Env → Template → Reading String
  | 0, env, t => nodes helpers (inclusion helpers maxDepth none) env t
  | depth + 1, env, t =>
    nodes helpers (inclusion helpers maxDepth (some (template helpers maxDepth depth))) env t

end Interpretation

namespace Template

/-- What a template comes to on a context, and what becomes of the reader. `visible` are the names
of the helpers that it may refer to. -/
def reading (helpers : HelperTable) (maxDepth : Nat) (visible : List String) (root : Value)
    (registry : Option Registry) (t : Template) : Except RenderError String × Reader :=
  (Interpretation.template helpers maxDepth maxDepth ⟨visible, root, []⟩ t).run.run ⟨registry, []⟩

/-- The output of a template on a context, and the registry as it has become. -/
def interpret (helpers : HelperTable) (maxDepth : Nat) (visible : List String) (root : Value)
    (registry : Option Registry) (t : Template) : Except RenderError String × Option Registry :=
  let (out, reader) := t.reading helpers maxDepth visible root registry
  (out, reader.registry)

/-- The texts that a template includes on a context, last first: also those that are included by an
included text, and those that turn out not to be templates. -/
def includedTexts (helpers : HelperTable) (maxDepth : Nat) (visible : List String) (root : Value)
    (registry : Option Registry) (t : Template) : List String :=
  (t.reading helpers maxDepth visible root registry).2.included

end Template

end TextTemplate
