import TextTemplate.Helper.Table
import TextTemplate.Program
import TextTemplate.Scope

/-!
# Programs from templates

`Program.ofTemplate` resolves every accessor of a template. The head of a path is the innermost loop
binding of its name; else, if it is the whole path and names a helper, that helper; else a key of
the context. The value of a loop is resolved outside the loop.
-/

namespace TextTemplate

/-- The expression of an accessor in a scope, where `helpers` are the names of the helpers. -/
def Expr.ofAccessor (helpers : List String) (scope : Scope) (guard : Guard) (a : Accessor) :
    Expr where
  base :=
    match scope.slot? a.head with
    | some slot => .binding slot
    | none =>
      if a.tail = [] ∧ a.head ∈ helpers then .helper a.head else .context a.head
  tail := a.tail
  pipes := a.pipes
  guard := guard
  path := a.dotted

/-- Whether an interpolation is escaped once more: not if it says so, nor if its last pipe escapes
already. -/
def needsEscape (a : Accessor) (escaped : Bool) : Bool :=
  escaped && a.pipes.getLast? != some Helper.escapeName

mutual

/-- The step of a node in a scope. -/
def Op.ofNode (helpers : List String) (scope : Scope) : Node → Op
  | .text s => .text s
  | .interpolation value escaped =>
    .emit (.ofAccessor helpers scope .required value) (needsEscape value escaped)
  | .ifThen condition body =>
    .branch (.ofAccessor helpers scope .optional condition) (ofNodes helpers scope body) []
  | .ifThenElse condition body otherwise =>
    .branch (.ofAccessor helpers scope .optional condition) (ofNodes helpers scope body)
      (ofNodes helpers scope otherwise)
  | .each items item index body =>
    .loop (.ofAccessor helpers scope .optional items) index.isSome
      (ofNodes helpers (scope.enter item index) body)
  | .inclusion name params =>
    .inclusion
      (match name with
        | .fixed name => .fixed name
        | .computed value => .computed (.ofAccessor helpers scope .required value))
      ((params.getD []).map fun (key, value) =>
        (key, .ofAccessor helpers scope .optional value))

/-- The steps of nodes in a scope. -/
def Op.ofNodes (helpers : List String) (scope : Scope) : List Node → List Op
  | [] => []
  | n :: rest => Op.ofNode helpers scope n :: Op.ofNodes helpers scope rest

end

/-- The program of a template, where `helpers` are the names of the helpers. -/
def Program.ofTemplate (helpers : List String) (t : Template) : Program :=
  ⟨Op.ofNodes helpers [] t⟩

end TextTemplate
