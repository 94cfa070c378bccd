/-!
# Templates

A template is a list of nodes: literal text, interpolated values, conditional and repeated blocks,
and inclusions of other templates. Values are named by accessors.
-/

namespace TextTemplate

/-- A dotted path, never empty, and the helpers its value is piped through, left to right. -/
structure Accessor where
  head : String
  tail : List String
  pipes : List String
deriving DecidableEq, Repr

namespace Accessor

/-- The segments of the path. -/
def path (a : Accessor) : List String := a.head :: a.tail

/-- The path as it is written, without blanks. -/
def dotted (a : Accessor) : String := ".".intercalate a.path

end Accessor

/-- How an inclusion names its template: in the source, or by a value at rendering time. -/
inductive PartialName where
  | fixed (name : String)
  | computed (name : Accessor)
deriving DecidableEq, Repr

/-- One part of a template. -/
inductive Node where
  /-- Literal text. -/
  | text (s : String)
  /-- The text of a value, with markup escaped or not. -/
  | interpolation (value : Accessor) (escaped : Bool)
  /-- A body for a condition that holds. -/
  | ifThen (condition : Accessor) (body : List Node)
  /-- A body for a condition that holds and one for a condition that does not. -/
  | ifThenElse (condition : Accessor) (body otherwise : List Node)
  /-- A body for each member of a list, with names for the member and for its index. -/
  | each (items : Accessor) (item : String) (index : Option String) (body : List Node)
  /-- Another template, with named parameters in the order they are written. `none` stands for an
  inclusion without a list of parameters. -/
  | inclusion (name : PartialName) (params : Option (List (String × Accessor)))
deriving Repr

instance : Inhabited Node := ⟨.text ""⟩

/-- The parts of a template, in order. -/
abbrev Template := List Node

end TextTemplate
