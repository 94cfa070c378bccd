import TextTemplate.Template

/-!
# Programs

A program is a template whose accessors are resolved: each begins at a loop slot, at a helper, or at
a key of the context. Names of loop bindings are gone; the written path stays for messages.
-/

namespace TextTemplate

/-- Where an expression begins. -/
inductive Base where
  /-- The value in a loop slot. -/
  | binding (slot : Nat)
  /-- A helper, called without arguments. -/
  | helper (name : String)
  /-- A key of the context. -/
  | context (key : String)
deriving DecidableEq, Repr

/-- Whether an absent value is an error. -/
inductive Guard where
  | required
  | optional
deriving DecidableEq, Repr

/-- A resolved accessor. -/
structure Expr where
  base : Base
  tail : List String
  pipes : List String
  guard : Guard
  /-- The path as it was written. -/
  path : String
deriving DecidableEq, Repr

/-- How an inclusion names its template. -/
inductive IncludeName where
  | fixed (name : String)
  | computed (name : Expr)
deriving DecidableEq, Repr

/-- One step of a program. -/
inductive Op where
  /-- Writes a text. -/
  | text (s : String)
  /-- Writes the displayed text of a value, through the escaping helper or not. -/
  | emit (value : Expr) (escape : Bool)
  /-- Runs one of two blocks. -/
  | branch (condition : Expr) (body otherwise : List Op)
  /-- Runs a block for each member of a list, which is bound with or without its index. -/
  | loop (items : Expr) (index : Bool) (body : List Op)
  /-- Runs another template on the context with parameters added. -/
  | inclusion (name : IncludeName) (params : List (String × Expr))
deriving Repr

/-- The steps of a template. -/
structure Program where
  ops : List Op
deriving Repr

end TextTemplate
