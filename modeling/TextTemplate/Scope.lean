/-!
# Names bound by loops

The names that the loops around a place bind form a scope, innermost first. A name stands for the
slot of its innermost binding, where slots are counted from the outermost binding. While a program
runs, the bound values form a list of the same shape, and a slot is read by the same count.
-/

namespace TextTemplate

/-- The names that are bound at a place, innermost first. -/
abbrev Scope := List String

namespace Scope

/-- The slot of the innermost binding of a name: the number of bindings outside it. -/
def slot? (name : String) : Scope → Option Nat
  | [] => none
  | bound :: outer => if bound = name then some outer.length else slot? name outer

/-- The scope inside a loop. The index is bound after the member. -/
def enter (item : String) (index : Option String) (scope : Scope) : Scope :=
  match index with
  | none => item :: scope
  | some index => index :: item :: scope

end Scope

/-- The value in a slot of a list of bound values, innermost first. -/
def slotValue? {α : Type} (slot : Nat) : List α → Option α
  | [] => none
  | value :: outer => if outer.length = slot then some value else slotValue? slot outer

end TextTemplate
