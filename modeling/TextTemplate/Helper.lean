import TextTemplate.Value

/-!
# Helpers

A helper is a function from its arguments to a value. Templates pipe a value through helpers one
after the other; the host may give a helper more arguments.
-/

namespace TextTemplate

/-- Why a helper has no result. -/
inductive HelperError where
  /-- Fewer arguments than the helper needs. -/
  | arity (expected got : Nat)
  | invalidArgument (reason : String)
  | custom (message : String)
deriving DecidableEq, Repr

def HelperError.message : HelperError → String
  | arity expected got =>
    "expected at least " ++ toString expected ++ " argument(s), got " ++ toString got
  | invalidArgument reason => "invalid argument: " ++ reason
  | custom message => message

/-- A transformation that templates call by name. -/
abbrev Helper := List Value → Except HelperError Value

namespace Helper

/-- The first argument of a helper that needs one. -/
def firstArgument : List Value → Except HelperError Value
  | v :: _ => .ok v
  | [] => .error (.arity 1 0)

/-- A helper of its first argument's displayed text. -/
def ofText (f : String → String) : Helper := fun args => do
  let v ← firstArgument args
  return .text (f v.display)

end Helper

end TextTemplate
