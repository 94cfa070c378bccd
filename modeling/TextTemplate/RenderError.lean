import TextTemplate.Helper
import TextTemplate.Template.Parser

/-!
# Why a template has no text
-/

namespace TextTemplate

/-- Why rendering stopped. -/
inductive RenderError where
  /-- A value that has to be there is absent or null. -/
  | missingValue (path : String)
  | unknownHelper (name : String)
  /-- The value of a loop is neither a list nor null. -/
  | nonIterable (path : String) (found : String)
  | partialNotFound (name : String)
  /-- The resolver failed; the messages go from the outermost cause inwards. -/
  | partialResolve (name : String) (causes : List String)
  /-- An inclusion deeper than the greatest `depth`. -/
  | partialDepthExceeded (name : String) (depth : Nat)
  | partialCompile (name : String) (cause : CompileError)
  | helper (name : String) (cause : HelperError)
deriving DecidableEq, Repr

/-- The messages of a chain of causes in one line. -/
def chainMessage (causes : List String) : String := ": ".intercalate causes

def RenderError.message : RenderError → String
  | missingValue path => "Missing `" ++ path ++ "`"
  | unknownHelper name => "Unknown helper `" ++ name ++ "`"
  | nonIterable path found => "`" ++ path ++ "` is not iterable (found " ++ found ++ ")"
  | partialNotFound name => "Partial '" ++ name ++ "' not found or is not a string."
  | partialResolve name causes =>
    "Failed to resolve partial '" ++ name ++ "': " ++ chainMessage causes
  | partialDepthExceeded name depth =>
    "Partial '" ++ name ++ "' exceeds the maximum inclusion depth of " ++ toString depth
  | partialCompile name cause => "Partial '" ++ name ++ "' failed to compile: " ++ cause.message
  | helper name cause => "Helper `" ++ name ++ "` failed: " ++ cause.message

end TextTemplate
