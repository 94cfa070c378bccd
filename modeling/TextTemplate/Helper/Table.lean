import TextTemplate.Helper.Date
import TextTemplate.Helper.Truncate
import TextTemplate.Html
import TextTemplate.Names
import TextTemplate.RenderError
import TextTemplate.Unicode.Case

/-!
# Tables of helpers

A table holds the helpers that come with it and those that the host adds, in one map from names. An
added helper takes the place of a standard one of the same name, and its name is noted apart. The
names of the standard helpers are listed for those who have no table at hand.
-/

namespace TextTemplate

namespace Helper

/-- The name of the helper that escaped interpolations apply. -/
def escapeName : String := "escapeHtml"

/-- The names of the standard helpers. -/
def standardNames : List String :=
  ["upper", "lower", "capitalize", "truncate", "json", "date", escapeName]

/-- The notation of the first argument. -/
def json : Helper := fun args => do
  let v ← firstArgument args
  return .text v.json

/-- The standard helpers. -/
def standard (locales : LocaleTable) : List (String × Helper) :=
  [("upper", ofText Unicode.upper),
   ("lower", ofText Unicode.lower),
   ("capitalize", ofText Unicode.capitalize),
   ("truncate", truncate),
   ("json", json),
   ("date", date locales),
   (escapeName, ofText Html.escape)]

end Helper

/-- The helpers that a template may call. -/
structure HelperTable where
  /-- All helpers, by name. -/
  entries : List (String × Helper)
  /-- The names of the helpers that were added, in order. -/
  custom : List String

namespace HelperTable

/-- No helpers at all. -/
def empty : HelperTable := ⟨[], []⟩

/-- The standard helpers. None of them counts as added. -/
def standard (locales : LocaleTable) : HelperTable :=
  ⟨Keyed.insertAll [] (Helper.standard locales), []⟩

/-- Adds a helper, in place of any other of its name. -/
def insert (table : HelperTable) (name : String) (helper : Helper) : HelperTable where
  entries := Keyed.insert name helper table.entries
  custom := Names.insert name table.custom

/-- Adds helpers one after the other. -/
def insertAll (table : HelperTable) (helpers : List (String × Helper)) : HelperTable :=
  helpers.foldl (fun table (name, helper) => table.insert name helper) table

/-- The helper of a name. -/
def get? (table : HelperTable) (name : String) : Option Helper := Keyed.get? name table.entries

def contains (table : HelperTable) (name : String) : Bool := (table.get? name).isSome

/-- The names of the added helpers in order. -/
def customNames (table : HelperTable) : List String := table.custom

/-- All names in order. -/
def names (table : HelperTable) : List String := Keyed.names table.entries

/-- The result of a helper, called by its name. -/
def call (table : HelperTable) (name : String) (args : List Value) : Except RenderError Value :=
  match table.get? name with
  | none => .error (.unknownHelper name)
  | some helper =>
    match helper args with
    | .ok v => .ok v
    | .error cause => .error (.helper name cause)

end HelperTable

end TextTemplate
