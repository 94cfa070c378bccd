import TextTemplate.Calendar.Format
import TextTemplate.Calendar.Reader
import TextTemplate.Helper

/-!
# Dates in templates

`Helper.date` sets out a date, an instant, a number of milliseconds since 1970 or a text that spells
one of them. A locale and a pattern are its second and third arguments; the locale is looked up in a
table.
-/

namespace TextTemplate.Helper

/-- The pattern of dates without a locale. -/
def defaultPattern : String := "%-m/%-d/%Y"

/-- The pattern of dates with a locale. -/
def localePattern : String := "%x"

/-- The instant that a value stands for. -/
def instantOf? : Value → Option DateTime
  | .dateTimeUtc t => some t
  | .dateTime t => some t
  | .date d => some (.ofDate d)
  | .integer ms => DateTime.ofMillis? ms.toInt
  | .float ms => ms.truncate?.bind DateTime.ofMillis?
  | .text s => DateTime.ofText? (Unicode.trim s)
  | _ => none

/-- The instant that a value stands for, or the error that names it. -/
def instantOf (v : Value) : Except HelperError DateTime :=
  match instantOf? v with
  | some t => .ok t
  | none => .error (.invalidArgument ("cannot interpret `" ++ v.display ++ "` as a date"))

/-- The name that a locale has in a table: hyphens count as underscores. -/
def localeName (name : String) : String :=
  String.ofList (name.toList.map fun c => if c = '-' then '_' else c)

/-- The locale that an argument asks for. -/
def localeOf (locales : LocaleTable) : Option Value → Except HelperError (Option Locale)
  | none => .ok none
  | some .null => .ok none
  | some (.text name) =>
    match locales.find? (localeName name) with
    | some locale => .ok (some locale)
    | none => .error (.invalidArgument ("unknown locale `" ++ name ++ "`"))
  | some v => .error (.invalidArgument ("locale must be a string, got " ++ v.typeName))

/-- The pattern that an argument asks for, where a locale has been chosen or not. -/
def patternOf (hasLocale : Bool) : Option Value → Except HelperError String
  | none => .ok (if hasLocale then localePattern else defaultPattern)
  | some .null => .ok (if hasLocale then localePattern else defaultPattern)
  | some (.text pattern) => .ok pattern
  | some v => .error (.invalidArgument ("date pattern must be a string, got " ++ v.typeName))

/-- Sets an instant out. -/
def dateText (locale : Option Locale) (pattern : String) (t : DateTime) :
    Except HelperError String :=
  let items := Pattern.ofText pattern
  if !Pattern.isWellFormed items then
    .error (.invalidArgument ("invalid date pattern `" ++ pattern ++ "`"))
  else match Pattern.write? (locale.getD .posix) items t with
    | some s => .ok s
    | none => .error (.invalidArgument ("cannot format date with `" ++ pattern ++ "`"))

/-- Sets the first argument out as a date, for a locale and by a pattern. -/
def date (locales : LocaleTable) : Helper := fun args => do
  let v ← firstArgument args
  let t ← instantOf v
  let locale ← localeOf locales args[1]?
  let pattern ← patternOf locale.isSome args[2]?
  let s ← dateText locale pattern t
  return .text s

end TextTemplate.Helper
