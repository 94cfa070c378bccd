/-!
# Locales

The words and formats that dates take in a language and region. A format is a date pattern; an
empty `twelveHourFormat` stands for the plain time format. `posix` is the locale of a pattern that
is written without one.

Which names have a locale is not fixed here: a `LocaleTable` is given to what sets dates out, and
everything that is said of dates is said for every table.
-/

namespace TextTemplate

/-- The words and formats of dates in one language and region. Days are listed from Sunday. -/
structure Locale where
  name : String
  decimalPoint : String
  dateFormat : String
  timeFormat : String
  twelveHourFormat : String
  dateTimeFormat : String
  amPm : String × String
  shortDays : List String
  longDays : List String
  shortMonths : List String
  longMonths : List String
deriving DecidableEq, Repr

namespace Locale

def posix : Locale where
  name := "POSIX"
  decimalPoint := "."
  dateFormat := "%m/%d/%y"
  timeFormat := "%H:%M:%S"
  twelveHourFormat := "%I:%M:%S %p"
  dateTimeFormat := "%a %b %e %H:%M:%S %Y"
  amPm := ("AM", "PM")
  shortDays :=
    ["Sun", "Mon", "Tue", "Wed", "Thu", "Fri", "Sat"]
  longDays :=
    ["Sunday", "Monday", "Tuesday", "Wednesday", "Thursday", "Friday", "Saturday"]
  shortMonths :=
    ["Jan", "Feb", "Mar", "Apr", "May", "Jun", "Jul", "Aug", "Sep", "Oct", "Nov", "Dec"]
  longMonths :=
    ["January", "February", "March", "April", "May", "June", "July", "August", "September",
     "October", "November", "December"]

end Locale

/-- The locales that there are, by their names. -/
structure LocaleTable where
  /-- The locale of a name. Case matters, and the parts of a name are joined by underscores. -/
  find? : String → Option Locale

namespace LocaleTable

/-- The table of the locales in a list, under their own names. -/
def ofLocales (known : List Locale) : LocaleTable := ⟨fun name => known.find? (·.name == name)⟩

end LocaleTable

end TextTemplate
