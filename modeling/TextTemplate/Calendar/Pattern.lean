/-!
# Date patterns

A pattern is text with directives. A directive is a `%`, an optional mark that chooses the padding
of a number (`-` none, `0` zeros, `_` blanks), and a letter or a short group of characters.
`Pattern.ofText` never fails: what is no directive becomes `malformed`.
-/

namespace TextTemplate.Pattern

/-- What fills a number up to its width. -/
inductive Padding where
  | bare
  | zero
  | blank
deriving DecidableEq, Repr

/-- The numbers of an instant. -/
inductive NumericField where
  | year
  | century
  | yearOfCentury
  | isoYear
  | isoYearOfCentury
  | quarter
  | month
  | day
  | weekFromSunday
  | weekFromMonday
  | isoWeek
  | weekdayFromSunday
  | weekdayFromMonday
  | dayOfYear
  | hour
  | hourOfHalf
  | minute
  | second
  | nano
  | timestamp
deriving DecidableEq, Repr

/-- The parts of an instant that are words or groups of signs. -/
inductive TextField where
  | shortMonth
  | longMonth
  | shortDay
  | longDay
  | half
  | lowerHalf
  /-- The fraction of the second with a point, as many digits as it needs. -/
  | fraction
  /-- The fraction of the second with a fixed number of digits. -/
  | fixedFraction (digits : Nat) (point : Bool)
  | zone
  /-- The offset of the zone: with this many colons, or its hours alone for three. -/
  | offset (colons : Nat)
  /-- The whole instant as in an Internet timestamp. -/
  | timestamp
deriving DecidableEq, Repr

/-- The formats that a locale chooses. -/
inductive LocaleFormat where
  | date
  | time
  | twelveHour
  | dateTime
deriving DecidableEq, Repr

/-- One part of a pattern. -/
inductive Item where
  | literal (c : Char)
  | number (field : NumericField) (padding : Padding)
  | text (field : TextField)
  | locale (format : LocaleFormat)
  /-- A directive that can only be read, never written. -/
  | readOnly
  /-- No directive. -/
  | malformed
deriving DecidableEq, Repr

open NumericField in
/-- The number that a letter stands for, with its usual padding. -/
def numberOf? : Char → Option (NumericField × Padding)
  | 'C' => some (century, .zero)
  | 'G' => some (isoYear, .zero)
  | 'H' => some (hour, .zero)
  | 'I' => some (hourOfHalf, .zero)
  | 'M' => some (minute, .zero)
  | 'S' => some (second, .zero)
  | 'U' => some (weekFromSunday, .zero)
  | 'V' => some (isoWeek, .zero)
  | 'W' => some (weekFromMonday, .zero)
  | 'Y' => some (year, .zero)
  | 'd' => some (day, .zero)
  | 'e' => some (day, .blank)
  | 'f' => some (nano, .zero)
  | 'g' => some (isoYearOfCentury, .zero)
  | 'j' => some (dayOfYear, .zero)
  | 'k' => some (hour, .blank)
  | 'l' => some (hourOfHalf, .blank)
  | 'm' => some (month, .zero)
  | 'q' => some (quarter, .bare)
  | 's' => some (timestamp, .bare)
  | 'u' => some (weekdayFromMonday, .bare)
  | 'w' => some (weekdayFromSunday, .bare)
  | 'y' => some (yearOfCentury, .zero)
  | _ => none

/-- The padding that a mark chooses. -/
def paddingOf? : Char → Option Padding
  | '-' => some .bare
  | '0' => some .zero
  | '_' => some .blank
  | _ => none

/-- A number with its usual padding. -/
def plain (c : Char) : Item :=
  match numberOf? c with
  | some (field, padding) => .number field padding
  | none => .malformed

/-- The parts of a directive of one letter. -/
def letter : Char → List Item
  | 'A' => [.text .longDay]
  | 'B' => [.text .longMonth]
  | 'D' => [plain 'm', .literal '/', plain 'd', .literal '/', plain 'y']
  | 'F' => [plain 'Y', .literal '-', plain 'm', .literal '-', plain 'd']
  | 'P' => [.text .lowerHalf]
  | 'R' => [plain 'H', .literal ':', plain 'M']
  | 'T' => [plain 'H', .literal ':', plain 'M', .literal ':', plain 'S']
  | 'X' => [.locale .time]
  | 'Z' => [.text .zone]
  | 'a' => [.text .shortDay]
  | 'b' => [.text .shortMonth]
  | 'c' => [.locale .dateTime]
  | 'h' => [.text .shortMonth]
  | 'n' => [.literal '\n']
  | 'p' => [.text .half]
  | 'r' => [.locale .twelveHour]
  | 't' => [.literal '\t']
  | 'v' => [plain 'e', .literal '-', .text .shortMonth, .literal '-', plain 'Y']
  | 'x' => [.locale .date]
  | 'z' => [.text (.offset 0)]
  | '+' => [.text .timestamp]
  | '%' => [.literal '%']
  | c => [plain c]

/-- Reads a directive after its `%`: its parts and what follows it. -/
def directive : List Char → List Item × List Char
  | [] => ([.malformed], [])
  | '#' :: 'z' :: rest => ([.readOnly], rest)
  | ':' :: 'z' :: rest => ([.text (.offset 1)], rest)
  | ':' :: ':' :: 'z' :: rest => ([.text (.offset 2)], rest)
  | ':' :: ':' :: ':' :: 'z' :: rest => ([.text (.offset 3)], rest)
  | '.' :: 'f' :: rest => ([.text .fraction], rest)
  | '.' :: '3' :: 'f' :: rest => ([.text (.fixedFraction 3 true)], rest)
  | '.' :: '6' :: 'f' :: rest => ([.text (.fixedFraction 6 true)], rest)
  | '.' :: '9' :: 'f' :: rest => ([.text (.fixedFraction 9 true)], rest)
  | '3' :: 'f' :: rest => ([.text (.fixedFraction 3 false)], rest)
  | '6' :: 'f' :: rest => ([.text (.fixedFraction 6 false)], rest)
  | '9' :: 'f' :: rest => ([.text (.fixedFraction 9 false)], rest)
  | c :: rest =>
    match paddingOf? c, rest with
    | none, rest => (letter c, rest)
    | some padding, c :: rest =>
      match numberOf? c with
      | some (field, _) => ([.number field padding], rest)
      | none => ([.malformed], rest)
    | some _, [] => ([.malformed], [])

theorem length_directive_le (cs : List Char) : (directive cs).2.length ≤ cs.length := by
  unfold directive
  repeat' split
  all_goals simp
  all_goals omega

/-- The parts of a pattern. -/
def ofChars : List Char → List Item
  | [] => []
  | '%' :: rest => (directive rest).1 ++ ofChars (directive rest).2
  | c :: rest => .literal c :: ofChars rest
termination_by cs => cs.length
decreasing_by
  · have := length_directive_le rest
    simp only [List.length_cons]
    omega
  · simp

/-- The parts of a pattern. -/
def ofText (s : String) : List Item := ofChars s.toList

/-- Whether every `%` of a pattern begins a directive. -/
def isWellFormed (items : List Item) : Bool := !items.contains .malformed

end TextTemplate.Pattern
