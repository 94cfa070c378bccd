import TextTemplate.Calendar.Date
import TextTemplate.Calendar.Locale
import TextTemplate.Calendar.Pattern
import TextTemplate.Unicode.Case

/-!
# The text of an instant

`Pattern.write?` sets an instant out as a pattern and a locale say. Zones are always UTC. A year
outside four digits is written with a sign and five characters at least.

The fixed formats of displayed dates are here too: `Date.text`, `DateTime.text` and
`DateTime.utcText`.
-/

namespace TextTemplate

/-- The decimal digits of `n`, with zeros in front up to `width`. -/
def padZeros (width n : Nat) : String :=
  let digits := toString n
  String.ofList (List.replicate (width - digits.length) '0') ++ digits

namespace Pattern

/-- A number with its sign, filled up to `width`. Zeros go between the sign and the digits, blanks
in front of both; a plus is only written where it is asked for. -/
def signed (width : Nat) (n : Int) (padding : Padding) (plus : Bool) : String :=
  let sign := if n < 0 then "-" else if plus then "+" else ""
  let width := if plus then width + 1 else width
  let digits := toString n.natAbs
  let missing := width - sign.length - digits.length
  match padding with
  | .bare => sign ++ digits
  | .zero => sign ++ String.ofList (List.replicate missing '0') ++ digits
  | .blank => String.ofList (List.replicate missing ' ') ++ sign ++ digits

/-- A year: four digits, with a sign where four digits do not hold it. -/
def yearText (year : Int) (padding : Padding) : String :=
  signed 4 year padding (decide (year < 0 ∨ 10000 ≤ year))

/-- A number of two places, cut to one byte. The tens are the character that many places after the
digit zero, also for ten tens and more. -/
def twoPlaces (n : Int) (padding : Padding) : String :=
  let byte := (n % 256).toNat
  let ones := Char.ofNat (48 + byte % 10)
  let tens := Char.ofNat (48 + byte / 10)
  match padding with
  | .bare => if byte / 10 = 0 then String.ofList [ones] else String.ofList [tens, ones]
  | .blank => if byte / 10 = 0 then String.ofList [' ', ones] else String.ofList [tens, ones]
  | .zero => String.ofList [tens, ones]

/-- The hour on a clock of twelve hours. -/
def hourOfHalf (hour : Nat) : Nat := if hour % 12 = 0 then 12 else hour % 12

/-- The text of a number of an instant. -/
def numberText (t : DateTime) (field : NumericField) (padding : Padding) : String :=
  match field with
  | .year => yearText t.date.year padding
  | .century => twoPlaces (t.date.year / 100) padding
  | .yearOfCentury => twoPlaces (t.date.year % 100) padding
  | .isoYear => yearText t.date.isoWeek.1 padding
  | .isoYearOfCentury => twoPlaces (t.date.isoWeek.1 % 100) padding
  | .quarter => toString ((t.date.month - 1) / 3 + 1)
  | .month => twoPlaces t.date.month padding
  | .day => twoPlaces t.date.day padding
  | .weekFromSunday => twoPlaces (t.date.week 0) padding
  | .weekFromMonday => twoPlaces (t.date.week 1) padding
  | .isoWeek => twoPlaces t.date.isoWeek.2 padding
  | .weekdayFromSunday => toString t.date.weekday
  | .weekdayFromMonday => toString t.date.isoWeekday
  | .dayOfYear => signed 3 t.date.ordinal padding false
  | .hour => twoPlaces t.time.hour padding
  | .hourOfHalf => twoPlaces (hourOfHalf t.time.hour) padding
  | .minute => twoPlaces t.time.minute padding
  | .second => twoPlaces t.time.shownSecond padding
  | .nano => signed 9 t.time.fraction padding false
  | .timestamp => signed 9 t.timestamp padding false

/-- The fraction of a second after `point`, in the fewest groups of three digits that hold it. -/
def fractionText (point : String) (nano : Nat) : String :=
  if nano = 0 then ""
  else if nano % 1000000 = 0 then point ++ padZeros 3 (nano / 1000000)
  else if nano % 1000 = 0 then point ++ padZeros 6 (nano / 1000)
  else point ++ padZeros 9 nano

/-- The time of day to the second. -/
def clockText (t : TimeOfDay) : String :=
  padZeros 2 t.hour ++ ":" ++ padZeros 2 t.minute ++ ":" ++ padZeros 2 t.shownSecond

/-- The day in numbers, year first. -/
def dayText (d : Date) : String :=
  yearText d.year .zero ++ "-" ++ padZeros 2 d.month ++ "-" ++ padZeros 2 d.day

/-- An instant without a zone: the day, the time, and the fraction of the second if there is one. -/
def instantText (t : DateTime) : String :=
  dayText t.date ++ "T" ++ clockText t.time ++ fractionText "." t.time.fraction

/-- The text of a part that is no number. -/
def fieldText (locale : Locale) (t : DateTime) : TextField → String
  | .shortMonth => locale.shortMonths.getD (t.date.month - 1) ""
  | .longMonth => locale.longMonths.getD (t.date.month - 1) ""
  | .shortDay => locale.shortDays.getD t.date.weekday ""
  | .longDay => locale.longDays.getD t.date.weekday ""
  | .half => if t.time.hour < 12 then locale.amPm.1 else locale.amPm.2
  | .lowerHalf =>
    let word := if t.time.hour < 12 then locale.amPm.1 else locale.amPm.2
    String.ofList (word.toList.flatMap Unicode.lowerChar)
  | .fraction => fractionText locale.decimalPoint t.time.fraction
  | .fixedFraction digits point =>
    (if point then locale.decimalPoint else "") ++
      padZeros digits (t.time.fraction / Nat.pow 10 (9 - digits))
  | .zone => "UTC"
  | .offset 0 => "+0000"
  | .offset 1 => "+00:00"
  | .offset 2 => "+00:00:00"
  | .offset _ => "+00"
  | .timestamp => instantText t ++ "+00:00"

/-- The pattern of a format that the locale chooses. -/
def localePattern (locale : Locale) : LocaleFormat → String
  | .date => locale.dateFormat
  | .time => locale.timeFormat
  | .twelveHour =>
    if locale.twelveHourFormat.isEmpty then locale.timeFormat else locale.twelveHourFormat
  | .dateTime => locale.dateTimeFormat

/-- The text of a part that refers to no format of the locale; `none` for a part without text. -/
def writeSimple? (locale : Locale) (t : DateTime) : Item → Option String
  | .literal c => some (String.singleton c)
  | .number field padding => some (numberText t field padding)
  | .text field => some (fieldText locale t field)
  | .locale _ | .readOnly | .malformed => none

/-- The text of a part. The formats of a locale refer to no other format of it. -/
def writeItem? (locale : Locale) (t : DateTime) : Item → Option String
  | .locale format =>
    ((ofText (localePattern locale format)).mapM (writeSimple? locale t)).map String.join
  | item => writeSimple? locale t item

/-- The text of an instant; `none` if a part has no text. -/
def write? (locale : Locale) (items : List Item) (t : DateTime) : Option String :=
  (items.mapM (writeItem? locale t)).map String.join

end Pattern

/-- The displayed text of a day. -/
def Date.text (d : Date) : String := Pattern.dayText d

/-- The displayed text of an instant without a zone. -/
def DateTime.text (t : DateTime) : String := Pattern.instantText t

/-- The displayed text of an instant in UTC. -/
def DateTime.utcText (t : DateTime) : String := Pattern.instantText t ++ "+00:00"

end TextTemplate
