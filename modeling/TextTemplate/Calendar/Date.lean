/-!
# Days, times of day, instants

Dates of the proleptic Gregorian calendar with a year in a fixed range, times of day to the
nanosecond with room for a leap second, and the two together. Days are counted from the first of
January 1970.

A leap second is the second before it with a billion nanoseconds more. Numbers make one in the last
second of a minute only (`TimeOfDay.of?`), but a time that has its nanoseconds changed afterwards
may have one behind any second.
-/

namespace TextTemplate

namespace Calendar

def isLeap (year : Int) : Bool :=
  year % 4 == 0 && (year % 100 != 0 || year % 400 == 0)

/-- The lengths of the twelve months. -/
def monthLengths (year : Int) : List Nat :=
  [31, if isLeap year then 29 else 28, 31, 30, 31, 30, 31, 31, 30, 31, 30, 31]

/-- The length of a month, counted from one; zero for a number that no month has. -/
def daysInMonth (year : Int) (month : Nat) : Nat :=
  if month = 0 then 0 else (monthLengths year).getD (month - 1) 0

/-- The days from the first of January of year one to the first of January of `year`. -/
def daysBeforeYear (year : Int) : Int :=
  365 * (year - 1) + (year - 1) / 4 - (year - 1) / 100 + (year - 1) / 400

/-- The days from the first of January of year one to the first of January 1970. -/
def daysBefore1970 : Int := 719162

end Calendar

open Calendar

/-- A day that the calendar has, with a year of the supported range. -/
structure Date where
  year : Int
  month : Nat
  day : Nat
  valid : (-262143 ≤ year ∧ year ≤ 262142) ∧ 1 ≤ month ∧ 1 ≤ day ∧ day ≤ daysInMonth year month
deriving DecidableEq, Repr

namespace Date

/-- The day with these numbers, if there is one. -/
def of? (year : Int) (month day : Nat) : Option Date :=
  if h : (-262143 ≤ year ∧ year ≤ 262142) ∧ 1 ≤ month ∧ 1 ≤ day ∧ day ≤ daysInMonth year month
  then some ⟨year, month, day, h⟩ else none

/-- The number of the day in its year, counted from one. -/
def ordinal (d : Date) : Nat := ((monthLengths d.year).take (d.month - 1)).foldl (· + ·) 0 + d.day

/-- The number of the day, counted from the first of January 1970. -/
def dayNumber (d : Date) : Int := daysBeforeYear d.year - daysBefore1970 + d.ordinal - 1

/-- The month and the day of the month of the day `n` of a year, counted from zero, where `lengths`
are those of the months from `month` on. -/
def inMonth (month n : Nat) : List Nat → Nat × Nat
  | [] => (month, n + 1)
  | length :: rest => if n < length then (month, n + 1) else inMonth (month + 1) (n - length) rest

/-- The day with a given number, if its year is supported. A cycle of four hundred years has 146097
days; its fourth century and the fourth year of a group of four are one day longer. -/
def ofDayNumber? (number : Int) : Option Date :=
  let n := number + daysBefore1970
  let inCycle := (n % 146097).toNat
  let century := min (inCycle / 36524) 3
  let inCentury := inCycle - century * 36524
  let group := inCentury / 1461
  let inGroup := inCentury - group * 1461
  let last := min (inGroup / 365) 3
  let year : Int := 400 * (n / 146097) + 100 * century + 4 * group + last + 1
  let (month, day) := inMonth 1 (inGroup - last * 365) (monthLengths year)
  of? year month day

/-- The day of the week, counted from Sunday as zero. -/
def weekday (d : Date) : Nat := ((d.dayNumber + 4) % 7).toNat

/-- The day of the week, counted from Monday as one. -/
def isoWeekday (d : Date) : Nat := if d.weekday = 0 then 7 else d.weekday

/-- The number of the week, counted from the first `first` of the year as the beginning of week one;
the days before it are in week zero. `first` is zero for Sunday and one for Monday. -/
def week (first : Nat) (d : Date) : Nat := (d.ordinal + 6 - (d.weekday + 7 - first) % 7) / 7

/-- Whether a year has 53 weeks: its first of January is a Thursday, or a Wednesday in a leap
year. -/
def hasLongYear (year : Int) : Bool :=
  let first := (daysBeforeYear year - daysBefore1970 + 4) % 7
  first == 4 || (first == 3 && isLeap year)

/-- The year and the number of the week that holds the day, where week one is the one with the
first Thursday of the year. -/
def isoWeek (d : Date) : Int × Nat :=
  let n := (d.ordinal + 10 - d.isoWeekday) / 7
  if n = 0 then (d.year - 1, if hasLongYear (d.year - 1) then 53 else 52)
  else if n = 53 ∧ !hasLongYear d.year then (d.year + 1, 1)
  else (d.year, n)

end Date

/-- A time of day. With a billion nanoseconds or more it is in the leap second behind its second. -/
structure TimeOfDay where
  hour : Nat
  minute : Nat
  second : Nat
  nano : Nat
  valid : hour < 24 ∧ minute < 60 ∧ second < 60 ∧ nano < 2000000000
deriving DecidableEq, Repr

namespace TimeOfDay

/-- Only the last second of a minute has a leap second behind it. -/
def IsUsual (t : TimeOfDay) : Prop := 1000000000 ≤ t.nano → t.second = 59

instance : DecidablePred IsUsual := fun t =>
  inferInstanceAs (Decidable (1000000000 ≤ t.nano → t.second = 59))

/-- The usual time with these numbers, if there is one. -/
def of? (hour minute second nano : Nat) : Option TimeOfDay :=
  if valid : hour < 24 ∧ minute < 60 ∧ second < 60 ∧ nano < 2000000000 then
    if 1000000000 ≤ nano → second = 59 then some ⟨hour, minute, second, nano, valid⟩ else none
  else none

def midnight : TimeOfDay := ⟨0, 0, 0, 0, by decide⟩

/-- The second as it is shown: a leap second is the one that comes next, 60 behind the last. -/
def shownSecond (t : TimeOfDay) : Nat := t.second + t.nano / 1000000000

/-- The nanoseconds within the second that is shown. -/
def fraction (t : TimeOfDay) : Nat := t.nano % 1000000000

/-- The whole seconds since midnight, a leap second not counted. -/
def seconds (t : TimeOfDay) : Nat := t.hour * 3600 + t.minute * 60 + t.second

/-- The time in another minute of the day, with the same second. -/
def atMinute (t : TimeOfDay) (inDay : Nat) (fits : inDay < 1440) : TimeOfDay where
  hour := inDay / 60
  minute := inDay % 60
  second := t.second
  nano := t.nano
  valid := by
    have valid := t.valid
    omega

end TimeOfDay

/-- A day and a time of day. -/
structure DateTime where
  date : Date
  time : TimeOfDay
deriving DecidableEq, Repr

namespace DateTime

/-- The seconds since the beginning of 1970. -/
def timestamp (t : DateTime) : Int := t.date.dayNumber * 86400 + t.time.seconds

/-- The beginning of a day. -/
def ofDate (d : Date) : DateTime := ⟨d, .midnight⟩

/-- The instant a number of milliseconds after the beginning of 1970, if its year is supported. -/
def ofMillis? (ms : Int) : Option DateTime := do
  let second := ms / 1000
  let date ← Date.ofDayNumber? (second / 86400)
  let inDay := (second % 86400).toNat
  let time ← TimeOfDay.of? (inDay / 3600) (inDay / 60 % 60) (inDay % 60)
    ((ms % 1000).toNat * 1000000)
  return ⟨date, time⟩

/-- The instant a number of minutes before `t`. -/
def minusMinutes? (t : DateTime) (minutes : Int) : Option DateTime := do
  let total := (t.time.hour * 60 + t.time.minute : Int) - minutes
  let date ← Date.ofDayNumber? (t.date.dayNumber + total / 1440)
  return ⟨date, t.time.atMinute (total % 1440).toNat (by omega)⟩

end DateTime

end TextTemplate
