import TextTemplate.Calendar.Date
import TextTemplate.Decimal
import TextTemplate.Unicode.Blank

/-!
# Reading dates

Text is tried as an Internet timestamp with an offset, as a day with a time after `T` or after
blanks, and as a day alone. The first form that fits the whole text counts. In all but the first,
blanks may stand before every number, and a year with a sign may have any number of digits.
-/

namespace TextTemplate

namespace DateReader

/-- The digits at the front, at most `most` of them; `none` if they are fewer than `least`. -/
def digits? (least most : Nat) (cs : List Char) : Option (Nat × List Char) :=
  let found := (cs.takeWhile Char.isDigit).take most
  if found.length < least then none else some (Decimal.ofDigits found, cs.drop found.length)

/-- Drops a fixed character. -/
def char? (c : Char) : List Char → Option (List Char)
  | d :: rest => if d = c then some rest else none
  | [] => none

/-- A number of one or two digits, after blanks. -/
def number? (cs : List Char) : Option (Nat × List Char) := digits? 1 2 (Unicode.trimFront cs)

/-- A year, after blanks: a sign and any number of digits, or up to four digits. -/
def year? (cs : List Char) : Option (Int × List Char) :=
  match Unicode.trimFront cs with
  | '-' :: rest => (digits? 1 rest.length rest).map fun (n, rest) => (-(n : Int), rest)
  | '+' :: rest => (digits? 1 rest.length rest).map fun (n, rest) => ((n : Int), rest)
  | cs => (digits? 1 4 cs).map fun (n, rest) => ((n : Int), rest)

/-- The digits of a fraction, of which nine count. -/
def fraction? (cs : List Char) : Option (Nat × List Char) :=
  let found := cs.takeWhile Char.isDigit
  if found = [] then none
  else
    let counted := found.take 9
    some (Decimal.ofDigits counted * Nat.pow 10 (9 - counted.length), cs.dropWhile Char.isDigit)

/-- The fraction after a point, zero without a point. -/
def optionalFraction? : List Char → Option (Nat × List Char)
  | '.' :: rest => fraction? rest
  | cs => some (0, cs)

/-- The time with these numbers; the second 60 is a leap second. -/
def timeOf? (hour minute second nano : Nat) : Option TimeOfDay :=
  if second = 60 then TimeOfDay.of? hour minute 59 (1000000000 + nano)
  else TimeOfDay.of? hour minute second nano

/-- A day in numbers, year first. -/
def date? (cs : List Char) : Option (Date × List Char) := do
  let (year, cs) ← year? cs
  let cs ← char? '-' cs
  let (month, cs) ← number? cs
  let cs ← char? '-' cs
  let (day, cs) ← number? cs
  let date ← Date.of? year month day
  return (date, cs)

/-- A time of day. -/
def time? (cs : List Char) : Option (TimeOfDay × List Char) := do
  let (hour, cs) ← number? cs
  let cs ← char? ':' cs
  let (minute, cs) ← number? cs
  let cs ← char? ':' cs
  let (second, cs) ← number? cs
  let (nano, cs) ← optionalFraction? cs
  let time ← timeOf? hour minute second nano
  return (time, cs)

/-- A day and a time with what `between` accepts between them, and nothing after them. -/
def dateTime? (between : List Char → Option (List Char)) (cs : List Char) : Option DateTime := do
  let (date, cs) ← date? cs
  let cs ← between cs
  let (time, cs) ← time? cs
  if cs = [] then some ⟨date, time⟩ else none

/-- The minutes of an offset: `Z`, or a sign, hours and minutes. -/
def offset? : List Char → Option (Int × List Char)
  | 'Z' :: rest => some (0, rest)
  | 'z' :: rest => some (0, rest)
  | c :: rest => do
    let sign ← if c = '+' then some 1 else if c = '-' ∨ c = '−' then some (-1) else none
    let (hours, rest) ← digits? 2 2 rest
    let rest ← char? ':' rest
    let (minutes, rest) ← digits? 2 2 rest
    if minutes < 60 ∧ hours < 24 then some (sign * (60 * hours + minutes : Int), rest) else none
  | [] => none

/-- An Internet timestamp: every number has a fixed number of digits, and the offset is not left
out. The instant is that of UTC. -/
def timestamp? (cs : List Char) : Option DateTime := do
  let (year, cs) ← digits? 4 4 cs
  let cs ← char? '-' cs
  let (month, cs) ← digits? 2 2 cs
  let cs ← char? '-' cs
  let (day, cs) ← digits? 2 2 cs
  let cs ← match cs with
    | c :: rest => if c = 'T' ∨ c = 't' ∨ c = ' ' then some rest else none
    | [] => none
  let (hour, cs) ← digits? 2 2 cs
  let cs ← char? ':' cs
  let (minute, cs) ← digits? 2 2 cs
  let cs ← char? ':' cs
  let (second, cs) ← digits? 2 2 cs
  let (nano, cs) ← optionalFraction? cs
  let (offset, cs) ← offset? cs
  if cs ≠ [] then none
  let date ← Date.of? year month day
  let time ← timeOf? hour minute second nano
  DateTime.minusMinutes? ⟨date, time⟩ offset

/-- A day with nothing after it. -/
def dateOnly? (cs : List Char) : Option DateTime := do
  let (date, cs) ← date? cs
  if cs = [] then some (.ofDate date) else none

end DateReader

/-- The instant that a text without blanks around it spells. -/
def DateTime.ofText? (s : String) : Option DateTime :=
  let cs := s.toList
  DateReader.timestamp? cs
    <|> DateReader.dateTime? (DateReader.char? 'T') cs
    <|> DateReader.dateTime? (fun rest => some (Unicode.trimFront rest)) cs
    <|> DateReader.dateOnly? cs

end TextTemplate
