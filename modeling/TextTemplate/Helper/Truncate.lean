import TextTemplate.Helper
import TextTemplate.Unicode.Blank

/-!
# Truncation

`Helper.truncate` shortens a text to a number of characters and marks the cut with three points. The
number is an integer, a floating-point number without its fraction, or a numeral in a text.
-/

namespace TextTemplate.Helper

/-- The length of a truncation without a length of its own. -/
def defaultLength : Nat := 20

/-- The largest length, which stands for everything beyond it. -/
def greatestLength : Nat := Nat.pow 2 64 - 1

/-- The number that a text spells: an optional plus and decimal digits. -/
def lengthOfText? (s : String) : Option Nat :=
  let digits := match (Unicode.trim s).toList with
    | '+' :: rest => rest
    | cs => cs
  if digits = [] ∨ !digits.all Char.isDigit then none
  else
    let n := Decimal.ofDigits digits
    if n ≤ greatestLength then some n else none

/-- The length that an argument asks for. -/
def lengthOf : Value → Except HelperError Nat
  | .null => .ok defaultLength
  | .text s =>
    match lengthOfText? s with
    | some n => .ok n
    | none => .error (.invalidArgument ("truncate length `" ++ s ++ "`"))
  | v =>
    let length : Option Nat := match v with
      | .integer n => if 0 ≤ n.toInt then some n.toInt.toNat else none
      | .float x =>
        if x.isNonNegative then some ((x.truncate?.map Int.toNat).getD greatestLength) else none
      | _ => none
    match length with
    | some n => .ok n
    | none => .error (.invalidArgument
        ("truncate length must be a non-negative number, got " ++ v.typeName))

/-- The first `length` characters of a longer text, with three points after them. -/
def truncateText (length : Nat) (s : String) : String :=
  if s.toList.length ≤ length then s
  else String.ofList (s.toList.take length ++ ['.', '.', '.'])

/-- Shortens the displayed text of the first argument to the length that the second asks for. -/
def truncate : Helper := fun args => do
  let v ← firstArgument args
  let length ← match args[1]? with
    | none => .ok defaultLength
    | some asked => lengthOf asked
  return .text (truncateText length v.display)

end TextTemplate.Helper
