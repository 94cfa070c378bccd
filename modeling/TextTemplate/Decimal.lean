import TextTemplate.Binary64

/-!
# Decimal numerals

A decimal is a whole number times a power of ten. `Decimal.ofText?` reads one; the nearest
floating-point number to it is exact rounding of a ratio of whole numbers.
-/

namespace TextTemplate

/-- The number `coefficient · 10 ^ exponent`, with a sign. -/
structure Decimal where
  negative : Bool
  coefficient : Nat
  exponent : Int
deriving DecidableEq, Repr

namespace Decimal

/-- The number that a list of decimal digits spells. -/
def ofDigits (cs : List Char) : Nat := cs.foldl (fun n c => 10 * n + (c.toNat - 48)) 0

/-- Splits a sign off. -/
def signed : List Char → Bool × List Char
  | '-' :: rest => (true, rest)
  | '+' :: rest => (false, rest)
  | cs => (false, cs)

/-- Reads the exponent after the digits of a numeral, `none` for a malformed one. -/
def exponent? : List Char → Option Int
  | [] => some 0
  | c :: rest =>
    let (negative, digits) := signed rest
    if (c = 'e' ∨ c = 'E') ∧ digits ≠ [] ∧ digits.all Char.isDigit then
      some (if negative then -(ofDigits digits : Int) else ofDigits digits)
    else none

/-- Reads a numeral: a sign, digits with at most one point among them, an exponent. -/
def ofText? (s : String) : Option Decimal := do
  let (negative, cs) := signed s.toList
  let whole := cs.takeWhile Char.isDigit
  let rest := cs.dropWhile Char.isDigit
  let (fraction, rest) := match rest with
    | '.' :: more => (more.takeWhile Char.isDigit, more.dropWhile Char.isDigit)
    | _ => ([], rest)
  if whole = [] ∧ fraction = [] then none
  let e ← exponent? rest
  return ⟨negative, ofDigits (whole ++ fraction), e - fraction.length⟩

/-- Applies a rounding of ratios. Numbers out of all range are cut short: those of `10 ^ 400` and
more overflow as `10 ^ 400` does, those below `10 ^ -400` vanish as it does. -/
def round (ratio : Bool → Nat → Nat → Binary64) (d : Decimal) : Binary64 :=
  let size := d.exponent + (Nat.toDigits 10 d.coefficient).length
  if d.coefficient = 0 then ratio d.negative 0 1
  else if 400 < size then ratio d.negative (Nat.pow 10 400) 1
  else if size < -400 then ratio d.negative 1 (Nat.pow 10 400)
  else
    ratio d.negative (d.coefficient * Nat.pow 10 d.exponent.toNat)
      (Nat.pow 10 (-d.exponent).toNat)

end Decimal

/-- Reads a floating-point number: a numeral, an infinity, or the word for what is not a number. -/
def Binary64.ofText? (ratio : Bool → Nat → Nat → Binary64) (s : String) : Option Binary64 :=
  let (negative, cs) := Decimal.signed s.toList
  let word := String.ofList (cs.map Char.toLower)
  if word = "nan" then some nan
  else if word = "inf" ∨ word = "infinity" then some (infinity negative)
  else (Decimal.ofText? s).map (Decimal.round ratio)

end TextTemplate
