import TextTemplate.Decimal.Shortest

/-!
# The text of a floating-point number

A format says how the shortest digits of a number are set out. Displayed values use `display`, JSON
text uses `json`.
-/

namespace TextTemplate

/-- How the digits of a floating-point number are set out. -/
structure FloatFormat where
  /-- Which of two equally near decimals is written. -/
  tie : Tie
  /-- Whether a whole number ends in `.0`. -/
  wholeMark : Bool
  /-- The exponents of the first digit that are written without an exponent; all, if absent. -/
  positional : Option (Int × Int)
  /-- The text for what is not a number and for the infinities; `none` where the format has its own
  words for them. -/
  special : Option String

namespace FloatFormat

/-- The format of displayed values: never an exponent, no mark on whole numbers. -/
def display : FloatFormat := ⟨.up, false, none, none⟩

/-- The format of JSON: the digits from the hundred-thousandth place to the sixteenth before the
point stand in place, other numbers have an exponent, and only finite numbers have a text. -/
def json : FloatFormat := ⟨.toEven, true, some (-5, 15), some "null"⟩

/-- The digits of `c · 10 ^ e` in place. -/
def inPlace (wholeMark : Bool) (c : Nat) (e : Int) : String :=
  let digits := toString c
  let zeros (n : Nat) := String.ofList (List.replicate n '0')
  if 0 ≤ e then digits ++ zeros e.toNat ++ (if wholeMark then ".0" else "")
  else
    let places := (-e).toNat
    if places < digits.length then
      let cs := digits.toList
      String.ofList (cs.take (cs.length - places)) ++ "." ++
        String.ofList (cs.drop (cs.length - places))
    else "0." ++ zeros (places - digits.length) ++ digits

/-- One digit, the others after a point, and the exponent of the first with its sign. -/
def scientific (c : Nat) (e : Int) : String :=
  match (toString c).toList with
  | [] => ""
  | first :: rest =>
    let point := e + rest.length
    let fraction := if rest = [] then "" else "." ++ String.ofList rest
    let sign := if point < 0 then "-" else "+"
    String.singleton first ++ fraction ++ "e" ++ sign ++ toString point.natAbs

/-- The text of a positive finite number. -/
def magnitude (f : FloatFormat) (m : Nat) (q : Int) : String :=
  let (c, e) := Binary64.shortest f.tie m q
  let first := e + (toString c).length - 1
  match f.positional with
  | none => inPlace f.wholeMark c e
  | some (low, high) =>
    if low ≤ first ∧ first ≤ high then inPlace f.wholeMark c e else scientific c e

/-- The text of a number. -/
def text (f : FloatFormat) (x : Binary64) : String :=
  match x.number with
  | .nan => f.special.getD "NaN"
  | .infinite negative => f.special.getD (if negative then "-inf" else "inf")
  | .finite negative m q =>
    let body := if m = 0 then inPlace f.wholeMark 0 0 else f.magnitude m q
    if negative then "-" ++ body else body

end FloatFormat

end TextTemplate
