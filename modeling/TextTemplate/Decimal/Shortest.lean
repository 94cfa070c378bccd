import TextTemplate.Decimal

/-!
# The shortest decimal that reads back

Among the decimals that round to a given number, `Binary64.shortest` finds one with the fewest
digits, and of those the nearest. The reals that round to `m · 2 ^ q` form an interval around it:
half a step to either side, a quarter below a power of two, the ends included when `m` is even.
For one digit, two digits and so on, only the two neighbours of the number on the grid of that
many digits can be nearest, so the first grid with a neighbour in the interval decides.
-/

namespace TextTemplate

/-- Which of two equally near candidates is taken. -/
inductive Tie where
  | up
  | toEven
deriving DecidableEq, Repr

namespace Binary64

/-- The interval of the reals that round to `middle · 2 ^ exponent`, in the same unit. -/
structure Interval where
  low : Nat
  middle : Nat
  high : Nat
  exponent : Int
  closed : Bool

namespace Interval

/-- The interval around a positive finite number `m · 2 ^ q`. -/
def around (m : Nat) (q : Int) : Interval where
  low := if m = Nat.pow 2 52 ∧ -1074 < q then 4 * m - 1 else 4 * m - 2
  middle := 4 * m
  high := 4 * m + 2
  exponent := q - 2
  closed := m % 2 = 0

/-- The number of digits before the point: `10 ^ (d - 1) ≤ middle · 2 ^ exponent < 10 ^ d`. -/
def magnitude (i : Interval) : Int :=
  let num := i.middle * Nat.pow 2 i.exponent.toNat
  let den := Nat.pow 2 (-i.exponent).toNat
  let d : Int := (Nat.toDigits 10 num).length - (Nat.toDigits 10 den).length
  if den * Nat.pow 10 d.toNat ≤ num * Nat.pow 10 (-d).toNat then d + 1 else d

/-- The nearest multiple of `10 ^ e` to the middle, if one of the two neighbours of the middle lies
in the interval. -/
def nearestMultiple? (tie : Tie) (i : Interval) (e : Int) : Option Nat :=
  let scale (n : Nat) := n * Nat.pow 2 i.exponent.toNat * Nat.pow 10 (-e).toNat
  let unit := Nat.pow 2 (-i.exponent).toNat * Nat.pow 10 e.toNat
  let inside (c : Nat) : Bool :=
    if i.closed then scale i.low ≤ c * unit && c * unit ≤ scale i.high
    else scale i.low < c * unit && c * unit < scale i.high
  let c := scale i.middle / unit
  match inside c, inside (c + 1) with
  | false, false => none
  | true, false => some c
  | false, true => some (c + 1)
  | true, true =>
    let below := scale i.middle - c * unit
    let above := (c + 1) * unit - scale i.middle
    if below < above then some c
    else if above < below then some (c + 1)
    else match tie with
      | .up => some (c + 1)
      | .toEven => some (if c % 2 = 0 then c else c + 1)

end Interval

/-- `c · 10 ^ e` without zeros at the end of its coefficient. -/
def withoutZeros (c : Nat) (e : Int) : Nat × Int :=
  if h : c ≠ 0 ∧ c % 10 = 0 then withoutZeros (c / 10) (e + 1) else (c, e)
termination_by c
decreasing_by omega

/-- The coefficient and the exponent of the shortest decimal for a positive finite number. Seventeen
digits always suffice. -/
def shortest (tie : Tie) (m : Nat) (q : Int) : Nat × Int :=
  let i := Interval.around m q
  let grids := (List.range 17).map fun (n : Nat) => i.magnitude - 1 - n
  let hit := grids.findSome? fun e => (i.nearestMultiple? tie e).map fun c => withoutZeros c e
  hit.getD (0, 0)

end Binary64

end TextTemplate
