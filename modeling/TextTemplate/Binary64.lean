/-!
# Floating-point numbers of 64 bits

A number is kept as its bits, so that every operation on it is a computation with whole numbers.
`number` says what the bits stand for; `ofRatio` finds the bits of the nearest number, where a tie
goes to the even significand.
-/

namespace TextTemplate

/-- A floating-point number of 64 bits: sign, eleven bits of exponent, 52 bits of fraction. -/
structure Binary64 where
  bits : UInt64
deriving DecidableEq, Repr

namespace Binary64

/-- What a pattern of bits stands for. A finite number is `significand · 2 ^ exponent`. -/
inductive Number where
  | nan
  | infinite (negative : Bool)
  | finite (negative : Bool) (significand : Nat) (exponent : Int)
deriving DecidableEq, Repr

/-- The number that the bits stand for. -/
def number (x : Binary64) : Number :=
  let n := x.bits.toNat
  let negative := decide (Nat.pow 2 63 ≤ n)
  let fraction : Nat := n % Nat.pow 2 52
  let field : Nat := n / Nat.pow 2 52 % Nat.pow 2 11
  if field = 2047 then if fraction = 0 then .infinite negative else .nan
  else if field = 0 then .finite negative fraction (-1074)
  else .finite negative (Nat.pow 2 52 + fraction) (field - 1075)

/-- The number with the given sign whose other bits are `magnitude`, at most those of infinity. -/
def ofMagnitude (negative : Bool) (magnitude : Nat) : Binary64 :=
  let body := min magnitude (2047 * Nat.pow 2 52)
  ⟨UInt64.ofNat (if negative then Nat.pow 2 63 + body else body)⟩

def nan : Binary64 := ⟨0x7FF8000000000000⟩

def infinity (negative : Bool) : Binary64 := ofMagnitude negative (2047 * Nat.pow 2 52)

def zero (negative : Bool) : Binary64 := ofMagnitude negative 0

def isNaN (x : Binary64) : Bool := x.number = .nan

def isZero (x : Binary64) : Bool := x.bits.toNat % Nat.pow 2 63 = 0

/-- Numeric equality: the zeros are equal, and no number equals what is not a number. -/
def equals (x y : Binary64) : Bool :=
  !x.isNaN && !y.isNaN && (x.bits == y.bits || (x.isZero && y.isZero))

/-- Whether `x` is at least zero; a negative zero is. -/
def isNonNegative (x : Binary64) : Bool :=
  match x.number with
  | .nan => false
  | .infinite negative => !negative
  | .finite negative significand _ => !negative || significand == 0

/-- The whole part of a finite number. -/
def truncate? (x : Binary64) : Option Int :=
  match x.number with
  | .finite negative significand exponent =>
    let whole : Nat :=
      if 0 ≤ exponent then significand * Nat.pow 2 exponent.toNat
      else significand / Nat.pow 2 (-exponent).toNat
    some (if negative then -whole else whole)
  | _ => none

/-! ## Rounding -/

/-- `num / den` to the nearest whole number, a tie to the even one. -/
def roundDiv (num den : Nat) : Nat :=
  let low := num / den
  let twice := 2 * (num % den)
  if den < twice ∨ (twice = den ∧ low % 2 = 1) then low + 1 else low

/-- The largest `e` with `2 ^ e ≤ num / den`, for positive numbers. -/
def binaryExponent (num den : Nat) : Int :=
  let e : Int := Nat.log2 num - Nat.log2 den
  if den * Nat.pow 2 e.toNat ≤ num * Nat.pow 2 (-e).toNat then e else e - 1

/-- The nearest `m · 2 ^ q` to a positive `num / den` whose `m` has at most `precision` bits and
whose `q` is at least `least`. The result may have the next power of two as its `m`. -/
def roundBinary (precision : Nat) (least : Int) (num den : Nat) : Nat × Int :=
  let q := max (binaryExponent num den - (precision - 1)) least
  (roundDiv (num * Nat.pow 2 (-q).toNat) (den * Nat.pow 2 q.toNat), q)

/-- The nearest number to `num / den`. -/
def ofRatio (negative : Bool) (num den : Nat) : Binary64 :=
  if num = 0 then zero negative
  else
    let (m, q) := roundBinary 53 (-1074) num den
    ofMagnitude negative ((q + 1074).toNat * Nat.pow 2 52 + m)

/-- The nearest number to `num / den` among those of 32 bits. -/
def ofRatioSingle (negative : Bool) (num den : Nat) : Binary64 :=
  if num = 0 then zero negative
  else
    let (m, q) := roundBinary 24 (-149) num den
    if 128 ≤ Nat.log2 m + q then infinity negative
    else ofRatio negative (m * Nat.pow 2 q.toNat) (Nat.pow 2 (-q).toNat)

/-- The nearest number to a whole number. -/
def ofNat (n : Nat) : Binary64 := ofRatio false n 1

end Binary64

end TextTemplate
