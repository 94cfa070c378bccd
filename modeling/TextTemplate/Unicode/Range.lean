/-!
# Sets of code points

A property of characters is kept as a list of closed intervals of code points, in increasing
order. `covers` decides membership.
-/

namespace TextTemplate.Unicode

/-- Whether the code point of `c` lies in one of the closed intervals. -/
def covers (ranges : List (Nat × Nat)) (c : Char) : Bool :=
  ranges.any fun (first, last) => first ≤ c.toNat && c.toNat ≤ last

theorem covers_iff {ranges : List (Nat × Nat)} {c : Char} :
    covers ranges c = true ↔ ∃ r ∈ ranges, r.1 ≤ c.toNat ∧ c.toNat ≤ r.2 := by
  simp [covers]

end TextTemplate.Unicode
