import TextTemplate.Unicode.Range

/-!
# Blank characters

The characters with the property White_Space: the ones skipped between the tokens of a tag and
trimmed from both ends of a number or a date.
-/

namespace TextTemplate.Unicode

/-- The code points with the property White_Space. -/
def blankRanges : List (Nat × Nat) :=
  [(0x9, 0xD), (0x20, 0x20), (0x85, 0x85), (0xA0, 0xA0), (0x1680, 0x1680), (0x2000, 0x200A),
   (0x2028, 0x2029), (0x202F, 0x202F), (0x205F, 0x205F), (0x3000, 0x3000)]

/-- Whether `c` is white space. -/
def isBlank (c : Char) : Bool := covers blankRanges c

/-- `cs` without the white space at its front. -/
def trimFront (cs : List Char) : List Char := cs.dropWhile isBlank

/-- `s` without the white space at both its ends. -/
def trim (s : String) : String :=
  String.ofList (trimFront (trimFront s.toList).reverse).reverse

end TextTemplate.Unicode
