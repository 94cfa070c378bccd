import TextTemplate.Unicode.Printing

/-!
# Escaping for HTML

`Html.escape` writes markup characters as named references, and every control character but tab,
newline and carriage return, and every character outside ASCII, as a decimal reference. What it
writes is ASCII and holds no markup character but the `&` of its references.
-/

namespace TextTemplate.Html

/-- The decimal reference of a character. -/
def reference (c : Char) : List Char := "&#".toList ++ (toString c.toNat).toList ++ [';']

/-- A character inside escaped text. -/
def escapeChar (c : Char) : List Char :=
  if c = '&' then "&amp;".toList
  else if c = '<' then "&lt;".toList
  else if c = '>' then "&gt;".toList
  else if c = '"' then "&quot;".toList
  else if c = '\'' then "&#39;".toList
  else if c = '\t' ∨ c = '\n' ∨ c = '\r' then [c]
  else if Unicode.isControl c ∨ 128 ≤ c.toNat then reference c
  else [c]

/-- Text without markup. -/
def escape (s : String) : String := String.ofList (s.toList.flatMap escapeChar)

end TextTemplate.Html
