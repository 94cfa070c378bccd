import TextTemplate.Unicode.Printing

/-!
# Quoted text

`Quoted.encode` writes a text between double quotes so that no character of it is lost from sight:
quotes, backslashes and the common controls have a short escape, and characters that do not show or
that extend the one before them are written by their code point.
-/

namespace TextTemplate.Quoted

/-- A character between the quotes. -/
def encodeChar (c : Char) : List Char :=
  if c = '"' then ['\\', '"']
  else if c = '\\' then ['\\', '\\']
  else if c = '\t' then ['\\', 't']
  else if c = '\r' then ['\\', 'r']
  else if c = '\n' then ['\\', 'n']
  else if c = '\x00' then ['\\', '0']
  else if Unicode.isExtending c ∨ Unicode.isHidden c then
    ['\\', 'u', '\x7b'] ++ Nat.toDigits 16 c.toNat ++ ['\x7d']
  else [c]

/-- A text between quotes. -/
def encode (s : String) : String :=
  String.ofList ('"' :: s.toList.flatMap encodeChar ++ ['"'])

end TextTemplate.Quoted
