import TextTemplate.Unicode.CaseTable
import TextTemplate.Unicode.Range

/-!
# Upper and lower case

Full case conversion: a character may become several, and a capital sigma at the end of a word
becomes the final small sigma. No other rule looks beyond the character itself.
-/

namespace TextTemplate.Unicode

/-- The image of code point `n` under the first run that holds it. -/
def shifted (runs : List (Nat × Nat × Nat × Int)) (n : Nat) : Option Nat :=
  runs.findSome? fun (first, last, step, shift) =>
    if first ≤ n ∧ n ≤ last ∧ (n - first) % step = 0 then some (n + shift).toNat else none

/-- The image of `c` under a case mapping; a character that neither table lists stays. -/
def mapCase (special : List (Nat × List Nat)) (runs : List (Nat × Nat × Nat × Int)) (c : Char) :
    List Char :=
  match special.lookup c.toNat with
  | some image => image.map Char.ofNat
  | none => [((shifted runs c.toNat).map Char.ofNat).getD c]

/-- The upper case of one character. -/
def upperChar (c : Char) : List Char := mapCase upperSpecial upperRuns c

/-- The lower case of one character, whatever stands around it. -/
def lowerChar (c : Char) : List Char := mapCase lowerSpecial lowerRuns c

/-- Whether the first character of `cs` that case rules do not skip has a case. -/
def meetsCased (cs : List Char) : Bool :=
  match cs.dropWhile (covers caseIgnorableRanges) with
  | [] => false
  | c :: _ => covers casedRanges c

/-- The lower case of `cs`, where `before` holds the characters in front of it, nearest first. A
capital sigma is final when a cased character precedes it and none follows. -/
def lowerFrom (before : List Char) : List Char → List Char
  | [] => []
  | c :: rest =>
    let image :=
      if c = 'Σ' then
        if meetsCased before && !meetsCased rest then ['ς'] else ['σ']
      else lowerChar c
    image ++ lowerFrom (c :: before) rest

/-- The upper case of a text. -/
def upper (s : String) : String := String.ofList (s.toList.flatMap upperChar)

/-- The lower case of a text. -/
def lower (s : String) : String := String.ofList (lowerFrom [] s.toList)

/-- A text with its first character in upper case. -/
def capitalize (s : String) : String :=
  match s.toList with
  | [] => ""
  | c :: rest => String.ofList (upperChar c ++ rest)

end TextTemplate.Unicode
