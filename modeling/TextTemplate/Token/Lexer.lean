import TextTemplate.Token
import TextTemplate.Unicode.Blank

/-!
# Reading tokens

`Token.ofSource?` splits a source into tokens. Outside a tag the text up to the next pair of
opening braces is one token. Inside a tag white space separates, words and marks are tokens, and
the first pair of closing braces ends the tag. The list of a readable source ends in `endOfInput`
at the byte length of the source; the first character that no rule covers refuses the source.

Words are those of ASCII; white space is that of Unicode.
-/

namespace TextTemplate

/-- Why a source cannot be split into tokens. -/
inductive LexicalError where
  /-- The source ends inside the tag that was opened at `position`. -/
  | unclosedTag (position : Nat)
  /-- No token of a tag starts with this character. -/
  | unexpectedCharacter (character : Char) (position : Nat)
  /-- The `#` at `position` stands before no reserved word; `word` is what follows it. -/
  | unknownKeyword (word : String) (position : Nat)
deriving DecidableEq, Repr

namespace LexicalError

def position : LexicalError → Nat
  | unclosedTag p => p
  | unexpectedCharacter _ p => p
  | unknownKeyword _ p => p

def message : LexicalError → String
  | unclosedTag p =>
    "Expected '\x7d\x7d' after expression (tag opened at byte " ++ toString p ++ ")"
  | unexpectedCharacter c p =>
    "Unexpected character '" ++ c.toString ++ "' at byte " ++ toString p
  | unknownKeyword w p => "Unknown keyword #" ++ w ++ " at byte " ++ toString p

end LexicalError

namespace Lexer

/-- The characters that may begin a word. -/
def startsWord (c : Char) : Bool := c.isAlpha || c == '_'

/-- The characters that a word may go on with. -/
def continuesWord (c : Char) : Bool := c.isAlphanum || c == '_'

/-- The longest word at the front of `cs`, empty if none begins there. -/
def word : List Char → List Char
  | [] => []
  | c :: rest => if startsWord c then c :: rest.takeWhile continuesWord else []

/-- What stands after the longest word at the front of `cs`. -/
def afterWord : List Char → List Char
  | [] => []
  | c :: rest => if startsWord c then rest.dropWhile continuesWord else c :: rest

/-- The text in front of the next pair of opening braces. -/
def text : List Char → List Char
  | [] => []
  | '{' :: '{' :: _ => []
  | c :: rest => c :: text rest

/-- What stands from the next pair of opening braces on. -/
def afterText : List Char → List Char
  | [] => []
  | '{' :: '{' :: rest => '{' :: '{' :: rest
  | _ :: rest => afterText rest

theorem length_dropWhile_le (p : Char → Bool) (cs : List Char) :
    (cs.dropWhile p).length ≤ cs.length :=
  (List.dropWhile_suffix p).length_le

theorem length_afterWord_le (cs : List Char) : (afterWord cs).length ≤ cs.length := by
  cases cs with
  | nil => simp [afterWord]
  | cons c rest =>
    have h := length_dropWhile_le continuesWord rest
    simp only [afterWord]
    split <;> simp only [List.length_cons] <;> omega

theorem length_afterText_le (cs : List Char) : (afterText cs).length ≤ cs.length := by
  fun_induction afterText cs <;> simp_all
  omega

theorem text_append_afterText (cs : List Char) : text cs ++ afterText cs = cs := by
  fun_induction afterText cs <;> simp_all [text]

theorem word_append_afterWord (cs : List Char) : word cs ++ afterWord cs = cs := by
  cases cs with
  | nil => rfl
  | cons c rest =>
    simp only [word, afterWord]
    split <;> simp [List.takeWhile_append_dropWhile]

/-- The number of bytes that `cs` takes in UTF-8. -/
def byteLength : List Char → Nat
  | [] => 0
  | c :: rest => c.utf8Size + byteLength rest

@[simp] theorem byteLength_nil : byteLength [] = 0 := rfl

@[simp] theorem byteLength_cons (c : Char) (cs : List Char) :
    byteLength (c :: cs) = c.utf8Size + byteLength cs := rfl

@[simp] theorem byteLength_append (cs ds : List Char) :
    byteLength (cs ++ ds) = byteLength cs + byteLength ds := by
  induction cs with
  | nil => exact (Nat.zero_add _).symm
  | cons c cs ih => rw [List.cons_append, byteLength_cons, byteLength_cons, ih, Nat.add_assoc]

theorem byteLength_pos {cs : List Char} (h : cs ≠ []) : 0 < byteLength cs := by
  cases cs with
  | nil => exact absurd rfl h
  | cons c cs =>
    have := c.utf8Size_pos
    rw [byteLength_cons]
    omega

theorem utf8ByteSize_ofList (cs : List Char) :
    (String.ofList cs).utf8ByteSize = byteLength cs := by
  induction cs with
  | nil => rfl
  | cons c cs ih =>
    have hc : String.ofList (c :: cs) = String.singleton c ++ String.ofList cs := by
      rw [String.singleton_eq_ofList, ← String.ofList_append]
      rfl
    rw [hc, String.utf8ByteSize_append, String.utf8ByteSize_singleton, ih, byteLength_cons]

theorem utf8ByteSize_eq (s : String) : s.utf8ByteSize = byteLength s.toList := by
  rw [← utf8ByteSize_ofList, String.ofList_toList]

/-- The lexeme of a word: a reserved word or an identifier. -/
def lexemeOfWord (w : String) : Lexeme :=
  match Symbol.ofWord? w with
  | some s => .symbol s
  | none => .identifier w

/-- Where the reader stands: in literal text, or inside the tag opened at an offset. -/
inductive State where
  | text
  | tag (opened : Nat)
deriving DecidableEq, Repr

/-- The tokens of `cs`, which starts at byte `pos` of the source. -/
def tokens : State → Nat → List Char → Except LexicalError (List Token)
  | .text, pos, [] => .ok [⟨.endOfInput, pos⟩]
  | .text, pos, '{' :: '{' :: rest => do
    let ts ← tokens (.tag pos) (pos + 2) rest
    return ⟨.symbol .openTag, pos⟩ :: ts
  | .text, pos, c :: rest => do
    let run := c :: text rest
    let ts ← tokens .text (pos + byteLength run) (afterText rest)
    return ⟨.text (String.ofList run), pos⟩ :: ts
  | .tag opened, _, [] => .error (.unclosedTag opened)
  | .tag _, pos, '}' :: '}' :: rest => do
    let ts ← tokens .text (pos + 2) rest
    return ⟨.symbol .closeTag, pos⟩ :: ts
  | .tag opened, pos, '#' :: rest =>
    match Symbol.ofWord? (String.ofList (word rest)) with
    | none => .error (.unknownKeyword (String.ofList (word rest)) pos)
    | some s => do
      let ts ← tokens (.tag opened) (pos + 1 + byteLength (word rest)) (afterWord rest)
      return ⟨.symbol .hash, pos⟩ :: ⟨.symbol s, pos + 1⟩ :: ts
  | .tag opened, pos, c :: rest =>
    if Unicode.isBlank c then
      tokens (.tag opened) (pos + c.utf8Size) rest
    else if let some s := Symbol.ofPunctuation? c then do
      let ts ← tokens (.tag opened) (pos + 1) rest
      return ⟨.symbol s, pos⟩ :: ts
    else if startsWord c then do
      let w := c :: rest.takeWhile continuesWord
      let ts ← tokens (.tag opened) (pos + byteLength w) (rest.dropWhile continuesWord)
      return ⟨lexemeOfWord (String.ofList w), pos⟩ :: ts
    else .error (.unexpectedCharacter c pos)
termination_by _ _ cs => cs.length
decreasing_by
  all_goals
    have := length_afterText_le rest
    have := length_afterWord_le rest
    have := length_dropWhile_le continuesWord rest
    simp only [List.length_cons]
    omega

end Lexer

/-- The tokens of a template source. -/
def Token.ofSource? (source : String) : Except LexicalError (List Token) :=
  Lexer.tokens .text 0 source.toList

end TextTemplate
