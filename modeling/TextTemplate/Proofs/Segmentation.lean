import TextTemplate.Token.Lexer

/-!
# How a source falls into tokens

The lexical grammar, without a reader. A source is a sequence of spans: texts and tags. A tag is a
sequence of pieces: blanks, marks, reserved words, identifiers and reserved words behind a `#`.
Whether a span or a piece may stand where it does depends on what follows it: a text runs to the
first pair of opening braces, a tag to the first pair of closing braces, and a word is not followed
by a character that would go on with it.

`Segmentation source ts` says that `ts` are the tokens of such a sequence and the end of input, that
each token starts behind the one in front of it and is spelled where it stands, and that the bytes
between the tokens are those of white space inside tags.
-/

namespace TextTemplate

namespace Lexer

/-- The marks that stand on their own inside a tag. -/
def marks : List Symbol :=
  [.pipe, .dot, .slash, .comma, .equals, .openParen, .closeParen, .greaterThan, .ampersand]

/-- A word of ASCII letters, digits and underscores that does not start with a digit. -/
def IsWord (w : List Char) : Prop :=
  ∃ c cs, w = c :: cs ∧ startsWord c ∧ ∀ d ∈ cs, continuesWord d

/-- No word goes on at the front of `rest`. -/
def EndsWord (rest : List Char) : Prop :=
  ∀ c more, rest = c :: more → continuesWord c = false

/-- In `run ++ rest`, the first `delimiter` is the front of `rest`; or there is no delimiter and
nothing in `rest`. -/
def RunsTo (delimiter run rest : List Char) : Prop :=
  (rest = [] ∨ delimiter <+: rest) ∧
    ∀ before after, run ++ rest = before ++ delimiter ++ after → run.length ≤ before.length

/-- One part of a tag. -/
inductive Piece where
  | blank (c : Char)
  | mark (s : Symbol)
  | reserved (s : Symbol)
  | identifier (w : List Char)
  /-- A reserved word with a `#` right in front of it. -/
  | keyword (s : Symbol)

namespace Piece

def chars : Piece → List Char
  | blank c => [c]
  | mark s => s.spelling.toList
  | reserved s => s.spelling.toList
  | identifier w => w
  | keyword s => '#' :: s.spelling.toList

/-- The tokens of a piece that starts at byte `pos`. -/
def tokens (pos : Nat) : Piece → List Token
  | blank _ => []
  | mark s => [⟨.symbol s, pos⟩]
  | reserved s => [⟨.symbol s, pos⟩]
  | identifier w => [⟨.identifier (String.ofList w), pos⟩]
  | keyword s => [⟨.symbol .hash, pos⟩, ⟨.symbol s, pos + 1⟩]

/-- Whether a piece may stand in front of `rest`. -/
def Stands (rest : List Char) : Piece → Prop
  | blank c => Unicode.isBlank c
  | mark s => s ∈ marks
  | reserved s => s.isWord ∧ EndsWord rest
  | identifier w =>
    IsWord w ∧ EndsWord rest ∧ ∀ s : Symbol, s.isWord → s.spelling.toList ≠ w
  | keyword s => s.isWord ∧ EndsWord rest

def charsOf : List Piece → List Char
  | [] => []
  | p :: more => p.chars ++ charsOf more

/-- The tokens of pieces that follow each other from byte `pos` on. -/
def tokensOf (pos : Nat) : List Piece → List Token
  | [] => []
  | p :: more => p.tokens pos ++ tokensOf (pos + byteLength p.chars) more

/-- Whether pieces may follow each other in front of `rest`. -/
def AllStand (rest : List Char) : List Piece → Prop
  | [] => True
  | p :: more => p.Stands (charsOf more ++ rest) ∧ AllStand rest more

end Piece

/-- A pair of opening braces. -/
def opening : List Char := ['{', '{']

/-- A pair of closing braces. -/
def closing : List Char := ['}', '}']

/-- One part of a source. -/
inductive Span where
  | text (run : List Char)
  | tag (pieces : List Piece)

namespace Span

def chars : Span → List Char
  | text run => run
  | tag pieces => opening ++ Piece.charsOf pieces ++ closing

/-- The tokens of a span that starts at byte `pos`. -/
def tokens (pos : Nat) : Span → List Token
  | text run => [⟨.text (String.ofList run), pos⟩]
  | tag pieces =>
    ⟨.symbol .openTag, pos⟩ :: Piece.tokensOf (pos + 2) pieces ++
      [⟨.symbol .closeTag, pos + 2 + byteLength (Piece.charsOf pieces)⟩]

/-- Whether a span may stand in front of `rest`. -/
def Stands (rest : List Char) : Span → Prop
  | text run => run ≠ [] ∧ RunsTo opening run rest
  | tag pieces =>
    Piece.AllStand (closing ++ rest) pieces ∧
      RunsTo closing (Piece.charsOf pieces) (closing ++ rest)

def charsOf : List Span → List Char
  | [] => []
  | x :: more => x.chars ++ charsOf more

/-- The tokens of spans that follow each other from byte `pos` on. -/
def tokensOf (pos : Nat) : List Span → List Token
  | [] => []
  | x :: more => x.tokens pos ++ tokensOf (pos + byteLength x.chars) more

/-- Whether spans may follow each other to the end of a source. -/
def AllStand : List Span → Prop
  | [] => True
  | x :: more => x.Stands (charsOf more) ∧ AllStand more

end Span

end Lexer

open Lexer

/-- Whether byte `p` of the source is one of those that the token spells. -/
def Token.Covers (t : Token) (p : Nat) : Prop :=
  t.position ≤ p ∧ p < t.position + byteLength t.lexeme.spelling.toList

/-- Whether byte `p` of `cs`, which starts at byte `pos`, is one of a blank character. -/
def BlankAt (pos : Nat) (cs : List Char) (p : Nat) : Prop :=
  ∃ before c after, cs = before ++ c :: after ∧ Unicode.isBlank c ∧
    pos + byteLength before ≤ p ∧ p < pos + byteLength before + c.utf8Size

/-- Whether byte `p` stands behind the opening of a tag that is not closed in front of `p`. -/
def InsideTag (ts : List Token) (p : Nat) : Prop :=
  ∃ before o after, ts = before ++ o :: after ∧ o.lexeme = .symbol .openTag ∧ o.position < p ∧
    ∀ t ∈ after, t.position < p → t.lexeme ≠ .symbol .closeTag

/-- `ts` are the tokens of `source`. -/
structure Segmentation (source : String) (ts : List Token) : Prop where
  /-- The source is a sequence of texts and tags; the tokens are theirs and the end of input. -/
  grammar : ∃ spans, Span.AllStand spans ∧ source.toList = Span.charsOf spans ∧
    ts = Span.tokensOf 0 spans ++ [⟨.endOfInput, source.utf8ByteSize⟩]
  /-- Each token starts behind the start of the one in front of it. -/
  increasing : ts.Pairwise (·.position < ·.position)
  /-- The source spells each token at the offset of the token. -/
  spelled : ∀ t ∈ ts, ∃ before after,
    source.toList = before ++ t.lexeme.spelling.toList ++ after ∧ byteLength before = t.position
  /-- No text is empty, and none holds a pair of opening braces. -/
  texts : ∀ t ∈ ts, ∀ s, t.lexeme = .text s → s ≠ "" ∧ ¬ opening <:+: s.toList
  /-- No two texts follow each other. -/
  separated : ∀ before a b after, ts = before ++ a :: b :: after →
    a.kind = .text → b.kind ≠ .text
  /-- A byte of no token is one of white space inside a tag. -/
  covered : ∀ p < source.utf8ByteSize,
    (∃ t ∈ ts, t.Covers p) ∨ BlankAt 0 source.toList p ∧ InsideTag ts p
  /-- The source is the tokens with white space in front of some of them. -/
  rebuilt : ∃ gaps : List (List Char × Token), gaps.map (·.2) = ts ∧
    (∀ g ∈ gaps, ∀ c ∈ g.1, Unicode.isBlank c) ∧
    source.toList = gaps.flatMap fun g => g.1 ++ g.2.lexeme.spelling.toList

end TextTemplate
