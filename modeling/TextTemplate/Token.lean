/-!
# Tokens of a template source

A source alternates between literal text and tags, which stand between a pair of opening and a
pair of closing braces. A token is a lexeme with the byte offset at which it starts. Text and
identifiers carry their spelling; every other lexeme is a fixed `Symbol`.
-/

namespace TextTemplate

/-- The lexemes with one fixed spelling: the two delimiters, the six reserved words and the
punctuation of tags. -/
inductive Symbol where
  | openTag
  | closeTag
  | ifWord
  | eachWord
  | elseWord
  | asWord
  | withWord
  | partialWord
  | pipe
  | dot
  | slash
  | comma
  | equals
  | openParen
  | closeParen
  | greaterThan
  | hash
  | ampersand
deriving DecidableEq, Repr

namespace Symbol

/-- The characters that spell a symbol in a source. -/
def spelling : Symbol → String
  | openTag => "\x7b\x7b"
  | closeTag => "\x7d\x7d"
  | ifWord => "if"
  | eachWord => "each"
  | elseWord => "else"
  | asWord => "as"
  | withWord => "with"
  | partialWord => "partial"
  | pipe => "|"
  | dot => "."
  | slash => "/"
  | comma => ","
  | equals => "="
  | openParen => "("
  | closeParen => ")"
  | greaterThan => ">"
  | hash => "#"
  | ampersand => "&"

/-- The reserved words. -/
def isWord : Symbol → Bool
  | ifWord | eachWord | elseWord | asWord | withWord | partialWord => true
  | _ => false

/-- The words that may follow a `#`. -/
def opensTag : Symbol → Bool
  | ifWord | eachWord | partialWord => true
  | _ => false

/-- The reserved word spelled `w`. -/
def ofWord? (w : String) : Option Symbol :=
  [ifWord, eachWord, elseWord, asWord, withWord, partialWord].find? (·.spelling == w)

/-- The mark that one character spells on its own inside a tag. A `#` is not among them: it only
counts together with the word after it. -/
def ofPunctuation? : Char → Option Symbol
  | '|' => some pipe
  | '.' => some dot
  | '/' => some slash
  | ',' => some comma
  | '=' => some equals
  | '(' => some openParen
  | ')' => some closeParen
  | '>' => some greaterThan
  | '&' => some ampersand
  | _ => none

/-- How messages name a symbol: a word as it is, a mark between quotes. -/
def description (s : Symbol) : String :=
  if s.isWord then s.spelling else "'" ++ s.spelling ++ "'"

end Symbol

/-- What a token is, without the spelling of texts and identifiers. -/
inductive TokenKind where
  | text
  | identifier
  | symbol (s : Symbol)
  | endOfInput
deriving DecidableEq, Repr

/-- How messages name a kind of token. -/
def TokenKind.description : TokenKind → String
  | text => "text"
  | identifier => "identifier"
  | symbol s => s.description
  | endOfInput => "end of input"

/-- What a token is, with the spelling of texts and identifiers. -/
inductive Lexeme where
  | text (s : String)
  | identifier (s : String)
  | symbol (s : Symbol)
  | endOfInput
deriving DecidableEq, Repr

namespace Lexeme

def kind : Lexeme → TokenKind
  | text _ => .text
  | identifier _ => .identifier
  | symbol s => .symbol s
  | endOfInput => .endOfInput

/-- The characters that a lexeme covers in the source. -/
def spelling : Lexeme → String
  | text s => s
  | identifier s => s
  | symbol s => s.spelling
  | endOfInput => ""

end Lexeme

/-- A lexeme and the byte offset of its first character. -/
structure Token where
  lexeme : Lexeme
  position : Nat
deriving DecidableEq, Repr

def Token.kind (t : Token) : TokenKind := t.lexeme.kind

end TextTemplate
