import TextTemplate.Token

/-!
# Why a list of tokens is no template

Reading stops at the first token that cannot go on. An `Expectation` names the place where that
token stands; the kind of token that belongs there and the wording follow from the place.
-/

namespace TextTemplate

/-- The two blocks that a closing tag ends. -/
inductive BlockKind where
  | ifBlock
  | eachBlock
deriving DecidableEq, Repr

namespace BlockKind

/-- The word that opens and closes the block. -/
def word : BlockKind → Symbol
  | ifBlock => .ifWord
  | eachBlock => .eachWord

end BlockKind

/-- A place where only one kind of token can stand. -/
inductive Expectation where
  | segment
  | expressionEnd
  | conditionEnd
  | elseEnd
  | itemsEnd
  | bindingStart
  | itemName
  | indexName
  | bindingEnd
  | eachEnd
  | closingWord (block : BlockKind)
  | tagEnd
  | computedNameEnd
  | includedName
  | partialName
  | pathSegment
  | parameterName
  | parameterEquals
  | pipeEnd
  | pipeName
deriving DecidableEq, Repr

namespace Expectation

/-- The kind of token that belongs to the place. -/
def kind : Expectation → TokenKind
  | segment => .symbol .openTag
  | expressionEnd | conditionEnd | elseEnd | eachEnd | tagEnd => .symbol .closeTag
  | itemsEnd => .symbol .asWord
  | bindingStart | bindingEnd => .symbol .pipe
  | closingWord block => .symbol block.word
  | computedNameEnd => .symbol .closeParen
  | parameterEquals => .symbol .equals
  | pipeEnd => .symbol .greaterThan
  | itemName | indexName | includedName | partialName | pathSegment | parameterName | pipeName =>
    .identifier

def message : Expectation → String
  | segment => "Expected '\x7b\x7b' or text."
  | expressionEnd => "Expected '\x7d\x7d' after expression."
  | conditionEnd => "Expected '\x7d\x7d' after if condition."
  | elseEnd => "Expected '\x7d\x7d' after else."
  | itemsEnd => "Expected 'as' in each block."
  | bindingStart => "Expected '|' after 'as'."
  | itemName => "Expected item name."
  | indexName => "Expected index name."
  | bindingEnd => "Expected '|' to close item binding."
  | eachEnd => "Expected '\x7d\x7d' to close each block."
  | closingWord _ => "Mismatched closing tag."
  | tagEnd => "Expected '\x7d\x7d'."
  | computedNameEnd => "Expected ')' after dynamic partial name."
  | includedName => "Expected a partial name or a dynamic expression."
  | partialName => "Expected a partial name."
  | pathSegment => "Expected identifier."
  | parameterName => "Expected parameter name."
  | parameterEquals => "Expected '=' after parameter name."
  | pipeEnd => "Expected '>' after '|'."
  | pipeName => "Expected pipe name."

end Expectation

/-- Why a list of tokens is no template. -/
inductive ParseError where
  /-- A token stands where another kind belongs. -/
  | expectedToken (expected : Expectation) (found : TokenKind) (position : Nat)
  /-- The token after a `#` opens neither a block nor an inclusion. -/
  | unknownBlockKeyword (found : TokenKind) (position : Nat)
  /-- The input ends while the block is open. -/
  | missingClosingTag (block : BlockKind) (position : Nat)
deriving DecidableEq, Repr

namespace ParseError

def position : ParseError → Nat
  | expectedToken _ _ p => p
  | unknownBlockKeyword _ p => p
  | missingClosingTag _ p => p

def message : ParseError → String
  | expectedToken expected found p =>
    expected.message ++ " (expected " ++ expected.kind.description ++ ", found " ++
      found.description ++ " at byte " ++ toString p ++ ")"
  | unknownBlockKeyword found p =>
    "Unknown block tag #" ++ found.description ++ " at byte " ++ toString p
  | missingClosingTag block p =>
    "Expected closing tag for " ++ block.word.spelling ++ " at byte " ++ toString p

end ParseError

end TextTemplate
