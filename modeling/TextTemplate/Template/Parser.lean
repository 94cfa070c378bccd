import TextTemplate.Template.Tag
import TextTemplate.Token.Lexer

/-!
# Reading templates

`Template.ofTokens?` reads a list of tokens up to its first `endOfInput`:

    Template  := Segment*
    Segment   := text
               | openTag Tag
               | openTag If Template (openTag else closeTag Template)? openTag '/' if closeTag
               | openTag Each Template openTag '/' each closeTag

where `If` and `Each` are the tags that open a block and `Tag` is any other. The blocks that are
still open form a stack, which holds for each the nodes in front of it, so that no reader calls
itself on a nested block. The first token that cannot go on refuses the list.
-/

namespace TextTemplate

namespace Parser

variable (finish : Nat)

/-- Reads the segments of `ts` inside the open blocks `stack`, innermost first; `before` holds the
nodes read so far in the innermost block, last first. -/
def template (stack : List Frame) (before : Template) (ts : List Token) :
    Except ParseError Template :=
  match ts with
  | [] =>
    match stack with
    | [] => .ok before.reverse
    | frame :: _ => .error (.missingClosingTag frame.block.kind finish)
  | ⟨.text s, _⟩ :: rest => template stack (.text s :: before) rest
  | ⟨.symbol .openTag, _⟩ :: rest =>
    match stack, rest with
    | ⟨.ifThen value, outside⟩ :: outer, ⟨.symbol .elseWord, _⟩ :: rest =>
      match _h : expect finish .elseEnd rest with
      | .error e => .error e
      | .ok rest => template (⟨.ifElse value before.reverse, outside⟩ :: outer) [] rest
    | frame :: outer, ⟨.symbol .slash, _⟩ :: rest =>
      match _h : closing finish frame.block.kind rest with
      | .error e => .error e
      | .ok rest => template outer (frame.block.close before.reverse :: frame.before) rest
    | stack, rest =>
      match _h : tag finish rest with
      | .error e => .error e
      | .ok (.node n, rest) => template stack (n :: before) rest
      | .ok (.block b, rest) => template (⟨b, before⟩ :: stack) [] rest
  | ts => .error (unexpected finish .segment ts)
termination_by ts.length
decreasing_by
  · simp
  · have := length_of_expect _h
    simp only [List.length_cons]
    omega
  · have := length_of_closing _h
    simp only [List.length_cons]
    omega
  all_goals
    have := length_of_tag _h
    simp only [List.length_cons]
    omega

end Parser

namespace Template

/-- Where the input of `ts` ends: at its first `endOfInput`, or else at its last token. -/
def endOf (ts : List Token) : Nat :=
  match ts.find? (·.lexeme = .endOfInput) with
  | some t => t.position
  | none => (ts.getLast?.map (·.position)).getD 0

/-- The template that a list of tokens spells. -/
def ofTokens? (ts : List Token) : Except ParseError Template :=
  Parser.template (endOf ts) [] [] (ts.takeWhile (·.lexeme ≠ .endOfInput))

end Template

/-- Why a source is no template. -/
inductive CompileError where
  | lexical (e : LexicalError)
  | parse (e : ParseError)
deriving DecidableEq, Repr

namespace CompileError

def position : CompileError → Nat
  | lexical e => e.position
  | parse e => e.position

def message : CompileError → String
  | lexical e => e.message
  | parse e => e.message

end CompileError

/-- The template that a source spells. -/
def Template.ofSource? (source : String) : Except CompileError Template :=
  match Token.ofSource? source with
  | .error e => .error (.lexical e)
  | .ok ts =>
    match Template.ofTokens? ts with
    | .error e => .error (.parse e)
    | .ok t => .ok t

end TextTemplate
