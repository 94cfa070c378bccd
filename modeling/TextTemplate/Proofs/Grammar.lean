import TextTemplate.Template.Parser

/-!
# The grammar of templates

What lists of lexemes stand for, as relations that no reader takes part in:

    Segments  := Segment*
    Segment   := text
               | openTag Simple
               | openTag IfHead Segments (Else Segments)? Closing(if)
               | openTag EachHead Segments Closing(each)
    Simple    := '&'? Accessor closeTag
               | '>' (Name | '(' Accessor ')') closeTag
               | '#' partial Name (with Params)? closeTag
    IfHead    := '#' if Accessor closeTag
    EachHead  := '#' each Accessor as '|' name (',' name)? '|' closeTag
    Else      := openTag else closeTag
    Closing w := openTag '/' w closeTag
    Params    := Param (',' Param)*
    Param     := name '=' Accessor
    Name      := name Dotted
    Accessor  := name Dotted Piped
    Dotted    := ('.' name)*
    Piped     := ('|' '>' name)*

The offsets of tokens play no part in it.
-/

namespace TextTemplate.Grammar

/-- `('.' name)*` -/
inductive Dotted : List Lexeme → List String → Prop
  | nil : Dotted [] []
  | cons (s : String) {u : List Lexeme} {more : List String} :
    Dotted u more → Dotted (.symbol .dot :: .identifier s :: u) (s :: more)

/-- `('|' '>' name)*` -/
inductive Piped : List Lexeme → List String → Prop
  | nil : Piped [] []
  | cons (s : String) {u : List Lexeme} {more : List String} :
    Piped u more →
    Piped (.symbol .pipe :: .symbol .greaterThan :: .identifier s :: u) (s :: more)

/-- `name Dotted Piped` -/
inductive IsAccessor : List Lexeme → Accessor → Prop
  | intro (head : String) {u v : List Lexeme} {tail pipes : List String} :
    Dotted u tail → Piped v pipes → IsAccessor (.identifier head :: (u ++ v)) ⟨head, tail, pipes⟩

/-- `name Dotted`, where the name of a partial holds the points. -/
inductive Name : List Lexeme → String → Prop
  | intro (head : String) {u : List Lexeme} {tail : List String} :
    Dotted u tail → Name (.identifier head :: u) (".".intercalate (head :: tail))

/-- `name '=' Accessor` -/
inductive Param : List Lexeme → String × Accessor → Prop
  | intro (key : String) {u : List Lexeme} {a : Accessor} :
    IsAccessor u a → Param (.identifier key :: .symbol .equals :: u) (key, a)

/-- `Param (',' Param)*` -/
inductive Params : List Lexeme → List (String × Accessor) → Prop
  | one {u : List Lexeme} {p : String × Accessor} : Param u p → Params u [p]
  | cons {u v : List Lexeme} {p : String × Accessor} {more : List (String × Accessor)} :
    Param u p → Params v more → Params (u ++ .symbol .comma :: v) (p :: more)

/-- A tag that is a node of its own, after its opening braces. -/
inductive Simple : List Lexeme → Node → Prop
  | escaped {u : List Lexeme} {a : Accessor} :
    IsAccessor u a → Simple (u ++ [.symbol .closeTag]) (.interpolation a true)
  | raw {u : List Lexeme} {a : Accessor} :
    IsAccessor u a →
    Simple (.symbol .ampersand :: (u ++ [.symbol .closeTag])) (.interpolation a false)
  | fixed {u : List Lexeme} {name : String} :
    Name u name →
    Simple (.symbol .greaterThan :: (u ++ [.symbol .closeTag])) (.inclusion (.fixed name) none)
  | computed {u : List Lexeme} {a : Accessor} :
    IsAccessor u a →
    Simple (.symbol .greaterThan :: .symbol .openParen ::
      (u ++ [.symbol .closeParen, .symbol .closeTag])) (.inclusion (.computed a) none)
  | bare {u : List Lexeme} {name : String} :
    Name u name →
    Simple (.symbol .hash :: .symbol .partialWord :: (u ++ [.symbol .closeTag]))
      (.inclusion (.fixed name) none)
  | withParams {u v : List Lexeme} {name : String} {params : List (String × Accessor)} :
    Name u name → Params v params →
    Simple (.symbol .hash :: .symbol .partialWord ::
      (u ++ .symbol .withWord :: (v ++ [.symbol .closeTag])))
      (.inclusion (.fixed name) (some params))

/-- `'#' if Accessor closeTag` -/
inductive IfHead : List Lexeme → Accessor → Prop
  | intro {u : List Lexeme} {a : Accessor} :
    IsAccessor u a → IfHead (.symbol .hash :: .symbol .ifWord :: (u ++ [.symbol .closeTag])) a

/-- `(',' name)?` -/
inductive Index : List Lexeme → Option String → Prop
  | none : Index [] none
  | some (s : String) : Index [.symbol .comma, .identifier s] (some s)

/-- `'#' each Accessor as '|' name (',' name)? '|' closeTag` -/
inductive EachHead : List Lexeme → Accessor → String → Option String → Prop
  | intro (item : String) {u v : List Lexeme} {items : Accessor} {index : Option String} :
    IsAccessor u items → Index v index →
    EachHead (.symbol .hash :: .symbol .eachWord :: (u ++ .symbol .asWord :: .symbol .pipe ::
      .identifier item :: (v ++ [.symbol .pipe, .symbol .closeTag]))) items item index

/-- The tag between the two bodies of a condition. -/
def elseTag : List Lexeme := [.symbol .openTag, .symbol .elseWord, .symbol .closeTag]

/-- The tag that closes a block. -/
def closingTag (block : BlockKind) : List Lexeme :=
  [.symbol .openTag, .symbol .slash, .symbol block.word, .symbol .closeTag]

mutual

/-- The nodes that lexemes stand for. -/
inductive Segments : List Lexeme → Template → Prop
  | nil : Segments [] []
  | cons {u v : List Lexeme} {n : Node} {more : Template} :
    Segment u n → Segments v more → Segments (u ++ v) (n :: more)

/-- The node that lexemes stand for. -/
inductive Segment : List Lexeme → Node → Prop
  | text (s : String) : Segment [.text s] (.text s)
  | simple {u : List Lexeme} {n : Node} : Simple u n → Segment (.symbol .openTag :: u) n
  | ifThen {u v : List Lexeme} {a : Accessor} {body : Template} :
    IfHead u a → Segments v body →
    Segment (.symbol .openTag :: (u ++ v ++ closingTag .ifBlock)) (.ifThen a body)
  | ifThenElse {u v w : List Lexeme} {a : Accessor} {body otherwise : Template} :
    IfHead u a → Segments v body → Segments w otherwise →
    Segment (.symbol .openTag :: (u ++ v ++ elseTag ++ w ++ closingTag .ifBlock))
      (.ifThenElse a body otherwise)
  | each {u v : List Lexeme} {items : Accessor} {item : String} {index : Option String}
      {body : Template} :
    EachHead u items item index → Segments v body →
    Segment (.symbol .openTag :: (u ++ v ++ closingTag .eachBlock))
      (.each items item index body)

end

end TextTemplate.Grammar
