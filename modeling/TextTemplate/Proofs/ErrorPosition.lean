import Mathlib
import TextTemplate.Proofs.Steps

/-!
# Where a list of tokens is refused

Reading stops at the first token that no template goes on with
(`Template.ofTokens_error_at_first_impossible`). `Holds` says which lexemes have led to the open
blocks and their nodes. It is kept by every step of the reader, and it suffices for both halves of
the result: open blocks can always be closed (`Holds.completion`), and what is open when the tokens
run out is what the lexemes leave open (`Holds.unclosed`).
-/

namespace TextTemplate

namespace Grammar

/-- Lexemes that end between two segments, and the blocks that they leave open, innermost first. -/
inductive Unclosed : List Lexeme → List BlockKind → Prop
  | nothing {u : List Lexeme} {t : Template} : Segments u t → Unclosed u []
  | ifThen {u h v : List Lexeme} {blocks : List BlockKind} {a : Accessor} {body : Template} :
    Unclosed u blocks → IfHead h a → Segments v body →
    Unclosed (u ++ .symbol .openTag :: (h ++ v)) (.ifBlock :: blocks)
  | otherwise {u h v w : List Lexeme} {blocks : List BlockKind} {a : Accessor}
      {body last : Template} :
    Unclosed u blocks → IfHead h a → Segments v body → Segments w last →
    Unclosed (u ++ .symbol .openTag :: (h ++ v ++ elseTag ++ w)) (.ifBlock :: blocks)
  | each {u h v : List Lexeme} {blocks : List BlockKind} {items : Accessor} {item : String}
      {index : Option String} {body : Template} :
    Unclosed u blocks → EachHead h items item index → Segments v body →
    Unclosed (u ++ .symbol .openTag :: (h ++ v)) (.eachBlock :: blocks)

/-- The spelling of a further node goes behind those of the others. -/
theorem Segments.snoc {u v : List Lexeme} {t : Template} {n : Node} (h : Segments u t)
    (hn : Segment v n) : Segments (u ++ v) (t ++ [n]) := by
  cases h with
  | nil =>
    have one := Segments.cons hn .nil
    rwa [List.append_nil] at one
  | cons head more =>
    rw [List.append_assoc]
    exact .cons head (more.snoc hn)

end Grammar

namespace Parser

open Grammar

/-! ## What has led to the open blocks -/

/-- The lexemes that open a block, up to the nodes that are being read. -/
def Heads : OpenBlock → List Lexeme → Prop
  | .ifThen a, h => IfHead h a
  | .ifElse a body, h => ∃ h' v, h = h' ++ v ++ elseTag ∧ IfHead h' a ∧ Segments v body
  | .each items item index, h => EachHead h items item index

/-- The lexemes spell the open blocks, innermost first, and the nodes in them, last first. -/
def Holds : List Frame → Template → List Lexeme → Prop
  | [], before, w => Segments w before.reverse
  | frame :: outer, before, w => ∃ u h v, w = u ++ .symbol .openTag :: (h ++ v) ∧
    Holds outer frame.before u ∧ Heads frame.block h ∧ Segments v before.reverse

variable {stack : List Frame} {before : Template} {w : List Lexeme}

/-- What has been read grows by a node and its spelling. -/
theorem Holds.push {u : List Lexeme} {n : Node} (h : Holds stack before w) (hn : Segment u n) :
    Holds stack (n :: before) (w ++ u) := by
  cases stack with
  | nil =>
    have more := Segments.snoc h hn
    rwa [← List.reverse_cons] at more
  | cons frame outer =>
    obtain ⟨w₀, head, v, rfl, holds, opens, body⟩ := h
    refine ⟨w₀, head, v ++ u, ?_, holds, opens, ?_⟩
    · simp only [List.append_assoc, List.cons_append]
    · rw [List.reverse_cons]
      exact body.snoc hn

/-- What opens a block, its body and its closing tag are a segment. -/
theorem segment_of_heads {block : OpenBlock} {h v : List Lexeme} {body : Template}
    (opens : Heads block h) (inside : Segments v body) :
    Segment (.symbol .openTag :: (h ++ v ++ closingTag block.kind)) (block.close body) := by
  cases block with
  | ifThen a => exact .ifThen opens inside
  | ifElse a first =>
    obtain ⟨h', v', rfl, opens, derived⟩ := opens
    exact .ifThenElse opens derived inside
  | each items item index => exact .each opens inside

/-- A step of the reader keeps what has led to the open blocks. -/
theorem Holds.moves {s s' : State} {u : List Lexeme} (h : Holds s.1 s.2 w) (moves : Moves s u s') :
    Holds s'.1 s'.2 (w ++ u) := by
  -- A move appends a node, opens a block behind what is held, turns it to its other branch, or
  -- closes it.
  cases moves with
  | text s t => exact h.push (.text t)
  | @tag s u t derived =>
    cases t with
    | node n => exact h.push (.simple derived)
    | block b =>
      refine ⟨w, u, [], by rw [List.append_nil], h, ?_, .nil⟩
      cases b with
      | ifElse => exact derived.elim
      | ifThen => exact derived
      | each => exact derived
  | otherwise a outside outer before =>
    obtain ⟨w₀, head, v, rfl, holds, opens, body⟩ := h
    refine ⟨w₀, head ++ v ++ elseTag, [], ?_, holds, ⟨head, v, rfl, opens, body⟩, .nil⟩
    simp only [List.append_assoc, List.cons_append, List.append_nil]
  | close frame outer before =>
    obtain ⟨w₀, head, v, rfl, holds, opens, body⟩ := h
    -- The block is complete, and a node of what is outside.
    have closed := holds.push (segment_of_heads opens body)
    rw [List.append_assoc]
    exact closed

/-- Open blocks can be closed. -/
theorem Holds.completion (h : Holds stack before w) : ∃ c t, Segments (w ++ c) t := by
  induction stack generalizing before w with
  | nil => exact ⟨[], _, by rw [List.append_nil]; exact h⟩
  | cons frame outer ih =>
    have closed : Holds outer _ (w ++ closingTag frame.block.kind) :=
      Holds.moves (s := (frame :: outer, before)) h (.close frame outer before)
    obtain ⟨c, t, derived⟩ := ih closed
    rw [List.append_assoc] at derived
    exact ⟨_, t, derived⟩

/-- The open blocks are those that the lexemes leave open. -/
theorem Holds.unclosed (h : Holds stack before w) : Unclosed w (stack.map (·.block.kind)) := by
  induction stack generalizing before w with
  | nil => exact .nothing h
  | cons frame outer ih =>
    obtain ⟨block, outside⟩ := frame
    obtain ⟨w₀, head, v, rfl, holds, opens, body⟩ := h
    cases block with
    | ifThen a => exact .ifThen (ih holds) opens body
    | ifElse a first =>
      obtain ⟨h', v', rfl, opens, derived⟩ := opens
      exact .otherwise (ih holds) opens derived body
    | each items item index => exact .each (ih holds) opens body

/-! ## Runs of the reader -/

variable {finish : Nat} {ts : List Token}

/-- Without tokens left the reader misses a segment, or the end of the input. -/
theorem step_nil (s : State) : step s finish [] = .error (unexpected finish .segment []) := by
  cases s
  rfl

/-- The reader of templates stops in front of the first token that no template goes on with. -/
theorem template_refuses {s : State} {w : List Lexeme} {ts : List Token} {e : ParseError}
    (holds : Holds s.1 s.2 w) (h : template finish s.1 s.2 ts = .error e) :
    ∃ u rest, ts = u ++ rest ∧
      (∃ c t, Segments (w ++ spelled u ++ c) t) ∧
      (∀ finish' rest', front rest' = front rest →
        ∃ e', template finish' s.1 s.2 (u ++ rest') = .error e') ∧
      (e.IsAbout (next finish rest) ∨ rest = [] ∧ ∃ block outer,
        Unclosed (w ++ spelled u) (block :: outer) ∧ e = .missingClosingTag block finish) := by
  induction s, ts using run_induction finish generalizing w with
  | ended s =>
    -- The tokens run out between two segments, inside an open block.
    obtain ⟨stack, before⟩ := s
    rw [template_nil] at h
    cases stack with
    | nil => cases h
    | cons frame outer =>
      cases h
      refine ⟨[], [], rfl, ?_, ?_, .inr ⟨rfl, frame.block.kind, outer.map (·.block.kind), ?_, rfl⟩⟩
      · have complete := holds.completion
        rwa [spelled, List.map_nil, List.append_nil]
      · intro finish' rest' same
        cases rest' with
        | nil => exact ⟨_, template_nil (frame :: outer, before)⟩
        | cons t rest' => cases same
      · have unclosed := holds.unclosed
        rwa [spelled, List.map_nil, List.append_nil]
  | refused s ts e' more read =>
    rw [template_eq_step s more, read] at h
    cases h
    obtain ⟨u, rest, rfl, about, ⟨c, s', moves⟩, again⟩ := (reads_step s).refuses e read
    refine ⟨u, rest, rfl, ?_, ?_, .inl about⟩
    · obtain ⟨c', t, derived⟩ := (holds.moves moves).completion
      refine ⟨c ++ c', t, ?_⟩
      simp only [List.append_assoc] at derived ⊢
      exact derived
    · intro finish' rest' same
      obtain ⟨e', failed⟩ := again finish' rest' same
      refine ⟨e', ?_⟩
      rw [template_eq_step s ?_, failed]
      · rfl
      · intro empty
        obtain ⟨rfl, rfl⟩ := List.append_eq_nil_iff.1 empty
        cases rest with
        | nil => exact more rfl
        | cons t rest => cases same
  | stepped s ts s' behind more read ih =>
    rw [template_eq_step s more, read] at h
    obtain ⟨u, rfl, moves, again⟩ := (reads_step s).takes s' behind read
    obtain ⟨v, rest, rfl, viable, refused, reason⟩ := ih (holds.moves moves) h
    refine ⟨u ++ v, rest, ?_, ?_, ?_, ?_⟩
    · rw [List.append_assoc]
    · rw [spelled_append, ← List.append_assoc]
      exact viable
    · intro finish' rest' same
      obtain ⟨e', failed⟩ := refused finish' rest' same
      have stepped := again finish' (v ++ rest') (front_append_congr same)
      refine ⟨e', ?_⟩
      rw [List.append_assoc, template_eq_step s ?_, stepped]
      · exact failed
      · intro empty
        rw [empty, step_nil] at stepped
        cases stepped
    · rw [spelled_append, ← List.append_assoc]
      exact reason

/-- What the lexemes leave open is open when the reader comes to their end. -/
theorem template_of_unclosed (finish : Nat) {u : List Lexeme} {blocks : List BlockKind}
    (h : Unclosed u blocks) (ts : List Token) (w : List Lexeme) (hs : spelled ts = u ++ w) :
    ∃ (s : State) (rest : List Token), s.1.map (·.block.kind) = blocks ∧
      template finish [] [] ts = template finish s.1 s.2 rest ∧ spelled rest = w := by
  -- By induction on the blocks that are open: the outer ones are read first, then the head of the
  -- innermost one, and then its body so far.
  induction h generalizing ts w with
  | nothing derived =>
    obtain ⟨rest, read, left⟩ := template_of_segments finish derived [] [] ts w hs
    exact ⟨([], _), rest, rfl, read, left⟩
  | @ifThen u h v blocks a body _ opens inside ih =>
    simp only [List.append_assoc, List.cons_append] at hs
    obtain ⟨s, ts₁, kinds, h₁, w₁⟩ := ih ts _ hs
    obtain ⟨ts₂, h₂, w₂⟩ := template_of_tag finish (.block (.ifThen a)) opens w₁
    obtain ⟨rest, h₃, left⟩ := template_of_segments finish inside _ _ ts₂ w w₂
    refine ⟨(⟨.ifThen a, s.2⟩ :: s.1, _), rest, ?_, h₁.trans (h₂.trans h₃), left⟩
    exact congrArg (BlockKind.ifBlock :: ·) kinds
  | @otherwise u h v w' blocks a body last _ opens inside inside' ih =>
    simp only [List.append_assoc, List.cons_append] at hs
    obtain ⟨s, ts₁, kinds, h₁, w₁⟩ := ih ts _ hs
    obtain ⟨ts₂, h₂, w₂⟩ := template_of_tag finish (.block (.ifThen a)) opens w₁
    obtain ⟨ts₃, h₃, w₃⟩ := template_of_segments finish inside _ _ ts₂ _ w₂
    obtain ⟨ts₄, h₄, w₄⟩ := template_of_elseTag finish w₃
    obtain ⟨rest, h₅, left⟩ := template_of_segments finish inside' _ _ ts₄ w w₄
    refine ⟨(⟨.ifElse a _, s.2⟩ :: s.1, _), rest, ?_,
      h₁.trans (h₂.trans (h₃.trans (h₄.trans h₅))), left⟩
    exact congrArg (BlockKind.ifBlock :: ·) kinds
  | @each u h v blocks items item index body _ opens inside ih =>
    simp only [List.append_assoc, List.cons_append] at hs
    obtain ⟨s, ts₁, kinds, h₁, w₁⟩ := ih ts _ hs
    obtain ⟨ts₂, h₂, w₂⟩ := template_of_tag finish (.block (.each items item index)) opens w₁
    obtain ⟨rest, h₃, left⟩ := template_of_segments finish inside _ _ ts₂ w w₂
    refine ⟨(⟨.each items item index, s.2⟩ :: s.1, _), rest, ?_, h₁.trans (h₂.trans h₃), left⟩
    exact congrArg (BlockKind.eachBlock :: ·) kinds

/-- Tokens that leave a block open are refused for it. -/
theorem template_of_unclosed_cons {block : BlockKind} {outer : List BlockKind}
    (h : Unclosed (spelled ts) (block :: outer)) :
    template finish [] [] ts = .error (.missingClosingTag block finish) := by
  obtain ⟨s, rest, kinds, read, left⟩ :=
    template_of_unclosed finish h ts [] (List.append_nil _).symm
  cases List.map_eq_nil_iff.mp left
  rw [read, template_nil]
  obtain ⟨stack, before⟩ := s
  cases stack with
  | nil => cases kinds
  | cons frame stack =>
    cases kinds
    rfl

end Parser

/-! ## The end of input is derived by nothing -/

namespace Grammar

variable {u : List Lexeme}

theorem Dotted.no_end {more : List String} (h : Dotted u more) : .endOfInput ∉ u := by
  induction h with
  | nil => exact List.not_mem_nil
  | cons s _ ih => simpa using ih

theorem Piped.no_end {more : List String} (h : Piped u more) : .endOfInput ∉ u := by
  induction h with
  | nil => exact List.not_mem_nil
  | cons s _ ih => simpa using ih

theorem IsAccessor.no_end {a : Accessor} (h : IsAccessor u a) : .endOfInput ∉ u := by
  cases h with
  | intro head path pipes => simpa using ⟨path.no_end, pipes.no_end⟩

theorem Name.no_end {x : String} (h : Name u x) : .endOfInput ∉ u := by
  cases h with
  | intro head path => simpa using path.no_end

theorem Param.no_end {x : String × Accessor} (h : Param u x) : .endOfInput ∉ u := by
  cases h with
  | intro key value => simpa using value.no_end

theorem Params.no_end {xs : List (String × Accessor)} (h : Params u xs) : .endOfInput ∉ u := by
  induction h with
  | one x => exact x.no_end
  | cons x _ ih => simpa using ⟨x.no_end, ih⟩

theorem Simple.no_end {n : Node} (h : Simple u n) : .endOfInput ∉ u := by
  cases h with
  | escaped a => simpa using a.no_end
  | raw a => simpa using a.no_end
  | fixed x => simpa using x.no_end
  | computed a => simpa using a.no_end
  | bare x => simpa using x.no_end
  | withParams x xs => simpa using ⟨x.no_end, xs.no_end⟩

theorem IfHead.no_end {a : Accessor} (h : IfHead u a) : .endOfInput ∉ u := by
  cases h with
  | intro a => simpa using a.no_end

theorem Index.no_end {index : Option String} (h : Index u index) : .endOfInput ∉ u := by
  cases h <;> simp

theorem EachHead.no_end {items : Accessor} {item : String} {index : Option String}
    (h : EachHead u items item index) : .endOfInput ∉ u := by
  cases h with
  | intro item items index => simpa using ⟨items.no_end, index.no_end⟩

mutual

theorem Segments.no_end {u : List Lexeme} {t : Template} (h : Segments u t) :
    .endOfInput ∉ u := by
  cases h with
  | nil => exact List.not_mem_nil
  | cons n more => simpa using ⟨n.no_end, more.no_end⟩

/-- No part of the grammar is spelled with the end of the input. -/
theorem Segment.no_end {u : List Lexeme} {n : Node} (h : Segment u n) : .endOfInput ∉ u := by
  cases h with
  | text s => simp
  | simple n => simpa using n.no_end
  | ifThen opens body => simpa [closingTag] using ⟨opens.no_end, body.no_end⟩
  | ifThenElse opens body last =>
    simpa [closingTag, elseTag] using ⟨opens.no_end, body.no_end, last.no_end⟩
  | each opens body => simpa [closingTag] using ⟨opens.no_end, body.no_end⟩

end

end Grammar

/-! ## The position of the error -/

/-- The token at an index; past the list, the end of input where the last token stands. -/
def Token.nth (ts : List Token) (k : Nat) : Token :=
  ts.getD k ⟨.endOfInput, (ts.getLast?.map (·.position)).getD 0⟩

/-- The kind of token that the error has found. -/
def ParseError.found? : ParseError → Option TokenKind
  | expectedToken _ found _ => some found
  | unknownBlockKeyword found _ => some found
  | missingClosingTag _ _ => none

/-- An error about a token stands at the position of the token. -/
theorem ParseError.IsAbout.position_eq {e : ParseError} {k : TokenKind × Nat} (h : e.IsAbout k) :
    e.position = k.2 := by
  cases e with
  | expectedToken => exact congrArg Prod.snd h
  | unknownBlockKeyword => exact congrArg Prod.snd h
  | missingClosingTag => exact h.elim

theorem ParseError.IsAbout.found_eq {e : ParseError} {k : TokenKind × Nat} (h : e.IsAbout k) :
    e.found? = some k.1 := by
  cases e with
  | expectedToken => exact congrArg (some ·.1) h
  | unknownBlockKeyword => exact congrArg (some ·.1) h
  | missingClosingTag => exact h.elim

namespace Parser

/-- Tokens that do not hold the end of input are read to their end. -/
theorem takeWhile_eq_self {ts : List Token} (h : .endOfInput ∉ spelled ts) :
    ts.takeWhile (·.lexeme ≠ .endOfInput) = ts := by
  have inside : ∀ t ∈ ts, decide (t.lexeme ≠ .endOfInput) = true := by
    intro t mem
    exact decide_eq_true fun same => h (List.mem_map.2 ⟨t, mem, same⟩)
  exact List.takeWhile_eq_self_iff.2 inside

/-- What the reader of a list has in front of it behind `u`. -/
theorem exists_behind {ts u : List Token} (starts : ts.take u.length = u)
    (inside : ∀ t ∈ u, t.lexeme ≠ .endOfInput) :
    ∃ rest, ts.takeWhile (·.lexeme ≠ .endOfInput) = u ++ rest ∧
      next (Template.endOf ts) rest =
        ((Token.nth ts u.length).kind, (Token.nth ts u.length).position) ∧
      (front rest).getD .endOfInput = (Token.nth ts u.length).lexeme ∧
      front rest ≠ some .endOfInput := by
  have split := List.take_append_drop u.length ts
  rw [starts] at split
  obtain ⟨more, rfl⟩ : ∃ more, ts = u ++ more := ⟨_, split.symm⟩
  have clean : ∀ t ∈ u, decide (t.lexeme ≠ .endOfInput) = true := by simpa using inside
  have nowhere : u.find? (·.lexeme = .endOfInput) = none := by simpa using inside
  refine ⟨_, List.takeWhile_append_of_pos clean, ?_⟩
  -- Behind the front the end of the input may be missing, come next, or be further on.
  cases more with
  | nil => simp [Token.nth, Template.endOf, nowhere, next, front, Token.kind, Lexeme.kind]
  | cons t more =>
    by_cases ends : t.lexeme = .endOfInput
    · simp [Token.nth, Template.endOf, nowhere, ends, next, front, Token.kind, Lexeme.kind]
    · simp [Token.nth, ends, next, front]

end Parser

/-- The error names the token at the index, or the end of input, as the first that no template goes
on with. -/
structure ParseError.SitsAt (e : ParseError) (ts : List Token) (k : Nat) : Prop where
  le_length : k ≤ ts.length
  position : e.position = (Token.nth ts k).position
  found : ∀ kind, e.found? = some kind → kind = (Token.nth ts k).kind
  /-- What stands before the token starts a template. -/
  viable : ∃ more t, Template.ofTokens? (ts.take k ++ more) = .ok t
  /-- What stands up to the token starts none. -/
  impossible : ∀ others, others.take k = ts.take k →
    (Token.nth others k).lexeme = (Token.nth ts k).lexeme →
    ∀ t, Template.ofTokens? others ≠ .ok t
  /-- A closing tag is missing if the input ends between two segments of the block, and not else. -/
  missing : ∀ block, (∃ p, e = .missingClosingTag block p) ↔
    (Token.nth ts k).lexeme = .endOfInput ∧
    ∃ outer, Grammar.Unclosed (Parser.spelled (ts.take k)) (block :: outer)

/-- **Errors sit at the first impossible token.** A list of tokens that spells no template has a
first token, or an end, with which no template goes on, though one would have gone on before it, and
the error is about that one. -/
theorem Template.ofTokens_error_at_first_impossible {ts : List Token} {e : ParseError}
    (h : Template.ofTokens? ts = .error e) : ∃ k, e.SitsAt ts k := by
  obtain ⟨u, rest, split, ⟨c, t, derived⟩, refused, reason⟩ :=
    Parser.template_refuses (s := ([], [])) Grammar.Segments.nil h
  rw [List.nil_append] at derived reason
  have before : u <+: ts := by
    have cut := List.takeWhile_prefix (l := ts) (·.lexeme ≠ .endOfInput)
    rw [split] at cut
    exact (List.prefix_append u rest).trans cut
  have starts : ts.take u.length = u := (List.prefix_iff_eq_take.1 before).symm
  have derives := derived.no_end
  have inside : ∀ t ∈ u, t.lexeme ≠ .endOfInput := by
    intro t mem same
    exact derives (List.mem_append_left _ (List.mem_map.2 ⟨t, mem, same⟩))
  obtain ⟨_, split', stands, lexeme, proper⟩ := Parser.exists_behind starts inside
  cases List.append_cancel_left (split.symm.trans split')
  refine ⟨u.length, ?_⟩
  constructor
  case le_length => exact before.length_le
  case position =>
    rcases reason with about | ⟨rfl, block, outer, _, rfl⟩
    · rw [about.position_eq, stands]
    · exact congrArg Prod.snd stands
  case found =>
    intro kind found
    rcases reason with about | ⟨rfl, block, outer, _, rfl⟩
    · rw [about.found_eq, stands] at found
      exact (Option.some.inj found).symm
    · cases found
  case viable =>
    -- What is missing of a template may stand anywhere: positions play no part in it.
    have lexemes : Parser.spelled (u ++ c.map (⟨·, 0⟩)) = Parser.spelled u ++ c := by
      rw [Parser.spelled_append, Parser.spelled_map_zero]
    refine ⟨c.map (⟨·, 0⟩), t, (Parser.template_eq_ok_iff _).2 ?_⟩
    rw [starts, Parser.takeWhile_eq_self (by rwa [lexemes]), lexemes]
    exact derived
  case impossible =>
    intro others same alike t ok
    rw [starts] at same
    obtain ⟨rest', cut, _, lexeme', proper'⟩ := Parser.exists_behind same inside
    have fronts : Parser.front rest' = Parser.front rest := by
      rw [← lexeme', ← lexeme] at alike
      cases first : Parser.front rest <;> cases first' : Parser.front rest' <;> simp_all
    obtain ⟨e', failed⟩ := refused (Template.endOf others) rest' fronts
    rw [← cut] at failed
    cases failed.symm.trans ok
  case missing =>
    intro block
    rw [starts]
    constructor
    · rintro ⟨p, rfl⟩
      rcases reason with about | ⟨rfl, block', outer, unclosed, same⟩
      · exact about.elim
      · cases same
        exact ⟨lexeme.symm, outer, unclosed⟩
    · rintro ⟨ends, outer, unclosed⟩
      have ended : rest = [] := by
        cases rest with
        | nil => rfl
        | cons t rest => exact absurd (congrArg some (lexeme.trans ends)) proper
      subst ended
      rw [List.append_nil] at split
      rw [← split] at unclosed
      refine ⟨Template.endOf ts, ?_⟩
      exact Except.error.inj (h.symm.trans (Parser.template_of_unclosed_cons unclosed))

/-- The text of a condition is followed by the end of a loop: refused is the word of the loop, as
the slash in front of it could have closed the condition. -/
theorem ofTokens_error_at_closing_word :
    let ts : List Token := [⟨.symbol .openTag, 0⟩, ⟨.symbol .hash, 2⟩, ⟨.symbol .ifWord, 3⟩,
      ⟨.identifier "a", 6⟩, ⟨.symbol .closeTag, 7⟩, ⟨.text "b", 9⟩, ⟨.symbol .openTag, 10⟩,
      ⟨.symbol .slash, 12⟩, ⟨.symbol .eachWord, 13⟩, ⟨.symbol .closeTag, 17⟩, ⟨.endOfInput, 19⟩]
    let e : ParseError := .expectedToken (.closingWord .ifBlock) (.symbol .eachWord) 13
    Template.ofTokens? ts = .error e ∧ ∃ k, e.SitsAt ts k := by
  intro ts e
  have refused : Template.ofTokens? ts = .error e := by cbv
  exact ⟨refused, Template.ofTokens_error_at_first_impossible refused⟩

end TextTemplate
