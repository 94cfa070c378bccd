import TextTemplate.Proofs.TagReading

/-!
# Reading a template is deriving it

`Template.ofTokens?` accepts what the grammar derives and nothing else, and it returns what is
derived (`Parser.template_eq_ok_iff`).

* What is read is derived: `Closes` says what the tokens ahead have to derive for the open blocks to
  become one template. It holds in front of a step of the reader if it holds behind it, whence the
  whole run (`closes_of_template`).
* What is derived is read: the nodes of a derivation end up in front of those read before, whatever
  blocks are open, by induction on the derivation (`template_of_segments`).
-/

namespace TextTemplate

namespace Parser

open Grammar

/-! ## What is read is derived -/

/-- The lexemes that end the open block, where `before` are its nodes so far, last first, and the
node that it becomes. -/
inductive Ends : OpenBlock → Template → List Lexeme → Node → Prop
  | close (block : OpenBlock) (before : Template) {v : List Lexeme} {body : Template} :
    Segments v body →
    Ends block before (v ++ closingTag block.kind) (block.close (before.reverse ++ body))
  | otherwise (condition : Accessor) (before : Template) {v w : List Lexeme}
      {body last : Template} :
    Segments v body → Segments w last →
    Ends (.ifThen condition) before (v ++ elseTag ++ w ++ closingTag .ifBlock)
      (.ifThenElse condition (before.reverse ++ body) last)

/-- The lexemes that end all open blocks, innermost first, and the rest of the template around
them. -/
def Closes : List Frame → Template → List Lexeme → Template → Prop
  | [], before, u, t => ∃ body, Segments u body ∧ t = before.reverse ++ body
  | frame :: outer, before, u, t =>
    ∃ v w n, u = v ++ w ∧ Ends frame.block before v n ∧ Closes outer (n :: frame.before) w t

/-- A node in front of the end of a block belongs to the block. -/
theorem Ends.push {block : OpenBlock} {before : Template} {u v : List Lexeme} {n m : Node}
    (hn : Segment u n) (h : Ends block (n :: before) v m) : Ends block before (u ++ v) m := by
  cases h with
  | close _ _ hv =>
    have := Ends.close block before (.cons hn hv)
    simpa only [List.reverse_cons, List.append_assoc, List.cons_append, List.nil_append] using this
  | otherwise a _ hv hw =>
    have := Ends.otherwise a before (.cons hn hv) hw
    simpa only [List.reverse_cons, List.append_assoc, List.cons_append, List.nil_append] using this

/-- A node goes to the innermost open block. -/
theorem Closes.push {stack : List Frame} {before : Template} {u w : List Lexeme} {n : Node}
    {t : Template} (hn : Segment u n) (h : Closes stack (n :: before) w t) :
    Closes stack before (u ++ w) t := by
  cases stack with
  | nil =>
    rcases h with ⟨body, hb, rfl⟩
    refine ⟨n :: body, .cons hn hb, ?_⟩
    rw [List.reverse_cons, List.append_assoc]
    rfl
  | cons frame outer =>
    rcases h with ⟨v, x, m, rfl, he, hc⟩
    exact ⟨u ++ v, x, m, (List.append_assoc ..).symm, he.push hn, hc⟩

/-- A tag that opens a block is, together with what ends the block, one node. -/
theorem Closes.opened {stack : List Frame} {before : Template} {block : OpenBlock}
    {u w : List Lexeme} {t : Template} (hb : IsTag u (.block block))
    (h : Closes (⟨block, before⟩ :: stack) [] w t) :
    Closes stack before (.symbol .openTag :: (u ++ w)) t := by
  rcases h with ⟨v, x, n, rfl, he, hc⟩
  have hn : Segment (.symbol .openTag :: (u ++ v)) n := by
    cases he with
    -- No tag opens a block at its `else`, and only a condition has one.
    | close _ _ hv =>
      rw [← List.append_assoc]
      cases block with
      | ifThen a => exact .ifThen hb hv
      | ifElse => exact hb.elim
      | each => exact .each hb hv
    | otherwise a _ hv hw =>
      simp only [← List.append_assoc]
      exact .ifThenElse hb hv hw
  simpa only [List.cons_append, List.append_assoc] using Closes.push hn hc

/-- An `else` splits the nodes of a condition. -/
theorem Closes.otherwise {outer : List Frame} {before outside : Template} {a : Accessor}
    {w : List Lexeme} {t : Template}
    (h : Closes (⟨.ifElse a before.reverse, outside⟩ :: outer) [] w t) :
    Closes (⟨.ifThen a, outside⟩ :: outer) before (elseTag ++ w) t := by
  rcases h with ⟨v, x, n, rfl, he, hc⟩
  cases he with
  | close _ _ hv =>
    refine ⟨_, x, _, ?_, .otherwise a before .nil hv, ?_⟩
    · simp only [List.append_assoc, List.nil_append]
      rfl
    · rw [List.append_nil]
      exact hc

/-- A closing tag ends the innermost open block. -/
theorem Closes.closed {frame : Frame} {outer : List Frame} {before : Template}
    {w : List Lexeme} {t : Template}
    (h : Closes outer (frame.block.close before.reverse :: frame.before) w t) :
    Closes (frame :: outer) before (closingTag frame.block.kind ++ w) t := by
  refine ⟨_, w, _, rfl, .close frame.block before .nil, ?_⟩
  rw [List.append_nil]
  exact h

variable {finish : Nat}

/-- What is read as the rest of a closing tag is the word of the block and closing braces. -/
theorem sound_closing {block : BlockKind} {ts rest : List Token}
    (h : closing finish block ts = .ok rest) :
    spelled ts = .symbol block.word :: .symbol .closeTag :: spelled rest := by
  simp only [closing, bind_eq_ok] at h
  rcases h with ⟨_, h₁, h₂⟩
  rw [sound_expect rfl h₁, sound_expect rfl h₂]

theorem complete_closing (finish : Nat) {block : BlockKind} {ts : List Token} {w : List Lexeme}
    (h : spelled ts = .symbol block.word :: .symbol .closeTag :: w) :
    ∃ rest, closing finish block ts = .ok rest ∧ spelled rest = w := by
  rcases complete_expect finish (e := .closingWord block) rfl h with ⟨ts₁, h₁, w₁⟩
  rcases complete_expect finish (e := .tagEnd) rfl w₁ with ⟨rest, h₂, hw⟩
  exact ⟨rest, bind_eq_ok.mpr ⟨_, h₁, h₂⟩, hw⟩

/-- A template is read off tokens that derive it. -/
theorem closes_of_template {stack : List Frame} {before : Template} {ts : List Token}
    {t : Template} (h : template finish stack before ts = .ok t) :
    Closes stack before (spelled ts) t := by
  -- The cases are the steps of the reader, in the order in which it tries them.
  fun_induction template finish stack before ts with
  | case1 before =>
    cases h
    exact ⟨[], .nil, (List.append_nil _).symm⟩
  | case2 => cases h
  | case3 stack before s _ rest ih => exact Closes.push (.text s) (ih h)
  | case4 => cases h
  | case5 before _ a outside outer _ _ rest he ih =>
    simp only [List.unattach_reverse, List.unattach_attach] at ih
    have hc := Closes.otherwise (ih h)
    rw [spelled_cons, spelled_cons, sound_expect rfl he]
    exact hc
  | case6 => cases h
  | case7 before _ frame outer _ _ rest he ih =>
    simp only [List.unattach_reverse, List.unattach_attach] at ih
    have hc := Closes.closed (ih h)
    rw [spelled_cons, spelled_cons, sound_closing he]
    exact hc
  | case8 => cases h
  | case9 before _ stack _ _ _ n rest ht ih =>
    rcases sound_tag ht with ⟨u, hu, hn⟩
    have hc := Closes.push (.simple hn) (ih h)
    rw [spelled_cons, hu]
    exact hc
  | case10 before _ stack _ _ _ b rest ht ih =>
    rcases sound_tag ht with ⟨u, hu, hb⟩
    have hc := Closes.opened hb (ih h)
    rw [spelled_cons, hu]
    exact hc
  | case11 => cases h

/-! ## What is derived is read -/

/-- How reading goes on behind a tag that belongs to the open block. -/
def behindTag (finish : Nat) (stack : List Frame) (before : Template) :
    Tag → List Token → Except ParseError Template
  | .node n, rest => template finish stack (n :: before) rest
  | .block b, rest => template finish (⟨b, before⟩ :: stack) [] rest

/-- One step at a tag that belongs to the open block. No such tag starts with `else` or `/`, so the
step is the same whatever block is open. -/
theorem template_of_tag (finish : Nat) (t : Tag) {stack : List Frame} {before : Template}
    {u : List Lexeme} (ht : IsTag u t) {ts : List Token} {w : List Lexeme}
    (h : spelled ts = .symbol .openTag :: (u ++ w)) :
    ∃ rest, template finish stack before ts = behindTag finish stack before t rest ∧
      spelled rest = w := by
  rcases exists_of_spelled h with ⟨_, tail, rfl, h₁⟩
  rcases complete_tag finish ht h₁ with ⟨rest, hr, hw⟩
  refine ⟨rest, ?_, hw⟩
  rw [template.eq_6]
  -- What is left are the result of the tag, and that neither `else` nor `/` is the front of it.
  · split
    · next h' => cases h'.symm.trans hr
    · next h' =>
      cases h'.symm.trans hr
      rfl
    · next h' =>
      cases h'.symm.trans hr
      rfl
  · rintro _ _ _ _ _ - rfl
    cases hr
  · rintro _ _ _ _ - rfl
    cases hr

/-- One step at an `else` inside a condition. -/
theorem template_of_elseTag (finish : Nat) {outer : List Frame} {before outside : Template}
    {a : Accessor} {ts : List Token} {w : List Lexeme} (h : spelled ts = elseTag ++ w) :
    ∃ rest, template finish (⟨.ifThen a, outside⟩ :: outer) before ts =
      template finish (⟨.ifElse a before.reverse, outside⟩ :: outer) [] rest ∧
      spelled rest = w := by
  rcases exists_of_spelled h with ⟨_, _, rfl, h₁⟩
  rcases exists_of_spelled h₁ with ⟨_, ts₂, rfl, h₂⟩
  rcases complete_expect finish (e := .elseEnd) rfl h₂ with ⟨rest, hr, hw⟩
  refine ⟨rest, ?_, hw⟩
  rw [template.eq_4]
  -- Of the two ways out the reader takes the one where the tag is complete.
  split
  · next h' => cases h'.symm.trans hr
  · next h' =>
    cases h'.symm.trans hr
    rfl

/-- One step at the closing tag of the innermost open block. -/
theorem template_of_closingTag (finish : Nat) (frame : Frame) {outer : List Frame}
    {before : Template} {ts : List Token} {w : List Lexeme}
    (h : spelled ts = closingTag frame.block.kind ++ w) :
    ∃ rest, template finish (frame :: outer) before ts =
      template finish outer (frame.block.close before.reverse :: frame.before) rest ∧
      spelled rest = w := by
  rcases exists_of_spelled h with ⟨_, _, rfl, h₁⟩
  rcases exists_of_spelled h₁ with ⟨_, ts₂, rfl, h₂⟩
  rcases complete_closing finish h₂ with ⟨rest, hr, hw⟩
  refine ⟨rest, ?_, hw⟩
  rw [template.eq_5]
  split
  · next h' => cases h'.symm.trans hr
  · next h' =>
    cases h'.symm.trans hr
    rfl

mutual

/-- Derived nodes are read in order, whatever blocks are open. -/
theorem template_of_segments (finish : Nat) {u : List Lexeme} {body : Template}
    (h : Segments u body) (stack : List Frame) (before : Template) (ts : List Token)
    (w : List Lexeme) (hs : spelled ts = u ++ w) :
    ∃ rest, template finish stack before ts = template finish stack (body.reverse ++ before) rest ∧
      spelled rest = w := by
  cases h with
  | nil => exact ⟨ts, rfl, hs⟩
  | cons hn hm =>
    rw [List.append_assoc] at hs
    rcases template_of_segment finish hn stack before ts _ hs with ⟨ts₁, h₁, w₁⟩
    rcases template_of_segments finish hm stack _ ts₁ w w₁ with ⟨rest, h₂, hw⟩
    refine ⟨rest, ?_, hw⟩
    rw [h₁, h₂, List.reverse_cons, List.append_assoc]
    rfl

/-- A derived node is read, whatever blocks are open. -/
theorem template_of_segment (finish : Nat) {u : List Lexeme} {n : Node} (h : Segment u n)
    (stack : List Frame) (before : Template) (ts : List Token) (w : List Lexeme)
    (hs : spelled ts = u ++ w) :
    ∃ rest, template finish stack before ts = template finish stack (n :: before) rest ∧
      spelled rest = w := by
  cases h with
  | text s =>
    rcases exists_of_spelled hs with ⟨p, rest, rfl, hw⟩
    exact ⟨rest, template.eq_3 .., hw⟩
  | simple hn => exact template_of_tag finish (.node n) hn hs
  | @ifThen _ _ a body ha hv =>
    let frame : Frame := ⟨.ifThen a, before⟩
    simp only [List.cons_append, List.append_assoc] at hs
    rcases template_of_tag finish (.block (.ifThen a)) ha hs with ⟨ts₁, h₁, w₁⟩
    rcases template_of_segments finish hv (frame :: stack) [] ts₁ _ w₁ with ⟨ts₂, h₂, w₂⟩
    rcases template_of_closingTag finish frame w₂ with ⟨rest, h₃, hw⟩
    refine ⟨rest, (h₁.trans h₂).trans (h₃.trans ?_), hw⟩
    rw [List.append_nil, List.reverse_reverse]
    rfl
  | @ifThenElse _ _ _ a body _ ha hv hx =>
    -- The block changes at the `else`: from there on it keeps the first body.
    let frame : Frame := ⟨.ifElse a (body.reverse ++ []).reverse, before⟩
    simp only [List.cons_append, List.append_assoc] at hs
    rcases template_of_tag finish (.block (.ifThen a)) ha hs with ⟨ts₁, h₁, w₁⟩
    rcases template_of_segments finish hv (⟨.ifThen a, before⟩ :: stack) [] ts₁ _ w₁ with
      ⟨ts₂, h₂, w₂⟩
    rcases template_of_elseTag finish w₂ with ⟨ts₃, h₃, w₃⟩
    rcases template_of_segments finish hx (frame :: stack) [] ts₃ _ w₃ with ⟨ts₄, h₄, w₄⟩
    rcases template_of_closingTag finish frame w₄ with ⟨rest, h₅, hw⟩
    refine ⟨rest, ((h₁.trans h₂).trans (h₃.trans h₄)).trans (h₅.trans ?_), hw⟩
    simp only [frame, List.append_nil, List.reverse_reverse]
    rfl
  | @each _ _ items item index body he hv =>
    let frame : Frame := ⟨.each items item index, before⟩
    simp only [List.cons_append, List.append_assoc] at hs
    rcases template_of_tag finish (.block (.each items item index)) he hs with ⟨ts₁, h₁, w₁⟩
    rcases template_of_segments finish hv (frame :: stack) [] ts₁ _ w₁ with ⟨ts₂, h₂, w₂⟩
    rcases template_of_closingTag finish frame w₂ with ⟨rest, h₃, hw⟩
    refine ⟨rest, (h₁.trans h₂).trans (h₃.trans ?_), hw⟩
    rw [List.append_nil, List.reverse_reverse]
    rfl

end

/-- Reading with nothing open is deriving. -/
theorem template_eq_ok_iff (finish : Nat) {ts : List Token} {t : Template} :
    template finish [] [] ts = .ok t ↔ Segments (spelled ts) t := by
  constructor
  · intro h
    rcases closes_of_template h with ⟨body, hb, rfl⟩
    exact hb
  · intro h
    rcases template_of_segments finish h [] [] ts [] (List.append_nil _).symm with ⟨rest, hr, hw⟩
    cases List.map_eq_nil_iff.mp hw
    rw [hr, template.eq_1, List.append_nil, List.reverse_reverse]

end Parser

/-- Lexemes derive at most one template. -/
theorem Grammar.Segments.unique {u : List Lexeme} {t₁ t₂ : Template} (h₁ : Segments u t₁)
    (h₂ : Segments u t₂) : t₁ = t₂ := by
  -- Any tokens with these lexemes are read as the one and as the other.
  rw [← Parser.spelled_map_zero u] at h₁ h₂
  have e₁ := (Parser.template_eq_ok_iff 0).mpr h₁
  have e₂ := (Parser.template_eq_ok_iff 0).mpr h₂
  exact Except.ok.inj (e₁.symm.trans e₂)

/-- The lexemes in front of the first `endOfInput`, or all of them without one. -/
def Token.lexemesToEnd (ts : List Token) : List Lexeme :=
  (ts.map (·.lexeme)).takeWhile (· ≠ .endOfInput)

/-- A list of tokens spells exactly the templates that its lexemes derive, and these derive at most
one. -/
theorem Template.ofTokens_ok_iff_segments (ts : List Token) :
    (∀ t, Template.ofTokens? ts = .ok t ↔ Grammar.Segments (Token.lexemesToEnd ts) t) ∧
    ∀ t₁ t₂, Grammar.Segments (Token.lexemesToEnd ts) t₁ →
      Grammar.Segments (Token.lexemesToEnd ts) t₂ → t₁ = t₂ := by
  constructor
  · intro t
    rw [Token.lexemesToEnd, List.takeWhile_map]
    exact Parser.template_eq_ok_iff _
  · intro t₁ t₂ h₁ h₂
    exact h₁.unique h₂

end TextTemplate
