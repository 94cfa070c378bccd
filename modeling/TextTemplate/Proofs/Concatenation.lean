import Mathlib
import TextTemplate.Proofs.Coherence
import TextTemplate.Proofs.Continuation
import TextTemplate.Proofs.Provenance
import TextTemplate.Proofs.Seam

/-!
# Sources in a row

A template and a source in a row are read, and rendered, as the one and then the other
(`Template.ofSource_append`). The texts at the seam are the only trouble: they are one token and one
node. Lists are joined alike on both levels (`joinWith`), and a text stands at the end of the tokens
exactly if one stands at the end of the nodes (`Grammar.Segments.last_text`).
-/

namespace TextTemplate

/-- Two texts in a row are one. -/
def Node.merge? : Node → Node → Option Node
  | .text s, .text t => some (.text (s ++ t))
  | _, _ => none

/-- The nodes of two templates in a row, with a text at the end of the one and a text at the start
of the other in one node. -/
def Template.joined : Template → Template → Template := joinWith Node.merge?

/-- Only texts are merged, into the text of both. -/
theorem Node.merge?_eq_some {m n k : Node} (h : m.merge? n = some k) :
    ∃ s t, m = .text s ∧ n = .text t ∧ k = .text (s ++ t) := by
  unfold merge? at h
  split at h
  · cases h
    exact ⟨_, _, rfl, rfl, rfl⟩
  · cases h

/-! ## Texts at the ends of templates -/

namespace Grammar

/-- A node without a body ends with the end of its tag. -/
theorem Simple.getLast? {u : List Lexeme} {n : Node} (h : Simple u n) :
    u.getLast? = some (.symbol .closeTag) := by
  cases h <;> simp [List.getLast?_cons]

/-- A segment is a text, or a tag ends it. -/
theorem Segment.text_or_getLast? {u : List Lexeme} {n : Node} (h : Segment u n) :
    (∃ s, u = [.text s] ∧ n = .text s) ∨ u.getLast? = some (.symbol .closeTag) := by
  cases h with
  | text s => exact .inl ⟨s, rfl, rfl⟩
  | simple h => exact .inr (by simp [List.getLast?_cons, h.getLast?])
  | ifThen => exact .inr (by simp [closingTag, List.getLast?_cons])
  | ifThenElse => exact .inr (by simp [closingTag, List.getLast?_cons])
  | each => exact .inr (by simp [closingTag, List.getLast?_cons])

/-- A text node is spelled by its lexeme alone. -/
theorem Segment.eq_text {u : List Lexeme} {s : String} (h : Segment u (.text s)) :
    u = [.text s] := by
  cases h with
  | text s => rfl
  | simple h => cases h

/-- The spelling of nodes in a row can be cut between any two of them. -/
theorem Segments.split {w : List Lexeme} {x y : Template} (h : Segments w (x ++ y)) :
    ∃ u v, w = u ++ v ∧ Segments u x ∧ Segments v y := by
  induction x generalizing w with
  | nil => exact ⟨[], w, rfl, .nil, h⟩
  | cons n x ih =>
    cases h with
    | @cons u v _ _ first more =>
      obtain ⟨v₁, v₂, rfl, before, after⟩ := ih more
      exact ⟨u ++ v₁, v₂, (List.append_assoc ..).symm, .cons first before, after⟩

theorem Segments.single {w : List Lexeme} {n : Node} (h : Segments w [n]) : Segment w n := by
  cases h with
  | cons first more =>
    cases more
    rwa [List.append_nil]

/-- A text at the end is a node of its own. -/
theorem Segments.last_text {w : List Lexeme} {s : String} {t : Template}
    (h : Segments (w ++ [.text s]) t) : ∃ x, t = x ++ [.text s] ∧ Segments w x := by
  rcases List.eq_nil_or_concat t with rfl | ⟨x, n, rfl⟩
  · generalize hw : w ++ [.text s] = w' at h
    cases h
    cases (List.append_eq_nil_iff.1 hw).2
  rw [List.concat_eq_append] at h ⊢
  obtain ⟨u, v, split, before, last⟩ := h.split
  -- Every other node ends with closing braces, and so cannot derive a text at the end.
  rcases last.single.text_or_getLast? with ⟨s', rfl, rfl⟩ | ends
  · obtain ⟨rfl, same⟩ := List.append_inj' split rfl
    cases same
    exact ⟨x, rfl, before⟩
  · have lasts := congrArg List.getLast? split
    rw [List.getLast?_concat, List.getLast?_append, ends] at lasts
    cases lasts

/-- Nodes that begin with a text are spelled with that text first. -/
theorem Segments.first_text {w : List Lexeme} {s : String} {x : Template}
    (h : Segments w (.text s :: x)) : ∃ u, w = .text s :: u := by
  cases h with
  | @cons u v _ _ first more =>
    rw [first.eq_text]
    exact ⟨v, rfl⟩

/-- Nodes that end with a text are spelled with that text last. -/
theorem Segments.text_of_last {w : List Lexeme} {s : String} {x : Template}
    (h : Segments w (x ++ [.text s])) : ∃ u, w = u ++ [.text s] := by
  obtain ⟨u, v, rfl, before, last⟩ := h.split
  exact ⟨u, by rw [last.single.eq_text]⟩

end Grammar

namespace Parser

open Grammar

variable {finish : Nat}

/-- Nodes whose tokens are apart are apart. -/
theorem joined_of_apart {us vs : List Token} {t body : Template} (ht : Segments (spelled us) t)
    (hbody : Segments (spelled vs) body)
    (apart : ∀ a ∈ us.getLast?, ∀ b ∈ vs.head?, Token.merge? a b = none) :
    t.joined body = t ++ body := by
  apply joinWith_apart
  intro n last m first
  cases merged : Node.merge? n m with
  | none => rfl
  | some k =>
    obtain ⟨x, y, rfl, rfl, _⟩ := Node.merge?_eq_some merged
    obtain ⟨before, rfl⟩ := List.getLast?_eq_some_iff.1 last
    obtain ⟨after, rfl⟩ := List.head?_eq_some_iff.1 first
    -- Nodes that join are texts, and their tokens at the seam would be texts too.
    obtain ⟨u, lexemes⟩ := ht.text_of_last
    obtain ⟨v, lexemes'⟩ := hbody.first_text
    obtain ⟨p, rest, rfl, _⟩ := exists_of_spelled lexemes'
    have ends := congrArg List.getLast? lexemes
    rw [spelled, List.getLast?_map, List.getLast?_concat, Option.map_eq_some_iff] at ends
    obtain ⟨⟨l, q⟩, ends, rfl⟩ := ends
    cases apart _ ends _ rfl

/-- The tokens of two templates in a row, with the texts at the seam as one, are read as both, with
the texts at the seam in one node. -/
theorem template_weld {us : List Token} {t : Template} (h : template finish [] [] us = .ok t)
    (finish' : Nat) (vs : List Token) : template finish' [] [] (Lexer.weld us vs) =
      (template finish' [] [] vs).map t.joined := by
  have ht := (template_eq_ok_iff finish).1 h
  rcases joinWith_cases Token.merge? us vs with ⟨us', a, b, vs', c, rfl, rfl, merged⟩ | apart
  · -- The text at the seam is read behind the same nodes, once as a whole and once in two parts.
    have welded : Lexer.weld (us' ++ [a]) (b :: vs') = us' ++ c :: vs' :=
      joinWith_merged merged us' vs'
    obtain ⟨x, p, y, q, rfl, rfl, rfl⟩ := Token.merge?_eq_some merged
    rw [spelled_append] at ht
    obtain ⟨before, rfl, head⟩ := ht.last_text
    have read := (template_eq_ok_iff finish).2 head
    have left : template finish' [] before.reverse (⟨.text (x ++ y), p⟩ :: vs') =
        (template finish' [] [] vs').map ((before ++ [.text (x ++ y)]) ++ ·) := by
      rw [template.eq_3, ← template_behind, List.reverse_concat]
    have right : template finish' [] [] (⟨.text y, q⟩ :: vs') =
        (template finish' [] [] vs').map ([.text y] ++ ·) := by
      rw [template.eq_3, ← template_behind]
      rfl
    rw [welded, template_append (s := ([], [])) read, left, right]
    cases template finish' [] [] vs' with
    | error e => rfl
    | ok body =>
      have joins : Template.joined (before ++ [.text x]) (.text y :: body) =
          before ++ .text (x ++ y) :: body := joinWith_merged rfl before body
      exact congrArg Except.ok ((List.append_assoc ..).trans joins.symm)
  · have welded : Lexer.weld us vs = us ++ vs := joinWith_apart apart
    rw [welded, template_append (s := ([], [])) h, template_behind]
    cases read : template finish' [] [] vs with
    | error e => rfl
    | ok body =>
      have hbody := (template_eq_ok_iff finish').1 read
      exact congrArg Except.ok (joined_of_apart ht hbody apart).symm

end Parser

/-! ## Sources in a row -/

/-- The error `d` bytes further on. -/
def CompileError.shift (d : Nat) : CompileError → CompileError
  | lexical e => lexical (e.shift d)
  | parse e => parse (e.shift d)

/-- A list that ends in its only end of input is read up to there. -/
theorem Template.ofTokens?_concat {us : List Token} (h : ∀ t ∈ us, t.lexeme ≠ .endOfInput)
    (p : Nat) : Template.ofTokens? (us ++ [⟨.endOfInput, p⟩]) = Parser.template p [] [] us := by
  have inside : ∀ t ∈ us, decide (t.lexeme ≠ .endOfInput) = true := by simpa using h
  have nowhere : us.find? (·.lexeme = .endOfInput) = none := by simpa using h
  have ends : Template.endOf (us ++ [⟨.endOfInput, p⟩]) = p := by
    simp [Template.endOf, nowhere]
  rw [Template.ofTokens?, ends, List.takeWhile_append_of_pos inside]
  simp

/-- What the tokens of a source say, where they end and how others go on from there. -/
theorem exists_of_ofSource {a : String} {ts : List Token} (h : Token.ofSource? a = .ok ts) :
    ∃ us, (∀ t ∈ us, t.lexeme ≠ .endOfInput) ∧
      ts = us ++ [⟨.endOfInput, a.utf8ByteSize⟩] ∧
      Template.ofTokens? ts = Parser.template a.utf8ByteSize [] [] us ∧
      ∀ b : String, Lexer.Apart a.toList b.toList → Token.ofSource? (a ++ b) = (do
        let more ← Lexer.shiftTokens a.utf8ByteSize (Token.ofSource? b)
        return Lexer.weld us more) := by
  obtain ⟨us, rfl, proper, going⟩ := Lexer.goesOn_of_tokens h
  rw [Nat.zero_add, ← Lexer.utf8ByteSize_eq] at going ⊢
  refine ⟨us, proper, rfl, Template.ofTokens?_concat proper _, ?_⟩
  intro b apart
  have shifted := Lexer.tokens_shift a.utf8ByteSize .text 0 b.toList
  rw [Nat.zero_add, Lexer.State.shift] at shifted
  rw [Token.ofSource?, String.toList_append, going b.toList apart, shifted]
  rfl

theorem Template.ofSource?_of_tokens {a : String} {ts : List Token}
    (h : Token.ofSource? a = .ok ts) :
    Template.ofSource? a = (Template.ofTokens? ts).mapError .parse := by
  rw [Template.ofSource?, h]
  dsimp only
  cases Template.ofTokens? ts <;> rfl

/-- A source with a template has tokens that the parser reads. -/
theorem Template.exists_tokens_of_ofSource {a : String} {t : Template}
    (h : Template.ofSource? a = .ok t) :
    ∃ ts, Token.ofSource? a = .ok ts ∧ Template.ofTokens? ts = .ok t := by
  unfold Template.ofSource? at h
  split at h
  · cases h
  next ts read =>
  split at h
  · cases h
  next t' parsed =>
  cases h
  exact ⟨ts, read, parsed⟩

/-- A template and a source in a row are read as the template and what the source is read as, with
the texts at the seam in one node. -/
theorem Template.ofSource?_joined {a b : String} {t : Template} (h : Template.ofSource? a = .ok t)
    (apart : Lexer.Apart a.toList b.toList) :
    Template.ofSource? (a ++ b) =
      ((Template.ofSource? b).mapError (·.shift a.utf8ByteSize)).map t.joined := by
  obtain ⟨ts, read, parsed⟩ := Template.exists_tokens_of_ofSource h
  obtain ⟨us, proper, rfl, ends, going⟩ := exists_of_ofSource read
  rw [ends] at parsed
  cases read' : Token.ofSource? b with
  | error e =>
    rw [Template.ofSource?, going b apart, Template.ofSource?, read']
    rfl
  | ok ts' =>
    obtain ⟨vs, proper', rfl, ends', _⟩ := exists_of_ofSource read'
    have joined : Token.ofSource? (a ++ b) =
        .ok (Lexer.weld us (vs.map (·.shift a.utf8ByteSize)) ++
          [⟨.endOfInput, b.utf8ByteSize + a.utf8ByteSize⟩]) := by
      have single : ∀ u : Token,
          u.merge? ⟨.endOfInput, b.utf8ByteSize + a.utf8ByteSize⟩ = none := by
        rintro ⟨l, p⟩
        cases l <;> rfl
      rw [going b apart, read', Lexer.weld, ← joinWith_concat single]
      simp only [Lexer.shiftTokens, List.map_append]
      rfl
    -- The end of the first source is not among the tokens any more.
    have inside : ∀ u ∈ Lexer.weld us (vs.map (·.shift a.utf8ByteSize)),
        u.lexeme ≠ .endOfInput := by
      intro u mem
      rcases mem_of_mem_joinWith mem with mem | mem | ⟨v, w, merged⟩
      · exact proper u mem
      · obtain ⟨v, mem', rfl⟩ := List.mem_map.1 mem
        exact proper' v mem'
      · obtain ⟨x, p, y, q, _, _, rfl⟩ := Token.merge?_eq_some merged
        intro same
        cases same
    have shifted := Parser.template_shift b.utf8ByteSize a.utf8ByteSize ([], []) vs
    rw [Template.ofSource?_of_tokens joined, Template.ofSource?_of_tokens read', ends',
      Template.ofTokens?_concat inside, Parser.template_weld parsed, shifted]
    cases Parser.template b.utf8ByteSize [] [] vs <;> rfl

/-! ## Renderings in a row -/

section
variable {helpers : HelperTable} {includer : Includer} {frame : Frame}

/-- Nodes are lowered one by one, in the scope that they share. -/
theorem Op.ofNodes_append (names : List String) (scope : Scope) (x y : Template) :
    Op.ofNodes names scope (x ++ y) = Op.ofNodes names scope x ++ Op.ofNodes names scope y := by
  induction x with
  | nil => rfl
  | cons n x ih => rw [List.cons_append, Op.ofNodes, ih, Op.ofNodes, List.cons_append]

/-- Steps run one after the other, and their fragments are in the order of the steps. -/
theorem Op.runAll_append (xs ys : List Op) : Op.runAll helpers includer frame (xs ++ ys) = (do
    let out ← Op.runAll helpers includer frame xs
    let more ← Op.runAll helpers includer frame ys
    return out ++ more) := by
  induction xs with
  | nil =>
    rw [List.nil_append, Op.runAll, pure_bind]
    exact (bind_pure _).symm
  | cons op xs ih =>
    rw [List.cons_append, Op.runAll, ih, Op.runAll]
    simp only [bind_assoc, pure_bind, List.append_assoc]

/-- Runs steps for their output. -/
def Op.outputOf (helpers : HelperTable) (includer : Includer) (frame : Frame) (ops : List Op) :
    Render String := do
  let fragments ← Op.runAll helpers includer frame ops
  return Fragment.join fragments

/-- Outputs are put together as the steps are. -/
theorem Op.outputOf_append (xs ys : List Op) : Op.outputOf helpers includer frame (xs ++ ys) = (do
    let out ← Op.outputOf helpers includer frame xs
    let more ← Op.outputOf helpers includer frame ys
    return out ++ more) := by
  unfold Op.outputOf
  rw [Op.runAll_append]
  simp only [bind_assoc, pure_bind, Fragment.join_append]

theorem Op.outputOf_text (s : String) :
    Op.outputOf helpers includer frame [.text s] = pure s := by
  simp only [Op.outputOf, Op.runAll, Op.run, pure_bind, List.append_nil, Fragment.join_single]
  rfl

/-- Joined templates write what the one and then the other writes. -/
theorem Op.outputOf_joined (names : List String) (x y : Template) :
    Op.outputOf helpers includer frame (Op.ofNodes names [] (x.joined y)) = (do
      let out ← Op.outputOf helpers includer frame (Op.ofNodes names [] x)
      let more ← Op.outputOf helpers includer frame (Op.ofNodes names [] y)
      return out ++ more) := by
  rcases joinWith_cases Node.merge? x y with ⟨x, a, b, y, c, rfl, rfl, merged⟩ | apart
  · rw [Template.joined, joinWith_merged merged]
    obtain ⟨s, t, rfl, rfl, rfl⟩ := Node.merge?_eq_some merged
    have one (s : String) (z : Template) : Op.ofNodes names [] (.text s :: z) =
        [.text s] ++ Op.ofNodes names [] z := rfl
    have nothing : Op.outputOf helpers includer frame (Op.ofNodes names [] []) = pure "" := rfl
    simp only [Op.ofNodes_append, one, nothing, Op.outputOf_append, Op.outputOf_text, bind_assoc,
      pure_bind, String.append_assoc, String.empty_append]
  · rw [Template.joined, joinWith_apart apart, Op.ofNodes_append, Op.outputOf_append]

end

/-- What an artifact writes are the outputs of its steps, whatever depth is left for inclusions. -/
theorem Artifact.exists_includer (helpers : HelperTable) (maxDepth : Nat) (root : Value) :
    ∃ includer, ∀ a : Artifact, a.render helpers maxDepth root =
      Op.outputOf helpers includer (.ofContext root) a.program.ops := by
  cases maxDepth with
  | zero => exact ⟨_, fun _ => rfl⟩
  | succ depth => exact ⟨_, fun _ => rfl⟩

/-- **Sources in a row.** Behind a source that is a template, and unless a pair of opening braces
lies across the seam, any other source is read as on its own: its nodes follow, with a text at the
end of the one and a text at the start of the other in one node, or its error stands as many bytes
further on. If both are templates they are rendered one after the other, on any session. -/
theorem Template.ofSource_append {a b : String} {t : Template} (h : Template.ofSource? a = .ok t)
    (apart : ¬ (a.toList.getLast? = some '{' ∧ b.toList.head? = some '{')) :
    Template.ofSource? (a ++ b) =
      ((Template.ofSource? b).mapError (·.shift a.utf8ByteSize)).map t.joined ∧
    ∀ names first second, Artifact.compile? a names = .ok first →
      Artifact.compile? b names = .ok second →
      ∃ both, Artifact.compile? (a ++ b) names = .ok both ∧
        ∀ helpers maxDepth root, both.render helpers maxDepth root = (do
          let out ← first.render helpers maxDepth root
          let more ← second.render helpers maxDepth root
          return out ++ more) := by
  have joined := Template.ofSource?_joined h apart
  refine ⟨joined, ?_⟩
  intro names first second compiled compiled'
  obtain ⟨t₁, spelled, program⟩ := Artifact.program_of_compile? compiled
  obtain ⟨t₂, spelled', program'⟩ := Artifact.program_of_compile? compiled'
  -- The two templates are those that were compiled.
  cases h.symm.trans spelled
  rw [spelled'] at joined
  have accepted : Template.ofSource? (a ++ b) = .ok (t.joined t₂) := joined
  refine ⟨_, by rw [Artifact.compile?, accepted], ?_⟩
  intro helpers maxDepth root
  obtain ⟨includer, renders⟩ := Artifact.exists_includer helpers maxDepth root
  rw [renders, renders, renders, program, program']
  exact Op.outputOf_joined _ t t₂

/-- A brace on the one side of the seam and a text on the other. -/
theorem ofSource_append_brace :
    let a := "\x7b\x7bt\x7d\x7dé\x7b"
    let b := "x\x7b\x7bu\x7d\x7d"
    let t : Template := [.interpolation ⟨"t", [], []⟩ true, .text "é\x7b"]
    Template.ofSource? a = .ok t ∧
    ¬ (a.toList.getLast? = some '{' ∧ b.toList.head? = some '{') ∧
    Template.ofSource? (a ++ b) = .ok [.interpolation ⟨"t", [], []⟩ true, .text "é\x7bx",
      .interpolation ⟨"u", [], []⟩ true] := by
  intro a b t
  have spelled : Template.ofSource? a = .ok t := by cbv
  have apart : ¬ (a.toList.getLast? = some '{' ∧ b.toList.head? = some '{') := by decide
  exact ⟨spelled, apart, (Template.ofSource_append spelled apart).1.trans (by cbv)⟩

end TextTemplate
