import TextTemplate.Proofs.Steps

/-!
# Reading on behind other tokens

The reader of templates has no memory but its open blocks and their nodes. So tokens that stand
elsewhere are read alike (`Parser.template_moved`), behind the tokens of a template the reader goes
on with nothing open (`Parser.template_append`), and the nodes that stand in front of all open
blocks are in front of the result and play no other part (`Parser.template_behind`).
-/

namespace TextTemplate

namespace Parser

open Grammar

variable {finish : Nat}

/-- Tokens that stand elsewhere are read alike, and the error stands where its token does. -/
theorem template_moved (move : Nat → Nat) (finish : Nat) (s : State) (ts : List Token) :
    template (move finish) s.1 s.2 (ts.map (·.moved move)) =
      (template finish s.1 s.2 ts).mapError (·.moved move) := by
  induction s, ts using run_induction finish with
  | ended s =>
    rw [List.map_nil, template_nil, template_nil]
    cases s.1 <;> rfl
  | refused s ts e more read =>
    -- A step moves with its tokens, whether it succeeds or not.
    rw [template_eq_step s more, template_eq_step s (by simpa using more),
      (reads_step s).moves move, read]
    rfl
  | stepped s ts s' rest more read ih =>
    rw [template_eq_step s more, template_eq_step s (by simpa using more),
      (reads_step s).moves move, read]
    exact ih

/-- Tokens that stand further on are read to the same, with errors that stand further on. -/
theorem template_shift (finish d : Nat) (s : State) (ts : List Token) :
    template (finish + d) s.1 s.2 (ts.map (·.shift d)) =
      (template finish s.1 s.2 ts).mapError (·.shift d) := by
  rw [ParseError.shift_eq_moved]
  exact template_moved (· + d) finish s ts

/-- Behind the tokens of a template the reader goes on with its nodes. -/
theorem template_append {s : State} {ts : List Token} {t : Template}
    (h : template finish s.1 s.2 ts = .ok t) (finish' : Nat) (rest : List Token) :
    template finish' s.1 s.2 (ts ++ rest) = template finish' [] t.reverse rest := by
  induction s, ts using run_induction finish with
  | ended s =>
    obtain ⟨stack, before⟩ := s
    rw [template_nil] at h
    cases stack with
    | nil =>
      cases h
      rw [List.nil_append, List.reverse_reverse]
    | cons frame outer => cases h
  | refused s ts e more read =>
    rw [template_eq_step s more, read] at h
    cases h
  | stepped s ts s' behind more read ih =>
    rw [template_eq_step s more, read] at h
    -- The step depends on the tokens that it takes, and not on those behind them.
    obtain ⟨u, rfl, moves, _⟩ := (reads_step s).takes s' behind read
    rw [List.append_assoc, template_eq_step s ?_, step_of_moves moves]
    · exact ih h
    · exact List.append_ne_nil_of_left_ne_nil (by simpa [spelled] using moves.ne_nil) _

/-- The open blocks and their nodes behind other nodes, which are given last first. -/
def onto (base : Template) : List Frame → Template → State
  | [], before => ([], before ++ base)
  | ⟨block, outside⟩ :: outer, before =>
    (⟨block, (onto base outer outside).2⟩ :: (onto base outer outside).1, before)

variable (base : Template)

/-- A node that is put in front of what was read stays in front over any blocks. -/
theorem onto_cons (stack : List Frame) (n : Node) (before : Template) :
    onto base stack (n :: before) =
      ((onto base stack before).1, n :: (onto base stack before).2) := by
  cases stack <;> rfl

/-- What a tag adds does not depend on the blocks that are open around it. -/
theorem taken_onto (stack : List Frame) (before : Template) (t : Tag) :
    taken (onto base stack before) t =
      onto base (taken (stack, before) t).1 (taken (stack, before) t).2 := by
  cases t with
  | node n => exact (onto_cons base stack n before).symm
  | block b => rfl

/-- What a reader of states comes to, behind other nodes. -/
def ontoRead : Except ParseError (State × List Token) → Except ParseError (State × List Token)
  | .error e => .error e
  | .ok (s, rest) => .ok (onto base s.1 s.2, rest)

theorem tagStep_onto (stack : List Frame) (before : Template) (ts : List Token) :
    tagStep (onto base stack before) finish ts =
      ontoRead base (tagStep (stack, before) finish ts) := by
  unfold tagStep
  cases tag finish ts with
  | error e => rfl
  | ok result =>
    exact congrArg (fun s => Except.ok (s, result.2)) (taken_onto base stack before result.1)

theorem braceStep_onto (stack : List Frame) (before : Template) (ts : List Token) :
    braceStep (onto base stack before) finish ts =
      ontoRead base (braceStep (stack, before) finish ts) := by
  cases stack with
  | nil => exact tagStep_onto base [] before ts
  | cons frame outer =>
    obtain ⟨block, outside⟩ := frame
    by_cases slash : front ts = some (.symbol .slash)
    · -- The block is closed: its node goes to the nodes around it.
      obtain ⟨p, rest, rfl⟩ := front_eq_some slash
      have closes : braceStep (onto base (⟨block, outside⟩ :: outer) before) finish
          (⟨.symbol .slash, p⟩ :: rest) = closeStep ⟨block, (onto base outer outside).2⟩
            (onto base outer outside).1 before finish rest := braceStep_slash _ _ _ _ _
      rw [closes, braceStep_slash]
      unfold closeStep
      dsimp only
      cases closing finish block.kind rest with
      | error e => rfl
      | ok rest' =>
        exact congrArg (fun s => Except.ok (s, rest'))
          (onto_cons base outer (block.close before.reverse) outside).symm
    by_cases elses : front ts = some (.symbol .elseWord) ∧ ∃ condition, block = .ifThen condition
    · -- The second part of a condition begins, inside the same nodes.
      obtain ⟨starts, condition, rfl⟩ := elses
      obtain ⟨p, rest, rfl⟩ := front_eq_some starts
      change elseStep condition _ _ before finish rest =
        ontoRead base (elseStep condition outside outer before finish rest)
      unfold elseStep
      cases expect finish .elseEnd rest <;> rfl
    · have plain : ∀ outside outer, braceStep (⟨block, outside⟩ :: outer, before) finish ts =
          tagStep (⟨block, outside⟩ :: outer, before) finish ts := by
        intro outside outer
        apply braceStep_of_tag
        · rintro condition _ _ p rest same rfl
          cases same
          exact elses ⟨rfl, condition, rfl⟩
        · rintro _ _ p rest _ rfl
          exact slash rfl
      rw [plain]
      exact (plain _ _).trans (tagStep_onto base (⟨block, outside⟩ :: outer) before ts)

/-- One step of the reader does not look below the blocks that it has opened itself. -/
theorem step_onto (stack : List Frame) (before : Template) (ts : List Token) :
    step (onto base stack before) finish ts = ontoRead base (step (stack, before) finish ts) := by
  unfold step
  split
  · next t _ rest =>
    exact congrArg (fun s => Except.ok (s, rest)) (onto_cons base stack (.text t) before).symm
  · exact braceStep_onto base stack before _
  · rfl

/-- Behind other nodes the same is read. -/
theorem template_onto (finish : Nat) (s : State) (ts : List Token) :
    template finish (onto base s.1 s.2).1 (onto base s.1 s.2).2 ts =
      (template finish s.1 s.2 ts).map (base.reverse ++ ·) := by
  induction s, ts using run_induction finish with
  | ended s =>
    obtain ⟨stack, before⟩ := s
    rw [template_nil, template_nil]
    -- With blocks open at the end both fail; otherwise the base is in front of what was read.
    cases stack with
    | nil => exact congrArg Except.ok List.reverse_append
    | cons frame outer => rfl
  | refused s ts e more read =>
    rw [template_eq_step s more, template_eq_step _ more, step_onto, read]
    rfl
  | stepped s ts s' rest more read ih =>
    rw [template_eq_step s more, template_eq_step _ more, step_onto, read]
    exact ih

/-- Behind nodes without open blocks the same is read. -/
theorem template_behind (ts : List Token) :
    template finish [] base.reverse ts = (template finish [] [] ts).map (base ++ ·) := by
  have h := template_onto base.reverse finish ([], []) ts
  rwa [List.reverse_reverse] at h

end Parser

end TextTemplate
