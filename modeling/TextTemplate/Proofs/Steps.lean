import TextTemplate.Proofs.TagLookahead
import TextTemplate.Proofs.TemplateReading

/-!
# Templates are read step by step

The reader of templates takes one text or one tag at a time (`step`) and goes on with the open
blocks and the nodes that it has then (`template_eq_step`). A step looks one token ahead
(`reads_step`), so what the reader of templates does is settled by the laws of a step.
-/

namespace TextTemplate

namespace Parser

open Grammar

/-- The open blocks, innermost first, and the nodes read so far in the innermost one, last first. -/
abbrev State := List Frame × Template

/-- A tag becomes a node of the innermost open block, or it opens a block inside. -/
def taken (s : State) : Tag → State
  | .node n => (s.1, n :: s.2)
  | .block b => (⟨b, s.2⟩ :: s.1, [])

/-- Reads a tag that belongs to the innermost open block. -/
def tagStep (s : State) : Reader State := fun finish ts => do
  let (t, ts) ← tag finish ts
  return (taken s t, ts)

/-- Reads the rest of the `else` of a condition. -/
def elseStep (condition : Accessor) (outside : Template) (outer : List Frame) (before : Template) :
    Reader State := fun finish ts => do
  let ts ← expect finish .elseEnd ts
  return ((⟨.ifElse condition before.reverse, outside⟩ :: outer, []), ts)

/-- Reads the rest of the tag that closes a block. -/
def closeStep (frame : Frame) (outer : List Frame) (before : Template) : Reader State :=
  fun finish ts => do
    let ts ← closing finish frame.block.kind ts
    return ((outer, frame.block.close before.reverse :: frame.before), ts)

/-- Reads a tag behind its opening braces. -/
def braceStep : State → Reader State
  | (⟨.ifThen condition, outside⟩ :: outer, before), finish, ⟨.symbol .elseWord, _⟩ :: ts =>
    elseStep condition outside outer before finish ts
  | (frame :: outer, before), finish, ⟨.symbol .slash, _⟩ :: ts =>
    closeStep frame outer before finish ts
  | s, finish, ts => tagStep s finish ts

/-- Reads a text or a tag. -/
def step (s : State) : Reader State
  | _, ⟨.text t, _⟩ :: ts => .ok ((s.1, .text t :: s.2), ts)
  | finish, ⟨.symbol .openTag, _⟩ :: ts => braceStep s finish ts
  | finish, ts => .error (unexpected finish .segment ts)

variable {finish : Nat} {ts : List Token}

/-- Without tokens the nodes are complete if no block is open. -/
theorem template_nil (s : State) : template finish s.1 s.2 [] =
    match s.1 with
    | [] => .ok s.2.reverse
    | frame :: _ => .error (.missingClosingTag frame.block.kind finish) := by
  obtain ⟨stack, before⟩ := s
  cases stack with
  | nil => rw [template.eq_1]
  | cons frame outer => rw [template.eq_2]

theorem braceStep_slash (frame : Frame) (outer : List Frame) (before : Template) (p : Nat)
    (rest : List Token) : braceStep (frame :: outer, before) finish (⟨.symbol .slash, p⟩ :: rest) =
      closeStep frame outer before finish rest := by
  obtain ⟨block, outside⟩ := frame
  cases block <;> rfl

/-- A tag that is neither the `else` nor the end of the open block belongs to it. -/
theorem braceStep_of_tag {stack : List Frame} {before : Template}
    (noElse : ∀ value outside outer position rest, stack = ⟨.ifThen value, outside⟩ :: outer →
      ts = ⟨.symbol .elseWord, position⟩ :: rest → False)
    (noSlash : ∀ frame outer position rest, stack = frame :: outer →
      ts = ⟨.symbol .slash, position⟩ :: rest → False) :
    braceStep (stack, before) finish ts = tagStep (stack, before) finish ts := by
  apply braceStep.eq_3
  · intro value outside outer before' position rest same split
    exact noElse value outside outer position rest (congrArg Prod.fst same) split
  · intro frame outer before' position rest same split
    exact noSlash frame outer position rest (congrArg Prod.fst same) split

/-- The reader of templates takes a step and goes on. -/
theorem template_eq_step (s : State) (more : ts ≠ []) : template finish s.1 s.2 ts = (do
    let (s, ts) ← step s finish ts
    template finish s.1 s.2 ts) := by
  obtain ⟨stack, before⟩ := s
  dsimp only
  -- One case for each equation of the reader; in `case8` to `case10` the tag is in the block.
  fun_cases template finish stack before ts with
  | case1 => exact absurd rfl more
  | case2 => exact absurd rfl more
  | case3 => rfl
  | case4 _ _ _ _ _ _ _ h =>
    simp only [step, braceStep, elseStep, h]
    rfl
  | case5 _ _ _ _ _ _ _ h =>
    simp only [step, braceStep, elseStep, h]
    rfl
  | case6 _ _ _ _ _ _ h =>
    simp only [step, braceStep, closeStep, h]
    rfl
  | case7 _ _ _ _ _ _ h =>
    simp only [step, braceStep, closeStep, h]
    rfl
  | case8 _ _ rest noElse noSlash e h =>
    rw [step, braceStep_of_tag noElse noSlash]
    simp only [tagStep, h]
    rfl
  | case9 _ _ rest noElse noSlash n _ h =>
    rw [step, braceStep_of_tag noElse noSlash]
    simp only [tagStep, h]
    rfl
  | case10 _ _ rest noElse noSlash b _ h =>
    rw [step, braceStep_of_tag noElse noSlash]
    simp only [tagStep, h]
    rfl
  | case11 _ _ _ noText noTag =>
    rw [step.eq_3 _ _ _ noText noTag]
    rfl

/-! ## A step looks one token ahead -/

/-- What the lexemes of a text or a tag make of the open blocks and their nodes. -/
inductive Moves : State → List Lexeme → State → Prop
  | text (s : State) (t : String) : Moves s [.text t] (s.1, .text t :: s.2)
  | tag (s : State) {u : List Lexeme} {t : Tag} :
    IsTag u t → Moves s (.symbol .openTag :: u) (taken s t)
  | otherwise (condition : Accessor) (outside : Template) (outer : List Frame)
      (before : Template) :
    Moves (⟨.ifThen condition, outside⟩ :: outer, before) elseTag
      (⟨.ifElse condition before.reverse, outside⟩ :: outer, [])
  | close (frame : Frame) (outer : List Frame) (before : Template) :
    Moves (frame :: outer, before) (closingTag frame.block.kind)
      (outer, frame.block.close before.reverse :: frame.before)

/-- The lexemes of a step behind opening braces. -/
def InBraces (s : State) (w : List Lexeme) (s' : State) : Prop :=
  Moves s (.symbol .openTag :: w) s'

instance : Derivable IsTag := ⟨_, .node _, Simple.escaped (.intro "" .nil .nil)⟩

instance {s : State} : Derivable (InBraces s) where
  derives := by
    obtain ⟨w, t, derived⟩ := Derivable.derives (L := IsTag)
    exact ⟨w, _, .tag s derived⟩

instance {s : State} : Derivable (Moves s) := ⟨_, _, .text s ""⟩

theorem reads_tagStep (s : State) : Reads (InBraces s) (tagStep s) finish ts := by
  have h : Reads _ (tagStep s) finish ts := reads_tag.bind fun t _ _ => Reads.pure (taken s t)
  apply h.mono
  rintro w s' ⟨u, _, t, rfl, derived, rfl, rfl⟩
  rw [List.append_nil]
  exact .tag s derived

/-- The rest of an `else` is its closing braces, which turn to the other branch. -/
theorem reads_elseStep (condition : Accessor) (outside : Template) (outer : List Frame)
    (before : Template) :
    Reads (Behind .closeTag (Nothing (⟨.ifElse condition before.reverse, outside⟩ :: outer, [])))
      (elseStep condition outside outer before) finish ts :=
  Reads.behind (s := .closeTag) rfl fun _ _ _ => Reads.pure _

/-- The rest of a closing tag is the word of the innermost block and closing braces. -/
theorem reads_closeStep (frame : Frame) (outer : List Frame) (before : Template) :
    Reads (Behind frame.block.kind.word (Behind .closeTag
      (Nothing (outer, frame.block.close before.reverse :: frame.before))))
      (closeStep frame outer before) finish ts := by
  have h : Reads _ (fun finish ts => do
      let ts ← expect finish (.closingWord frame.block.kind) ts
      let ts ← expect finish .tagEnd ts
      return ((outer, frame.block.close before.reverse :: frame.before), ts)) finish ts :=
    Reads.behind (s := frame.block.kind.word) rfl fun _ _ _ =>
      Reads.behind (s := .closeTag) rfl fun _ _ _ => Reads.pure _
  apply h.congr
  intro finish ts _
  simp only [closeStep, closing, bind_assoc]

/-- What follows opening braces is read one token ahead, whatever blocks are open. -/
theorem reads_braceStep (s : State) : Reads (InBraces s) (braceStep s) finish ts := by
  obtain ⟨stack, before⟩ := s
  -- The three equations of the reader, in its order: an `else`, a closing tag, any other tag.
  by_cases elses : front ts = some (.symbol .elseWord) ∧
      ∃ condition outside outer, stack = ⟨.ifThen condition, outside⟩ :: outer
  · obtain ⟨starts, condition, outside, outer, rfl⟩ := elses
    have h : Reads _ (braceStep (⟨.ifThen condition, outside⟩ :: outer, before)) finish ts :=
      Reads.found (q := elseStep condition outside outer before) starts (fun _ _ _ => rfl)
        fun _ _ _ => reads_elseStep condition outside outer before
    apply h.mono
    rintro w s' ⟨_, rfl, _, rfl, rfl, rfl⟩
    exact .otherwise condition outside outer before
  by_cases slash : front ts = some (.symbol .slash) ∧ ∃ frame outer, stack = frame :: outer
  · obtain ⟨starts, frame, outer, rfl⟩ := slash
    have h : Reads _ (braceStep (frame :: outer, before)) finish ts :=
      Reads.found (q := closeStep frame outer before) starts
        (fun _ => braceStep_slash frame outer before)
        fun _ _ _ => reads_closeStep frame outer before
    apply h.mono
    rintro w s' ⟨_, rfl, _, rfl, _, rfl, rfl, rfl⟩
    exact .close frame outer before
  · apply (reads_tagStep (stack, before)).congr
    intro finish ts' same
    apply braceStep_of_tag
    · rintro condition outside outer p rest rfl rfl
      exact elses ⟨same.symm, condition, outside, outer, rfl⟩
    · rintro frame outer p rest rfl rfl
      exact slash ⟨same.symm, frame, outer, rfl⟩

/-- A text or a tag is read one token ahead. -/
theorem reads_step (s : State) : Reads (Moves s) (step s) finish ts := by
  -- A text is taken by itself, opening braces begin a tag, and anything else is refused.
  by_cases texts : ∃ t, front ts = some (.text t)
  · obtain ⟨t, starts⟩ := texts
    obtain ⟨p, rest, rfl⟩ := front_eq_some starts
    constructor
    · intro s' rest' ok
      cases ok
      exact ⟨[⟨.text t, p⟩], rfl, .text s t, fun _ _ _ => rfl⟩
    · exact nofun
    · exact fun move => rfl
  by_cases tags : front ts = some (.symbol .openTag)
  · have h : Reads _ (step s) finish ts :=
      Reads.found (q := braceStep s) tags (fun _ _ _ => rfl) fun _ _ _ => reads_braceStep s
    apply h.mono
    rintro _ s' ⟨w, rfl, moves⟩
    exact moves
  · have failing : Reads (Moves s) (fun finish ts => .error (unexpected finish .segment ts))
        finish ts :=
      Reads.error (f := fun k => .expectedToken .segment k.1 k.2) (fun _ => rfl) fun _ _ _ => rfl
    apply failing.congr
    intro finish ts' same
    apply step.eq_3
    · rintro t p rest rfl
      exact texts ⟨t, same.symm⟩
    · rintro p rest rfl
      exact tags same.symm

/-! ## Runs of steps -/

theorem Moves.ne_nil {s s' : State} {u : List Lexeme} (h : Moves s u s') : u ≠ [] := by
  cases h <;> exact List.cons_ne_nil _ _

/-- What holds at the end of the tokens, where a step refuses them, and in front of a step if it
holds behind it, holds at all tokens. -/
theorem run_induction (finish : Nat) {P : State → List Token → Prop} (ended : ∀ s, P s [])
    (refused : ∀ s ts e, ts ≠ [] → step s finish ts = .error e → P s ts)
    (stepped : ∀ s ts s' rest, ts ≠ [] → step s finish ts = .ok (s', rest) → P s' rest → P s ts)
    (s : State) (ts : List Token) : P s ts := by
  by_cases empty : ts = []
  · exact empty ▸ ended s
  cases read : step s finish ts with
  | error e => exact refused s ts e empty read
  | ok result =>
    obtain ⟨s', rest⟩ := result
    obtain ⟨u, split, moves, _⟩ := (reads_step s).takes s' rest read
    -- A step takes at least one token.
    have taken := List.length_pos_iff.2 moves.ne_nil
    have longer := congrArg List.length split
    exact stepped s ts s' rest empty read (run_induction finish ended refused stepped s' rest)
termination_by ts.length
decreasing_by
  rw [spelled, List.length_map] at taken
  rw [List.length_append] at longer
  omega

/-- The lexemes of a step are read. -/
theorem complete_step (finish : Nat) {s s' : State} {u w : List Lexeme} (h : Moves s u s')
    (hs : spelled ts = u ++ w) :
    ∃ rest, step s finish ts = .ok (s', rest) ∧ spelled rest = w := by
  cases h with
  | text s t =>
    obtain ⟨p, rest, rfl, left⟩ := exists_of_spelled hs
    exact ⟨rest, rfl, left⟩
  | @tag s u t derived =>
    obtain ⟨p, tail, rfl, h₁⟩ := exists_of_spelled hs
    obtain ⟨rest, read, left⟩ := complete_tag finish derived h₁
    refine ⟨rest, ?_, left⟩
    -- No tag of a block starts with `else` or with a slash.
    rw [step, braceStep_of_tag]
    · exact bind_eq_ok.2 ⟨_, read, rfl⟩
    · rintro _ _ _ _ _ - rfl
      cases read
    · rintro _ _ _ _ - rfl
      cases read
  | otherwise condition outside outer before =>
    obtain ⟨_, _, rfl, h₁⟩ := exists_of_spelled hs
    obtain ⟨_, tail, rfl, h₂⟩ := exists_of_spelled h₁
    obtain ⟨rest, read, left⟩ := complete_expect finish (e := .elseEnd) rfl h₂
    exact ⟨rest, bind_eq_ok.2 ⟨_, read, rfl⟩, left⟩
  | close frame outer before =>
    obtain ⟨_, _, rfl, h₁⟩ := exists_of_spelled hs
    obtain ⟨_, tail, rfl, h₂⟩ := exists_of_spelled h₁
    obtain ⟨rest, read, left⟩ := complete_closing finish h₂
    refine ⟨rest, ?_, left⟩
    rw [step, braceStep_slash]
    exact bind_eq_ok.2 ⟨_, read, rfl⟩

/-- The tokens of a step are what it reads, whatever stands behind them. -/
theorem step_of_moves {s s' : State} {us : List Token} (h : Moves s (spelled us) s')
    (rest : List Token) : step s finish (us ++ rest) = .ok (s', rest) := by
  obtain ⟨rest', read, left⟩ := complete_step finish h (spelled_append us rest)
  obtain ⟨us', split, _⟩ := (reads_step s).takes s' rest' read
  have same : us.length = us'.length := by
    have lengths := congrArg List.length split
    have lengths' := congrArg List.length left
    simp only [spelled, List.length_map, List.length_append] at lengths lengths'
    omega
  rw [read, (List.append_inj split same).2]

end Parser

end TextTemplate
