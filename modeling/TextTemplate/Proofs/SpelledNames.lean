import TextTemplate.Program.Lowering
import TextTemplate.Proofs.Concatenation

/-!
# Names are words

The names in accessors and the names of parameters are identifiers of the source, so they are words
(`Template.each_of_ofSource?`). What holds of every accessor of a template and of every name of a
parameter can be carried over to the expressions of its program (`Op.each_ofNodes`).
-/

namespace TextTemplate

open Lexer

/-! ## Templates and programs whose names pass -/

/-- The names that an accessor is written with. -/
def Accessor.names (a : Accessor) : List String := a.path ++ a.pipes

def PartialName.Each (accessor : Accessor → Prop) : PartialName → Prop
  | fixed _ => True
  | computed a => accessor a

mutual

/-- Whether the accessors of a node pass, and the names of parameters, also inside the node. -/
def Node.Each (accessor : Accessor → Prop) (key : String → Prop) : Node → Prop
  | .text _ => True
  | .interpolation value _ => accessor value
  | .ifThen condition body => accessor condition ∧ Node.EachAll accessor key body
  | .ifThenElse condition body otherwise =>
    accessor condition ∧ Node.EachAll accessor key body ∧ Node.EachAll accessor key otherwise
  | .each items _ _ body => accessor items ∧ Node.EachAll accessor key body
  | .inclusion name params =>
    name.Each accessor ∧ ∀ p ∈ params.getD [], key p.1 ∧ accessor p.2

def Node.EachAll (accessor : Accessor → Prop) (key : String → Prop) : List Node → Prop
  | [] => True
  | n :: rest => n.Each accessor key ∧ Node.EachAll accessor key rest

end

def IncludeName.Each (expr : Expr → Prop) : IncludeName → Prop
  | fixed _ => True
  | computed e => expr e

mutual

/-- Whether the expressions of a step pass, and the names of parameters, also inside the step. -/
def Op.Each (expr : Expr → Prop) (key : String → Prop) : Op → Prop
  | .text _ => True
  | .emit value _ => expr value
  | .branch condition body otherwise =>
    expr condition ∧ Op.EachAll expr key body ∧ Op.EachAll expr key otherwise
  | .loop items _ body => expr items ∧ Op.EachAll expr key body
  | .inclusion name params => name.Each expr ∧ ∀ p ∈ params, key p.1 ∧ expr p.2

def Op.EachAll (expr : Expr → Prop) (key : String → Prop) : List Op → Prop
  | [] => True
  | op :: rest => op.Each expr key ∧ Op.EachAll expr key rest

end

theorem Op.eachAll_iff {expr : Expr → Prop} {key : String → Prop} {ops : List Op} :
    Op.EachAll expr key ops ↔ ∀ op ∈ ops, op.Each expr key := by
  induction ops with
  | nil => simp [Op.EachAll]
  | cons op rest ih => rw [Op.EachAll, ih, List.forall_mem_cons]

section
variable {accessor : Accessor → Prop} {expr : Expr → Prop} {key : String → Prop}
  {names : List String}

-- The induction is on the nodes; a loop changes the scope of its body.
mutual

/-- The expressions of a step pass if those of all accessors do that pass. -/
theorem Op.each_ofNode
    (pass : ∀ scope guard a, accessor a → expr (.ofAccessor names scope guard a)) (scope : Scope)
    (n : Node) (h : n.Each accessor key) : (Op.ofNode names scope n).Each expr key := by
  -- Expressions come from accessors, whatever the scope and the guard.
  cases n with
  | text s => exact trivial
  | interpolation value escaped => exact pass _ _ _ h
  | ifThen condition body => exact ⟨pass _ _ _ h.1, Op.each_ofNodes pass scope body h.2, trivial⟩
  | ifThenElse condition body otherwise =>
    exact ⟨pass _ _ _ h.1, Op.each_ofNodes pass scope body h.2.1,
      Op.each_ofNodes pass scope otherwise h.2.2⟩
  | each items item index body => exact ⟨pass _ _ _ h.1, Op.each_ofNodes pass _ body h.2⟩
  | inclusion name params =>
    refine ⟨?_, ?_⟩
    · cases name with
      | fixed name => exact trivial
      | computed a => exact pass _ _ _ h.1
    · intro p among
      obtain ⟨q, held, rfl⟩ := List.mem_map.1 among
      exact ⟨(h.2 q held).1, pass _ _ _ (h.2 q held).2⟩

/-- What holds of the accessors and names of nodes holds of the expressions and names of their
steps. -/
theorem Op.each_ofNodes
    (pass : ∀ scope guard a, accessor a → expr (.ofAccessor names scope guard a)) (scope : Scope)
    (ns : List Node) (h : Node.EachAll accessor key ns) :
    Op.EachAll expr key (Op.ofNodes names scope ns) := by
  cases ns with
  | nil => exact trivial
  | cons n rest => exact ⟨Op.each_ofNode pass scope n h.1, Op.each_ofNodes pass scope rest h.2⟩

end

end

/-! ## Names in the grammar -/

/-- A name that is written as a word. -/
def WordName (s : String) : Prop := IsWord s.toList

/-- A lexeme that is a word if it is an identifier. -/
def Lexeme.Worded : Lexeme → Prop
  | identifier s => WordName s
  | _ => True

/-- All names of an accessor are words. -/
def Accessor.Worded (a : Accessor) : Prop := ∀ s ∈ a.names, WordName s

namespace Grammar

variable {u : List Lexeme}

theorem Dotted.spelled {more : List String} (h : Dotted u more) (words : ∀ l ∈ u, l.Worded) :
    ∀ s ∈ more, WordName s := by
  induction h with
  | nil => simp
  | cons s _ ih =>
    simp only [List.forall_mem_cons] at words ⊢
    exact ⟨words.2.1, ih words.2.2⟩

theorem Piped.spelled {more : List String} (h : Piped u more) (words : ∀ l ∈ u, l.Worded) :
    ∀ s ∈ more, WordName s := by
  induction h with
  | nil => simp
  | cons s _ ih =>
    simp only [List.forall_mem_cons] at words ⊢
    exact ⟨words.2.2.1, ih words.2.2.2⟩

/-- An accessor that is read from words has words for names. -/
theorem IsAccessor.worded {a : Accessor} (h : IsAccessor u a) (words : ∀ l ∈ u, l.Worded) :
    a.Worded := by
  cases h with
  | intro head dotted piped =>
    simp only [List.forall_mem_cons, List.forall_mem_append] at words
    simp only [Accessor.Worded, Accessor.names, Accessor.path, List.forall_mem_append,
      List.forall_mem_cons]
    exact ⟨⟨words.1, dotted.spelled words.2.1⟩, piped.spelled words.2.2⟩

theorem Params.worded {params : List (String × Accessor)} (h : Params u params)
    (words : ∀ l ∈ u, l.Worded) : ∀ p ∈ params, WordName p.1 ∧ p.2.Worded := by
  have param : ∀ {u p}, Param u p → (∀ l ∈ u, l.Worded) → WordName p.1 ∧ p.2.Worded := by
    rintro u p ⟨key, accessor⟩ words
    simp only [List.forall_mem_cons] at words
    exact ⟨words.1, accessor.worded words.2.2⟩
  induction h with
  | one first => simpa using param first words
  | cons first _ ih =>
    simp only [List.forall_mem_append, List.forall_mem_cons] at words ⊢
    exact ⟨param first words.1, ih words.2.2⟩

/-- A simple tag that is read from words has words for names. -/
theorem Simple.worded {n : Node} (h : Simple u n) (words : ∀ l ∈ u, l.Worded) :
    n.Each Accessor.Worded WordName := by
  have noParams : ∀ p ∈ (none : Option (List (String × Accessor))).getD [],
      WordName p.1 ∧ p.2.Worded := by simp
  cases h with
  | fixed => exact ⟨trivial, noParams⟩
  | bare => exact ⟨trivial, noParams⟩
  | escaped accessor =>
    simp only [List.forall_mem_append] at words
    exact accessor.worded words.1
  | raw accessor =>
    simp only [List.forall_mem_cons, List.forall_mem_append] at words
    exact accessor.worded words.2.1
  | computed accessor =>
    simp only [List.forall_mem_cons, List.forall_mem_append] at words
    exact ⟨accessor.worded words.2.2.1, noParams⟩
  | withParams _ params =>
    simp only [List.forall_mem_cons, List.forall_mem_append] at words
    exact ⟨trivial, params.worded words.2.2.2.2.1⟩

theorem IfHead.worded {condition : Accessor} (h : IfHead u condition)
    (words : ∀ l ∈ u, l.Worded) : condition.Worded := by
  obtain ⟨accessor⟩ := h
  simp only [List.forall_mem_cons, List.forall_mem_append] at words
  exact accessor.worded words.2.2.1

theorem EachHead.worded {items : Accessor} {item : String} {index : Option String}
    (h : EachHead u items item index) (words : ∀ l ∈ u, l.Worded) : items.Worded := by
  obtain ⟨_, accessor, _⟩ := h
  simp only [List.forall_mem_cons, List.forall_mem_append] at words
  exact accessor.worded words.2.2.1

-- The induction is on the derivation.
mutual

/-- Nodes that are read from words have words for names, at any place inside. -/
theorem Segments.worded {u : List Lexeme} {t : Template} (h : Segments u t)
    (words : ∀ l ∈ u, l.Worded) :
    Node.EachAll Accessor.Worded WordName t := by
  cases h with
  | nil => exact trivial
  | cons first rest =>
    rw [List.forall_mem_append] at words
    exact ⟨Segment.worded first words.1, Segments.worded rest words.2⟩

theorem Segment.worded {u : List Lexeme} {n : Node} (h : Segment u n) (words : ∀ l ∈ u, l.Worded) :
    n.Each Accessor.Worded WordName := by
  cases h with
  | text s => exact trivial
  | simple tag => exact tag.worded (List.forall_mem_cons.1 words).2
  | ifThen head body =>
    simp only [List.forall_mem_cons, List.forall_mem_append] at words
    obtain ⟨_, ⟨inHead, inBody⟩, _⟩ := words
    exact ⟨head.worded inHead, Segments.worded body inBody⟩
  | ifThenElse head body otherwise =>
    simp only [List.forall_mem_cons, List.forall_mem_append] at words
    obtain ⟨_, ⟨⟨⟨inHead, inBody⟩, _⟩, inOther⟩, _⟩ := words
    exact ⟨head.worded inHead, Segments.worded body inBody, Segments.worded otherwise inOther⟩
  | each head body =>
    simp only [List.forall_mem_cons, List.forall_mem_append] at words
    obtain ⟨_, ⟨inHead, inBody⟩, _⟩ := words
    exact ⟨head.worded inHead, Segments.worded body inBody⟩

end

end Grammar

/-! ## Names in sources -/

/-- The identifiers of what is read are words. -/
theorem Lexer.worded_of_tokens {state : State} {pos : Nat} {cs : List Char} {ts : List Token}
    (h : tokens state pos cs = .ok ts) : ∀ t ∈ ts, t.lexeme.Worded := by
  induction state, pos, cs using reading_induction generalizing ts with
  | ended pos =>
    cases (tokens.eq_1 pos).symm.trans h
    exact List.forall_mem_singleton.2 trivial
  | literal pos run rest ne runs ih =>
    rw [tokens_of_text ne runs] at h
    obtain ⟨us, tail, rfl⟩ := bind_pure_eq_ok.1 h
    exact List.forall_mem_cons.2 ⟨trivial, ih tail⟩
  | openTag pos rest ih =>
    rw [tokens_of_opening] at h
    obtain ⟨us, tail, rfl⟩ := bind_pure_eq_ok.1 h
    exact List.forall_mem_cons.2 ⟨trivial, ih tail⟩
  | closeTag opened pos rest ih =>
    rw [tokens_of_closing] at h
    obtain ⟨us, tail, rfl⟩ := bind_pure_eq_ok.1 h
    exact List.forall_mem_cons.2 ⟨trivial, ih tail⟩
  | piece opened pos p rest stands ih =>
    rw [tokens_of_piece stands] at h
    obtain ⟨us, tail, rfl⟩ := bind_pure_eq_ok.1 h
    refine List.forall_mem_append.2 ⟨?_, ih tail⟩
    -- Of the pieces only identifiers carry a name.
    cases p with
    | identifier w =>
      refine List.forall_mem_singleton.2 ?_
      rw [Lexeme.Worded, WordName, String.toList_ofList]
      exact stands.1
    | _ => simp [Piece.tokens, Lexeme.Worded]
  | blocked opened pos cs e blocked =>
    cases (tokens_of_blocked blocked).symm.trans h

/-- The names in a template that a source spells are words. -/
theorem Template.each_of_ofSource? {source : String} {t : Template}
    (h : Template.ofSource? source = .ok t) : Node.EachAll Accessor.Worded WordName t := by
  obtain ⟨ts, read, parsed⟩ := Template.exists_tokens_of_ofSource h
  have derived := (Parser.template_eq_ok_iff _).1 parsed
  refine derived.worded fun l among => ?_
  obtain ⟨t, held, rfl⟩ := List.mem_map.1 among
  exact Lexer.worded_of_tokens read t ((List.takeWhile_prefix _).subset held)

end TextTemplate
