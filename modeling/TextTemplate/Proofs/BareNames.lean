import Mathlib
import TextTemplate.Proofs.Coherence

/-!
# Bare names

A template refers to a name bare where an accessor is just this name and no loop around binds it
(`Template.RefersBare`). The names of helpers matter there and nowhere else: lowered for two lists
of names, a template has one program if and only if the lists agree on its bare names
(`Artifact.program_eq_iff`). That is shown accessor by accessor (`Expr.ofAccessor_eq_iff`) and
carried along the nodes, in both directions at once.
-/

namespace TextTemplate

/-! ## Occurrences of accessors -/

/-- The accessors of the name of an inclusion, with the names bound around them. -/
def PartialName.occurrences (scope : Scope) : PartialName → List (Scope × Accessor)
  | fixed _ => []
  | computed a => [(scope, a)]

mutual

/-- The accessors of a node and of the nodes inside it, each with the names that the loops around it
bind. The value of a loop stands outside of the loop. -/
def Node.occurrences (scope : Scope) : Node → List (Scope × Accessor)
  | .text _ => []
  | .interpolation value _ => [(scope, value)]
  | .ifThen condition body => (scope, condition) :: occurrencesAll scope body
  | .ifThenElse condition body otherwise =>
    (scope, condition) :: (occurrencesAll scope body ++ occurrencesAll scope otherwise)
  | .each items item index body =>
    (scope, items) :: occurrencesAll (scope.enter item index) body
  | .inclusion name params =>
    name.occurrences scope ++ (params.getD []).map fun (_, a) => (scope, a)

/-- The accessors of nodes and of the nodes inside them. -/
def Node.occurrencesAll (scope : Scope) : List Node → List (Scope × Accessor)
  | [] => []
  | n :: rest => n.occurrences scope ++ occurrencesAll scope rest

end

/-- Somewhere in the template an accessor is just the name, and no loop around it binds the name. -/
def Template.RefersBare (t : Template) (name : String) : Prop :=
  ∃ o ∈ Node.occurrencesAll [] t, o.2.path = [name] ∧ name ∉ o.1

/-! ## Accessors -/

/-- A name has a slot exactly if a loop around it binds it. -/
theorem Scope.slot?_eq_none_iff {name : String} {scope : Scope} :
    scope.slot? name = none ↔ name ∉ scope := by
  induction scope with
  | nil => exact ⟨fun _ => List.not_mem_nil, fun _ => rfl⟩
  | cons bound outer ih =>
    rw [Scope.slot?, List.mem_cons, not_or]
    by_cases same : bound = name
    · simp [same]
    · rw [if_neg same, ih]
      exact ⟨fun free => ⟨Ne.symm same, free⟩, fun free => free.2⟩

section
variable {names others : List String}

/-- The two lists of helpers agree on what an accessor refers to, if it is a bare name. -/
def AgreeOn (names others : List String) (o : Scope × Accessor) : Prop :=
  ∀ name, o.2.path = [name] → name ∉ o.1 → (name ∈ names ↔ name ∈ others)

/-- An accessor has one expression for both lists if and only if they agree on it. -/
theorem Expr.ofAccessor_eq_iff {scope : Scope} {guard : Guard} {a : Accessor} :
    ofAccessor names scope guard a = ofAccessor others scope guard a ↔
      AgreeOn names others (scope, a) := by
  have bare : ∀ name, a.path = [name] ↔ a.head = name ∧ a.tail = [] := by
    intro name
    rw [Accessor.path, List.cons.injEq]
  simp only [AgreeOn, bare, ofAccessor, mk.injEq, and_true]
  cases slot : Scope.slot? a.head scope with
  | some slot =>
    -- A loop binds the head.
    have bound : a.head ∈ scope := by
      apply Decidable.byContradiction
      intro free
      rw [Scope.slot?_eq_none_iff.2 free] at slot
      cases slot
    refine ⟨?_, fun _ => rfl⟩
    rintro _ _ ⟨rfl, _⟩ free
    exact absurd bound free
  | none =>
    have free := Scope.slot?_eq_none_iff.1 slot
    dsimp only
    constructor
    · rintro same _ ⟨rfl, whole⟩ _
      by_cases held : a.head ∈ names <;> by_cases held' : a.head ∈ others <;>
        simp [whole, held, held'] at same ⊢
    · intro agree
      by_cases whole : a.tail = []
      · simp only [whole, true_and, agree a.head ⟨rfl, whole⟩ free]
      · simp only [whole, false_and, if_false]

/-! ## Nodes -/

/-- Parameters are lowered one by one, each in the scope of the inclusion. -/
theorem Expr.ofParams_eq_iff {scope : Scope} {params : List (String × Accessor)} :
    (params.map fun (key, a) => (key, ofAccessor names scope .optional a)) =
      (params.map fun (key, a) => (key, ofAccessor others scope .optional a)) ↔
      ∀ o ∈ params.map fun (_, a) => (scope, a), AgreeOn names others o := by
  rw [List.map_inj_left, List.forall_mem_map]
  apply forall₂_congr
  intro p _
  rw [Prod.mk.injEq, ← ofAccessor_eq_iff]
  exact and_iff_right rfl

-- The induction is on the nodes; a loop adds its names to those that are bound.
mutual

/-- A node has one step for both lists if and only if they agree on all of its accessors. -/
theorem Op.ofNode_eq_iff (scope : Scope) (n : Node) :
    ofNode names scope n = ofNode others scope n ↔
      ∀ o ∈ n.occurrences scope, AgreeOn names others o := by
  cases n with
  | text s => exact ⟨fun _ _ among => absurd among List.not_mem_nil, fun _ => rfl⟩
  | interpolation value escaped =>
    simp only [ofNode, Node.occurrences, List.forall_mem_singleton, Expr.ofAccessor_eq_iff,
      emit.injEq, and_true]
  | ifThen condition body =>
    simp only [ofNode, Node.occurrences, List.forall_mem_cons, Expr.ofAccessor_eq_iff,
      Op.ofNodes_eq_iff scope body, branch.injEq, and_true]
  | ifThenElse condition body otherwise =>
    simp only [ofNode, Node.occurrences, List.forall_mem_cons, List.forall_mem_append,
      Expr.ofAccessor_eq_iff, Op.ofNodes_eq_iff scope body, Op.ofNodes_eq_iff scope otherwise,
      branch.injEq]
  | each items item index body =>
    simp only [ofNode, Node.occurrences, List.forall_mem_cons, Expr.ofAccessor_eq_iff,
      Op.ofNodes_eq_iff (scope.enter item index) body, loop.injEq, true_and]
  | inclusion name params =>
    simp only [ofNode, Node.occurrences, List.forall_mem_append, inclusion.injEq,
      Expr.ofParams_eq_iff]
    -- The parameters are settled, and the two kinds of names are left.
    apply and_congr_left
    intro _
    cases name with
    | fixed name => exact ⟨fun _ _ among => absurd among List.not_mem_nil, fun _ => rfl⟩
    | computed value =>
      rw [IncludeName.computed.injEq, PartialName.occurrences, List.forall_mem_singleton,
        Expr.ofAccessor_eq_iff]

/-- Nodes in a row agree if each of them does. -/
theorem Op.ofNodes_eq_iff (scope : Scope) (ns : List Node) :
    ofNodes names scope ns = ofNodes others scope ns ↔
      ∀ o ∈ Node.occurrencesAll scope ns, AgreeOn names others o := by
  cases ns with
  | nil => exact ⟨fun _ _ among => absurd among List.not_mem_nil, fun _ => rfl⟩
  | cons n rest =>
    rw [ofNodes, ofNodes, List.cons.injEq, Node.occurrencesAll, List.forall_mem_append,
      Op.ofNode_eq_iff scope n, Op.ofNodes_eq_iff scope rest]

end

/-- A template has one program for both lists if and only if they agree on its bare names. -/
theorem Program.ofTemplate_eq_iff {t : Template} :
    Program.ofTemplate names t = Program.ofTemplate others t ↔
      ∀ name, t.RefersBare name → (name ∈ names ↔ name ∈ others) := by
  rw [Program.ofTemplate, Program.ofTemplate, Program.mk.injEq, Op.ofNodes_eq_iff]
  constructor
  · rintro agree name ⟨o, among, bare, free⟩
    exact agree o among name bare free
  · intro agree o among name bare free
    exact agree name ⟨o, among, bare, free⟩

end

/-! ## Sources -/

namespace Artifact

/-- **Added helpers matter where they are referred to bare.** A source that compiles with the names
of some added helpers compiles with any others, and it has the same program if and only if they
agree with the first ones, taken together with the standard names, on the bare names of its
template. Names that are no bare names, as those of pipes, heads of longer paths and loop bindings,
may be added without changing the program. -/
theorem program_eq_iff_bareNames {source : String} {names : List String} {a : Artifact}
    (compiled : compile? source names = .ok a) (others : List String) :
    ∃ t b, Template.ofSource? source = .ok t ∧ compile? source others = .ok b ∧
      (a.program = b.program ↔ ∀ name, t.RefersBare name →
        (name ∈ Helper.standardNames ++ names ↔ name ∈ Helper.standardNames ++ others)) ∧
      ∀ more : List String, (∀ name ∈ more, ¬ t.RefersBare name) →
        ∃ c, compile? source (more ++ names) = .ok c ∧ c.program = a.program := by
  obtain ⟨t, spelled, program⟩ := program_of_compile? compiled
  obtain ⟨b, compiled', program'⟩ := compile?_of_ofSource? spelled others
  refine ⟨t, b, spelled, compiled', ?_, ?_⟩
  · rw [program, program']
    exact Program.ofTemplate_eq_iff
  · intro more proper
    obtain ⟨c, compiledMore, programMore⟩ := compile?_of_ofSource? spelled (more ++ names)
    refine ⟨c, compiledMore, ?_⟩
    -- More names change nothing, as the template does not refer to them.
    rw [program, programMore, Program.ofTemplate_eq_iff]
    intro name bare
    -- A name in use is not among the added ones, so it is custom before and after alike.
    have added : name ∉ more := fun among => proper name among bare
    simp only [List.mem_append, added, false_or]

/-- The name of a helper as the value of a loop, and as the head of a path and a pipe inside it. The
names of the loop and of the path do not matter. -/
theorem program_eq_iff_bareNames_loop :
    let source := "\x7b\x7b#each now as |x|\x7d\x7d\x7b\x7bx\x7d\x7d" ++
      "\x7b\x7bday.y |> now\x7d\x7d\x7b\x7b/each\x7d\x7d"
    ∃ a b c, compile? source ["now"] = .ok a ∧ compile? source ["x", "day"] = .ok b ∧
      compile? source (["x", "day"] ++ ["now"]) = .ok c ∧ a.program ≠ b.program ∧
      c.program = a.program := by
  intro source
  let t : Template := [.each ⟨"now", [], []⟩ "x" none
    [.interpolation ⟨"x", [], []⟩ true, .interpolation ⟨"day", ["y"], ["now"]⟩ true]]
  have spelled : Template.ofSource? source = .ok t := by cbv
  obtain ⟨a, compiled, -⟩ := compile?_of_ofSource? spelled ["now"]
  obtain ⟨t', b, spelled', compiled', same, more⟩ :=
    program_eq_iff_bareNames compiled ["x", "day"]
  obtain rfl : t = t' := Except.ok.inj (spelled.symm.trans spelled')
  have bare : t.RefersBare "now" := ⟨([], ⟨"now", [], []⟩), List.mem_cons_self, rfl, by simp⟩
  have only : ∀ name, t.RefersBare name → name = "now" := by
    rintro name ⟨o, among, path, free⟩
    have all : Node.occurrencesAll [] t = [([], ⟨"now", [], []⟩), (["x"], ⟨"x", [], []⟩),
        (["x"], ⟨"day", ["y"], ["now"]⟩)] := rfl
    simp only [all, List.mem_cons, List.not_mem_nil, or_false] at among
    rcases among with rfl | rfl | rfl
    · exact (List.cons.inj path).1.symm
    · -- The loop binds it.
      cases path
      exact absurd (List.mem_singleton_self _) free
    · cases path
  obtain ⟨c, compiledMore, unchanged⟩ := more ["x", "day"] (by
    intro name among refers
    rw [only name refers] at among
    simp at among)
  refine ⟨a, b, c, compiled, compiled', compiledMore, ?_, unchanged⟩
  intro equal
  have known := (same.1 equal "now" bare).1 (by decide)
  revert known
  decide

end Artifact

end TextTemplate
