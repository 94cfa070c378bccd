import TextTemplate.Proofs.HelperTables
import TextTemplate.Proofs.Parametricity

/-!
# The names of helpers

A helper that is unknown where an expression is evaluated is one that the expression calls: by a
pipe, or by its bare name (`Expr.unknown_of_eval`). In the program of a template the pipes are those
of the template, and a bare name is taken for a helper only if the template was lowered for it.
-/

namespace TextTemplate

/-- A helper that is there is never unknown, however it fails. -/
theorem HelperTable.ne_unknownHelper_of_call {table : HelperTable} {name : String}
    {args : List Value} (known : table.contains name = true)
    (other : String) : table.call name args ≠ .error (.unknownHelper other) := by
  intro failed
  rcases error_of_call failed with ⟨missing, _⟩ | ⟨_, _, same⟩
  · rw [known] at missing
    cases missing
  · cases same

/-- An error that names an unknown helper, if any, names one that the expressions call. -/
def RenderError.ChargedTo (helpers : HelperTable) (called : String → Prop) (e : RenderError) :
    Prop :=
  ∀ name, e = .unknownHelper name → helpers.contains name = false ∧ called name

/-- A helper that is unknown where an expression is evaluated is one that the expression calls. -/
theorem Expr.unknown_of_eval {helpers : HelperTable} {frame : Frame} {name : String} {e : Expr}
    (failed : e.eval helpers frame = .error (.unknownHelper name)) :
    helpers.contains name = false ∧ e.Calls name := by
  cases Expr.failure_of_eval failed with
  | unknown called missing => exact ⟨missing, called⟩

/-! ## Helpers of a template -/

def PartialName.accessors : PartialName → List Accessor
  | fixed _ => []
  | computed a => [a]

mutual

/-- The accessors of a node, and of the nodes inside it. -/
def Node.accessors : Node → List Accessor
  | .text _ => []
  | .interpolation value _ => [value]
  | .ifThen condition body => condition :: accessorsAll body
  | .ifThenElse condition body otherwise =>
    condition :: (accessorsAll body ++ accessorsAll otherwise)
  | .each items _ _ body => items :: accessorsAll body
  | .inclusion name params => name.accessors ++ (params.getD []).map (·.2)

/-- The accessors of nodes, and of the nodes inside them. -/
def Node.accessorsAll : List Node → List Accessor
  | [] => []
  | n :: rest => n.accessors ++ accessorsAll rest

end

/-- The names that occur as pipes in a template. -/
def Template.pipes (t : Template) : List String := (Node.accessorsAll t).flatMap (·.pipes)

/-- The expression resolves one of the accessors, in some scope. -/
def Expr.Resolves (names : List String) (accessors : List Accessor) (e : Expr) : Prop :=
  ∃ scope guard, ∃ a ∈ accessors, e = .ofAccessor names scope guard a

section
variable {names : List String} {accessors more : List Accessor} {e : Expr}

/-- An expression that resolves one of some accessors resolves one of more. -/
theorem Expr.Resolves.mono (h : e.Resolves names accessors) (sub : accessors ⊆ more) :
    e.Resolves names more := by
  obtain ⟨scope, guard, a, among, same⟩ := h
  exact ⟨scope, guard, a, sub among, same⟩

theorem Expr.resolves_ofAccessor {a : Accessor} (among : a ∈ accessors) (scope : Scope)
    (guard : Guard) : (Expr.ofAccessor names scope guard a).Resolves names accessors :=
  ⟨scope, guard, a, among, rfl⟩

-- The induction is on the nodes; a loop changes the scope of its body.
mutual

/-- The expressions of a step resolve the accessors of its node. -/
theorem Op.resolves_ofNode (scope : Scope) (n : Node)
    (among : e ∈ (Op.ofNode names scope n).exprs) : e.Resolves names n.accessors := by
  -- The first expression of a step is that of its accessor, and the others are those of the nodes
  -- inside.
  cases n with
  | text s => cases among
  | interpolation value escaped =>
    cases List.mem_singleton.1 among
    exact Expr.resolves_ofAccessor (List.mem_cons_self ..) _ _
  | ifThen condition body =>
    rw [Op.ofNode, Op.exprs, Op.exprsAll, List.append_nil] at among
    rcases List.mem_cons.1 among with rfl | among
    · exact Expr.resolves_ofAccessor (List.mem_cons_self ..) _ _
    · exact (Op.resolves_ofNodes scope body among).mono (List.subset_cons_self ..)
  | ifThenElse condition body otherwise =>
    rw [Op.ofNode, Op.exprs] at among
    rcases List.mem_cons.1 among with rfl | among
    · exact Expr.resolves_ofAccessor (List.mem_cons_self ..) _ _
    · apply Expr.Resolves.mono ?_ (List.subset_cons_self ..)
      rcases List.mem_append.1 among with among | among
      · exact (Op.resolves_ofNodes scope body among).mono (List.subset_append_left ..)
      · exact (Op.resolves_ofNodes scope otherwise among).mono (List.subset_append_right ..)
  | each items item index body =>
    rw [Op.ofNode, Op.exprs] at among
    rcases List.mem_cons.1 among with rfl | among
    · exact Expr.resolves_ofAccessor (List.mem_cons_self ..) _ _
    · exact (Op.resolves_ofNodes _ body among).mono (List.subset_cons_self ..)
  | inclusion name params =>
    simp only [Op.ofNode, Op.exprs] at among
    rcases List.mem_append.1 among with among | among
    · cases name with
      | fixed name => cases among
      | computed a =>
        cases List.mem_singleton.1 among
        exact Expr.resolves_ofAccessor (List.mem_cons_self ..) _ _
    · rw [List.map_map] at among
      obtain ⟨p, held, rfl⟩ := List.mem_map.1 among
      exact Expr.resolves_ofAccessor
        (List.mem_append_right _ (List.mem_map_of_mem held)) scope .optional

theorem Op.resolves_ofNodes (scope : Scope) (ns : List Node)
    (among : e ∈ Op.exprsAll (Op.ofNodes names scope ns)) :
    e.Resolves names (Node.accessorsAll ns) := by
  cases ns with
  | nil => cases among
  | cons n rest =>
    rw [Op.ofNodes, Op.exprsAll] at among
    rcases List.mem_append.1 among with among | among
    · exact (Op.resolves_ofNode scope n among).mono (List.subset_append_left ..)
    · exact (Op.resolves_ofNodes scope rest among).mono (List.subset_append_right ..)

end

/-- The pipes of an expression are pipes of the template that its program was lowered from. -/
theorem Program.mem_pipes_ofTemplate {t : Template} {name : String}
    (among : e ∈ (Program.ofTemplate names t).exprs) (piped : name ∈ e.pipes) : name ∈ t.pipes := by
  obtain ⟨scope, guard, a, held, rfl⟩ := Op.resolves_ofNodes [] t among
  exact List.mem_flatMap.2 ⟨a, held, piped⟩

/-- A bare name that was taken for a helper is one that the template was lowered for. -/
theorem Program.mem_names_ofTemplate {t : Template} {name : String}
    (among : e ∈ (Program.ofTemplate names t).exprs) (bare : e.base = .helper name) :
    name ∈ names := by
  obtain ⟨scope, guard, a, _, rfl⟩ := Op.resolves_ofNodes [] t among
  simp only [Expr.ofAccessor] at bare
  split at bare
  · cases bare
  · split at bare
    · next known =>
      cases bare
      exact known.2
    · cases bare

end

end TextTemplate
