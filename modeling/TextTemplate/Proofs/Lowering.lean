import TextTemplate.Proofs.Interpretation

/-!
# Names and slots

The lowering counts the bindings around a node and a program counts the values that its loops have
bound. Both counts agree with an environment of named bindings: its names are the scope, its values
are the frame (`Env.scope`, `Env.frame`). So a resolved accessor has the value that it has by its
names (`Expr.eval_ofAccessor`).

Of the names of the helpers the lowering only asks which ones there are
(`Program.ofTemplate_congr`).
-/

namespace TextTemplate

namespace Env

/-- The names of the bindings, as the lowering sees them. -/
def scope (env : Env) : Scope := env.bound.map (·.1)

/-- The context with the values of the bindings, as a program sees them. -/
def frame (env : Env) : Frame := ⟨env.root, env.bound.map (·.2)⟩

@[simp] theorem visible_enter (item : String) (index : Option String) (i : Nat) (v : Value)
    (env : Env) : (env.enter item index i v).visible = env.visible := by
  cases index <;> rfl

@[simp] theorem scope_enter (item : String) (index : Option String) (i : Nat) (v : Value)
    (env : Env) : (env.enter item index i v).scope = env.scope.enter item index := by
  cases index <;> rfl

/-- Inside a loop, the frame of an environment is the frame as the loop has entered it. -/
@[simp] theorem frame_enter (item : String) (index : Option String) (i : Nat) (v : Value)
    (env : Env) : (env.enter item index i v).frame =
      env.frame.enter v (if index.isSome then some i else none) := by
  cases index <;> rfl

theorem partialContext_frame (params : List (String × Value)) (env : Env) :
    env.frame.partialContext params = env.rootWith params := rfl

end Env

/-! ## Slots and names -/

/-- A slot counts bindings that are there. -/
theorem slot?_lt {name : String} {scope : Scope} {slot : Nat}
    (h : scope.slot? name = some slot) : slot < scope.length := by
  induction scope with
  | nil => cases h
  | cons bound outer ih =>
    simp only [Scope.slot?] at h
    split at h
    · cases h
      simp
    · have := ih h
      simp only [List.length_cons]
      omega

/-- A name without a slot is not bound. -/
theorem lookup_of_slot?_eq_none {name : String} {bound : List (String × Value)}
    (h : Scope.slot? name (bound.map (·.1)) = none) : bound.lookup name = none := by
  induction bound with
  | nil => rfl
  | cons b outer ih =>
    rcases b with ⟨key, value⟩
    simp only [List.map_cons, Scope.slot?] at h
    split at h
    · cases h
    · next other =>
      rw [List.lookup_cons, beq_false_of_ne (fun same => other same.symm)]
      exact ih h

/-- The slot of a name holds the value of its innermost binding. -/
theorem slotValue?_of_slot? {name : String} {bound : List (String × Value)} {slot : Nat}
    (h : Scope.slot? name (bound.map (·.1)) = some slot) :
    slotValue? slot (bound.map (·.2)) = bound.lookup name ∧ (bound.lookup name).isSome := by
  induction bound with
  | nil => cases h
  | cons b outer ih =>
    rcases b with ⟨key, value⟩
    simp only [List.map_cons, Scope.slot?] at h
    split at h
    · next same =>
      cases h
      simp [slotValue?, same]
    · next other =>
      -- A binding further out has a smaller slot, and so the innermost one is not meant.
      have inner := slot?_lt h
      simp only [List.length_map] at inner
      rw [List.lookup_cons, beq_false_of_ne (fun same => other same.symm)]
      rw [List.map_cons, slotValue?, if_neg (by rw [List.length_map]; omega)]
      exact ih h

/-! ## Accessors -/

variable {helpers : HelperTable}

/-- The pipes of an expression are those of its accessor, one by one. -/
theorem Expr.pipe_eq_foldlM (v : Value) (pipes : List String) :
    Expr.pipe helpers v pipes = pipes.foldlM (fun v name => helpers.call name [v]) v := by
  induction pipes generalizing v with
  | nil => rfl
  | cons name rest ih => simp only [Expr.pipe, List.foldlM_cons, ih]

/-- An absent value counts as null; null is refused where there has to be a value. -/
theorem Expr.evalFrom_eq_piped (e : Expr) (found : Option Value) :
    e.evalFrom helpers found = (do
      let v ← Accessor.piped helpers (found.getD .null) e.pipes
      if e.guard = .required ∧ v.isNull then .error (.missingValue e.path) else .ok v) := by
  have absent : e.absent helpers = (do
      let v ← Accessor.piped helpers .null e.pipes
      if e.guard = .required ∧ v.isNull then .error (.missingValue e.path) else .ok v) := by
    simp only [Expr.absent, Accessor.piped, Value.isNull, if_true]
    cases e.pipes.find? fun name => !helpers.contains name with
    | some name => rfl
    | none => cases e.guard <;> rfl
  cases found with
  | none => exact absent
  | some v =>
    -- A null that is found counts as nothing found; other values go through the pipes.
    cases v
    case null => exact absent
    all_goals
      simp only [Expr.evalFrom, Expr.pipe_eq_foldlM, Accessor.piped, Value.isNull, Option.getD_some]
      rfl

theorem Value.getPath?_cons (name : String) (tail : List String) (v : Value) :
    v.getPath? (name :: tail) = (v.get? name).bind (·.getPath? tail) := by
  rw [Value.getPath?]
  cases v.get? name <;> rfl

theorem bind_ok {ε α : Type} (x : Except ε α) : (x >>= fun a => .ok a) = x := by
  cases x <;> rfl

variable (env : Env)

/-- Where a value may be absent, an accessor is worth its pipes' value, but for a helper's bare
name; where it may not, null is refused. -/
theorem Accessor.value_eq_piped (a : Accessor) (v : Value) (guard : Guard)
    (h : a.pathValue helpers env = .ok v) (plain : a.namesHelper env = false) :
    (match guard with
      | .required => a.requiredValue helpers env
      | .optional => a.optionalValue helpers env) = (do
        let v ← Accessor.piped helpers v a.pipes
        if guard = .required ∧ v.isNull then .error (.missingValue a.dotted) else .ok v) := by
  cases guard with
  | required =>
    simp only [Accessor.requiredValue, Accessor.pipedValue, h, true_and]
    rfl
  | optional =>
    simp only [Accessor.optionalValue, Accessor.pipedValue, h, plain, reduceCtorEq, false_and,
      if_false, bind_ok]
    rfl

/-- A resolved accessor has the value that it has by its names. -/
theorem Expr.eval_ofAccessor (guard : Guard) (a : Accessor) :
    (Expr.ofAccessor env.visible env.scope guard a).eval helpers env.frame =
      match guard with
      | .required => a.requiredValue helpers env
      | .optional => a.optionalValue helpers env := by
  cases slot : Scope.slot? a.head (env.bound.map (·.1)) with
  | some slot =>
    -- A loop binds the head, so neither a helper nor the context is asked.
    rcases slotValue?_of_slot? slot with ⟨sameValue, held⟩
    rcases Option.isSome_iff_exists.1 held with ⟨v, bound⟩
    have plain : a.namesHelper env = false := by simp [Accessor.namesHelper, bound]
    have path : a.pathValue helpers env = .ok ((v.getPath? a.tail).getD .null) := by
      simp only [Accessor.pathValue, bound]
    rw [Accessor.value_eq_piped env a _ guard path plain]
    simp only [Expr.eval, Expr.ofAccessor, Env.scope, Env.frame, slot, sameValue, bound,
      Option.bind_some, Expr.evalFrom_eq_piped]
  | none =>
    have free := lookup_of_slot?_eq_none slot
    by_cases bare : a.tail = [] ∧ a.head ∈ env.visible
    · -- A helper's name: its value where one is required, else only whether it is there.
      have named : a.namesHelper env = true := by simp [Accessor.namesHelper, free, bare]
      have path : a.pathValue helpers env = helpers.call a.head [] := by
        simp only [Accessor.pathValue, free, named, if_true]
      simp only [Expr.eval, Expr.ofAccessor, Env.scope, slot, bare, and_self, if_true]
      cases guard with
      | required =>
        simp only [Accessor.requiredValue, Accessor.pipedValue, path, reduceCtorEq, false_and,
          if_false, Expr.evalFrom_eq_piped, Option.getD_some, true_and, bind_assoc]
      | optional =>
        simp only [Accessor.optionalValue, Accessor.pipedValue, path, named, true_and,
          Expr.evalFrom_eq_piped, Option.getD_some, reduceCtorEq, false_and, if_false, bind_ok]
    · -- A path into the context.
      have plain : a.namesHelper env = false := by
        simpa [Accessor.namesHelper, free] using fun h => by simpa [h] using bare
      have path : a.pathValue helpers env = .ok ((env.root.getPath? a.path).getD .null) := by
        simp [Accessor.pathValue, free, plain]
      rw [Accessor.value_eq_piped env a _ guard path plain]
      simp only [Expr.eval, Expr.ofAccessor, Env.scope, Env.frame, slot, bare, if_false,
        Accessor.path, Value.getPath?_cons, Expr.evalFrom_eq_piped]

/-- The parameters of an inclusion have the values that they have by their names. -/
theorem Expr.evalParams_ofAccessor (params : List (String × Accessor)) :
    Expr.evalParams helpers env.frame
        (params.map fun (key, a) => (key, .ofAccessor env.visible env.scope .optional a)) =
      params.mapM fun (key, a) => do
        let v ← a.optionalValue helpers env
        return (key, v) := by
  induction params with
  | nil => rfl
  | cons p rest ih =>
    rw [List.map_cons, Expr.evalParams, List.mapM_cons, ih, Expr.eval_ofAccessor]
    simp only [bind_assoc, pure_bind]

/-! ## The names of the helpers -/

/-- Lowering does not depend on the order of the names of helpers. -/
theorem Expr.ofAccessor_congr {names others : List String} (same : ∀ n, n ∈ names ↔ n ∈ others)
    (scope : Scope) (guard : Guard) (a : Accessor) :
    Expr.ofAccessor names scope guard a = Expr.ofAccessor others scope guard a := by
  simp only [Expr.ofAccessor, same]

mutual

/-- A node has one step for lists with the same names. -/
theorem Op.ofNode_congr {names others : List String} (same : ∀ n, n ∈ names ↔ n ∈ others)
    (scope : Scope) (n : Node) : Op.ofNode names scope n = Op.ofNode others scope n := by
  -- Names are asked for in accessors alone.
  cases n with
  | text s => rfl
  | interpolation value escaped =>
    simp only [Op.ofNode, Expr.ofAccessor_congr same]
  | ifThen condition body =>
    simp only [Op.ofNode, Expr.ofAccessor_congr same]
    rw [Op.ofNodes_congr same scope body]
  | ifThenElse condition body otherwise =>
    simp only [Op.ofNode, Expr.ofAccessor_congr same]
    rw [Op.ofNodes_congr same scope body, Op.ofNodes_congr same scope otherwise]
  | each items item index body =>
    simp only [Op.ofNode, Expr.ofAccessor_congr same]
    rw [Op.ofNodes_congr same (scope.enter item index) body]
  | inclusion name params =>
    cases name <;> simp only [Op.ofNode, Expr.ofAccessor_congr same]

theorem Op.ofNodes_congr {names others : List String} (same : ∀ n, n ∈ names ↔ n ∈ others)
    (scope : Scope) (ns : List Node) : Op.ofNodes names scope ns = Op.ofNodes others scope ns := by
  cases ns with
  | nil => rfl
  | cons n rest =>
    rw [Op.ofNodes, Op.ofNodes, Op.ofNode_congr same scope n, Op.ofNodes_congr same scope rest]

end

/-- A program depends on the set of the names of the helpers, not on their order. -/
theorem Program.ofTemplate_congr {names others : List String}
    (same : ∀ n, n ∈ names ↔ n ∈ others) (t : Template) :
    Program.ofTemplate names t = Program.ofTemplate others t := by
  rw [Program.ofTemplate, Op.ofNodes_congr same [] t, Program.ofTemplate]

end TextTemplate
