import TextTemplate.Proofs.Lowering

/-!
# Relations between readings

A relation between readings that respects results, errors and readings in a row
(`Reading.Congruence`) relates the readings of a node as soon as it relates those of its inclusions
(`Interpretation.related_nodes`). The environments need not be the same, as long as they cannot be
told apart through the heads of accessors that the node leaves free (`Env.Alike`).

A property of readings that readings in a row keep is such a relation as well: its second side does
not matter.
-/

namespace TextTemplate

/-! ## Free heads -/

/-- The heads of the accessors of an inclusion. -/
def PartialName.heads : PartialName → List String
  | fixed _ => []
  | computed a => [a.head]

mutual

/-- The heads of the accessors of a node that no loop inside the node binds. -/
def Node.freeHeads : Node → List String
  | .text _ => []
  | .interpolation value _ => [value.head]
  | .ifThen condition body => condition.head :: Node.freeHeadsAll body
  | .ifThenElse condition body otherwise =>
    condition.head :: (Node.freeHeadsAll body ++ Node.freeHeadsAll otherwise)
  | .each items item index body =>
    items.head :: (Node.freeHeadsAll body).filter fun head => head ≠ item ∧ index ≠ some head
  | .inclusion name params => name.heads ++ (params.getD []).map (·.2.head)

/-- The heads of the accessors of nodes that no loop inside them binds. -/
def Node.freeHeadsAll : List Node → List String
  | [] => []
  | n :: rest => n.freeHeads ++ Node.freeHeadsAll rest

end

namespace Env

variable {item head : String} {index : Option String}

/-- A loop leaves the bindings of other names alone. -/
theorem lookup_enter_of_ne (notItem : head ≠ item) (notIndex : index ≠ some head) (i : Nat)
    (v : Value) (env : Env) :
    (env.enter item index i v).bound.lookup head = env.bound.lookup head := by
  have other : (head == item) = false := beq_false_of_ne notItem
  cases index with
  | none => simp only [enter, List.lookup_cons, other]
  | some name =>
    have other' : (head == name) = false :=
      beq_false_of_ne fun same => notIndex (same ▸ rfl)
    simp only [enter, List.lookup_cons, other, other']

/-- What a loop binds does not depend on the bindings around it. -/
theorem lookup_enter_of_bound (bound : head = item ∨ index = some head) (i : Nat) (v : Value)
    (env env' : Env) : (env.enter item index i v).bound.lookup head =
      (env'.enter item index i v).bound.lookup head := by
  cases index with
  | none =>
    have isItem : head = item := bound.resolve_right nofun
    simp only [enter, List.lookup_cons, isItem, beq_self_eq_true]
  | some name =>
    by_cases isIndex : head = name
    · simp only [enter, List.lookup_cons, isIndex, beq_self_eq_true]
    · have isItem : head = item :=
        bound.resolve_right fun same => isIndex (Option.some.inj same).symm
      simp only [enter, List.lookup_cons, isItem, beq_self_eq_true]

end Env

/-- Environments that cannot be told apart through accessors with one of the heads. -/
structure Env.Alike (heads : List String) (env env' : Env) : Prop where
  visible : env.visible = env'.visible
  get? : ∀ key, env.root.get? key = env'.root.get? key
  rootWith : ∀ params, env.rootWith params = env'.rootWith params
  lookup : ∀ head ∈ heads, env.bound.lookup head = env'.bound.lookup head

namespace Env.Alike

variable {heads more : List String} {env env' : Env}

theorem refl (heads : List String) (env : Env) : Env.Alike heads env env :=
  ⟨rfl, fun _ => rfl, fun _ => rfl, fun _ _ => rfl⟩

/-- Environments that are alike at some heads are alike at fewer. -/
theorem of_subset (h : Env.Alike heads env env') (sub : more ⊆ heads) : Env.Alike more env env' :=
  ⟨h.visible, h.get?, h.rootWith, fun head held => h.lookup head (sub held)⟩

/-- Inside a loop the heads that it binds are alike as well. -/
theorem enter {item : String} {index : Option String}
    (h : Env.Alike (heads.filter fun head => head ≠ item ∧ index ≠ some head) env env') (i : Nat)
    (v : Value) : Env.Alike heads (env.enter item index i v) (env'.enter item index i v) := by
  have lookup : ∀ head ∈ heads, (env.enter item index i v).bound.lookup head =
      (env'.enter item index i v).bound.lookup head := by
    intro head held
    by_cases bound : head = item ∨ index = some head
    · exact lookup_enter_of_bound bound i v env env'
    · rw [not_or] at bound
      rw [lookup_enter_of_ne bound.1 bound.2, lookup_enter_of_ne bound.1 bound.2]
      exact h.lookup head (List.mem_filter.2 ⟨held, by simp [bound]⟩)
  cases index with
  | none => exact ⟨h.visible, h.get?, h.rootWith, lookup⟩
  | some name => exact ⟨h.visible, h.get?, h.rootWith, lookup⟩

variable {helpers : HelperTable} {a : Accessor}

/-- Whether a head is taken for a helper depends on what the environment knows of it alone. -/
theorem namesHelper (h : Env.Alike heads env env') (held : a.head ∈ heads) :
    a.namesHelper env = a.namesHelper env' := by
  simp only [Accessor.namesHelper, h.lookup a.head held, h.visible]

/-- An accessor sees of its environment only what that knows of its head. -/
theorem pathValue (h : Env.Alike heads env env') (held : a.head ∈ heads) :
    a.pathValue helpers env = a.pathValue helpers env' := by
  simp only [Accessor.pathValue, h.namesHelper held, h.lookup a.head held, Accessor.path,
    Value.getPath?_cons, h.get?]

theorem requiredValue (h : Env.Alike heads env env') (held : a.head ∈ heads) :
    a.requiredValue helpers env = a.requiredValue helpers env' := by
  simp only [Accessor.requiredValue, Accessor.pipedValue, h.pathValue held]

theorem optionalValue (h : Env.Alike heads env env') (held : a.head ∈ heads) :
    a.optionalValue helpers env = a.optionalValue helpers env' := by
  simp only [Accessor.optionalValue, Accessor.pipedValue, h.pathValue held, h.namesHelper held]

theorem nameValue (h : Env.Alike heads env env') {name : PartialName} (held : name.heads ⊆ heads) :
    name.value helpers env = name.value helpers env' := by
  cases name with
  | fixed name => rfl
  | computed a => simp only [PartialName.value, h.requiredValue (held (List.mem_singleton.2 rfl))]

/-- The values of parameters depend on the heads of their accessors only. -/
theorem paramValues (h : Env.Alike heads env env') {params : List (String × Accessor)}
    (held : params.map (·.2.head) ⊆ heads) :
    (params.mapM fun (key, a) => do
        let v ← a.optionalValue helpers env
        return (key, v)) =
      params.mapM fun (key, a) => do
        let v ← a.optionalValue helpers env'
        return (key, v) := by
  induction params with
  | nil => rfl
  | cons p rest ih =>
    rcases p with ⟨key, a⟩
    rw [List.map_cons, List.cons_subset] at held
    simp only [List.mapM_cons, ih held.2, h.optionalValue held.1]

end Env.Alike

/-! ## Relations -/

/-- A relation between readings that respects how readings are put together. -/
structure Reading.Congruence (R : ∀ {α : Type}, Reading α → Reading α → Prop) : Prop where
  pure : ∀ {α : Type} (a : α), R (pure a) (pure a)
  throw : ∀ {α : Type} (e : RenderError), R (throw e : Reading α) (throw e)
  bind : ∀ {α β : Type} {y z : Reading α} {f g : α → Reading β}, R y z →
    (∀ a, R (f a) (g a)) → R (y >>= f) (z >>= g)

namespace Reading.Congruence

variable {R : ∀ {α : Type}, Reading α → Reading α → Prop}

theorem lift (c : Congruence R) {α : Type} (x : Except RenderError α) :
    R (Reading.lift x) (Reading.lift x) := by
  cases x with
  | error e => exact c.throw e
  | ok a => exact c.pure a

/-- A result that both readings share does not matter. -/
theorem bind_lift (c : Congruence R) {α β : Type} (x : Except RenderError α)
    {f g : α → Reading β} (h : ∀ a, R (f a) (g a)) :
    R (Reading.lift x >>= f) (Reading.lift x >>= g) := c.bind (c.lift x) h

/-- A loop is related to another if its body is at each member. -/
theorem eachMember (c : Congruence R) {body body' : Nat → Value → Reading String}
    (h : ∀ i v, R (body i v) (body' i v)) (i : Nat) (vs : List Value) :
    R (Reading.eachMember body i vs) (Reading.eachMember body' i vs) := by
  induction vs generalizing i with
  | nil => exact c.pure _
  | cons v rest ih =>
    apply c.bind (h i v)
    intro out
    apply c.bind (ih (i + 1))
    exact fun more => c.pure _

end Reading.Congruence

namespace Interpretation

open Reading

variable {R : ∀ {α : Type}, Reading α → Reading α → Prop} {helpers : HelperTable}
  {including including' : Inclusion}

/-- The inclusions are related in all environments that are alike. -/
def RelatedAt (R : ∀ {α : Type}, Reading α → Reading α → Prop) (including including' : Inclusion) :
    Prop :=
  ∀ env env' name (params : List (String × Accessor)),
    Env.Alike (name.heads ++ params.map (·.2.head)) env env' →
      R (including env name params) (including' env' name params)

mutual

/-- A reading only depends on what the environment knows of the free heads, and on its inclusions.
-/
theorem related_node (c : Congruence R) (h : RelatedAt R including including') {env env' : Env}
    (n : Node) (alike : Env.Alike n.freeHeads env env') :
    R (node helpers including env n) (node helpers including' env' n) := by
  -- A node evaluates its accessor first, which is alike in both, and then goes on by its value.
  cases n with
  | text s => exact c.pure _
  | interpolation value escaped =>
    rw [node, node, alike.requiredValue (a := value) (by simp [Node.freeHeads])]
    apply c.bind_lift
    intro v
    split
    · exact c.bind_lift _ fun _ => c.pure _
    · exact c.pure _
  | ifThen condition body =>
    rw [node, node, alike.optionalValue (a := condition) (by simp [Node.freeHeads])]
    apply c.bind_lift
    intro v
    split
    · exact related_nodes c h body (alike.of_subset (by simp [Node.freeHeads]))
    · exact c.pure _
  | ifThenElse condition body otherwise =>
    rw [node, node, alike.optionalValue (a := condition) (by simp [Node.freeHeads])]
    apply c.bind_lift
    intro v
    split
    · exact related_nodes c h body (alike.of_subset (by simp [Node.freeHeads]))
    · exact related_nodes c h otherwise (alike.of_subset (by simp [Node.freeHeads]))
  | each items item index body =>
    have inside : ∀ i v, R (nodes helpers including (env.enter item index i v) body)
        (nodes helpers including' (env'.enter item index i v) body) := by
      intro i v
      apply related_nodes c h body
      exact (alike.of_subset (by simp [Node.freeHeads])).enter i v
    rw [node, node, alike.optionalValue (a := items) (by simp [Node.freeHeads])]
    apply c.bind_lift
    intro v
    cases v with
    | null => exact c.pure _
    | list members => exact c.eachMember inside 0 members
    | _ => exact c.throw _
  | inclusion name params => exact h env env' name (params.getD []) alike

theorem related_nodes (c : Congruence R) (h : RelatedAt R including including') {env env' : Env}
    (ns : List Node) (alike : Env.Alike (Node.freeHeadsAll ns) env env') :
    R (nodes helpers including env ns) (nodes helpers including' env' ns) := by
  cases ns with
  | nil => exact c.pure _
  | cons n rest =>
    rw [nodes, nodes]
    apply c.bind (related_node c h n (alike.of_subset (by simp [Node.freeHeadsAll])))
    intro out
    apply c.bind (related_nodes c h rest (alike.of_subset (by simp [Node.freeHeadsAll])))
    exact fun more => c.pure _

end

variable {maxDepth maxDepth' : Nat}

/-- Inclusions of which none may nest are refused alike. -/
theorem relatedAt_refused (c : Congruence R) :
    RelatedAt R (inclusion helpers maxDepth none) (inclusion helpers maxDepth none) := by
  intro env env' name params alike
  rw [inclusion, inclusion, alike.nameValue (List.subset_append_left ..)]
  exact c.bind_lift _ fun name => c.throw _

/-- Inclusions are related if the included templates are, and if the relation respects how their
texts are found and read. -/
theorem relatedAt_inclusion (c : Congruence R) (resolve : ∀ name, R (resolve name) (resolve name))
    (parse : ∀ name text, R (parse name text) (parse name text))
    {body body' : Env → Template → Reading String} (h : ∀ env t, R (body env t) (body' env t)) :
    RelatedAt R (inclusion helpers maxDepth (some body))
      (inclusion helpers maxDepth' (some body')) := by
  intro env env' name params alike
  rw [inclusion, inclusion, alike.nameValue (List.subset_append_left ..),
    alike.paramValues (List.subset_append_right ..)]
  -- Name, text, template and parameters come in this order, and each of them may fail.
  apply c.bind_lift
  intro name
  apply c.bind (resolve name)
  intro text
  apply c.bind (parse name text)
  intro t
  apply c.bind_lift
  intro values
  rw [alike.rootWith]
  exact h _ t

/-- A template is related to itself at each depth. -/
theorem related_template (c : Congruence R) (resolve : ∀ name, R (resolve name) (resolve name))
    (parse : ∀ name text, R (parse name text) (parse name text)) (maxDepth depth : Nat)
    {env env' : Env} (t : Template) (alike : Env.Alike (Node.freeHeadsAll t) env env') :
    R (template helpers maxDepth depth env t) (template helpers maxDepth depth env' t) := by
  induction depth generalizing env env' t with
  | zero => exact related_nodes c (relatedAt_refused c) t alike
  | succ depth ih =>
    apply related_nodes c (relatedAt_inclusion c resolve parse ?_) t alike
    exact fun env t => ih t (.refl _ env)

end Interpretation

end TextTemplate
