import Mathlib
import TextTemplate.Calendar.CommonLocales
import TextTemplate.Proofs.DepthLimit
import TextTemplate.Proofs.Simulation

/-!
# Inlined partials

An inclusion of a fixed name without parameters may be replaced by the nodes of the template that
the name is registered with (`Artifact.renderAlone_inlined`). The loops around the inclusion must
not bind a name that stands free in the included template, since an included template does not see
the bindings around it.

A template with a place in it is a `Place`; `Place.fill` puts nodes there. What approximates at the
place approximates as a whole (`Interpretation.related_fill`), and at the place an inclusion
approximates the nodes of the included template: it starts without bindings, on a context of the
same entries, and it may nest one inclusion less.
-/

namespace TextTemplate

/-- A template with a place for nodes in it. -/
inductive Place where
  /-- The place is between nodes. -/
  | between (before after : Template)
  | inIfThen (before : Template) (condition : Accessor) (inner : Place) (after : Template)
  | inThen (before : Template) (condition : Accessor) (inner : Place) (otherwise : Template)
    (after : Template)
  | inElse (before : Template) (condition : Accessor) (body : Template) (inner : Place)
    (after : Template)
  | inEach (before : Template) (items : Accessor) (item : String) (index : Option String)
    (inner : Place) (after : Template)

namespace Place

/-- The template with nodes at the place. -/
def fill (ns : Template) : Place → Template
  | between before after => before ++ (ns ++ after)
  | inIfThen before condition inner after => before ++ .ifThen condition (inner.fill ns) :: after
  | inThen before condition inner otherwise after =>
    before ++ .ifThenElse condition (inner.fill ns) otherwise :: after
  | inElse before condition body inner after =>
    before ++ .ifThenElse condition body (inner.fill ns) :: after
  | inEach before items item index inner after =>
    before ++ .each items item index (inner.fill ns) :: after

/-- The names that loops around the place bind. -/
def names : Place → List String
  | between _ _ => []
  | inIfThen _ _ inner _ => inner.names
  | inThen _ _ inner _ _ => inner.names
  | inElse _ _ _ inner _ => inner.names
  | inEach _ _ item index inner _ => item :: (index.toList ++ inner.names)

end Place

/-! ## Nodes at a place -/

namespace Interpretation

open Reading

section
variable {R : ∀ {α : Type}, Reading α → Reading α → Prop} {helpers : HelperTable}
  {including : Inclusion}

/-- Nodes are read in two parts, the output of the first in front. -/
theorem nodes_append (env : Env) (before after : List Node) :
    nodes helpers including env (before ++ after) = do
      let out ← nodes helpers including env before
      let more ← nodes helpers including env after
      return out ++ more := by
  induction before with
  | nil => simp only [List.nil_append, nodes, pure_bind, String.empty_append, bind_pure]
  | cons n rest ih =>
    simp only [List.cons_append, nodes, ih, bind_assoc, pure_bind, String.append_assoc]

theorem nodes_single (env : Env) (n : Node) :
    nodes helpers including env [n] = node helpers including env n := by
  simp only [nodes, pure_bind, String.append_empty, bind_pure]

/-- Nodes that are related to others are so between nodes. -/
theorem related_between (c : Congruence R) (self : RelatedAt R including including) {env : Env}
    {ns ns' : List Node} (h : R (nodes helpers including env ns) (nodes helpers including env ns'))
    (before after : List Node) :
    R (nodes helpers including env (before ++ (ns ++ after)))
      (nodes helpers including env (before ++ (ns' ++ after))) := by
  rw [nodes_append, nodes_append, nodes_append, nodes_append]
  apply c.bind (related_nodes c self before (.refl _ env))
  intro out
  apply c.bind
  · apply c.bind h
    intro middle
    exact c.bind (related_nodes c self after (.refl _ env)) fun _ => c.pure _
  · exact fun _ => c.pure _

/-- One node may stand for another among any others, if it may on its own. -/
theorem related_single (c : Congruence R) (self : RelatedAt R including including) {env : Env}
    {n n' : Node} (h : R (node helpers including env n) (node helpers including env n'))
    (before after : List Node) :
    R (nodes helpers including env (before ++ n :: after))
      (nodes helpers including env (before ++ n' :: after)) := by
  rw [← nodes_single env n, ← nodes_single env n'] at h
  exact related_between c self h before after

/-- Nodes that are related to others in every environment that leaves some heads unbound are so at
any place around which the heads are not bound. -/
theorem related_fill (c : Congruence R) (self : RelatedAt R including including)
    {heads visible : List String} {ns ns' : List Node}
    (h : ∀ env : Env, env.visible = visible → (∀ head ∈ heads, env.bound.lookup head = none) →
      R (nodes helpers including env ns) (nodes helpers including env ns'))
    (place : Place) (fresh : ∀ head ∈ heads, head ∉ place.names) (env : Env)
    (sees : env.visible = visible) (unbound : ∀ head ∈ heads, env.bound.lookup head = none) :
    R (nodes helpers including env (place.fill ns))
      (nodes helpers including env (place.fill ns')) := by
  -- By induction on the place, from the outside: the loops on the way bind other names than the
  -- heads.
  induction place generalizing env with
  | between before after => exact related_between c self (h env sees unbound) before after
  | inIfThen before condition inner after ih =>
    apply related_single c self
    rw [node, node]
    apply c.bind_lift
    intro v
    split
    · exact ih fresh env sees unbound
    · exact c.pure _
  | inThen before condition inner otherwise after ih =>
    apply related_single c self
    rw [node, node]
    apply c.bind_lift
    intro v
    split
    · exact ih fresh env sees unbound
    · exact related_nodes c self otherwise (.refl _ env)
  | inElse before condition body inner after ih =>
    apply related_single c self
    rw [node, node]
    apply c.bind_lift
    intro v
    split
    · exact related_nodes c self body (.refl _ env)
    · exact ih fresh env sees unbound
  | inEach before items item index inner after ih =>
    apply related_single c self
    have inside : ∀ i v, R (nodes helpers including (env.enter item index i v) (inner.fill ns))
        (nodes helpers including (env.enter item index i v) (inner.fill ns')) := by
      intro i v
      apply ih
      · intro head held among
        exact fresh head held (by simp [Place.names, among])
      · rw [Env.visible_enter, sees]
      · intro head held
        -- The names of the loop are among those of the place, so the head is not bound by it.
        have outside := fresh head held
        simp only [Place.names, List.mem_cons, List.mem_append, Option.mem_toList, not_or]
          at outside
        rw [Env.lookup_enter_of_ne outside.1 outside.2.1]
        exact unbound head held
    rw [node, node]
    apply c.bind_lift
    intro v
    cases v with
    | null => exact c.pure _
    | list members => exact c.eachMember inside 0 members
    | _ => exact c.throw _

/-- Templates that are related to others, whatever the environment, are so at any place. -/
theorem related_template_fill (c : Congruence R)
    (resolve : ∀ name, R (resolve name) (resolve name))
    (parse : ∀ name text, R (parse name text) (parse name text)) {maxDepth depth : Nat}
    {heads visible : List String} {ns ns' : Template}
    (h : ∀ env : Env, env.visible = visible → (∀ head ∈ heads, env.bound.lookup head = none) →
      R (template helpers maxDepth depth env ns) (template helpers maxDepth depth env ns'))
    (place : Place) (fresh : ∀ head ∈ heads, head ∉ place.names) (root : Value) :
    R (template helpers maxDepth depth ⟨visible, root, []⟩ (place.fill ns))
      (template helpers maxDepth depth ⟨visible, root, []⟩ (place.fill ns')) := by
  cases depth with
  | zero => exact related_fill c (relatedAt_refused c) h place fresh _ rfl fun _ _ => rfl
  | succ depth =>
    have self : RelatedAt R (inclusion helpers maxDepth (some (template helpers maxDepth depth)))
        (inclusion helpers maxDepth (some (template helpers maxDepth depth))) :=
      relatedAt_inclusion c resolve parse fun env t =>
        related_template c resolve parse maxDepth depth t (.refl _ env)
    exact related_fill c self h place fresh _ rfl fun _ _ => rfl

end

/-! ## Included templates -/

/-- The registry holds a text under a name. -/
def Holds (name text : String) (registry : Option Registry) : Prop :=
  ∃ r, registry = some r ∧ Keyed.get? name r.templates = some text

/-- Asking for a text does not change what the registry holds. -/
theorem holds_textOf {name text other : String} {registry : Option Registry}
    (holds : Holds name text registry) : Holds name text (Registry.textOf other registry).2 := by
  obtain ⟨r, rfl, held⟩ := holds
  exact ⟨(r.resolve other).2, rfl, Registry.get?_resolve held other⟩

/-- A text that is held is found, and the registry stays as it is. -/
theorem textOf_of_holds {name text : String} {registry : Option Registry}
    (holds : Holds name text registry) : Registry.textOf name registry = (.ok text, registry) := by
  obtain ⟨r, rfl, held⟩ := holds
  have found : r.resolve name = (.ok (some text), r) := by simp [Registry.resolve, held]
  simp only [Registry.textOf, found]

/-- An included template starts on a context of the same entries. -/
theorem alike_included {heads : List String} {env : Env}
    (unbound : ∀ head ∈ heads, env.bound.lookup head = none) :
    Env.Alike heads ⟨env.visible, env.rootWith [], []⟩ env where
  visible := rfl
  get? := by
    intro key
    simp only [Env.rootWith]
    -- Without parameters the context of the partial has the entries of the root and no others.
    cases env.root <;> rfl
  rootWith := by
    intro params
    simp only [Env.rootWith]
    cases env.root <;> rfl
  lookup := by
    intro head held
    rw [unbound head held]
    rfl

section
variable {helpers : HelperTable} {maxDepth : Nat} {name text : String} {t : Template} {env : Env}

/-- An inclusion of a held text without parameters is the template that the text spells, read on its
own. Only the record tells the difference. -/
theorem run_inclusion {body : Env → Template → Reading String}
    (spelled : Template.ofSource? text = .ok t)
    (sees : env.visible = Helper.standardNames ++ helpers.customNames) {r : Reader}
    (holds : Holds name text r.registry) :
    (inclusion helpers maxDepth (some body) env (.fixed name) []).run.run r =
      (body ⟨env.visible, env.rootWith [], []⟩ t).run.run
        { r with included := text :: r.included } := by
  have named : (PartialName.fixed name).value helpers env = .ok name := rfl
  have asked : (resolve name).run.run r = (.ok text, r) := by
    rw [Reading.run_resolve, textOf_of_holds holds]
  have read : (parse name text).run.run r = (.ok t, { r with included := text :: r.included }) := by
    rw [Reading.run_parse, spelled]
  rw [inclusion, named, run_bind]
  change (resolve name >>= _).run.run r = _
  rw [run_bind, asked]
  change (parse name text >>= _).run.run r = _
  rw [run_bind, read, sees]
  rfl

/-- An inclusion of a held text approximates the template that the text spells. -/
theorem approximates_inclusion (spelled : Template.ofSource? text = .ok t) {depth : Nat}
    (sees : env.visible = Helper.standardNames ++ helpers.customNames)
    (unbound : ∀ head ∈ Node.freeHeadsAll t, env.bound.lookup head = none)
    {params : Option (List (String × Accessor))} (bare : params.getD [] = []) :
    Approximates (Holds name text)
      (template helpers maxDepth depth env [.inclusion (.fixed name) params])
      (template helpers maxDepth depth env t) := by
  cases depth with
  | zero =>
    rw [template, nodes_single, node, bare]
    exact approximates_refused name maxDepth _
  | succ depth =>
    intro r r' same holds
    rw [template, nodes_single, node, bare, run_inclusion spelled sees holds]
    -- The included template may nest one inclusion less than the nodes in its place.
    have deeper : Approximates (Holds name text)
        (template helpers maxDepth depth ⟨env.visible, env.rootWith [], []⟩ t)
        (template helpers maxDepth (depth + 1) env t) :=
      approximates_template (fun other registry => holds_textOf) (Nat.le_succ depth) t
        (alike_included unbound)
    exact deeper { r with included := text :: r.included } r' same holds

end

end Interpretation

/-! ## Inlining -/

/-- **An inclusion may be replaced by the nodes of its template.** The name is fixed, there are no
parameters, and the registry holds a text for it; no loop around the inclusion binds a name that
stands free in the included template. Then the template with the nodes in place of the inclusion has
the same output or the same error on every context, and leaves the same registry, unless rendering
the template with the inclusion is refused because inclusions nest too deep. -/
theorem Artifact.renderAlone_inlined (helpers : HelperTable) (maxDepth : Nat) (root : Value)
    (registry : Registry) (entryPoint : String) (place : Place) {name text : String}
    {t : Template} {params : Option (List (String × Accessor))} (bare : params.getD [] = [])
    (held : Keyed.get? name registry.templates = some text)
    (spelled : Template.ofSource? text = .ok t)
    (fresh : ∀ head ∈ Node.freeHeadsAll t, head ∉ place.names) :
    let visible := Helper.standardNames ++ helpers.customNames
    let including := (Artifact.ofTemplate visible entryPoint
      (place.fill [.inclusion (.fixed name) params])).renderAlone helpers maxDepth root
        (some registry)
    let inlined := (Artifact.ofTemplate visible entryPoint (place.fill t)).renderAlone helpers
      maxDepth root (some registry)
    ExceedsDepth including.1 ∨ inlined = including := by
  intro visible including inlined
  -- On its own the inclusion approximates the nodes of its template, wherever it stands.
  have alone : ∀ env : Env, env.visible = visible →
      (∀ head ∈ Node.freeHeadsAll t, env.bound.lookup head = none) →
      Reading.Approximates (Interpretation.Holds name text)
        (Interpretation.template helpers maxDepth maxDepth env [.inclusion (.fixed name) params])
        (Interpretation.template helpers maxDepth maxDepth env t) :=
    fun env sees unbound => Interpretation.approximates_inclusion spelled sees unbound bare
  have approximates := Interpretation.related_template_fill
    (Reading.approximates_congruence (Interpretation.Holds name text))
    (Reading.approximates_resolve fun other registry => Interpretation.holds_textOf)
    Reading.approximates_parse
    alone place fresh root
  have included : including = (place.fill [.inclusion (.fixed name) params]).interpret helpers
      maxDepth visible root (some registry) := renderAlone_eq_interpret rfl
  have replaced : inlined =
      (place.fill t).interpret helpers maxDepth visible root (some registry) :=
    renderAlone_eq_interpret rfl
  rw [included, replaced]
  have holds : Interpretation.Holds name text (some registry) := ⟨registry, rfl, held⟩
  rcases approximates ⟨some registry, []⟩ ⟨some registry, []⟩ rfl holds with
    refused | ⟨sameResult, sameRegistry, _⟩
  · exact .inl refused
  · exact .inr (Prod.ext sameResult.symm sameRegistry.symm)

/-- An inclusion in a loop, where the included template refers to the context only. -/
theorem Artifact.renderAlone_inlined_in_loop :
    let t : Template := [.text "a", .interpolation ⟨"t", [], []⟩ true]
    let place := Place.inEach [] ⟨"xs", [], []⟩ "x" none (.between [] []) []
    let registry : Registry := ⟨[("p", "a\x7b\x7bt\x7d\x7d")], none, 0⟩
    let root := Value.map [("t", .text "b"), ("xs", .list [.null, .null])]
    let helpers := HelperTable.standard .common
    let rendered (ns : Template) :=
      (Artifact.ofTemplate (Helper.standardNames ++ helpers.customNames) ""
        (place.fill ns)).renderAlone helpers 4 root (some registry)
    Template.ofSource? "a\x7b\x7bt\x7d\x7d" = .ok t ∧
      (∀ head ∈ Node.freeHeadsAll t, head ∉ place.names) ∧
      (ExceedsDepth (rendered [.inclusion (.fixed "p") none]).1 ∨
        rendered t = rendered [.inclusion (.fixed "p") none]) := by
  intro t place registry root helpers rendered
  have spelled : Template.ofSource? "a\x7b\x7bt\x7d\x7d" = .ok t := by cbv
  have fresh : ∀ head ∈ Node.freeHeadsAll t, head ∉ place.names := by decide
  exact ⟨spelled, fresh,
    renderAlone_inlined helpers 4 root registry "" place rfl rfl spelled fresh⟩

end TextTemplate
