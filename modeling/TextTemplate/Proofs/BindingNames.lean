import TextTemplate.Calendar.CommonLocales
import TextTemplate.Proofs.Paths

/-!
# The names of loop bindings

A name that a loop binds may be chosen freely, as long as the accessors that mean the binding are
renamed with it and none comes to mean another. Two templates that differ by such a choice are
alpha-equivalent (`Template.AlphaEquivalent`): walking over both, with the names that the loops
around bind in pairs, the heads of their accessors mean the same binding, or they are the same name,
which no loop binds. Their programs differ in the written paths only, and so do their renderings
(`Template.render_of_alphaEquivalent`).
-/

namespace TextTemplate

/-- The names that the loops around two places bind, in pairs, innermost first. -/
abbrev Pairing := List (String × String)

namespace Pairing

/-- The first name means in the first place what the second one means in the second place: the same
binding, or itself if no loop binds it. -/
inductive SameMeaning : Pairing → String → String → Prop
  | free (name : String) : SameMeaning [] name name
  | bound {x y : String} {outer : Pairing} : SameMeaning ((x, y) :: outer) x y
  | outer {x y name name' : String} {outer : Pairing} :
    name ≠ x → name' ≠ y → SameMeaning outer name name' → SameMeaning ((x, y) :: outer) name name'

/-- The names that are bound in the first place. -/
def left (pairs : Pairing) : Scope := pairs.map (·.1)

/-- The names that are bound in the second place. -/
def right (pairs : Pairing) : Scope := pairs.map (·.2)

/-- Names of one meaning have one slot, and without a slot they are the same name. -/
theorem SameMeaning.slot? {pairs : Pairing} {name name' : String}
    (h : SameMeaning pairs name name') :
    Scope.slot? name pairs.left = Scope.slot? name' pairs.right ∧
      (Scope.slot? name pairs.left = none → name = name') := by
  induction h with
  | free name => exact ⟨rfl, fun _ => rfl⟩
  | @bound x y outer =>
    have depth : (List.map Prod.fst outer).length = (List.map Prod.snd outer).length := by
      rw [List.length_map, List.length_map]
    simp only [left, right, List.map_cons, Scope.slot?, if_true, depth, true_and]
    rintro ⟨⟩
  | outer other other' _ ih =>
    simp only [left, right, List.map_cons, Scope.slot?, if_neg other.symm, if_neg other'.symm]
    exact ih

end Pairing

/-! ## Alpha-equivalence -/

/-- The accessors mean the same: only their heads differ, which have one meaning. -/
structure Accessor.Alpha (pairs : Pairing) (a b : Accessor) : Prop where
  head : pairs.SameMeaning a.head b.head
  tail : a.tail = b.tail
  pipes : a.pipes = b.pipes

/-- The names of inclusions mean the same. -/
inductive PartialName.Alpha (pairs : Pairing) : PartialName → PartialName → Prop
  | fixed (name : String) : Alpha pairs (.fixed name) (.fixed name)
  | computed {a b : Accessor} : a.Alpha pairs b → Alpha pairs (.computed a) (.computed b)

/-- The parameters have the same keys, and mean the same. -/
def Accessor.AlphaParams (pairs : Pairing) :
    List (String × Accessor) → List (String × Accessor) → Prop :=
  List.Forall₂ fun p q => p.1 = q.1 ∧ p.2.Alpha pairs q.2

mutual

/-- The nodes differ by the names of bindings at most. A loop pairs its names with those of the
other one, in its body and not for its value; the index is bound after the member. -/
inductive Node.Alpha : Pairing → Node → Node → Prop
  | text {pairs : Pairing} (s : String) : Alpha pairs (.text s) (.text s)
  | interpolation {pairs : Pairing} {a b : Accessor} (escaped : Bool) :
    a.Alpha pairs b → Alpha pairs (.interpolation a escaped) (.interpolation b escaped)
  | ifThen {pairs : Pairing} {a b : Accessor} {body body' : List Node} :
    a.Alpha pairs b → AlphaAll pairs body body' → Alpha pairs (.ifThen a body) (.ifThen b body')
  | ifThenElse {pairs : Pairing} {a b : Accessor} {body body' otherwise otherwise' : List Node} :
    a.Alpha pairs b → AlphaAll pairs body body' → AlphaAll pairs otherwise otherwise' →
    Alpha pairs (.ifThenElse a body otherwise) (.ifThenElse b body' otherwise')
  | each {pairs : Pairing} {a b : Accessor} {item item' : String} {body body' : List Node} :
    a.Alpha pairs b → AlphaAll ((item, item') :: pairs) body body' →
    Alpha pairs (.each a item none body) (.each b item' none body')
  | eachIndexed {pairs : Pairing} {a b : Accessor} {item item' index index' : String}
      {body body' : List Node} :
    a.Alpha pairs b → AlphaAll ((index, index') :: (item, item') :: pairs) body body' →
    Alpha pairs (.each a item (some index) body) (.each b item' (some index') body')
  | inclusion {pairs : Pairing} {name name' : PartialName}
      {params params' : Option (List (String × Accessor))} :
    name.Alpha pairs name' → Option.Rel (Accessor.AlphaParams pairs) params params' →
    Alpha pairs (.inclusion name params) (.inclusion name' params')

/-- The nodes differ by the names of bindings at most, one by one. -/
inductive Node.AlphaAll : Pairing → List Node → List Node → Prop
  | nil {pairs : Pairing} : AlphaAll pairs [] []
  | cons {pairs : Pairing} {n n' : Node} {rest rest' : List Node} :
    n.Alpha pairs n' → AlphaAll pairs rest rest' → AlphaAll pairs (n :: rest) (n' :: rest')

end

/-- The templates differ by the names of loop bindings only. -/
def Template.AlphaEquivalent (t t' : Template) : Prop := Node.AlphaAll [] t t'

/-! ## Programs -/

section
variable {names : List String} {pairs : Pairing}

/-- Accessors with one meaning under two namings are lowered to one expression, apart from the path
that is kept for messages. -/
theorem Expr.withoutPath_ofAccessor {a b : Accessor} (h : a.Alpha pairs b) (guard : Guard) :
    (Expr.ofAccessor names pairs.left guard a).withoutPath =
      (Expr.ofAccessor names pairs.right guard b).withoutPath := by
  obtain ⟨sameSlot, sameName⟩ := h.head.slot?
  simp only [withoutPath, ofAccessor, ← sameSlot, h.tail, h.pipes]
  cases free : Scope.slot? a.head pairs.left with
  | some slot => rfl
  | none => rw [sameName free]

theorem Accessor.AlphaParams.withoutPaths_ofAccessor {params params' : List (String × Accessor)}
    (h : AlphaParams pairs params params') :
    Expr.paramsWithoutPaths
        (params.map fun (key, a) => (key, .ofAccessor names pairs.left .optional a)) =
      Expr.paramsWithoutPaths
        (params'.map fun (key, a) => (key, .ofAccessor names pairs.right .optional a)) := by
  simp only [Expr.paramsWithoutPaths, List.map_map]
  induction h with
  | nil => rfl
  | cons same _ ih =>
    rw [List.map_cons, List.map_cons, ih]
    simp only [Function.comp_apply, same.1, Expr.withoutPath_ofAccessor same.2]

-- The induction is on the first node; the names that a loop binds go into the pairing.
mutual

/-- A renamed node has the same step: bindings have become slots, and the free names are the same.
-/
theorem Node.Alpha.withoutPaths_ofNode {pairs : Pairing} {n n' : Node} (h : n.Alpha pairs n') :
    (Op.ofNode names pairs.left n).withoutPaths =
      (Op.ofNode names pairs.right n').withoutPaths := by
  cases n with
  | text s =>
    cases h
    rfl
  | interpolation a escaped =>
    cases h with
    | interpolation _ value =>
      simp only [Op.ofNode, Op.withoutPaths, Expr.withoutPath_ofAccessor value, needsEscape,
        value.pipes]
  | ifThen a body =>
    cases h with
    | ifThen condition inside =>
      simp only [Op.ofNode, Op.withoutPaths, Expr.withoutPath_ofAccessor condition,
        Node.AlphaAll.withoutPaths_ofNodes inside]
  | ifThenElse a body otherwise =>
    cases h with
    | ifThenElse condition inside other =>
      simp only [Op.ofNode, Op.withoutPaths, Expr.withoutPath_ofAccessor condition,
        Node.AlphaAll.withoutPaths_ofNodes inside, Node.AlphaAll.withoutPaths_ofNodes other]
  | each a item index body =>
    cases h with
    | each items inside =>
      -- The pairing of the body is that of the loop with one pair, or with two.
      simp only [Op.ofNode, Op.withoutPaths, Expr.withoutPath_ofAccessor items, Option.isSome]
      exact congrArg (Op.loop _ false) (Node.AlphaAll.withoutPaths_ofNodes inside)
    | eachIndexed items inside =>
      simp only [Op.ofNode, Op.withoutPaths, Expr.withoutPath_ofAccessor items, Option.isSome]
      exact congrArg (Op.loop _ true) (Node.AlphaAll.withoutPaths_ofNodes inside)
  | inclusion name params =>
    cases h with
    | @inclusion _ _ name' _ params' sameName sameParams =>
      have given : Accessor.AlphaParams pairs (params.getD []) (params'.getD []) := by
        cases sameParams with
        | none => exact .nil
        | some same => exact same
      simp only [Op.ofNode, Op.withoutPaths, given.withoutPaths_ofAccessor]
      cases sameName with
      | fixed name => rfl
      | computed value =>
        simp only [IncludeName.withoutPath, Expr.withoutPath_ofAccessor value]

theorem Node.AlphaAll.withoutPaths_ofNodes {pairs : Pairing} {ns ns' : List Node}
    (h : Node.AlphaAll pairs ns ns') :
    Op.allWithoutPaths (Op.ofNodes names pairs.left ns) =
      Op.allWithoutPaths (Op.ofNodes names pairs.right ns') := by
  cases ns with
  | nil =>
    cases h
    rfl
  | cons n rest =>
    cases h with
    | cons first others =>
      simp only [Op.ofNodes, Op.allWithoutPaths, Node.Alpha.withoutPaths_ofNode first,
        Node.AlphaAll.withoutPaths_ofNodes others]

end

namespace Template

variable {t t' : Template}

/-- Renaming the bindings of a template changes nothing in its program but paths. -/
theorem withoutPaths_of_alphaEquivalent (h : t.AlphaEquivalent t') (names : List String) :
    (Program.ofTemplate names t).withoutPaths = (Program.ofTemplate names t').withoutPaths :=
  congrArg Program.mk (Node.AlphaAll.withoutPaths_ofNodes h)

/-- **The names of loop bindings do not matter.** Alpha-equivalent templates have the same program,
for whatever names of helpers they are lowered, but for the paths as they were written. So on every
context they come to the same output, or to the same error up to the path that it names, and what
they leave of the registry and of the cache is the same. -/
theorem render_of_alphaEquivalent (h : t.AlphaEquivalent t') (names : List String) :
    (Program.ofTemplate names t).withoutPaths = (Program.ofTemplate names t').withoutPaths ∧
    ∀ (entryPoint : String) (helpers : HelperTable) (maxDepth : Nat) (root : Value) (s : Session),
      let run := ((Artifact.ofTemplate names entryPoint t).render helpers maxDepth root).run.run s
      let run' := ((Artifact.ofTemplate names entryPoint t').render helpers maxDepth root).run.run s
      run.1.mapError RenderError.withoutPath = run'.1.mapError RenderError.withoutPath ∧
        run.2 = run'.2 := by
  have same := withoutPaths_of_alphaEquivalent h names
  refine ⟨same, ?_⟩
  intro entryPoint helpers maxDepth root s
  exact Artifact.render_of_withoutPaths same root s

/-- A member that hides a helper, and an index that the loop inside hides. Both loops rename theirs,
and the index takes over the name that the member gives up. -/
theorem render_of_alphaEquivalent_shadowing :
    let t : Template :=
      [.each ⟨"rows", [], []⟩ "upper" (some "i")
        [.interpolation ⟨"upper", ["name"], ["lower"]⟩ true,
          .each ⟨"upper", ["kids"], []⟩ "i" none
            [.interpolation ⟨"i", [], []⟩ true,
              .inclusion (.computed ⟨"upper", ["view"], []⟩) (some [("rows", ⟨"rows", [], []⟩)])],
          .ifThen ⟨"i", [], []⟩ [.text ", "]],
        .interpolation ⟨"upper", [], []⟩ true]
    let t' : Template :=
      [.each ⟨"rows", [], []⟩ "row" (some "upper")
        [.interpolation ⟨"row", ["name"], ["lower"]⟩ true,
          .each ⟨"row", ["kids"], []⟩ "upper" none
            [.interpolation ⟨"upper", [], []⟩ true,
              .inclusion (.computed ⟨"row", ["view"], []⟩) (some [("rows", ⟨"rows", [], []⟩)])],
          .ifThen ⟨"upper", [], []⟩ [.text ", "]],
        .interpolation ⟨"upper", [], []⟩ true]
    let names := Helper.standardNames
    let root := Value.map [("rows", .list [.map [("name", .text "N")]])]
    let render (t : Template) :=
      (((Artifact.ofTemplate names "" t).render (.standard .common) 4 root).run.run ⟨none, none⟩).1
    t.AlphaEquivalent t' ∧
      (Program.ofTemplate names t).withoutPaths = (Program.ofTemplate names t').withoutPaths ∧
      (render t).mapError RenderError.withoutPath =
        (render t').mapError RenderError.withoutPath := by
  intro t t' names root render
  let loop : Pairing := [("i", "upper"), ("upper", "row")]
  let inner : Pairing := ("i", "upper") :: loop
  -- The names that mean the same in the outer loop, and then those in the loop inside.
  have member : loop.SameMeaning "upper" "row" := .outer (by decide) (by decide) .bound
  have index : loop.SameMeaning "i" "upper" := .bound
  have innerMember : inner.SameMeaning "i" "upper" := .bound
  have outerMember : inner.SameMeaning "upper" "row" := .outer (by decide) (by decide) member
  have key : inner.SameMeaning "rows" "rows" :=
    .outer (by decide) (by decide) (.outer (by decide) (by decide)
      (.outer (by decide) (by decide) (.free "rows")))
  have params : Accessor.AlphaParams inner [("rows", ⟨"rows", [], []⟩)]
      [("rows", ⟨"rows", [], []⟩)] := .cons ⟨rfl, key, rfl, rfl⟩ .nil
  have renamed : t.AlphaEquivalent t' := by
    refine .cons (.eachIndexed ⟨.free "rows", rfl, rfl⟩ ?_)
      (.cons (.interpolation true ⟨.free "upper", rfl, rfl⟩) .nil)
    refine .cons (.interpolation true ⟨member, rfl, rfl⟩) (.cons (.each ⟨member, rfl, rfl⟩ ?_)
      (.cons (.ifThen ⟨index, rfl, rfl⟩ (.cons (.text ", ") .nil)) .nil))
    exact .cons (.interpolation true ⟨innerMember, rfl, rfl⟩)
      (.cons (.inclusion (.computed ⟨outerMember, rfl, rfl⟩) (.some params)) .nil)
  obtain ⟨same, rendered⟩ := render_of_alphaEquivalent renamed names
  exact ⟨renamed, same, (rendered "" (.standard .common) 4 root ⟨none, none⟩).1⟩

end Template

end

end TextTemplate
