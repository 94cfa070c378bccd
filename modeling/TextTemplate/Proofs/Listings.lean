import Mathlib
import TextTemplate.Proofs.Coherence
import TextTemplate.Proofs.ListingText
import TextTemplate.Proofs.Paths

/-!
# Listings are faithful

The listing of a program tells the program, but for the paths that expressions keep for messages
where they begin at loop slots: what binds a slot has no name in a listing. So programs with one
listing come to the same, up to such paths in errors (`Artifact.listing_faithful`).
-/

namespace TextTemplate

/-! ## Programs without the paths that listings leave out -/

section
variable {f : Expr → Expr} {expr : Expr → Prop} {key : String → Prop}

mutual

/-- What holds of the expressions of a changed step holds of the step as changed. -/
theorem Op.each_mapExprs {op : Op} (h : op.Each (fun e => expr (f e)) key) :
    (op.mapExprs f).Each expr key := by
  cases op with
  | text s => exact trivial
  | emit value escape => exact h
  | branch condition body otherwise =>
    exact ⟨h.1, Op.eachAll_mapAllExprs h.2.1, Op.eachAll_mapAllExprs h.2.2⟩
  | loop items index body => exact ⟨h.1, Op.eachAll_mapAllExprs h.2⟩
  | inclusion name params =>
    refine ⟨?_, List.forall_mem_map.2 h.2⟩
    cases name with
    | fixed name => exact trivial
    | computed e => exact h.1

theorem Op.eachAll_mapAllExprs {ops : List Op} (h : Op.EachAll (fun e => expr (f e)) key ops) :
    Op.EachAll expr key (Op.mapAllExprs f ops) := by
  cases ops with
  | nil => exact trivial
  | cons op rest => exact ⟨Op.each_mapExprs h.1, Op.eachAll_mapAllExprs h.2⟩

end

mutual

/-- Expressions may be replaced by others with the same listing. -/
theorem Op.listing_mapExprs (same : ∀ e, (f e).listing = e.listing) (depth : Nat) (op : Op) :
    (op.mapExprs f).listing depth = op.listing depth := by
  cases op with
  | text s => rfl
  | emit value escape => simp only [Op.mapExprs, Op.listing, same]
  | branch condition body otherwise =>
    -- Whether there is another branch does not depend on expressions.
    have empty : (Op.mapAllExprs f otherwise).isEmpty = otherwise.isEmpty := by
      cases otherwise <;> rfl
    simp only [Op.mapExprs, Op.listing, same, empty, Op.listings_mapAllExprs same (depth + 1) body,
      Op.listings_mapAllExprs same (depth + 1) otherwise]
  | loop items index body =>
    simp only [Op.mapExprs, Op.listing, same, Op.listings_mapAllExprs same (depth + 1) body]
  | inclusion name params =>
    have names : (name.mapExprs f).listing = name.listing := by
      cases name with
      | fixed name => rfl
      | computed e => rw [IncludeName.mapExprs, IncludeName.listing, IncludeName.listing, same]
    simp only [Op.mapExprs, Op.listing, names, paramsListing, List.map_map, Function.comp_def, same]

/-- A change of expressions that no listing shows does not show in the listing of steps. -/
theorem Op.listings_mapAllExprs (same : ∀ e, (f e).listing = e.listing) (depth : Nat)
    (ops : List Op) : Op.listings depth (Op.mapAllExprs f ops) = Op.listings depth ops := by
  cases ops with
  | nil => rfl
  | cons op rest =>
    rw [Op.mapAllExprs, Op.listings, Op.listings, Op.listing_mapExprs same depth op,
      Op.listings_mapAllExprs same depth rest]

end

end

namespace Program

/-- The program without the paths of the expressions that begin at loop slots. -/
def withoutBindingPaths (program : Program) : Program := program.mapExprs Expr.withoutBindingPath

/-- A path of an expression of the program that begins at a loop slot. -/
def BindingPath (program : Program) (path : String) : Prop :=
  ∃ e ∈ program.exprs, (∃ slot, e.base = .binding slot) ∧ e.path = path

/-- The paths of bindings do not show in a listing. -/
theorem listing_withoutBindingPaths (program : Program) :
    program.withoutBindingPaths.listing = program.listing :=
  Op.listings_mapAllExprs Expr.listing_withoutBindingPath 0 program.ops

/-- A program that a source was compiled to is written in words. -/
theorem written_of_compile? {source : String} {names : List String} {a : Artifact}
    (compiled : Artifact.compile? source names = .ok a) :
    Op.EachAll Expr.Written WordName a.program.withoutBindingPaths.ops := by
  obtain ⟨t, spelled, program⟩ := Artifact.program_of_compile? compiled
  rw [program]
  apply Op.eachAll_mapAllExprs
  exact Op.each_ofNodes (fun scope guard _ words => Expr.written_ofAccessor _ scope guard words) []
    t (Template.each_of_ofSource? spelled)

end Program

/-! ## Errors -/

/-- The errors are the same, or they name paths of expressions of the two programs that begin at
loop slots. -/
inductive RenderError.SameButBindings (program program' : Program) :
    RenderError → RenderError → Prop
  | same (e : RenderError) : SameButBindings program program' e e
  | missing {path path' : String} : program.BindingPath path → program'.BindingPath path' →
    SameButBindings program program' (.missingValue path) (.missingValue path')
  | nonIterable {path path' : String} (found : String) : program.BindingPath path →
    program'.BindingPath path' →
    SameButBindings program program' (.nonIterable path found) (.nonIterable path' found)

/-- Only expressions on bindings lose their paths. -/
theorem Expr.withoutBindingPath_of_base {e : Expr} (h : ∀ slot, e.base ≠ .binding slot) :
    e.withoutBindingPath = e := by
  unfold withoutBindingPath
  split
  · next slot bound => exact absurd bound (h slot)
  · rfl

theorem Expr.base_withoutBindingPath (e : Expr) : e.withoutBindingPath.base = e.base := by
  unfold withoutBindingPath
  split <;> rfl

theorem Expr.withoutPath_withoutBindingPath (e : Expr) :
    e.withoutBindingPath.withoutPath = e.withoutPath := by
  unfold withoutBindingPath
  split <;> rfl

/-- Expressions that are the same but for such a path stand for each other. -/
theorem Expr.relatedBy_withoutBindingPath (program program' : Program) :
    Expr.RelatedBy Expr.withoutBindingPath
      (Expr.StandsFor (RenderError.SameButBindings program program')) program.exprs
      program'.exprs := by
  intro e among e' among' same
  have bases : e.base = e'.base := by
    rw [← e.base_withoutBindingPath, same, e'.base_withoutBindingPath]
  -- Only paths of bindings may differ; other expressions are equal.
  by_cases bound : ∃ slot, e.base = .binding slot
  · have written : program.BindingPath e.path := ⟨e, among, bound, rfl⟩
    have written' : program'.BindingPath e'.path := ⟨e', among', bases ▸ bound, rfl⟩
    refine ⟨?_, .missing written written', fun found => .nonIterable found written written'⟩
    rw [← e.withoutPath_withoutBindingPath, same, e'.withoutPath_withoutBindingPath]
  · rw [not_exists] at bound
    rw [withoutBindingPath_of_base bound, withoutBindingPath_of_base (bases ▸ bound)] at same
    subst same
    exact ⟨rfl, .same _, fun _ => .same _⟩

/-- **Listings are faithful.** Programs that sources were compiled to have one listing if and only
if they are the same but for the paths of expressions that begin at loop slots. With one listing
they come to the same output on every context, with every table of helpers and in every session, or
to the same error but for such a path; and they leave the same session. -/
theorem Artifact.listing_faithful {source source' : String} {names names' : List String}
    {a b : Artifact} (compiled : Artifact.compile? source names = .ok a)
    (compiled' : Artifact.compile? source' names' = .ok b) :
    (a.program.listing = b.program.listing ↔
      a.program.withoutBindingPaths = b.program.withoutBindingPaths) ∧
    (a.program.listing = b.program.listing → ∀ helpers maxDepth root,
      Over.SameUpTo (RenderError.SameButBindings a.program b.program)
        (a.render helpers maxDepth root) (b.render helpers maxDepth root)) := by
  have same : a.program.listing = b.program.listing ↔
      a.program.withoutBindingPaths = b.program.withoutBindingPaths := by
    rw [← a.program.listing_withoutBindingPaths, ← b.program.listing_withoutBindingPaths]
    constructor
    -- The listing shows no paths of bindings, and all the rest can be read back from it.
    · intro listed
      exact congrArg Program.mk (Op.eq_of_listings (Program.written_of_compile? compiled)
        (Program.written_of_compile? compiled') listed)
    · exact congrArg Program.listing
  refine ⟨same, ?_⟩
  intro listed helpers maxDepth root
  have programs := congrArg Program.ops (same.1 listed)
  exact Artifact.render_of_corresponds .same
    (Op.allCorrespond_of_mapAllExprs (Expr.relatedBy_withoutBindingPath a.program b.program)
      programs) root

/-- Two loops whose items have different names. -/
theorem listing_faithful_item_names :
    let source := "\x7b\x7b#each xs as |x|\x7d\x7d\x7b\x7bx.n\x7d\x7d\x7b\x7b/each\x7d\x7d"
    let source' := "\x7b\x7b#each xs as |y|\x7d\x7d\x7b\x7by.n\x7d\x7d\x7b\x7b/each\x7d\x7d"
    ∃ a b, Artifact.compile? source [] = .ok a ∧ Artifact.compile? source' ["n"] = .ok b ∧
      a.program.listing = b.program.listing ∧ a.program.BindingPath "x.n" ∧
      b.program.BindingPath "y.n" ∧ ∀ helpers maxDepth root,
        Over.SameUpTo (RenderError.SameButBindings a.program b.program)
          (a.render helpers maxDepth root) (b.render helpers maxDepth root) := by
  intro source source'
  have spelled : Template.ofSource? source =
      .ok [.each ⟨"xs", [], []⟩ "x" none [.interpolation ⟨"x", ["n"], []⟩ true]] := by cbv
  have spelled' : Template.ofSource? source' =
      .ok [.each ⟨"xs", [], []⟩ "y" none [.interpolation ⟨"y", ["n"], []⟩ true]] := by cbv
  obtain ⟨a, compiled, program⟩ := Artifact.compile?_of_ofSource? spelled []
  obtain ⟨b, compiled', program'⟩ := Artifact.compile?_of_ofSource? spelled' ["n"]
  have listed : a.program.listing = b.program.listing := by
    rw [program, program']
    cbv
  refine ⟨a, b, compiled, compiled', listed, ?_, ?_,
    (Artifact.listing_faithful compiled compiled').2 listed⟩
  · rw [program]
    exact ⟨_, List.mem_cons_of_mem _ List.mem_cons_self, ⟨0, rfl⟩, rfl⟩
  · rw [program']
    exact ⟨_, List.mem_cons_of_mem _ List.mem_cons_self, ⟨0, rfl⟩, rfl⟩

end TextTemplate
