import TextTemplate.Proofs.Agreement
import TextTemplate.Proofs.Guards

/-!
# Paths in messages

The expressions of a program keep the paths as they were written, for messages. Nothing else looks
at them: where an expression stands for another that differs in its path, only errors with the one
path become errors with the other (`Expr.StandsFor`). Programs whose expressions stand for each
other one by one run alike up to such errors (`Program.run_of_corresponds`). So programs that differ
in paths only have the same renderings up to the paths in errors
(`Artifact.render_of_withoutPaths`).
-/

namespace TextTemplate

/-! ## Errors without paths -/

/-- The error without the path in a template that it names. -/
def RenderError.withoutPath : RenderError → RenderError
  | missingValue _ => missingValue ""
  | nonIterable _ found => nonIterable "" found
  | e => e

/-- The same errors up to a path. -/
def RenderError.SameButPath (e f : RenderError) : Prop := e.withoutPath = f.withoutPath

theorem RenderError.SameButPath.refl (e : RenderError) : e.SameButPath e := rfl

/-! ## Programs without paths -/

/-- The expression without its path. -/
def Expr.withoutPath (e : Expr) : Expr := { e with path := "" }

def IncludeName.withoutPath : IncludeName → IncludeName
  | fixed name => fixed name
  | computed e => computed e.withoutPath

/-- The parameters of an inclusion without their paths. -/
def Expr.paramsWithoutPaths (params : List (String × Expr)) : List (String × Expr) :=
  params.map fun (key, e) => (key, e.withoutPath)

mutual

/-- The step without the paths of its expressions. -/
def Op.withoutPaths : Op → Op
  | .text s => .text s
  | .emit value escape => .emit value.withoutPath escape
  | .branch condition body otherwise =>
    .branch condition.withoutPath (Op.allWithoutPaths body) (Op.allWithoutPaths otherwise)
  | .loop items index body => .loop items.withoutPath index (Op.allWithoutPaths body)
  | .inclusion name params => .inclusion name.withoutPath (Expr.paramsWithoutPaths params)

/-- The steps without the paths of their expressions. -/
def Op.allWithoutPaths : List Op → List Op
  | [] => []
  | op :: rest => op.withoutPaths :: Op.allWithoutPaths rest

end

/-- The program without the paths of its expressions. -/
def Program.withoutPaths (program : Program) : Program := ⟨Op.allWithoutPaths program.ops⟩

/-! ## Programs with other expressions -/

def IncludeName.mapExprs (f : Expr → Expr) : IncludeName → IncludeName
  | fixed name => fixed name
  | computed e => computed (f e)

mutual

/-- The step with other expressions in place of its own. -/
def Op.mapExprs (f : Expr → Expr) : Op → Op
  | .text s => .text s
  | .emit value escape => .emit (f value) escape
  | .branch condition body otherwise =>
    .branch (f condition) (Op.mapAllExprs f body) (Op.mapAllExprs f otherwise)
  | .loop items index body => .loop (f items) index (Op.mapAllExprs f body)
  | .inclusion name params =>
    .inclusion (name.mapExprs f) (params.map fun (key, e) => (key, f e))

/-- The steps with other expressions in place of their own. -/
def Op.mapAllExprs (f : Expr → Expr) : List Op → List Op
  | [] => []
  | op :: rest => op.mapExprs f :: Op.mapAllExprs f rest

end

/-- The program with other expressions in place of its own. -/
def Program.mapExprs (f : Expr → Expr) (program : Program) : Program :=
  ⟨Op.mapAllExprs f program.ops⟩

mutual

/-- The paths of a step are those of its expressions. -/
theorem Op.withoutPaths_eq (op : Op) : op.withoutPaths = op.mapExprs Expr.withoutPath := by
  cases op with
  | text s => rfl
  | emit value escape => rfl
  | branch condition body otherwise =>
    rw [withoutPaths, mapExprs, Op.allWithoutPaths_eq body, Op.allWithoutPaths_eq otherwise]
  | loop items index body => rw [withoutPaths, mapExprs, Op.allWithoutPaths_eq body]
  | inclusion name params => cases name <;> rfl

theorem Op.allWithoutPaths_eq (ops : List Op) :
    Op.allWithoutPaths ops = Op.mapAllExprs Expr.withoutPath ops := by
  cases ops with
  | nil => rfl
  | cons op rest =>
    rw [Op.allWithoutPaths, Op.mapAllExprs, Op.withoutPaths_eq op, Op.allWithoutPaths_eq rest]

end

/-! ## Programs that correspond -/

/-- The names are the same, or their expressions are related. -/
inductive IncludeName.Corresponds (S : Expr → Expr → Prop) : IncludeName → IncludeName → Prop
  | fixed (name : String) : Corresponds S (.fixed name) (.fixed name)
  | computed {e e' : Expr} : S e e' → Corresponds S (.computed e) (.computed e')

/-- The parameters have the same names, and their expressions are related. -/
def Expr.ParamsCorrespond (S : Expr → Expr → Prop) :
    List (String × Expr) → List (String × Expr) → Prop :=
  List.Forall₂ fun p q => p.1 = q.1 ∧ S p.2 q.2

mutual

/-- The steps differ in their expressions at most, and these are related. -/
inductive Op.Corresponds (S : Expr → Expr → Prop) : Op → Op → Prop
  | text (s : String) : Corresponds S (.text s) (.text s)
  | emit {value value' : Expr} (escape : Bool) :
    S value value' → Corresponds S (.emit value escape) (.emit value' escape)
  | branch {condition condition' : Expr} {body body' otherwise otherwise' : List Op} :
    S condition condition' → AllCorrespond S body body' → AllCorrespond S otherwise otherwise' →
    Corresponds S (.branch condition body otherwise) (.branch condition' body' otherwise')
  | loop {items items' : Expr} (index : Bool) {body body' : List Op} :
    S items items' → AllCorrespond S body body' →
    Corresponds S (.loop items index body) (.loop items' index body')
  | inclusion {name name' : IncludeName} {params params' : List (String × Expr)} :
    name.Corresponds S name' → Expr.ParamsCorrespond S params params' →
    Corresponds S (.inclusion name params) (.inclusion name' params')

/-- The steps correspond one by one. -/
inductive Op.AllCorrespond (S : Expr → Expr → Prop) : List Op → List Op → Prop
  | nil : AllCorrespond S [] []
  | cons {op op' : Op} {rest rest' : List Op} :
    op.Corresponds S op' → AllCorrespond S rest rest' → AllCorrespond S (op :: rest) (op' :: rest')

end

/-- Expressions of two lists are related if they become the same by a function. -/
def Expr.RelatedBy (f : Expr → Expr) (S : Expr → Expr → Prop) (es es' : List Expr) : Prop :=
  ∀ e ∈ es, ∀ e' ∈ es', f e = f e' → S e e'

section
variable {f : Expr → Expr} {S : Expr → Expr → Prop} {es es' fs fs' : List Expr}

/-- Expressions of parts are related as those of the whole are. -/
theorem Expr.RelatedBy.mono (h : RelatedBy f S fs fs') (sub : es ⊆ fs) (sub' : es' ⊆ fs') :
    RelatedBy f S es es' :=
  fun e among e' among' => h e (sub among) e' (sub' among')

theorem IncludeName.corresponds_of_mapExprs {name name' : IncludeName}
    (related : Expr.RelatedBy f S name.exprs name'.exprs)
    (same : name.mapExprs f = name'.mapExprs f) : name.Corresponds S name' := by
  cases name with
  | fixed name =>
    cases name' with
    | fixed name' =>
      cases same
      exact .fixed name
    | computed e' => cases same
  | computed e =>
    cases name' with
    | fixed name' => cases same
    | computed e' =>
      exact .computed
        (related e List.mem_cons_self e' List.mem_cons_self (computed.inj same))

theorem Expr.paramsCorrespond_of_map {params params' : List (String × Expr)}
    (related : RelatedBy f S (params.map (·.2)) (params'.map (·.2)))
    (same : (params.map fun (key, e) => (key, f e)) = params'.map fun (key, e) => (key, f e)) :
    ParamsCorrespond S params params' := by
  induction params generalizing params' with
  | nil =>
    cases params' with
    | nil => exact .nil
    | cons q rest' => cases same
  | cons p rest ih =>
    cases params' with
    | nil => cases same
    | cons q rest' =>
      obtain ⟨first, others⟩ := List.cons.inj same
      obtain ⟨key, becomes⟩ := Prod.mk.inj first
      refine .cons ⟨key, related _ List.mem_cons_self _ List.mem_cons_self becomes⟩ (ih ?_ others)
      exact related.mono (List.subset_cons_self ..) (List.subset_cons_self ..)

-- The induction is on the first step; the second one has the same shape.
mutual

theorem Op.corresponds_of_mapExprs {op op' : Op} (related : Expr.RelatedBy f S op.exprs op'.exprs)
    (same : op.mapExprs f = op'.mapExprs f) : op.Corresponds S op' := by
  -- Steps that become the same are of one kind, so only the diagonal cases are left.
  cases op with
  | text s =>
    cases op' <;> cases same
    exact .text s
  | emit value escape =>
    cases op' with
    | emit value' escape' =>
      obtain ⟨becomes, rfl⟩ := Op.emit.inj same
      exact .emit escape (related _ List.mem_cons_self _ List.mem_cons_self becomes)
    | _ => cases same
  | branch condition body otherwise =>
    cases op' with
    | branch condition' body' otherwise' =>
      obtain ⟨becomes, bodies, others⟩ := Op.branch.inj same
      refine .branch (related _ List.mem_cons_self _ List.mem_cons_self becomes)
        (Op.allCorrespond_of_mapAllExprs ?_ bodies) (Op.allCorrespond_of_mapAllExprs ?_ others)
      · exact related.mono
          (List.subset_cons_of_subset _ (List.subset_append_left ..))
          (List.subset_cons_of_subset _ (List.subset_append_left ..))
      · exact related.mono
          (List.subset_cons_of_subset _ (List.subset_append_right ..))
          (List.subset_cons_of_subset _ (List.subset_append_right ..))
    | _ => cases same
  | loop items index body =>
    cases op' with
    | loop items' index' body' =>
      obtain ⟨becomes, rfl, bodies⟩ := Op.loop.inj same
      refine .loop index (related _ List.mem_cons_self _ List.mem_cons_self becomes)
        (Op.allCorrespond_of_mapAllExprs ?_ bodies)
      exact related.mono (List.subset_cons_self ..) (List.subset_cons_self ..)
    | _ => cases same
  | inclusion name params =>
    cases op' with
    | inclusion name' params' =>
      obtain ⟨names, given⟩ := Op.inclusion.inj same
      refine .inclusion (IncludeName.corresponds_of_mapExprs ?_ names)
        (Expr.paramsCorrespond_of_map ?_ given)
      · exact related.mono (List.subset_append_left ..) (List.subset_append_left ..)
      · exact related.mono (List.subset_append_right ..) (List.subset_append_right ..)
    | _ => cases same

theorem Op.allCorrespond_of_mapAllExprs {ops ops' : List Op}
    (related : Expr.RelatedBy f S (Op.exprsAll ops) (Op.exprsAll ops'))
    (same : Op.mapAllExprs f ops = Op.mapAllExprs f ops') : Op.AllCorrespond S ops ops' := by
  cases ops with
  | nil =>
    cases ops' with
    | nil => exact .nil
    | cons op' rest' => cases same
  | cons op rest =>
    cases ops' with
    | nil => cases same
    | cons op' rest' =>
      obtain ⟨first, others⟩ := List.cons.inj same
      refine .cons (Op.corresponds_of_mapExprs ?_ first) (Op.allCorrespond_of_mapAllExprs ?_ others)
      · exact related.mono (List.subset_append_left ..) (List.subset_append_left ..)
      · exact related.mono (List.subset_append_right ..) (List.subset_append_right ..)

end

end

/-! ## Expressions -/

/-- The expressions differ in their paths at most, and errors with the one path stand for errors
with the other. -/
structure Expr.StandsFor (E : RenderError → RenderError → Prop) (e e' : Expr) : Prop where
  same : e.withoutPath = e'.withoutPath
  missing : E (.missingValue e.path) (.missingValue e'.path)
  nonIterable : ∀ found, E (.nonIterable e.path found) (.nonIterable e'.path found)

section
variable {E : RenderError → RenderError → Prop} {helpers : HelperTable} {frame : Frame}
  {e e' : Expr}

/-- Of two paths, one guard makes the same of a value, up to the error that names the path. -/
theorem Expr.settle_of_missing {path path' : String}
    (missing : E (.missingValue path) (.missingValue path')) (guard : Guard) (v : Value) :
    Outcome E Eq (settle guard path v) (settle guard path' v) := by
  unfold settle
  split
  · exact missing
  · exact rfl

/-- An expression comes to the same as one that it stands for, up to errors that are related. -/
theorem Expr.StandsFor.eval (reflexive : ∀ e, E e e) (h : e.StandsFor E e') :
    Outcome E Eq (e.eval helpers frame) (e'.eval helpers frame) := by
  obtain ⟨base, tail, pipes, guard, path⟩ := e
  obtain ⟨base', tail', pipes', guard', path'⟩ := e'
  obtain ⟨same, missing, -⟩ := h
  simp only [withoutPath, mk.injEq] at same
  obtain ⟨rfl, rfl, rfl, rfl, -⟩ := same
  by_cases lookedUp : guard = .optional ∧ IsBareHelper ⟨base, tail, pipes, guard, path⟩
  · -- Only the table is asked, and no path is named.
    obtain ⟨rfl, ⟨name, rfl⟩, rfl⟩ := lookedUp
    exact Outcome.refl fun e _ => reflexive e
  · have settled : ∀ path, guard = .required ∨ ¬ IsBareHelper ⟨base, tail, pipes, guard, path⟩ := by
      intro path
      cases guard with
      | required => exact .inl rfl
      | optional => exact .inr fun bare => lookedUp ⟨rfl, bare⟩
    rw [eval_eq_settle (settled path), eval_eq_settle (settled path')]
    refine Outcome.bind (V := Eq) (Outcome.refl fun e _ => reflexive e) ?_
    rintro v _ rfl
    exact settle_of_missing missing guard v

/-- Parameters that correspond have the same values, or fail alike. -/
theorem Expr.ParamsCorrespond.eval (reflexive : ∀ e, E e e) {params params' : List (String × Expr)}
    (h : ParamsCorrespond (StandsFor E) params params') :
    Outcome E Eq (evalParams helpers frame params) (evalParams helpers frame params') := by
  induction h with
  | nil => exact rfl
  | @cons p q rest rest' same _ ih =>
    obtain ⟨key, e⟩ := p
    obtain ⟨key', e'⟩ := q
    obtain ⟨rfl, stands⟩ := same
    apply (stands.eval reflexive).bind
    rintro v _ rfl
    apply ih.bind
    rintro more _ rfl
    exact rfl

/-- Names of inclusions that correspond come to the same name, or fail alike. -/
theorem IncludeName.Corresponds.eval (reflexive : ∀ e, E e e) {name name' : IncludeName}
    (h : name.Corresponds (Expr.StandsFor E) name') :
    Outcome E Eq (name.eval helpers frame) (name'.eval helpers frame) := by
  cases h with
  | fixed name => exact rfl
  | computed stands =>
    apply (stands.eval reflexive).bind
    rintro v _ rfl
    exact rfl

end

/-! ## Steps -/

section
variable {σ : Type} {E : RenderError → RenderError → Prop}
  {R : ∀ {α : Type}, Over σ α → Over σ α → Prop} {helpers : HelperTable}
  {includer includer' : IncluderOver σ}

/-- A loop that is named by another path refuses the same values. -/
theorem Over.Respects.iterate (c : Over.Respects E R)
    {f g : Nat → Value → Over σ (List Fragment)} (h : ∀ i v, R (f i v) (g i v))
    {path path' : String}
    (refused : ∀ found, E (.nonIterable path found) (.nonIterable path' found)) (v : Value) :
    R (Over.iterate f path v) (Over.iterate g path' v) := by
  unfold Over.iterate
  cases v.members? with
  | none => exact c.throw (refused _)
  | some members =>
    apply c.forEach (W := Eq) ?_ 0 (List.forall₂_eq_eq_eq ▸ rfl)
    rintro i v _ rfl
    exact h i v

/-- Inclusions that correspond are run alike. -/
def IncluderOver.Follows (E : RenderError → RenderError → Prop)
    (R : ∀ {α : Type}, Over σ α → Over σ α → Prop) (includer includer' : IncluderOver σ) : Prop :=
  ∀ frame {name name' : IncludeName} {params params' : List (String × Expr)},
    name.Corresponds (Expr.StandsFor E) name' →
    Expr.ParamsCorrespond (Expr.StandsFor E) params params' →
    R (includer frame name params) (includer' frame name' params')

-- The induction is on the steps; both runs are in the same frame all along.
mutual

theorem Op.Corresponds.runOver (c : Over.Respects E R) (reflexive : ∀ e, E e e)
    (h : IncluderOver.Follows E R includer includer') (frame : Frame) {op op' : Op}
    (corresponds : op.Corresponds (Expr.StandsFor E) op') :
    R (Op.runOver helpers includer frame op) (Op.runOver helpers includer' frame op') := by
  cases corresponds with
  | text s => exact c.pure _
  | emit escape value =>
    apply c.bind_lift (value.eval reflexive)
    rintro v _ rfl
    split
    -- The value is the same on both sides, and so is what the escaping helper makes of it.
    · apply c.bind_lift (W := Eq) (Outcome.refl fun e _ => reflexive e)
      rintro w _ rfl
      exact c.pure _
    · exact c.pure _
  | branch condition body otherwise =>
    apply c.bind_lift (condition.eval reflexive)
    rintro v _ rfl
    split
    · exact Op.AllCorrespond.runAllOver c reflexive h frame body
    · exact Op.AllCorrespond.runAllOver c reflexive h frame otherwise
  | loop index items body =>
    rw [Op.runOver_loop, Op.runOver_loop]
    apply c.bind_lift (items.eval reflexive)
    rintro v _ rfl
    refine c.iterate ?_ items.nonIterable v
    exact fun i item => Op.AllCorrespond.runAllOver c reflexive h _ body
  | inclusion name params => exact h frame name params

/-- Steps that correspond one by one are run alike, if inclusions that correspond are. -/
theorem Op.AllCorrespond.runAllOver (c : Over.Respects E R) (reflexive : ∀ e, E e e)
    (h : IncluderOver.Follows E R includer includer') (frame : Frame) {ops ops' : List Op}
    (correspond : Op.AllCorrespond (Expr.StandsFor E) ops ops') :
    R (Op.runAllOver helpers includer frame ops) (Op.runAllOver helpers includer' frame ops') := by
  cases correspond with
  | nil => exact c.pure _
  | cons first rest =>
    apply c.bind (Op.Corresponds.runOver c reflexive h frame first)
    intro out
    apply c.bind (Op.AllCorrespond.runAllOver c reflexive h frame rest)
    exact fun more => c.pure _

end

end

/-! ## Renderings -/

section
variable {E : RenderError → RenderError → Prop} {helpers : HelperTable} {maxDepth : Nat}

/-- Inclusions are refused by their names, which are the same where they correspond. -/
theorem Host.follows_refuser (reflexive : ∀ e, E e e) {σ : Type} {host : Host σ} :
    IncluderOver.Follows E (Over.SameUpTo E) (host.refuser helpers) (host.refuser helpers) := by
  intro frame _ _ _ _ name _
  apply (Over.sameUpTo_respects reflexive).bind_lift (name.eval reflexive)
  rintro name _ rfl
  exact Over.sameUpTo_refl reflexive _

/-- The programs that are included are the same on both sides. -/
theorem Host.follows_enterer (reflexive : ∀ e, E e e) {σ : Type} {host : Host σ}
    (run : Value → Program → Over σ (List Fragment)) :
    IncluderOver.Follows E (Over.SameUpTo E) (host.enterer helpers run)
      (host.enterer helpers run) := by
  have c := Over.sameUpTo_respects (σ := σ) reflexive
  intro frame _ _ _ _ name params
  apply c.bind_lift (name.eval reflexive)
  rintro name _ rfl
  apply c.bind (Over.sameUpTo_refl reflexive _)
  intro program
  apply c.bind_lift (params.eval reflexive)
  rintro values _ rfl
  exact Over.sameUpTo_refl reflexive _

/-- Programs whose expressions stand for each other run alike, up to errors that are related. -/
theorem Program.run_of_corresponds (reflexive : ∀ e, E e e) {program program' : Program}
    (correspond : Op.AllCorrespond (Expr.StandsFor E) program.ops program'.ops) (depth : Nat)
    (root : Value) :
    Over.SameUpTo E (program.run helpers maxDepth depth root)
      (program'.run helpers maxDepth depth root) := by
  have c := Over.sameUpTo_respects (σ := Session) reflexive
  rw [Program.run_eq_runOver]
  cases depth with
  | zero => exact correspond.runAllOver c reflexive (Host.follows_refuser reflexive) _
  | succ depth => exact correspond.runAllOver c reflexive (Host.follows_enterer reflexive _) _

/-- Artifacts whose steps correspond render the same, up to the paths in errors. -/
theorem Artifact.render_of_corresponds (reflexive : ∀ e, E e e) {a b : Artifact}
    (correspond : Op.AllCorrespond (Expr.StandsFor E) a.program.ops b.program.ops) (root : Value) :
    Over.SameUpTo E (a.render helpers maxDepth root) (b.render helpers maxDepth root) :=
  (Program.run_of_corresponds reflexive correspond maxDepth root).bind
    fun _ => Over.sameUpTo_refl reflexive _

/-- Programs that differ in paths only come to the same, up to the path in an error. -/
theorem Artifact.render_of_withoutPaths {a b : Artifact}
    (same : a.program.withoutPaths = b.program.withoutPaths) (root : Value) (s : Session) :
    ((a.render helpers maxDepth root).run.run s).1.mapError RenderError.withoutPath =
        ((b.render helpers maxDepth root).run.run s).1.mapError RenderError.withoutPath ∧
      ((a.render helpers maxDepth root).run.run s).2 =
        ((b.render helpers maxDepth root).run.run s).2 := by
  have correspond : Op.AllCorrespond (Expr.StandsFor RenderError.SameButPath) a.program.ops
      b.program.ops := by
    rw [Program.withoutPaths, Program.withoutPaths, Program.mk.injEq, Op.allWithoutPaths_eq,
      Op.allWithoutPaths_eq] at same
    refine Op.allCorrespond_of_mapAllExprs (fun e _ e' _ becomes => ?_) same
    exact ⟨becomes, rfl, fun _ => rfl⟩
  obtain ⟨results, sessions⟩ :=
    Artifact.render_of_corresponds RenderError.SameButPath.refl correspond root s
  exact ⟨Outcome.mapError_eq results, sessions⟩

end

end TextTemplate
