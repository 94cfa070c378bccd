import TextTemplate.Proofs.Provenance
import TextTemplate.Proofs.SessionSteps

/-!
# Programs and readings side by side

A program runs in a session, a template is read with a reader. The two states match if they hold the
same registry and the cache of the session, if it has one, is faithful to a list of requests that
share no key. A computation simulates a reading if from matching states both fail alike, or have
results that stand for each other, and leave matching states (`Simulates`). Readings that include
other than the allowed texts are left out of the comparison.

The program of a template simulates the reading of the template, and its fragments are written by
leaves of the templates that are read (`simulates_template`). The proof is an induction on the depth
of inclusions that is left, and for each depth one on the nodes; the environment of a node gives
both the scope that it is lowered in and the frame that it runs in.
-/

namespace TextTemplate

variable {α β γ δ : Type}

/-- Equal errors, or values that stand for each other. -/
def Agree (V : α → β → Prop) : Except RenderError α → Except RenderError β → Prop
  | .ok a, .ok b => V a b
  | .error e, .error f => e = f
  | _, _ => False

/-- The same registry, and no cache that could give a wrong answer to one of the requests. -/
structure Matches (requests : List Request) (s : Session) (r : Reader) : Prop where
  registry : s.registry = r.registry
  free : s.cache.isSome → Request.CollisionFree requests
  faithful : ∀ c, s.cache = some c → c.Faithful requests

/-- Without a cache there is no wrong answer. -/
theorem matches_uncached {requests : List Request} (registry : Option Registry)
    (included : List String) : Matches requests ⟨registry, none⟩ ⟨registry, included⟩ :=
  ⟨rfl, nofun, nofun⟩

/-- The recorded texts are allowed. -/
def Recorded (allowed : String → Prop) (r : Reader) : Prop := ∀ text ∈ r.included, allowed text

/-- What was recorded earlier is allowed if all that is recorded later is. -/
theorem Recorded.of_suffix {allowed : String → Prop} {r r' : Reader} (h : Recorded allowed r')
    (sub : r.included <:+ r'.included) : Recorded allowed r :=
  fun text held => h text (sub.subset held)

/-- From matching states a computation and a reading come to the same, as long as what the reading
records is allowed. -/
def Simulates (allowed : String → Prop) (requests : List Request) (V : α → β → Prop)
    (x : Render α) (y : Reading β) : Prop :=
  ∀ s r, Matches requests s r → Recorded allowed (y.run.run r).2 →
    Agree V (x.run.run s).1 (y.run.run r).1 ∧ Matches requests (x.run.run s).2 (y.run.run r).2

section
variable {allowed : String → Prop} {requests : List Request} {V : α → β → Prop}
  {W : γ → δ → Prop}

theorem simulates_pure {a : α} {b : β} (h : V a b) :
    Simulates allowed requests V (pure a) (pure b) := fun _ _ m _ => ⟨h, m⟩

theorem simulates_throw (e : RenderError) :
    Simulates allowed requests V (throw e) (throw e) := fun _ _ m _ => ⟨rfl, m⟩

/-- One computation after the other. What the second reading records comes on top of what the first
one has recorded, so the first pair may be compared as well. -/
theorem Simulates.bind {x : Render α} {y : Reading β} {f : α → Render γ} {g : β → Reading δ}
    (hx : Simulates allowed requests V x y)
    (hf : ∀ a b, V a b → Simulates allowed requests W (f a) (g b))
    (extends_g : ∀ b, (g b).Extends) :
    Simulates allowed requests W (x >>= f) (y >>= g) := by
  intro s r m recorded
  have first := hx s r m
  rw [run_bind] at recorded
  rw [run_bind, run_bind]
  cases hy : y.run.run r with
  | mk yResult r' =>
    rw [hy] at recorded first
    -- A first part that fails ends the whole; behind any other the record only grows.
    have recordedFirst : Recorded allowed r' := by
      cases yResult with
      | error e => exact recorded
      | ok b => exact recorded.of_suffix (extends_g b r')
    rcases first recordedFirst with ⟨agree, m'⟩
    cases hxs : x.run.run s with
    | mk xResult s' =>
      rw [hxs] at agree m'
      -- Only an error agrees with an error, and only a value with a value.
      cases xResult with
      | error e =>
        cases yResult with
        | error f => exact ⟨agree, m'⟩
        | ok b => cases agree
      | ok a =>
        cases yResult with
        | error f => cases agree
        | ok b => exact hf a b agree s' r' m' recorded

/-- A result that two computations share. It leaves the states alone. -/
theorem Simulates.bind_lift {x : Except RenderError α} {f : α → Render γ} {g : α → Reading δ}
    (hf : ∀ a, x = .ok a → Simulates allowed requests W (f a) (g a)) :
    Simulates allowed requests W (Render.lift x >>= f) (Reading.lift x >>= g) := by
  intro s r m recorded
  cases x with
  | error e => exact ⟨rfl, m⟩
  | ok a => exact hf a rfl s r m recorded

end

/-! ## Texts and templates of inclusions -/

section
variable {allowed : String → Prop} {customNames : List String} {requests : List Request}

/-- Both sides get the same text from the registry. -/
theorem simulates_resolve (name : String) :
    Simulates allowed requests Eq (Render.resolve name) (Reading.resolve name) := by
  intro s r m _
  rw [run_resolve, Reading.run_resolve, Session.lookUp, m.registry]
  refine ⟨?_, rfl, m.free, m.faithful⟩
  cases (Registry.textOf name r.registry).1 <;> rfl

/-- Compiling a text gives its artifact, with or without a cache. -/
theorem run_compile {text : String} {s : Session} {r : Reader} (m : Matches requests s r)
    (asked : ⟨text, customNames⟩ ∈ requests) :
    ∃ s', (Render.compile text customNames).run.run s =
        (.ok (Artifact.compile? text customNames), s') ∧ Matches requests s' r := by
  obtain ⟨answer, after⟩ := Session.compile_of_faithful m.free m.faithful asked
  refine ⟨(s.compile text customNames).2, ?_, ?_, ?_, after⟩
  · rw [run_compile_eq, answer]
  · rw [Session.registry_compile, m.registry]
  · rw [Session.isSome_cache_compile]
    exact m.free

/-- An allowed text spells the template. -/
def Spelled (allowed : String → Prop) (t : Template) : Prop :=
  ∃ text, allowed text ∧ Template.ofSource? text = .ok t

/-- The program of an included text belongs to its template. -/
structure IsProgramOf (allowed : String → Prop) (customNames : List String) (program : Program)
    (t : Template) : Prop where
  program : program = .ofTemplate (Helper.standardNames ++ customNames) t
  spelled : Spelled allowed t

/-- A text compiles to the program of the template that it spells. -/
theorem compile?_eq (text : String) :
    Artifact.compile? text customNames = (Template.ofSource? text).map fun t =>
      ⟨.derive text customNames, (CacheKey.derive text customNames).entryPoint,
        .ofTemplate (Helper.standardNames ++ customNames) t⟩ := by
  simp only [Artifact.compile?, Artifact.ofTemplate]
  cases Template.ofSource? text <;> rfl

/-- To find the program of a partial is to read its template. -/
theorem simulates_partialProgram {helpers : HelperTable}
    (asked : ∀ text, allowed text → ⟨text, helpers.customNames⟩ ∈ requests) (name : String) :
    Simulates allowed requests (IsProgramOf allowed helpers.customNames)
      (Render.partialProgram helpers name)
      (Reading.resolve name >>= fun text => Reading.parse name text) := by
  apply (simulates_resolve name).bind
  · rintro text _ rfl s r m recorded
    rw [Reading.run_parse] at recorded ⊢
    -- The text is on the record once it has been parsed, and so it is allowed.
    have allows : allowed text := recorded text (List.mem_cons_self ..)
    rcases run_compile m (asked text allows) with ⟨s', compiled, m'⟩
    rw [run_bind, compiled, compile?_eq]
    have matched : Matches requests s' { r with included := text :: r.included } :=
      ⟨m'.registry, m'.free, m'.faithful⟩
    cases spelled : Template.ofSource? text with
    | error cause => exact ⟨rfl, matched⟩
    | ok t => exact ⟨⟨rfl, text, allows, spelled⟩, matched⟩
  · exact fun text => Reading.extends_parse name text

end

/-! ## Nodes and steps -/

section
variable {allowed : String → Prop} {requests : List Request} {helpers : HelperTable}
  {writers : Node → Prop} {includer : Includer} {including : Interpretation.Inclusion}

/-- A loop writes what the readings of its body write, one after the other. -/
theorem simulates_eachMember {f : Nat → Value → Render (List Fragment)}
    {body : Nat → Value → Reading String}
    (h : ∀ i v, Simulates allowed requests (Prints helpers writers) (f i v) (body i v))
    (ext : ∀ i v, (body i v).Extends) (i : Nat) (vs : List Value) :
    Simulates allowed requests (Prints helpers writers) (Render.forEach f i vs)
      (Reading.eachMember body i vs) := by
  induction vs generalizing i with
  | nil => exact simulates_pure .nil
  | cons v rest ih =>
    apply (h i v).bind
    · intro before out prints
      apply (ih (i + 1)).bind
      · exact fun after more prints' => simulates_pure (prints.append prints')
      · exact fun _ => Reading.extends_pure _
    · intro out
      exact (Reading.extends_eachMember ext (i + 1) rest).bind fun _ => Reading.extends_pure _

/-- The name of an inclusion in a program. -/
def IncludeName.ofPartialName (env : Env) : PartialName → IncludeName
  | .fixed name => .fixed name
  | .computed a => .computed (.ofAccessor env.visible env.scope .required a)

/-- The parameters of an inclusion in a program. -/
def Expr.ofParams (env : Env) (params : List (String × Accessor)) : List (String × Expr) :=
  params.map fun (key, a) => (key, .ofAccessor env.visible env.scope .optional a)

/-- Inclusions are run as they are read, at every place. -/
def IncludesAlike (allowed : String → Prop) (requests : List Request) (helpers : HelperTable)
    (writers : Node → Prop) (includer : Includer) (including : Interpretation.Inclusion) : Prop :=
  ∀ env name params, Simulates allowed requests (Prints helpers writers)
    (includer env.frame (.ofPartialName env name) (Expr.ofParams env params))
    (including env name params)

-- The induction is on the nodes. A loop only changes the environment, which carries the scope of
-- the lowering and the frame of the run along (`Env.scope_enter`, `Env.frame_enter`).
mutual

/-- A step does what the reading of its node does. -/
theorem simulates_node (alike : IncludesAlike allowed requests helpers writers includer including)
    (ext : ∀ env name params, (including env name params).Extends) (env : Env) (n : Node)
    (among : ∀ leaf ∈ n.leaves, writers leaf) :
    Simulates allowed requests (Prints helpers writers)
      (Op.run helpers includer env.frame (.ofNode env.visible env.scope n))
      (Interpretation.node helpers including env n) := by
  cases n with
  | text s =>
    have writer : writers (.text s) := among _ (List.mem_singleton_self _)
    exact simulates_pure (.single writer (.text s))
  | interpolation value escaped =>
    have writer : writers (.interpolation value escaped) := among _ (List.mem_singleton_self _)
    simp only [Op.ofNode, Op.run, Interpretation.node, Expr.eval_ofAccessor, needsEscape]
    apply Simulates.bind_lift
    intro v required
    -- Whether to escape once more is decided by the last pipe, on both sides.
    split
    · next needs =>
      have auto : escaped = true := (Bool.and_eq_true_iff.1 needs).1
      subst auto
      apply Simulates.bind_lift
      intro w escapes
      exact simulates_pure (.single writer (.escaped escapes))
    · next kept =>
      have kept : needsEscape value escaped = false := Bool.eq_false_iff.2 kept
      exact simulates_pure (.single writer (.plain kept required))
  | ifThen condition body =>
    simp only [Op.ofNode, Op.run, Interpretation.node, Expr.eval_ofAccessor]
    apply Simulates.bind_lift
    intro v _
    split
    · exact simulates_nodes alike ext env body among
    · rw [Op.runAll]
      exact simulates_pure .nil
  | ifThenElse condition body otherwise =>
    simp only [Op.ofNode, Op.run, Interpretation.node, Expr.eval_ofAccessor]
    have amongBoth := List.forall_mem_append.1 among
    apply Simulates.bind_lift
    intro v _
    split
    · exact simulates_nodes alike ext env body amongBoth.1
    · exact simulates_nodes alike ext env otherwise amongBoth.2
  | each items item index body =>
    -- The scope and the frame of the body are those of the entered environment.
    have bodies : ∀ i v, Simulates allowed requests (Prints helpers writers)
        (Op.runAll helpers includer (env.frame.enter v (if index.isSome then some i else none))
          (Op.ofNodes env.visible (env.scope.enter item index) body))
        (Interpretation.nodes helpers including (env.enter item index i v) body) := by
      intro i v
      have inner := simulates_nodes alike ext (env.enter item index i v) body among
      rw [Env.frame_enter, Env.visible_enter, Env.scope_enter] at inner
      exact inner
    have extBodies : ∀ i v, (Interpretation.nodes helpers including
        (env.enter item index i v) body).Extends :=
      fun i v => Interpretation.extends_nodes ext (env.enter item index i v) body
    simp only [Op.ofNode, Op.run, Interpretation.node, Expr.eval_ofAccessor]
    apply Simulates.bind_lift
    intro v _
    cases v with
    | null => exact simulates_pure .nil
    | list members => exact simulates_eachMember bodies extBodies 0 members
    | _ => exact simulates_throw _
  | inclusion name params =>
    have included := alike env name (params.getD [])
    cases name <;> exact included

/-- Steps do what the reading of their nodes does. -/
theorem simulates_nodes (alike : IncludesAlike allowed requests helpers writers includer including)
    (ext : ∀ env name params, (including env name params).Extends) (env : Env) (ns : List Node)
    (among : ∀ leaf ∈ Node.leavesAll ns, writers leaf) :
    Simulates allowed requests (Prints helpers writers)
      (Op.runAll helpers includer env.frame (Op.ofNodes env.visible env.scope ns))
      (Interpretation.nodes helpers including env ns) := by
  cases ns with
  | nil =>
    rw [Op.ofNodes, Op.runAll]
    exact simulates_pure .nil
  | cons n rest =>
    have amongBoth := List.forall_mem_append.1 among
    rw [Op.ofNodes, Op.runAll, Interpretation.nodes]
    apply (simulates_node alike ext env n amongBoth.1).bind
    · intro before out prints
      apply (simulates_nodes alike ext env rest amongBoth.2).bind
      · exact fun after more prints' => simulates_pure (prints.append prints')
      · exact fun _ => Reading.extends_pure _
    · exact fun _ => (Interpretation.extends_nodes ext env rest).bind fun _ =>
        Reading.extends_pure _

end

end

/-! ## Inclusions and templates -/

section
variable {allowed : String → Prop} {requests : List Request} {writers : Node → Prop}
  (helpers : HelperTable)

/-- The name of an inclusion in a program is the one that the template gives. -/
theorem IncludeName.eval_ofPartialName (env : Env) (name : PartialName) :
    (IncludeName.ofPartialName env name).eval helpers env.frame = name.value helpers env := by
  cases name with
  | fixed name => rfl
  | computed a => simp only [ofPartialName, eval, PartialName.value, Expr.eval_ofAccessor]

/-- Where the depth is used up both sides refuse the inclusion. -/
theorem includesAlike_refuse (maxDepth : Nat) :
    IncludesAlike allowed requests helpers writers (.refuse helpers maxDepth)
      (Interpretation.inclusion helpers maxDepth none) := by
  intro env name params
  rw [Includer.refuse, IncludeName.eval_ofPartialName]
  exact Simulates.bind_lift fun name _ => simulates_throw _

/-- An inclusion does what its reading does, if the programs of included templates do. -/
theorem includesAlike_enter (maxDepth : Nat) {run : Value → Program → Render (List Fragment)}
    {body : Env → Template → Reading String} (extends_body : ∀ env t, (body env t).Extends)
    (asked : ∀ text, allowed text → ⟨text, helpers.customNames⟩ ∈ requests)
    (alike : ∀ visible root t, Spelled allowed t →
      Simulates allowed requests (Prints helpers writers)
        (run root (.ofTemplate visible t)) (body ⟨visible, root, []⟩ t)) :
    IncludesAlike allowed requests helpers writers (.enter helpers run)
      (Interpretation.inclusion helpers maxDepth (some body)) := by
  intro env name params
  rw [Includer.enter, IncludeName.eval_ofPartialName, Expr.ofParams, Expr.evalParams_ofAccessor]
  apply Simulates.bind_lift
  intro name _
  -- Finding the text and reading it are one step of the program.
  dsimp only
  rw [← bind_assoc]
  apply (simulates_partialProgram asked name).bind
  · rintro program t ⟨rfl, spelled⟩
    apply Simulates.bind_lift
    intro values _
    rw [Env.partialContext_frame]
    exact alike _ _ t spelled
  · intro t
    exact (Reading.extends_lift _).bind fun values => extends_body _ t

/-- The program of a template does what the reading of the template does, however deep inclusions
may nest. Its fragments are written by the leaves of the template and of the included ones. -/
theorem simulates_template (writers : Node → Prop)
    (asked : ∀ text, allowed text → ⟨text, helpers.customNames⟩ ∈ requests)
    (amongIncluded : ∀ t, Spelled allowed t → ∀ leaf ∈ Node.leavesAll t, writers leaf)
    (maxDepth depth : Nat) (visible : List String) (root : Value) (t : Template)
    (among : ∀ leaf ∈ Node.leavesAll t, writers leaf) :
    Simulates allowed requests (Prints helpers writers)
      (Program.run helpers maxDepth depth root (.ofTemplate visible t))
      (Interpretation.template helpers maxDepth depth ⟨visible, root, []⟩ t) := by
  induction depth generalizing visible root t with
  | zero =>
    -- No inclusion may nest: each is refused before its text is looked for.
    exact simulates_nodes (includesAlike_refuse helpers maxDepth)
      (Interpretation.extends_inclusion fun run inner => by cases inner) ⟨visible, root, []⟩ t among
  | succ depth ih =>
    have deeper : ∀ env t, (Interpretation.template helpers maxDepth depth env t).Extends :=
      fun env t => Interpretation.extends_template maxDepth depth env t
    have alike := includesAlike_enter helpers maxDepth deeper asked
      fun visible root t spelled => ih visible root t (amongIncluded t spelled)
    refine simulates_nodes alike (Interpretation.extends_inclusion ?_) ⟨visible, root, []⟩ t among
    intro run isSome
    cases isSome
    exact deeper

/-- A result that is only written out differently. -/
theorem Simulates.map {V : α → β → Prop} {W : γ → β → Prop} {x : Render α} {y : Reading β}
    {f : α → γ} (h : Simulates allowed requests V x y) (hf : ∀ a b, V a b → W (f a) b) :
    Simulates allowed requests W (do return f (← x)) y := by
  intro s r m recorded
  rcases h s r m recorded with ⟨agree, m'⟩
  rw [run_bind]
  -- Both fail with the same error, or both have values; then only the first one is mapped.
  cases hx : x.run.run s with
  | mk xResult s' =>
    rw [hx] at agree m'
    cases hy : (y.run.run r).1 with
    | error e =>
      rw [hy] at agree
      cases xResult with
      | error e' => exact ⟨agree, m'⟩
      | ok a => cases agree
    | ok b =>
      rw [hy] at agree
      cases xResult with
      | error e' => cases agree
      | ok a => exact ⟨hf a b agree, m'⟩

/-- An artifact whose program belongs to a template renders what the template reads to. -/
theorem simulates_render
    (asked : ∀ text, allowed text → ⟨text, helpers.customNames⟩ ∈ requests) (maxDepth : Nat)
    (visible : List String) (root : Value) (t : Template) {a : Artifact}
    (h : a.program = .ofTemplate visible t) :
    Simulates allowed requests Eq (a.render helpers maxDepth root)
      (Interpretation.template helpers maxDepth maxDepth ⟨visible, root, []⟩ t) := by
  unfold Artifact.render
  rw [h]
  have run := simulates_template helpers (fun _ => True) asked (fun _ _ _ _ => trivial) maxDepth
    maxDepth visible root t fun _ _ => trivial
  exact run.map fun _ _ prints => prints.joins

end

/-- What agrees with a value is a value that stands for it. -/
theorem Agree.exists_ok {V : α → β → Prop} {a : α} {y : Except RenderError β}
    (h : Agree V (.ok a) y) : ∃ b, y = .ok b ∧ V a b := by
  cases y with
  | error e => cases h
  | ok b => exact ⟨b, rfl, h⟩

theorem eq_of_agree {x y : Except RenderError α} (h : Agree Eq x y) : x = y := by
  cases x with
  | error e =>
    cases y with
    | error f => exact congrArg Except.error h
    | ok b => cases h
  | ok a =>
    cases y with
    | error f => cases h
    | ok b => exact congrArg Except.ok h

/-- From matching states, rendering the program of a template comes to what reading the template
comes to. -/
theorem render_eq_reading {helpers : HelperTable} {maxDepth : Nat} {visible : List String}
    {root : Value} {registry : Option Registry} {t : Template} {a : Artifact}
    {requests : List Request} (program : a.program = .ofTemplate visible t)
    (asked : ∀ text ∈ t.includedTexts helpers maxDepth visible root registry,
      ⟨text, helpers.customNames⟩ ∈ requests)
    {s : Session} (m : Matches requests s ⟨registry, []⟩) :
    ((a.render helpers maxDepth root).run.run s).1 =
        (t.reading helpers maxDepth visible root registry).1 ∧
      Matches requests ((a.render helpers maxDepth root).run.run s).2
        (t.reading helpers maxDepth visible root registry).2 := by
  rcases simulates_render helpers asked maxDepth visible root t program s _ m
    (fun _ included => included) with ⟨agree, m'⟩
  exact ⟨eq_of_agree agree, m'⟩

namespace Artifact

/-- The output of an artifact on a context where nothing is kept, and the registry as it has
become. -/
def renderAlone (helpers : HelperTable) (maxDepth : Nat) (root : Value)
    (registry : Option Registry) (a : Artifact) : Except RenderError String × Option Registry :=
  let (out, session) := (a.render helpers maxDepth root).run.run ⟨registry, none⟩
  (out, session.registry)

/-- Without a cache an artifact renders what its template reads to. -/
theorem renderAlone_eq_interpret {helpers : HelperTable} {maxDepth : Nat} {visible : List String}
    {root : Value} {registry : Option Registry} {t : Template} {a : Artifact}
    (program : a.program = .ofTemplate visible t) :
    a.renderAlone helpers maxDepth root registry =
      t.interpret helpers maxDepth visible root registry := by
  let requests := (t.includedTexts helpers maxDepth visible root registry).map
    fun text => (⟨text, helpers.customNames⟩ : Request)
  have m : Matches requests ⟨registry, none⟩ ⟨registry, []⟩ := matches_uncached registry []
  obtain ⟨sameOut, m'⟩ := render_eq_reading program
    (fun text held => List.mem_map_of_mem held) m
  exact Prod.ext sameOut m'.registry

/-- **Lowering keeps the meaning of templates.** Whatever helpers a template may refer to and
whatever it is rendered with, its program comes to the output, or to the error, that the template
has when its names are looked up among the bindings of the loops around them. -/
theorem render_ofTemplate (helpers : HelperTable) (maxDepth : Nat) (visible : List String)
    (root : Value) (registry : Option Registry) (entryPoint : String) (t : Template) :
    (ofTemplate visible entryPoint t).renderAlone helpers maxDepth root registry =
      t.interpret helpers maxDepth visible root registry :=
  renderAlone_eq_interpret rfl

end Artifact

end TextTemplate
