import TextTemplate.Calendar.CommonLocales
import TextTemplate.Proofs.CacheTransparency
import TextTemplate.Proofs.HelperNames
import TextTemplate.Proofs.Partials
import TextTemplate.Proofs.Survey

/-!
# Helpers at compile time and at run time

A source is compiled for the names of the helpers that it is rendered with, and so is each partial.
The programs come out of a cache that other renderings with other helpers may share; as long as no
two requests share a key they are those of their texts (`Survey.Lowered`). So a bare name that has
been taken for a helper is one, and a helper is unknown only where a pipe names it
(`helpersAgree_after`). The run is followed under survey: each program is charged with the unknown
helpers of its own expressions (`Program.tells_surveyed`).
-/

namespace TextTemplate

/-! ## Programs that are run -/

/-- An expression of one of the programs calls the helper. -/
def Program.Call (programs : List (String × Program)) (name : String) : Prop :=
  ∃ p ∈ programs, ∃ e ∈ p.2.exprs, e.Calls name

/-- Errors of other kinds name no unknown helper. -/
theorem RenderError.chargedTo_of_ne {helpers : HelperTable} {called : String → Prop}
    {e : RenderError} (other : ∀ name, e ≠ .unknownHelper name) : e.ChargedTo helpers called :=
  fun name same => absurd same (other name)

/-- An error that some programs are charged with may be charged to more of them. -/
theorem RenderError.ChargedTo.mono {helpers : HelperTable} {programs more : List (String × Program)}
    {e : RenderError} (h : e.ChargedTo helpers (Program.Call programs)) (sub : programs ⊆ more) :
    e.ChargedTo helpers (Program.Call more) := by
  intro name same
  obtain ⟨missing, p, among, calls⟩ := h name same
  exact ⟨missing, p, sub among, calls⟩

namespace Survey

variable {helpers : HelperTable} {requests : List Request} {maxDepth : Nat}
  {running : List (String × Program)} {α β : Type}

/-- All programs are those of the templates that their texts spell, lowered for the names of the
helpers; and the cache, if there is one, gives no others to the requests. -/
structure Lowered (helpers : HelperTable) (requests : List Request) (o : Survey) : Prop where
  cache : ∀ c, o.session.cache = some c → c.Faithful requests
  programs : ∀ p ∈ o.programs, ∃ t, Template.ofSource? p.1 = .ok t ∧
    p.2 = .ofTemplate (Helper.standardNames ++ helpers.customNames) t

/-- What a computation tells from a survey on: it only adds programs, of texts that the registry
offers; they are lowered, as long as their texts are among the requests; and the programs are
charged with an unknown helper. -/
structure Told (helpers : HelperTable) (requests : List Request) (o : Survey)
    (result : Except RenderError α) (after : Survey) : Prop where
  grows : o.programs <:+ after.programs
  offers : ∀ text, Registry.MayOffer after.session.registry text →
    Registry.MayOffer o.session.registry text
  offered : ∀ p ∈ after.programs, p ∈ o.programs ∨ Registry.MayOffer o.session.registry p.1
  lowered : (∀ p ∈ after.programs, ⟨p.1, helpers.customNames⟩ ∈ requests) →
    o.Lowered helpers requests → after.Lowered helpers requests
  charged : ∀ e, result = .error e → e.ChargedTo helpers (Program.Call after.programs)

/-- What the computation tells wherever the running programs are on record. -/
def Tells (helpers : HelperTable) (requests : List Request) (running : List (String × Program))
    (y : Over Survey α) : Prop :=
  ∀ o : Survey, running ⊆ o.programs →
    Told helpers requests o (y.run.run o).1 (y.run.run o).2

/-- Where nothing is found, only the registry may change. -/
theorem told_of_same {result : Except RenderError α} {o after : Survey}
    (offers : ∀ text, Registry.MayOffer after.session.registry text →
      Registry.MayOffer o.session.registry text)
    (cache : after.session.cache = o.session.cache) (programs : after.programs = o.programs)
    (charged : ∀ e, result = .error e → e.ChargedTo helpers (Program.Call o.programs)) :
    Told helpers requests o result after where
  grows := by rw [programs]
  offers := offers
  offered := by
    rw [programs]
    exact fun p held => .inl held
  lowered := by
    intro _ lowered
    constructor
    · rw [cache]
      exact lowered.cache
    · rw [programs]
      exact lowered.programs
  charged := by rwa [programs]

theorem told_ok (a : α) (o : Survey) : Told helpers requests o (.ok a) o :=
  told_of_same (fun _ h => h) rfl rfl fun _ same => by cases same

/-- A failure that its programs are charged with leaves the survey as it is. -/
theorem told_error {e : RenderError} {o : Survey}
    (charged : e.ChargedTo helpers (Program.Call o.programs)) :
    Told helpers requests o (.error e : Except RenderError α) o := by
  refine told_of_same (fun _ h => h) rfl rfl ?_
  rintro _ ⟨⟩
  exact charged

/-- What comes later is told from the beginning on. -/
theorem Told.trans {x : Except RenderError α} {y : Except RenderError β} {o inner after : Survey}
    (h : Told helpers requests o x inner) (h' : Told helpers requests inner y after) :
    Told helpers requests o y after where
  grows := h.grows.trans h'.grows
  offers := fun text later => h.offers text (h'.offers text later)
  offered := by
    intro p held
    rcases h'.offered p held with before | later
    · exact h.offered p before
    · exact .inr (h.offers p.1 later)
  lowered := fun asked lowered =>
    h'.lowered asked (h.lowered (fun p held => asked p (h'.grows.subset held)) lowered)
  charged := h'.charged

/-- What a survey tells of two parts it tells of the whole. -/
theorem Tells.bind {y : Over Survey α} {f : α → Over Survey β}
    (h : Tells helpers requests running y) (hf : ∀ a, Tells helpers requests running (f a)) :
    Tells helpers requests running (y >>= f) := by
  intro o among
  have first := h o among
  rw [run_bind]
  cases read : y.run.run o with
  | mk result inner =>
    rw [read] at first
    cases result with
    | error e =>
      -- If the first computation fails, what it has told is all there is, and the error is charged
      -- to it.
      refine ⟨first.grows, first.offers, first.offered, first.lowered, ?_⟩
      rintro _ ⟨⟩
      exact first.charged e rfl
    | ok a => exact first.trans (hf a inner (List.Subset.trans among first.grows.subset))

/-- The running programs may raise errors that they are charged with. -/
theorem tells_respects (running : List (String × Program)) :
    Over.Respects (fun e f => e = f ∧ e.ChargedTo helpers (Program.Call running))
      (fun {α} (y _ : Over Survey α) => Tells helpers requests running y) where
  pure := fun a o _ => told_ok a o
  throw := by
    rintro α e _ ⟨rfl, charged⟩ o among
    exact told_error (charged.mono among)
  bind := Tells.bind

/-- In one frame the expressions of the running programs correspond to themselves: each program is
charged with what its expressions call. -/
theorem correspondence (escapes : helpers.contains Helper.escapeName = true)
    (running : List (String × Program)) :
    Correspondence helpers (fun e f => e = f ∧ e.ChargedTo helpers (Program.Call running)) Eq Eq
      fun e => ∃ p ∈ running, e ∈ p.2.exprs := by
  -- In one frame everything is equal; what there is to show is who an unknown helper is charged to.
  apply Correspondence.of_eq
  · rintro e frame _ ⟨p, among, held⟩ rfl
    apply Outcome.refl
    intro cause failed
    refine ⟨rfl, ?_⟩
    rintro name rfl
    exact (Expr.unknown_of_eval failed).imp_right fun calls => ⟨p, among, e, held, calls⟩
  · intro v
    apply Outcome.refl
    intro cause failed
    refine ⟨rfl, ?_⟩
    rintro name rfl
    exact absurd failed (HelperTable.ne_unknownHelper_of_call escapes name)
  · exact fun path found => ⟨rfl, nofun⟩
  · rintro frame _ v index rfl
    rfl
  · rintro frame _ params rfl
    rfl

/-- A computation that goes on with the program of a partial has one more running program. -/
theorem tells_find (free : Request.CollisionFree requests) (name : String)
    {f : Program → Over Survey (List Fragment)}
    (h : ∀ text program, Tells helpers requests ((text, program) :: running) (f program)) :
    Tells helpers requests running ((Host.surveyed helpers maxDepth).find name >>= f) := by
  intro o among
  rw [run_bind, Host.run_find_surveyed]
  have offers (text : String) : Registry.MayOffer (o.session.lookUp name).registry text →
      Registry.MayOffer o.session.registry text := Registry.MayOffer.of_textOf
  cases found : (Registry.textOf name o.session.registry).1 with
  | error e =>
    refine told_of_same offers rfl rfl ?_
    rintro _ ⟨⟩
    apply RenderError.chargedTo_of_ne
    rintro unknown rfl
    rcases Registry.error_of_textOf found with same | ⟨_, same⟩ <;> cases same
  | ok text =>
    have offered : Registry.MayOffer o.session.registry text :=
      offers text (Registry.mayOffer_textOf found)
    have registry := Session.registry_compile text helpers.customNames (o.session.lookUp name)
    dsimp only
    cases compiled : (o.session.lookUp name).compile text helpers.customNames with
    | mk result left =>
      rw [compiled] at registry
      cases result with
      | error cause =>
        -- The cache is the one of the survey, as nothing has been compiled.
        have same := Session.compile_of_error (congrArg Prod.fst compiled)
        rw [compiled] at same
        subst same
        refine told_of_same offers rfl rfl ?_
        rintro _ ⟨⟩
        exact RenderError.chargedTo_of_ne fun unknown same => by cases same
      | ok a =>
        have first : Told helpers requests o (.ok a.program)
            ⟨left, (text, a.program) :: o.programs⟩ := by
          refine ⟨List.suffix_cons _ _, ?_, ?_, fun asked lowered => ?_, ?_⟩
          · rw [registry]
            exact offers
          · rw [List.forall_mem_cons]
            exact ⟨.inr offered, fun _ h => .inl h⟩
          · obtain ⟨answer, after⟩ := Session.compile_of_faithful
              (s := o.session.lookUp name) (fun _ => free) lowered.cache
              (asked _ (List.mem_cons_self ..))
            rw [compiled] at answer after
            refine ⟨after, ?_⟩
            rw [List.forall_mem_cons]
            exact ⟨Artifact.program_of_compile? answer.symm, lowered.programs⟩
          · rintro _ ⟨⟩
        exact first.trans (h text a.program _ (List.cons_subset_cons _ among))

/-- A part that sees no session may only fail with what the running programs are charged with. -/
theorem Tells.bind_lift {x : Except RenderError α} {f : α → Over Survey β}
    (charged : ∀ e, x = .error e → e.ChargedTo helpers (Program.Call running))
    (hf : ∀ a, Tells helpers requests running (f a)) :
    Tells helpers requests running (Over.lift x >>= f) := by
  cases x with
  | error e => exact (tells_respects running).throw ⟨rfl, charged e rfl⟩
  | ok a => exact hf a

/-- What an inclusion of the running programs evaluates may fail with what they are charged with. -/
theorem charged_inclusion (escapes : helpers.contains Helper.escapeName = true) (frame : Frame)
    {name : IncludeName} {params : List (String × Expr)}
    (known : ∀ e ∈ name.exprs ++ params.map (·.2), ∃ p ∈ running, e ∈ p.2.exprs) :
    (∀ e, name.eval helpers frame = .error e → e.ChargedTo helpers (Program.Call running)) ∧
      ∀ e, Expr.evalParams helpers frame params = .error e →
        e.ChargedTo helpers (Program.Call running) := by
  have k := correspondence escapes running
  rw [List.forall_mem_append] at known
  constructor
  · intro e failed
    have same := k.evalName (rfl : frame = frame) known.1
    rw [failed] at same
    exact same.2
  · intro e failed
    have same := k.evalParams (rfl : frame = frame) known.2
    rw [failed] at same
    exact same.2

/-- The steps of a running program tell, if its inclusions do. -/
theorem tells_runAllOver (escapes : helpers.contains Helper.escapeName = true)
    {p : String × Program} (runs : p ∈ running) {includer : IncluderOver Survey}
    (h : ∀ frame name (params : List (String × Expr)),
      (∀ e ∈ name.exprs ++ params.map (·.2), ∃ p ∈ running, e ∈ p.2.exprs) →
        Tells helpers requests running (includer frame name params)) (frame : Frame) :
    Tells helpers requests running (Op.runAllOver helpers includer frame p.2.ops) := by
  have all : IncluderOver.Alike (fun {α} (y _ : Over Survey α) => Tells helpers requests running y)
      Eq (fun e => ∃ p ∈ running, e ∈ p.2.exprs) includer includer := by
    rintro frame _ name params rfl known
    exact h frame name params known
  exact Op.alike_runAllOver (tells_respects running) (correspondence escapes running) all rfl
    p.2.ops fun e held => ⟨p, runs, held⟩

end Survey

-- The induction is on the depth. The programs of partials run beside those that include them.
/-- A program that is surveyed tells what it adds, and it is charged itself. -/
theorem Program.tells_surveyed {helpers : HelperTable} {requests : List Request}
    (free : Request.CollisionFree requests) (escapes : helpers.contains Helper.escapeName = true)
    (maxDepth depth : Nat) (root : Value) {running : List (String × Program)} {p : String × Program}
    (runs : p ∈ running) : Survey.Tells helpers requests running
      (Program.runOver helpers (.surveyed helpers maxDepth) depth root p.2) := by
  -- By induction on the depth: the program that is found joins those that run.
  induction depth generalizing root running p with
  | zero =>
    apply Survey.tells_runAllOver escapes runs
    intro frame name params known
    apply Survey.Tells.bind_lift (Survey.charged_inclusion escapes frame known).1
    exact fun name => (Survey.tells_respects running).throw ⟨rfl, nofun⟩
  | succ depth ih =>
    apply Survey.tells_runAllOver escapes runs
    intro frame name params known
    obtain ⟨chargedName, chargedParams⟩ := Survey.charged_inclusion escapes frame known
    apply Survey.Tells.bind_lift chargedName
    intro name
    apply Survey.tells_find free
    intro text program
    apply Survey.Tells.bind_lift
    · exact fun e failed => (chargedParams e failed).mono (List.subset_cons_self ..)
    · exact fun values => ih (frame.partialContext values) (List.mem_cons_self ..)

/-! ## Renderings -/

/-- The helpers that programs were compiled for are those that they are run with: the standard ones
and the added ones. `out` is what their rendering came to. -/
structure HelpersAgree (added : List (String × Helper)) (helpers : HelperTable)
    (programs : List (String × Program)) (out : Except EngineError String) : Prop where
  custom : ∀ name, name ∈ helpers.customNames ↔ name ∈ added.map (·.1)
  table : ∀ name, name ∈ Helper.standardNames ++ helpers.customNames ↔
    helpers.contains name = true
  /-- Each program is that of its text, for these names. -/
  compiled : ∀ p ∈ programs, ∃ t, Template.ofSource? p.1 = .ok t ∧
    p.2 = .ofTemplate (Helper.standardNames ++ helpers.customNames) t
  /-- Only a pipe of an expression may be unknown, not its bare name. -/
  bare : ∀ p ∈ programs, ∀ e ∈ p.2.exprs, ∀ frame name,
    e.eval helpers frame = .error (.unknownHelper name) → name ∈ e.pipes
  escape : ∀ args name, helpers.call Helper.escapeName args ≠ .error (.unknownHelper name)
  /-- A helper that turns out to be unknown is neither standard nor added, and it is a pipe in one
  of the texts. -/
  unknown : ∀ name, out = .error (.render (.unknownHelper name)) →
    name ∉ Helper.standardNames ∧ name ∉ added.map (·.1) ∧
      ∃ p ∈ programs, ∃ t, Template.ofSource? p.1 = .ok t ∧ name ∈ t.pipes

section
variable {locales : LocaleTable} {added : List (String × Helper)}
  {programs : List (String × Program)} {out : Except EngineError String}

/-- The helper that escapes is there, whatever has been added. -/
theorem HelperTable.contains_escapeName :
    ((standard locales).insertAll added).contains Helper.escapeName = true :=
  mem_known_iff.1 (List.mem_append_left _ (by decide))

/-- It is enough that the programs are compiled for the names, and that they are charged with a
helper that is unknown. -/
theorem HelpersAgree.of_charged
    (compiled : ∀ p ∈ programs, ∃ t, Template.ofSource? p.1 = .ok t ∧ p.2 = .ofTemplate
      (Helper.standardNames ++ ((HelperTable.standard locales).insertAll added).customNames) t)
    (charged : ∀ e, out = .error (.render e) →
      e.ChargedTo ((HelperTable.standard locales).insertAll added) (Program.Call programs)) :
    HelpersAgree added ((HelperTable.standard locales).insertAll added) programs out := by
  have custom (name : String) :
      name ∈ ((HelperTable.standard locales).insertAll added).customNames ↔
        name ∈ added.map (·.1) := by
    rw [HelperTable.mem_customNames_insertAll]
    exact or_iff_left List.not_mem_nil
  -- The lowering did not know a helper that is missing, so that no bare name stands for it.
  have piped {p : String × Program} (among : p ∈ programs) {e : Expr} (held : e ∈ p.2.exprs)
      {name : String}
      (missing : ((HelperTable.standard locales).insertAll added).contains name = false)
      (calls : e.Calls name) : name ∈ e.pipes ∧
        ∃ t, Template.ofSource? p.1 = .ok t ∧ name ∈ t.pipes := by
    obtain ⟨t, spelled, lowered⟩ := compiled p among
    rw [lowered] at held
    rcases calls with piped | bare
    · exact ⟨piped, t, spelled, Program.mem_pipes_ofTemplate held piped⟩
    · have known := HelperTable.mem_known_iff.1 (Program.mem_names_ofTemplate held bare)
      rw [missing] at known
      cases known
  refine ⟨custom, fun name => HelperTable.mem_known_iff, compiled, ?_, ?_, ?_⟩
  · intro p among e held frame name failed
    obtain ⟨missing, calls⟩ := Expr.unknown_of_eval failed
    exact (piped among held missing calls).1
  · exact fun args => HelperTable.ne_unknownHelper_of_call HelperTable.contains_escapeName
  · intro name failed
    obtain ⟨missing, p, among, e, held, calls⟩ := charged _ failed name rfl
    have unknown : name ∉ Helper.standardNames ++
        ((HelperTable.standard locales).insertAll added).customNames := by
      rw [HelperTable.mem_known_iff, missing]
      exact Bool.false_ne_true
    rw [List.mem_append, not_or, custom] at unknown
    exact ⟨unknown.1, unknown.2, p, among, (piped among held missing calls).2⟩

end

/-- The programs that an engine over a cache that has come through some moves runs when it renders a
source. -/
def programsAfter (capacity : Nat) (moves : List CacheMove) (options : EngineOptions)
    (source : String) (root : Value) (helpers : HelperTable) (registry : Option Registry) :
    List (String × Program) :=
  (Engine.ofCache (CacheMove.runAll (.empty capacity) moves) options).programs source root helpers
    registry

/-- What a cache has been asked for by some moves, and then to find programs. -/
def programRequests (moves : List CacheMove) (helpers : HelperTable)
    (programs : List (String × Program)) : List Request :=
  moves.flatMap CacheMove.requests ++ programs.map fun p => ⟨p.1, helpers.customNames⟩

namespace Engine

variable {source : String} {root : Value} {registry : Option Registry} {helpers : HelperTable}
  {requests : List Request}

/-- A source that is loaded renders as its artifact does. -/
theorem render_of_load {engine left : Engine} {loaded : StampedArtifact}
    (loading : engine.load source helpers.customNames = (.ok loaded, left)) :
    (engine.render source root helpers registry).1 =
      ((loaded.artifact.render helpers left.options.maxDepth root).run.run
        ⟨registry, some left.cache⟩).1.mapError .render := by
  simp only [Engine.render, loading]
  rcases (loaded.artifact.render helpers left.options.maxDepth root).run.run
    ⟨registry, some left.cache⟩ with ⟨cause | out, session⟩ <;> rfl

/-- A rendering tells what the survey of its artifact does. -/
theorem exists_told (root : Value) (registry : Option Registry)
    (free : Request.CollisionFree requests)
    (escapes : helpers.contains Helper.escapeName = true) {engine left : Engine}
    {loaded : StampedArtifact}
    (loading : engine.load source helpers.customNames = (.ok loaded, left)) :
    ∃ (result : Except RenderError (List Fragment)) (after : Survey),
      engine.programs source root helpers registry = after.programs ∧
        (∀ e, (engine.render source root helpers registry).1 = .error (.render e) →
          result = .error e) ∧
        Survey.Told helpers requests
          ⟨⟨registry, some left.cache⟩, [(source, loaded.artifact.program)]⟩ result after := by
  -- The survey begins with the program of the source.
  let begins : Survey := ⟨⟨registry, some left.cache⟩, [(source, loaded.artifact.program)]⟩
  have told : Survey.Told helpers requests begins _ _ :=
    Program.tells_surveyed free escapes left.options.maxDepth left.options.maxDepth root
      (List.mem_singleton_self (source, loaded.artifact.program)) begins (List.Subset.refl _)
  refine ⟨_, _, ?_, ?_, told⟩
  · simp only [Engine.programs, loading]
    rfl
  · intro e failed
    rw [render_of_load loading, Artifact.render_eq_survey source, Artifact.survey] at failed
    dsimp only
    generalize (Program.runOver helpers (.surveyed helpers left.options.maxDepth)
      left.options.maxDepth root loaded.artifact.program).run.run begins = run at failed ⊢
    rcases run with ⟨cause | out, after⟩
    · cases failed
      rfl
    · cases failed

/-- A source that does not compile has no programs. -/
theorem programs_of_error {engine left : Engine} {cause : CompileError}
    (loading : engine.load source helpers.customNames = (.error cause, left)) :
    engine.programs source root helpers registry = [] := by
  simp only [Engine.programs, loading]

/-- The text of a program is the source, or one that the registry offers. -/
theorem text_of_mem_programs (escapes : helpers.contains Helper.escapeName = true)
    {engine : Engine} {p : String × Program}
    (among : p ∈ engine.programs source root helpers registry) :
    p.1 = source ∨ Registry.MayOffer registry p.1 := by
  -- A source that does not load has no programs at all.
  cases loading : engine.load source helpers.customNames with
  | mk result left =>
    cases result with
    | error cause =>
      rw [programs_of_error loading] at among
      cases among
    | ok loaded =>
      obtain ⟨_, after, programs, _, told⟩ :=
        exists_told root registry Request.collisionFree_nil escapes loading
      rw [programs] at among
      rcases told.offered p among with first | offered
      · rw [List.mem_singleton.1 first]
        exact .inl rfl
      · exact .inr offered

/-- The program of the source is among the programs. -/
theorem source_mem_programs (escapes : helpers.contains Helper.escapeName = true)
    {engine : Engine} {loaded : StampedArtifact}
    (given : (engine.load source helpers.customNames).1 = .ok loaded) :
    (source, loaded.artifact.program) ∈ engine.programs source root helpers registry := by
  obtain ⟨_, after, programs, _, told⟩ :=
    exists_told root registry Request.collisionFree_nil escapes (Prod.ext given rfl)
  rw [programs]
  exact told.grows.subset (List.mem_singleton_self _)

theorem load_ofCache (c : ArtifactCache) (options : EngineOptions) (source : String)
    (customNames : List String) : (ofCache c options).load source customNames =
      ((c.getOrCompile source customNames).1,
        ofCache (c.getOrCompile source customNames).2 options) := rfl

/-- The programs that an engine runs over a faithful cache are compiled for the names of the table,
and charged with a helper that is unknown. -/
theorem programs_of_faithful {c : ArtifactCache} {options : EngineOptions}
    (free : Request.CollisionFree requests) (faithful : c.Faithful requests)
    (escapes : helpers.contains Helper.escapeName = true)
    (asked : ∀ p ∈ (ofCache c options).programs source root helpers registry,
      ⟨p.1, helpers.customNames⟩ ∈ requests) :
    (∀ p ∈ (ofCache c options).programs source root helpers registry,
        ∃ t, Template.ofSource? p.1 = .ok t ∧
          p.2 = .ofTemplate (Helper.standardNames ++ helpers.customNames) t) ∧
      ∀ e, ((ofCache c options).render source root helpers registry).1 = .error (.render e) →
        e.ChargedTo helpers
          (Program.Call ((ofCache c options).programs source root helpers registry)) := by
  cases loading : (ofCache c options).load source helpers.customNames with
  | mk result left =>
    cases result with
    | error cause =>
      rw [programs_of_error loading]
      simp only [Engine.render, loading]
      refine ⟨fun p among => absurd among List.not_mem_nil, ?_⟩
      intro e failed
      cases failed
    | ok loaded =>
      have main := asked _ (source_mem_programs escapes (congrArg Prod.fst loading))
      have answer := ArtifactCache.getOrCompile_artifact free faithful main
      have kept := faithful.getOrCompile main
      obtain ⟨_, after, programs, same, told⟩ :=
        exists_told root registry free escapes loading
      rw [programs] at asked ⊢
      rw [load_ofCache] at loading
      obtain ⟨given, rfl⟩ := Prod.mk.inj loading
      dsimp only at answer kept
      rw [given] at answer
      -- The survey begins with the program of the source, which is compiled for the names.
      have lowered : after.Lowered helpers requests := by
        apply told.lowered asked
        constructor
        · intro d same
          cases same
          exact kept
        · rw [List.forall_mem_singleton]
          exact Artifact.program_of_compile? answer.symm
      exact ⟨lowered.programs, fun e failed => told.charged e (same e failed)⟩

end Engine

/-- **Helpers are known when a source is compiled if they are when it is rendered.** Whatever
helpers are added to the standard ones, an engine over a cache that has come through any moves
compiles the source and each partial for the names of the table that they are rendered with; so a
helper that turns out to be unknown is a pipe in one of their texts, and neither standard nor added.
No two requests that the cache has been asked for may share a key. -/
theorem helpersAgree_after (locales : LocaleTable) (added : List (String × Helper))
    (capacity : Nat) (moves : List CacheMove) (options : EngineOptions) (source : String)
    (root : Value) (registry : Option Registry)
    (free : Request.CollisionFree (programRequests moves
      ((HelperTable.standard locales).insertAll added)
      (programsAfter capacity moves options source root
        ((HelperTable.standard locales).insertAll added) registry))) :
    let helpers := (HelperTable.standard locales).insertAll added
    let engine := Engine.ofCache (CacheMove.runAll (.empty capacity) moves) options
    let programs := programsAfter capacity moves options source root helpers registry
    (∀ loaded, (engine.load source helpers.customNames).1 = .ok loaded →
        (source, loaded.artifact.program) ∈ programs) ∧
      (∀ p ∈ programs, p.1 = source ∨ Registry.MayOffer registry p.1) ∧
      HelpersAgree added helpers programs
        (renderAfter capacity moves options source root helpers registry).1 := by
  intro helpers engine programs
  -- Whatever was done to the cache before, it gives the programs that the requests compile to.
  have faithful := CacheMove.faithful_runAll free (ArtifactCache.faithful_empty capacity) moves
    (List.subset_append_left ..)
  obtain ⟨compiled, charged⟩ := Engine.programs_of_faithful free faithful
    HelperTable.contains_escapeName
    fun p among => List.mem_append_right _ (List.mem_map_of_mem among)
  refine ⟨?_, ?_, .of_charged compiled charged⟩
  · exact fun loaded => Engine.source_mem_programs HelperTable.contains_escapeName
  · exact fun p => Engine.text_of_mem_programs HelperTable.contains_escapeName

/-- Another engine has loaded the source; its partial pipes through a helper that nobody added. -/
theorem helpersAgree_after_load_elsewhere :
    let added : List (String × Helper) := [("upper", fun _ => .ok .null)]
    let moves : List CacheMove := [.load ⟨3, 2⟩ "\x7b\x7b>p\x7d\x7d" ["upper"]]
    let registry : Option Registry := some ⟨[("p", "\x7b\x7bx|>shout\x7d\x7d")], none, 0⟩
    let helpers := (HelperTable.standard .common).insertAll added
    let programs := programsAfter 1 moves ⟨1, 4⟩ "\x7b\x7b>p\x7d\x7d" .null helpers registry
    let out := (renderAfter 1 moves ⟨1, 4⟩ "\x7b\x7b>p\x7d\x7d" .null helpers registry).1
    Request.CollisionFree (programRequests moves helpers programs) ∧
      out = .error (.render (.unknownHelper "shout")) ∧
      HelpersAgree added helpers programs out := by
  intro added moves registry helpers programs out
  have free : Request.CollisionFree
      [⟨"\x7b\x7b>p\x7d\x7d", ["upper"]⟩, ⟨"\x7b\x7bx|>shout\x7d\x7d", ["upper"]⟩] :=
    Request.collisionFree_of_injective (by decide +kernel)
  have requests : programRequests moves helpers programs ⊆
      [⟨"\x7b\x7b>p\x7d\x7d", ["upper"]⟩, ⟨"\x7b\x7bx|>shout\x7d\x7d", ["upper"]⟩] := by
    intro q asked
    rcases List.mem_cons.1 asked with rfl | found
    · exact List.mem_cons_self ..
    · obtain ⟨p, among, rfl⟩ := List.mem_map.1 found
      rcases Engine.text_of_mem_programs HelperTable.contains_escapeName among with same | offered
      · rw [same]
        exact List.mem_cons_self ..
      · rw [List.mem_singleton.1 ((Registry.mayOffer_some.1 offered).mem_of_unresolved rfl)]
        exact List.mem_cons_of_mem _ (List.mem_singleton_self _)
  have asked : requestsAfter moves ⟨1, 4⟩ "\x7b\x7b>p\x7d\x7d" .null helpers registry ⊆
      [⟨"\x7b\x7b>p\x7d\x7d", ["upper"]⟩, ⟨"\x7b\x7bx|>shout\x7d\x7d", ["upper"]⟩] := by
    have all : requestsAfter moves ⟨1, 4⟩ "\x7b\x7b>p\x7d\x7d" .null helpers registry =
        [⟨"\x7b\x7b>p\x7d\x7d", ["upper"]⟩, ⟨"\x7b\x7b>p\x7d\x7d", ["upper"]⟩,
          ⟨"\x7b\x7bx|>shout\x7d\x7d", ["upper"]⟩] := by
      dsimp only [moves, helpers, registry, added]
      cbv
    rw [all]
    simp
  have failed : out = .error (.render (.unknownHelper "shout")) := by
    -- Without collisions the output is that of a rendering without a cache, which can be computed.
    have direct : out = (renderDirectly "\x7b\x7b>p\x7d\x7d" .null helpers registry 4).1 :=
      congrArg Prod.fst (renderAfter_of_collisionFree (free.mono asked))
    have spelled : Template.ofSource? "\x7b\x7b>p\x7d\x7d" =
        .ok [.inclusion (.fixed "p") none] := by cbv
    rw [direct, renderDirectly_of_spelled .null helpers registry 4 spelled]
    dsimp only [helpers, registry, added]
    cbv
  exact ⟨free.mono requests, failed,
    (helpersAgree_after .common added 1 moves ⟨1, 4⟩ _ .null registry (free.mono requests)).2.2⟩

end TextTemplate
