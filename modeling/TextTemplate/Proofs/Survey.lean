import TextTemplate.Proofs.Observation
import TextTemplate.Proofs.SessionSteps

/-!
# The programs of a rendering

A `Survey` is a session with a record of the programs that a rendering runs, each beside the text
that it was asked for by: first that of the source, then one for each partial that is found. What a
program is asked for by need not be what it was compiled from, if the cache is in a bad state. A
program that is surveyed does to the session what it does without (`Artifact.render_eq_survey`).
-/

namespace TextTemplate

/-- A session, and the programs that have been found in it. -/
structure Survey where
  session : Session
  /-- The texts and their programs, last first. -/
  programs : List (String × Program)

/-- What a computation does to a session, under survey. -/
def Render.surveyed {α : Type} (x : Render α) : Over Survey α := ExceptT.mk fun o =>
  ((x.run.run o.session).1, { o with session := (x.run.run o.session).2 })

/-- Sessions under survey. The program of a partial goes into the record when it is found. -/
def Host.surveyed (helpers : HelperTable) (maxDepth : Nat) : Host Survey where
  refuse := fun name => throw (.partialDepthExceeded name maxDepth)
  find := fun name => do
    let text ← Render.surveyed (Render.resolve name)
    match ← Render.surveyed (Render.compile text helpers.customNames) with
    | .error cause => throw (.partialCompile name cause)
    | .ok a => do
      let o ← get
      set { o with programs := (text, a.program) :: o.programs }
      return a.program
  inside := fun _ run => run

/-- The output of an artifact on a context, and the programs that it has run. The artifact was asked
for by a source. -/
def Artifact.survey (source : String) (helpers : HelperTable) (maxDepth : Nat) (root : Value)
    (a : Artifact) (session : Session) : Except RenderError String × Survey :=
  let (fragments, o) := (Program.runOver helpers (.surveyed helpers maxDepth) maxDepth root
    a.program).run.run ⟨session, [(source, a.program)]⟩
  (fragments.map Fragment.join, o)

/-- The programs that an engine runs when it renders a source, last first, beside the texts that
they were asked for by. -/
def Engine.programs (source : String) (root : Value) (helpers : HelperTable)
    (registry : Option Registry) (engine : Engine) : List (String × Program) :=
  match engine.load source helpers.customNames with
  | (.error _, _) => []
  | (.ok loaded, engine) =>
    (loaded.artifact.survey source helpers engine.options.maxDepth root
      ⟨registry, some engine.cache⟩).2.programs

section
variable {helpers : HelperTable} {maxDepth : Nat}

/-- A partial that is found has its text and its program recorded; nothing else is. -/
theorem Host.run_find_surveyed (name : String) (o : Survey) :
    ((Host.surveyed helpers maxDepth).find name).run.run o =
      match (Registry.textOf name o.session.registry).1 with
      | .error e => (.error e, { o with session := o.session.lookUp name })
      | .ok text =>
        match (o.session.lookUp name).compile text helpers.customNames with
        | (.error cause, left) => (.error (.partialCompile name cause), { o with session := left })
        | (.ok a, left) => (.ok a.program, ⟨left, (text, a.program) :: o.programs⟩) := by
  -- A surveyed computation of the session leaves the programs alone.
  have looked : (Render.surveyed (Render.resolve name)).run.run o =
      ((Registry.textOf name o.session.registry).1,
        { o with session := o.session.lookUp name }) := by
    change (((Render.resolve name).run.run o.session).1, _) = _
    rw [run_resolve]
  simp only [Host.surveyed, run_bind, looked]
  cases (Registry.textOf name o.session.registry).1 with
  | error e => rfl
  | ok text =>
    have compiled : ∀ o : Survey,
        (Render.surveyed (Render.compile text helpers.customNames)).run.run o =
          (.ok (o.session.compile text helpers.customNames).1,
            { o with session := (o.session.compile text helpers.customNames).2 }) := by
      intro o
      change (((Render.compile text helpers.customNames).run.run o.session).1, _) = _
      rw [run_compile_eq]
    dsimp only
    rw [compiled]
    cases (o.session.lookUp name).compile text helpers.customNames with
    | mk result left => cases result <;> rfl

/-- A surveyed run that forgets its survey is the plain run. -/
theorem Program.forgets_surveyed (depth : Nat) (root : Value) (program : Program) :
    Over.Forgets Survey.session
      (Program.runOver helpers (.surveyed helpers maxDepth) depth root program)
      (Program.run helpers maxDepth depth root program) := by
  rw [Program.run_eq_runOver]
  apply Program.related_runOver (Over.forgets_congruence Survey.session)
  · exact fun name o => ⟨rfl, rfl⟩
  · intro name o
    -- The two ways to find a partial differ in the program that is noted, and that is forgotten.
    change _ = ((Render.partialProgram helpers name).run.run o.session).1 ∧
      _ = ((Render.partialProgram helpers name).run.run o.session).2
    rw [Host.run_find_surveyed, run_partialProgram, Session.program]
    cases (Registry.textOf name o.session.registry).1 with
    | error e => exact ⟨rfl, rfl⟩
    | ok text =>
      dsimp only
      cases (o.session.lookUp name).compile text helpers.customNames with
      | mk result left => cases result <;> exact ⟨rfl, rfl⟩
  · exact fun name y z h => h

end

/-- A rendering under survey has the same output, and it leaves the same session. -/
theorem Artifact.render_eq_survey (source : String) (helpers : HelperTable) (maxDepth : Nat)
    (root : Value) (a : Artifact) (session : Session) :
    (a.render helpers maxDepth root).run.run session =
      ((a.survey source helpers maxDepth root session).1,
        (a.survey source helpers maxDepth root session).2.session) :=
  Artifact.render_of_forgets (Program.forgets_surveyed maxDepth root a.program)
    ⟨session, [(source, a.program)]⟩

end TextTemplate
