import TextTemplate.Proofs.Parametricity

/-!
# What a rendering does with its inclusions

An `Observation` is a session with a record of the texts that were looked up, of the inclusions that
were entered and of the one that was refused. A program that is run under observation does to the
session what it does without (`Artifact.render_eq_observe`).
-/

namespace TextTemplate

/-- Something that happens to an inclusion. A chain of inclusions starts at the innermost one. -/
inductive Event where
  /-- The text of a partial is looked up in the registry as it is. -/
  | lookup (name : String) (registry : Option Registry)
  /-- The program of a partial is run, which makes the chain one longer. -/
  | entered (chain : List String)
  /-- An inclusion is refused for its depth at the end of a chain. -/
  | refused (name : String) (chain : List String)

/-- A session under observation. -/
structure Observation where
  session : Session
  /-- The inclusions that are running, innermost first. -/
  chain : List String
  /-- What has happened, last first. -/
  events : List Event

namespace Observation

def note (e : Event) (o : Observation) : Observation := { o with events := e :: o.events }

/-- The observation with an inclusion running inside the others. -/
def enter (name : String) (o : Observation) : Observation :=
  { o with chain := name :: o.chain, events := .entered (name :: o.chain) :: o.events }

end Observation

/-- What a computation does to a session, under observation. -/
def Render.observed {α : Type} (x : Render α) : Over Observation α := ExceptT.mk fun o =>
  ((x.run.run o.session).1, { o with session := (x.run.run o.session).2 })

/-- Sessions under observation. -/
def Host.observed (helpers : HelperTable) (maxDepth : Nat) : Host Observation where
  refuse := fun name => do
    let o ← get
    set (o.note (.refused name o.chain))
    throw (.partialDepthExceeded name maxDepth)
  find := fun name => do
    let o ← get
    set (o.note (.lookup name o.session.registry))
    Render.observed (Render.partialProgram helpers name)
  inside := fun name run => do
    let o ← get
    set (o.enter name)
    let out ← run
    let inner ← get
    set { inner with chain := o.chain }
    return out

/-- The output of an artifact on a context, and what has happened. -/
def Artifact.observe (helpers : HelperTable) (maxDepth : Nat) (root : Value) (a : Artifact)
    (session : Session) : Except RenderError String × Observation :=
  let (fragments, o) := (Program.runOver helpers (.observed helpers maxDepth) maxDepth root
    a.program).run.run ⟨session, [], []⟩
  (fragments.map Fragment.join, o)

section
variable {helpers : HelperTable} {maxDepth : Nat} {run : Over Observation (List Fragment)}
  {o inner : Observation}

/-- An inclusion that succeeds gives the chain back as it was. -/
theorem Host.run_inside_ok {name : String} {out : List Fragment}
    (h : run.run.run (o.enter name) = (.ok out, inner)) :
    ((Host.observed helpers maxDepth).inside name run).run.run o =
      (.ok out, { inner with chain := o.chain }) := by
  simp only [Host.observed, run_bind, run_get, run_set, h]
  rfl

/-- An inclusion that fails leaves the chain as it was where it failed. -/
theorem Host.run_inside_error {name : String} {e : RenderError}
    (h : run.run.run (o.enter name) = (.error e, inner)) :
    ((Host.observed helpers maxDepth).inside name run).run.run o = (.error e, inner) := by
  simp only [Host.observed, run_bind, run_get, run_set, h]

end

/-! ## States with more in them -/

section
variable {σ : Type} {α β : Type} {session : σ → Session}

/-- A computation over a state with a session in it does to the session what the other does. -/
def Over.Forgets (session : σ → Session) (y : Over σ α) (z : Render α) : Prop :=
  ∀ o, (y.run.run o).1 = (z.run.run (session o)).1 ∧
    session (y.run.run o).2 = (z.run.run (session o)).2

/-- Parts that forget what they observe make up a whole that does. -/
theorem Over.Forgets.bind {y : Over σ α} {z : Render α} {f : α → Over σ β} {g : α → Render β}
    (h : Forgets session y z) (hf : ∀ a, Forgets session (f a) (g a)) :
    Forgets session (y >>= f) (z >>= g) := by
  intro o
  have first := h o
  rw [run_bind, run_bind]
  cases hy : y.run.run o with
  | mk result inner =>
    cases hz : z.run.run (session o) with
    | mk result' left =>
      rw [hy, hz] at first
      -- The observed run and the plain one are at the same session with the same result.
      obtain ⟨rfl, rfl⟩ : result = result' ∧ session inner = left := first
      cases result with
      | error e => exact ⟨rfl, rfl⟩
      | ok a => exact hf a inner

theorem Over.forgets_congruence (session : σ → Session) : Over.Congruence (Forgets session) where
  lift := fun _ _ _ => ⟨rfl, rfl⟩
  bind := Forgets.bind

/-- The output of a rendering, and the session that it leaves, are those of a run that does to the
session what the program does. -/
theorem Artifact.render_of_forgets {helpers : HelperTable} {maxDepth : Nat} {root : Value}
    {a : Artifact} {y : Over σ (List Fragment)}
    (h : Over.Forgets session y (a.program.run helpers maxDepth maxDepth root)) (o : σ) :
    (a.render helpers maxDepth root).run.run (session o) =
      ((y.run.run o).1.map Fragment.join, session (y.run.run o).2) := by
  have same := h o
  rw [Artifact.render, run_bind]
  cases plain : (a.program.run helpers maxDepth maxDepth root).run.run (session o) with
  | mk result left =>
    rw [plain] at same
    rw [same.1, same.2]
    cases result <;> rfl

end

/-- A run that is observed comes to what the plain run comes to. -/
theorem Program.forgets_observed (helpers : HelperTable) (maxDepth depth : Nat) (root : Value)
    (program : Program) :
    Over.Forgets Observation.session
      (Program.runOver helpers (.observed helpers maxDepth) depth root program)
      (Program.run helpers maxDepth depth root program) := by
  rw [Program.run_eq_runOver]
  apply Program.related_runOver (Over.forgets_congruence Observation.session)
  · exact fun name o => ⟨rfl, rfl⟩
  · exact fun name o => ⟨rfl, rfl⟩
  · -- To enter an inclusion, and to leave it, changes the chain and the record only.
    intro name y z h o
    have inner := h (o.enter name)
    cases read : y.run.run (o.enter name) with
    | mk result left =>
      rw [read] at inner
      cases result with
      | error e =>
        rw [Host.run_inside_error read]
        exact inner
      | ok out =>
        rw [Host.run_inside_ok read]
        exact inner

/-- A rendering under observation has the same output, and it leaves the same session. -/
theorem Artifact.render_eq_observe (helpers : HelperTable) (maxDepth : Nat) (root : Value)
    (a : Artifact) (session : Session) : (a.render helpers maxDepth root).run.run session =
      ((a.observe helpers maxDepth root session).1,
        (a.observe helpers maxDepth root session).2.session) :=
  Artifact.render_of_forgets
    (Program.forgets_observed helpers maxDepth maxDepth root a.program) ⟨session, [], []⟩

end TextTemplate
