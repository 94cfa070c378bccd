import TextTemplate.Proofs.CacheTransparency
import TextTemplate.Proofs.Parametricity
import TextTemplate.Proofs.RegistryLog

/-!
# Registries over a function

Where the resolver is a function of the name, it does not show whether a text has been asked for
before: a lookup changes no answer (`Registry.resolve_resolve`), so that any uses lead to the text
that has been registered last, or else to the answer of the function (`Registry.Leads.answers`).

Two registries with the same answers cannot be told apart. A rendering comes to the same output with
either of them, and leaves two such registries again (`Session.alike_program`,
`Engine.render_of_alike`).
-/

namespace TextTemplate

/-- The answer of a function for a name, where an empty text is none. -/
def Resolver.answer (f : String → Except (List String) (Option String)) (name : String) :
    Except (List String) (Option String) :=
  match f name with
  | .ok (some text) => if text = "" then .ok none else .ok (some text)
  | other => other

namespace Registry

variable {f : String → Except (List String) (Option String)} {r r' last : Registry}
  {uses : List Use} {name other : String}

/-! ## Answers -/

/-- The text that is known for a name, or else the answer of the function. -/
def answerOf (f : String → Except (List String) (Option String)) (name : String) :
    Option String → Except (List String) (Option String)
  | some text => .ok (some text)
  | none => Resolver.answer f name

/-- The answer to a question depends on the number of questions before only by way of the resolver.
-/
theorem resolve_of_resolver {ask : Resolver} (h : r.resolver = some ask) :
    (r.resolve name).1 = answerOf (ask r.calls) name (Keyed.get? name r.templates) := by
  cases held : Keyed.get? name r.templates with
  | some text => rw [resolve_of_get? held, answerOf]
  | none =>
    simp only [resolve, held, h, answerOf, Resolver.answer]
    rcases ask r.calls name with causes | _ | text
    · rfl
    · rfl
    · by_cases empty : text = "" <;> simp [empty]

/-- A resolver that is a function of the name gives the same answer at any time. -/
theorem resolve_of_function (function : r.resolver = some (.ofFunction f)) :
    (r.resolve name).1 = answerOf f name (Keyed.get? name r.templates) :=
  resolve_of_resolver function

/-- A lookup changes no answer. -/
theorem resolve_resolve (function : r.resolver = some (.ofFunction f)) :
    ((r.resolve other).2.resolve name).1 = (r.resolve name).1 := by
  have after : (r.resolve other).2.resolver = some (.ofFunction f) :=
    (lookup other r).resolver_eq.trans function
  by_cases same : other = name
  · subst same
    cases held : Keyed.get? other (r.resolve other).2.templates with
    | some text =>
      rw [resolve_of_get? held]
      exact ((lookup other r).get?_iff.1 held).symm
    | none =>
      -- What is not held after its lookup was not held before.
      have missing : Keyed.get? other r.templates = none := by
        cases before : Keyed.get? other r.templates with
        | none => rfl
        | some text =>
          rw [get?_resolve before] at held
          cases held
      rw [resolve_of_function after, resolve_of_function function, held, missing]
  · rw [resolve_of_function after, resolve_of_function function, (lookup other r).get?_of_ne same]

/-- Uses lead to the text that has been registered last, or else to the answer before them. -/
theorem Leads.answers (h : Leads r uses last) (function : r.resolver = some (.ofFunction f)) :
    (last.resolve name).1 =
      match latest? name uses with
      | some text => .ok (some text)
      | none => (r.resolve name).1 := by
  induction h with
  | nil r => rfl
  | @register r last n text uses _ ih =>
    rw [ih function, latest?]
    -- A later text of the name wins over the one that is registered now.
    cases latest? name uses with
    | some later => rfl
    | none =>
      have registered : (r.register n text).resolver = some (.ofFunction f) := function
      rw [resolve_of_function registered, resolve_of_function function, get?_register]
      by_cases same : n = name <;> simp [same, answerOf]
  | @lookUp r last n uses _ ih =>
    have after := (lookup n r).resolver_eq.trans function
    rw [ih after, resolve_resolve function, latest?]

/-! ## Registries with the same answers -/

/-- Two registries over one function that give the same answers. -/
structure Alike (r r' : Registry) : Prop where
  function : ∃ f, r.resolver = some (.ofFunction f) ∧ r'.resolver = some (.ofFunction f)
  answers : ∀ name, (r.resolve name).1 = (r'.resolve name).1

/-- A lookup keeps registries alike: what one of them stores the other would answer. -/
theorem Alike.resolve (h : Alike r r') (name : String) :
    Alike (r.resolve name).2 (r'.resolve name).2 := by
  obtain ⟨f, first, second⟩ := h.function
  have known := (lookup name r).resolver_eq.trans first
  have known' := (lookup name r').resolver_eq.trans second
  refine ⟨⟨f, known, known'⟩, ?_⟩
  intro other
  rw [resolve_resolve first, resolve_resolve second]
  exact h.answers other

end Registry

/-! ## Renderings -/

/-- Two sessions that differ in what their registries know already. -/
structure Session.Alike (s s' : Session) : Prop where
  cache : s.cache = s'.cache
  registries : ∃ r r', s.registry = some r ∧ s'.registry = some r' ∧ r.Alike r'

namespace Session

/-- From sessions that are alike both computations come to the same and leave such sessions. -/
def Keeps {α : Type} (y z : Over Session α) : Prop :=
  ∀ s s' : Session, s.Alike s' →
    (y.run.run s).1 = (z.run.run s').1 ∧ (y.run.run s).2.Alike (z.run.run s').2

theorem keeps_lift {α : Type} (x : Except RenderError α) : Keeps (Over.lift x) (Over.lift x) :=
  fun _ _ alike => ⟨rfl, alike⟩

/-- Answers that do not tell registries apart go on to answers that do not. -/
theorem Keeps.bind {α β : Type} {y z : Over Session α} {f g : α → Over Session β} (h : Keeps y z)
    (hf : ∀ a, Keeps (f a) (g a)) : Keeps (y >>= f) (z >>= g) := by
  intro s s' alike
  obtain ⟨sameResult, left⟩ := h s s' alike
  rw [run_bind, run_bind]
  cases hy : y.run.run s with
  | mk result t =>
    cases hz : z.run.run s' with
    | mk result' t' =>
      rw [hy, hz] at sameResult left
      -- The results are equal, but the states left behind are only alike.
      cases sameResult
      cases result with
      | error e => exact ⟨rfl, left⟩
      | ok a => exact hf a t t' left

theorem keeps_congruence : Over.Congruence Keeps where
  lift := fun x _ => keeps_lift x
  bind := Keeps.bind

/-- The program of a partial is the same over registries that answer alike. -/
theorem keeps_partialProgram (helpers : HelperTable) (name : String) :
    Keeps (Render.partialProgram helpers name) (Render.partialProgram helpers name) := by
  rintro ⟨_, cache⟩ ⟨_, _⟩ ⟨rfl, r, r', rfl, rfl, alike⟩
  have sameText : (Registry.textOf name (some r)).1 = (Registry.textOf name (some r')).1 := by
    simp only [Registry.textOf, alike.answers name]
  rw [run_partialProgram, run_partialProgram, Session.program, Session.program, ← sameText]
  cases (Registry.textOf name (some r)).1 with
  | error e => exact ⟨rfl, rfl, _, _, rfl, rfl, alike.resolve name⟩
  | ok text =>
    cases cache with
    | none => exact ⟨rfl, rfl, _, _, rfl, rfl, alike.resolve name⟩
    | some c => exact ⟨rfl, rfl, _, _, rfl, rfl, alike.resolve name⟩

/-- A rendering does not tell sessions that are alike apart. -/
theorem keeps_render (helpers : HelperTable) (maxDepth : Nat) (root : Value) (a : Artifact) :
    Keeps (a.render helpers maxDepth root) (a.render helpers maxDepth root) := by
  have program : Keeps (a.program.run helpers maxDepth maxDepth root)
      (a.program.run helpers maxDepth maxDepth root) := by
    rw [Program.run_eq_runOver]
    apply Program.related_runOver keeps_congruence
    · exact fun name => keeps_lift (.error (.partialDepthExceeded name maxDepth))
    · exact keeps_partialProgram helpers
    · exact fun _ _ _ same => same
  exact program.bind fun fragments => keeps_lift (.ok (Fragment.join fragments))

end Session

section
variable {r r' : Registry}

/-- An engine renders the same with either of two registries that are alike, and it keeps the same
artifacts. -/
theorem Engine.render_of_alike (alike : r.Alike r') (engine : Engine) (source : String)
    (root : Value) (helpers : HelperTable) :
    (engine.render source root helpers (some r)).1 =
        (engine.render source root helpers (some r')).1 ∧
      (engine.render source root helpers (some r)).2.1 =
        (engine.render source root helpers (some r')).2.1 := by
  unfold Engine.render
  cases engine.load source helpers.customNames with
  | mk loaded engine =>
    cases loaded with
    | error cause => exact ⟨rfl, rfl⟩
    | ok loaded =>
      have sessions : Session.Alike ⟨some r, some engine.cache⟩ ⟨some r', some engine.cache⟩ :=
        ⟨rfl, r, r', rfl, rfl, alike⟩
      obtain ⟨same, left⟩ := Session.keeps_render helpers engine.options.maxDepth root
        loaded.artifact _ _ sessions
      -- The caches are equal, not just alike, since nothing but the registries differs.
      dsimp only
      cases hr : (loaded.artifact.render helpers engine.options.maxDepth root).run.run
          ⟨some r, some engine.cache⟩ with
      | mk out t =>
        cases hr' : (loaded.artifact.render helpers engine.options.maxDepth root).run.run
            ⟨some r', some engine.cache⟩ with
        | mk out' t' =>
          rw [hr, hr'] at same left
          cases same
          have cache : t.cache = t'.cache := left.cache
          cases out <;> simp only [cache, and_self]

/-- A rendering without a cache comes to the same over registries that answer alike. -/
theorem renderDirectly_of_alike (alike : r.Alike r') (source : String) (root : Value)
    (helpers : HelperTable) (maxDepth : Nat) :
    (renderDirectly source root helpers (some r) maxDepth).1 =
      (renderDirectly source root helpers (some r') maxDepth).1 := by
  unfold renderDirectly
  cases Artifact.compile? source helpers.customNames with
  | error cause => rfl
  | ok a =>
    have sessions : Session.Alike ⟨some r, none⟩ ⟨some r', none⟩ := ⟨rfl, r, r', rfl, rfl, alike⟩
    obtain ⟨same, _⟩ := Session.keeps_render helpers maxDepth root a _ _ sessions
    exact congrArg (Except.mapError EngineError.render) same

end

end TextTemplate
