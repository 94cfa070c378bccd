import TextTemplate.Proofs.Congruence

/-!
# The record of a reading

A reading never takes a text out of the record of the included texts: it only puts new ones in front
(`Interpretation.extends_template`). So what is recorded at the end of a reading has been recorded
at each step of it.
-/

namespace TextTemplate

/-! ## Computations with a state that may fail -/

section
variable {ε σ α β : Type}

/-- The second part of a computation runs in the state that the first one leaves, if that has a
result. -/
theorem run_bind (x : ExceptT ε (StateM σ) α) (f : α → ExceptT ε (StateM σ) β) (s : σ) :
    (x >>= f).run.run s =
      match x.run.run s with
      | (.ok a, s) => (f a).run.run s
      | (.error e, s) => (.error e, s) := by
  change (ExceptT.bindCont f (x s).1) (x s).2 = _
  change _ = match x s with
    | (.ok a, s) => (f a).run.run s
    | (.error e, s) => (.error e, s)
  cases x s with
  | mk result s => cases result <;> rfl

theorem run_get (s : σ) : (get : ExceptT ε (StateM σ) σ).run.run s = (.ok s, s) := rfl

theorem run_set (new s : σ) :
    (set new : ExceptT ε (StateM σ) PUnit).run.run s = (.ok ⟨⟩, new) := rfl

end

/-- The text of a partial, and what becomes of the registry by asking. -/
def Registry.textOf (name : String) : Option Registry → Except RenderError String × Option Registry
  | none => (.error (.partialNotFound name), none)
  | some registry =>
    (match (registry.resolve name).1 with
      | .error causes => .error (.partialResolve name causes)
      | .ok none => .error (.partialNotFound name)
      | .ok (some text) => .ok text,
      some (registry.resolve name).2)

/-- A text is not found, or its resolver fails. -/
theorem Registry.error_of_textOf {name : String} {registry : Option Registry} {e : RenderError}
    (failed : (textOf name registry).1 = .error e) :
    e = .partialNotFound name ∨ ∃ causes, e = .partialResolve name causes := by
  cases registry with
  | none =>
    cases failed
    exact .inl rfl
  | some registry =>
    simp only [textOf] at failed
    -- A resolver may fail or have no answer; with an answer there is no error.
    split at failed
    · cases failed
      exact .inr ⟨_, rfl⟩
    · cases failed
      exact .inl rfl
    · cases failed

namespace Reading

variable {α β : Type}

/-- The reading only adds to the record. -/
def Extends (y : Reading α) : Prop := ∀ r, r.included <:+ (y.run.run r).2.included

theorem extends_pure (a : α) : Extends (pure a : Reading α) := fun _ => List.suffix_refl _

theorem extends_throw (e : RenderError) : Extends (throw e : Reading α) :=
  fun _ => List.suffix_refl _

theorem extends_lift (x : Except RenderError α) : Extends (lift x) := fun _ => List.suffix_refl _

/-- A reading goes on with the record that the one in front of it has left. -/
theorem Extends.bind {y : Reading α} {g : α → Reading β} (hy : Extends y)
    (hg : ∀ a, Extends (g a)) : Extends (y >>= g) := by
  intro r
  rw [run_bind]
  have first := hy r
  cases h : y.run.run r with
  | mk result s =>
    rw [h] at first
    cases result with
    | error e => exact first
    | ok a => exact first.trans (hg a s)

/-- To extend the record is a property that readings in a row keep. -/
theorem extends_congruence : Congruence fun y _ => Extends y where
  pure := extends_pure
  throw := extends_throw
  bind := Extends.bind

theorem extends_eachMember {body : Nat → Value → Reading String}
    (h : ∀ i v, Extends (body i v)) (i : Nat) (vs : List Value) :
    Extends (eachMember body i vs) :=
  @Congruence.eachMember _ extends_congruence body body h i vs

/-- A question for a text leaves the record alone. -/
theorem run_resolve (name : String) (r : Reader) :
    (resolve name).run.run r =
      ((Registry.textOf name r.registry).1,
        { r with registry := (Registry.textOf name r.registry).2 }) := by
  simp only [resolve, run_bind, run_get]
  rcases h : r.registry with _ | registry
  · cases r
    cases h
    rfl
  · simp only [run_bind, run_set, Registry.textOf]
    rcases (registry.resolve name).1 with causes | _ | text <;> rfl

/-- Asking for a text records nothing. -/
theorem extends_resolve (name : String) : Extends (resolve name) := by
  intro r
  have same : ((resolve name).run.run r).2.included = r.included := by rw [run_resolve]
  exact same ▸ List.suffix_refl r.included

/-- A text that is read goes into the record, whether it is a template or not. -/
theorem run_parse (name text : String) (r : Reader) :
    (parse name text).run.run r =
      (match Template.ofSource? text with
        | .error cause => .error (.partialCompile name cause)
        | .ok t => .ok t,
        { r with included := text :: r.included }) := by
  cases h : Template.ofSource? text <;> simp only [parse, run_bind, h] <;> rfl

/-- Parsing a partial adds its text to the record. -/
theorem extends_parse (name text : String) : Extends (parse name text) := by
  intro r
  rw [run_parse]
  exact List.suffix_cons _ _

end Reading

/-! ## Nodes and templates -/

namespace Interpretation

open Reading

variable {helpers : HelperTable} {including : Inclusion}

theorem extends_nodes (h : ∀ env name params, Extends (including env name params)) (env : Env)
    (ns : List Node) : Extends (nodes helpers including env ns) := by
  have related : RelatedAt (fun y _ => Extends y) including including :=
    fun env _ name params _ => h env name params
  exact related_nodes extends_congruence related ns (.refl _ env)

/-- An inclusion only adds to the record, if the template inside does. -/
theorem extends_inclusion {maxDepth : Nat} {body : Option (Env → Template → Reading String)}
    (h : ∀ run ∈ body, ∀ env t, Extends (run env t)) (env : Env) (name : PartialName)
    (params : List (String × Accessor)) :
    Extends (inclusion helpers maxDepth body env name params) := by
  cases body with
  | none => exact relatedAt_refused extends_congruence env env name params (.refl _ env)
  | some run =>
    have related : RelatedAt (fun y _ => Extends y) (inclusion helpers maxDepth (some run))
        (inclusion helpers maxDepth (some run)) :=
      relatedAt_inclusion extends_congruence extends_resolve extends_parse (h run rfl)
    exact related env env name params (.refl _ env)

theorem extends_template (maxDepth depth : Nat) (env : Env) (t : Template) :
    Extends (template helpers maxDepth depth env t) :=
  related_template extends_congruence extends_resolve extends_parse maxDepth depth t (.refl _ env)

end Interpretation

end TextTemplate
