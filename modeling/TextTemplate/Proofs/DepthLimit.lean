import TextTemplate.Proofs.Record

/-!
# Readings and the depth of inclusions

A reading may be refused because inclusions would nest too deep. `Reading.Approximates` compares a
reading with one that may nest deeper: either the first one is refused, or both come to the same
result and leave the same registry. What they record does not matter.

Readings in a row approximate others if each part does (`Reading.approximates_congruence`), so a
template approximates itself where more inclusions may nest, also in an environment that it cannot
tell apart (`Interpretation.approximates_template`).
-/

namespace TextTemplate

variable {α β : Type}

/-- Rendering was refused because an inclusion would nest too deep. -/
def ExceedsDepth (result : Except RenderError α) : Prop :=
  ∃ name depth, result = .error (.partialDepthExceeded name depth)

namespace Reading

/-- From readers with the same registry, of which `P` holds, the first reading is refused for its
depth, or both readings have the same result and leave the same registry, of which `P` holds. -/
def Approximates (P : Option Registry → Prop) (y z : Reading α) : Prop :=
  ∀ r r', r.registry = r'.registry → P r.registry →
    ExceedsDepth (y.run.run r).1 ∨
      (y.run.run r).1 = (z.run.run r').1 ∧
        (y.run.run r).2.registry = (z.run.run r').2.registry ∧ P (y.run.run r).2.registry

variable {P : Option Registry → Prop}

theorem approximates_pure (a : α) : Approximates P (pure a) (pure a) := by
  intro r r' same holds
  exact .inr ⟨rfl, same, holds⟩

theorem approximates_throw (e : RenderError) :
    Approximates P (throw e : Reading α) (throw e) := by
  intro r r' same holds
  exact .inr ⟨rfl, same, holds⟩

/-- A reading that is refused for its depth approximates any other. -/
theorem approximates_refused (name : String) (depth : Nat) (z : Reading α) :
    Approximates P (throw (.partialDepthExceeded name depth)) z := by
  intro r r' same holds
  exact .inl ⟨name, depth, rfl⟩

/-- A run that goes as deep as another, or exceeds the depth, does so step after step. -/
theorem Approximates.bind {y z : Reading α} {f g : α → Reading β} (h : Approximates P y z)
    (hf : ∀ a, Approximates P (f a) (g a)) : Approximates P (y >>= f) (z >>= g) := by
  intro r r' same holds
  have first := h r r' same holds
  rw [run_bind, run_bind]
  cases hy : y.run.run r with
  | mk result s =>
    cases hz : z.run.run r' with
    | mk result' s' =>
      rw [hy, hz] at first
      rcases first with refused | ⟨sameResult, sameRegistry, holds'⟩
      · -- A first part that is refused refuses the whole.
        obtain ⟨name, depth, refused⟩ := refused
        simp only at refused
        subst refused
        exact .inl ⟨name, depth, rfl⟩
      · simp only at sameResult
        subst sameResult
        cases result with
        | error e => exact .inr ⟨rfl, sameRegistry, holds'⟩
        | ok a => exact hf a s s' sameRegistry holds'

theorem approximates_congruence (P : Option Registry → Prop) : Congruence (Approximates P) where
  pure := approximates_pure
  throw := approximates_throw
  bind := Approximates.bind

/-- A question for a text, if no question makes `P` false. -/
theorem approximates_resolve (stable : ∀ name registry, P registry →
    P (Registry.textOf name registry).2) (name : String) :
    Approximates P (resolve name) (resolve name) := by
  intro r r' same holds
  rw [run_resolve, run_resolve, same]
  exact .inr ⟨rfl, rfl, stable name _ (same ▸ holds)⟩

/-- Parsing a text does not depend on the depth. -/
theorem approximates_parse (name text : String) :
    Approximates P (parse name text) (parse name text) := by
  intro r r' same holds
  rw [run_parse, run_parse]
  exact .inr ⟨rfl, same, holds⟩

end Reading

/-! ## Inclusions and templates -/

namespace Interpretation

open Reading

variable {P : Option Registry → Prop} {helpers : HelperTable} {maxDepth maxDepth' : Nat}

/-- Inclusions of which none may nest are all refused, once they have a name. -/
theorem approximates_inclusion_none {body' : Option (Env → Template → Reading String)} :
    RelatedAt (Approximates P) (inclusion helpers maxDepth none)
      (inclusion helpers maxDepth' body') := by
  intro env env' name params alike
  rw [inclusion, inclusion, alike.nameValue (List.subset_append_left ..)]
  apply (approximates_congruence P).bind_lift
  exact fun name => approximates_refused name maxDepth _

/-- A template approximates itself where at least as many inclusions may nest. -/
theorem approximates_template
    (stable : ∀ name registry, P registry → P (Registry.textOf name registry).2)
    {depth depth' : Nat} (le : depth ≤ depth') {env env' : Env} (t : Template)
    (alike : Env.Alike (Node.freeHeadsAll t) env env') :
    Approximates P (template helpers maxDepth depth env t)
      (template helpers maxDepth' depth' env' t) := by
  have c := approximates_congruence P
  -- By induction on the smaller limit: with none left it refuses, which approximates anything.
  induction depth generalizing depth' env env' t with
  | zero =>
    cases depth' with
    | zero => exact related_nodes c approximates_inclusion_none t alike
    | succ depth' => exact related_nodes c approximates_inclusion_none t alike
  | succ depth ih =>
    cases depth' with
    | zero => cases le
    | succ depth' =>
      have deeper : ∀ env t, Approximates P (template helpers maxDepth depth env t)
          (template helpers maxDepth' depth' env t) :=
        fun env t => ih (Nat.le_of_succ_le_succ le) t (.refl _ env)
      apply related_nodes c ?_ t alike
      exact relatedAt_inclusion c (approximates_resolve stable) approximates_parse deeper

end Interpretation

end TextTemplate
