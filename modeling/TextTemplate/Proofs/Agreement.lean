import TextTemplate.Proofs.Parametricity

/-!
# Computations that come to the same

Two computations are the same up to a relation of errors if from any state they come to the same
result, or to errors that are related, and leave the same state (`Over.SameUpTo`). That respects how
computations are put together (`Over.sameUpTo_respects`), so runs of programs may be compared in
this way. Where errors are related if they look the same through some function, the results do
(`Outcome.mapError_eq`).
-/

namespace TextTemplate

section
variable {α : Type} {x y z : Except RenderError α}

/-- Results that are the same up to errors look the same where only what relates errors is seen. -/
theorem Outcome.mapError_eq {view : RenderError → RenderError}
    (h : Outcome (fun e f => view e = view f) Eq x y) : x.mapError view = y.mapError view := by
  cases x with
  | error e =>
    cases y with
    | error f => exact congrArg Except.error h
    | ok b => exact h.elim
  | ok a =>
    cases y with
    | error f => exact h.elim
    | ok b =>
      cases h
      rfl

end

namespace Over

variable {σ α β : Type} {E : RenderError → RenderError → Prop}

/-- From any state both computations have the same result, or errors that stand for each other, and
leave the same state. -/
def SameUpTo (E : RenderError → RenderError → Prop) {α : Type} (y z : Over σ α) : Prop :=
  ∀ s : σ, Outcome E Eq (y.run.run s).1 (z.run.run s).1 ∧ (y.run.run s).2 = (z.run.run s).2

theorem sameUpTo_refl (reflexive : ∀ e, E e e) (y : Over σ α) : SameUpTo E y y :=
  fun _ => ⟨Outcome.refl fun e _ => reflexive e, rfl⟩

/-- Steps that come to the same up to `E` do so one after the other. -/
theorem SameUpTo.bind {y z : Over σ α} {f g : α → Over σ β} (h : SameUpTo E y z)
    (hf : ∀ a, SameUpTo E (f a) (g a)) : SameUpTo E (y >>= f) (z >>= g) := by
  intro s
  have first := h s
  rw [run_bind, run_bind]
  cases hy : y.run.run s with
  | mk result left =>
    cases hz : z.run.run s with
    | mk result' left' =>
      rw [hy, hz] at first
      obtain ⟨same, rfl⟩ : Outcome E Eq result result' ∧ left = left' := first
      -- Both fail or neither does, so only the diagonal cases go on.
      cases result with
      | error e =>
        cases result' with
        | error f => exact ⟨same, rfl⟩
        | ok b => exact same.elim
      | ok a =>
        cases result' with
        | error f => exact same.elim
        | ok b =>
          cases same
          exact hf a left

/-- What agrees up to an equivalence of errors can be followed through a whole run. -/
theorem sameUpTo_respects (reflexive : ∀ e, E e e) :
    Over.Respects (σ := σ) (τ := σ) E (SameUpTo E) where
  pure := fun a => sameUpTo_refl reflexive (pure a)
  throw := fun same _ => ⟨same, rfl⟩
  bind := SameUpTo.bind

end Over

end TextTemplate
