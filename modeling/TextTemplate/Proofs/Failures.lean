import TextTemplate.Render

/-!
# Why an expression has no value

An expression fails where a value has to be there and is not, or where it calls a helper that is
unknown or fails itself (`Expr.Failure`). That no other error comes out of an expression is shown
here once (`Expr.failure_of_eval`), along the evaluation: pipes, absent values, the value at the
beginning. What else has to be known about such errors follows by cases.
-/

namespace TextTemplate

/-- What fails in a row fails at its first part, or behind it. -/
theorem error_of_bind {α β : Type} {x : Except RenderError α} {f : α → Except RenderError β}
    {cause : RenderError} (failed : x >>= f = .error cause) :
    x = .error cause ∨ ∃ a, x = .ok a ∧ f a = .error cause := by
  cases x with
  | error first =>
    cases failed
    exact .inl rfl
  | ok a => exact .inr ⟨a, rfl, failed⟩

/-- A helper that is called is unknown, or there is one of this name, which fails. -/
theorem HelperTable.error_of_call {table : HelperTable} {name : String} {args : List Value}
    {cause : RenderError} (failed : table.call name args = .error cause) :
    (table.contains name = false ∧ cause = .unknownHelper name) ∨
      ∃ reason, table.contains name = true ∧ cause = .helper name reason := by
  unfold call at failed
  -- A call fails because the helper is missing, or the helper itself does.
  cases found : table.get? name with
  | none =>
    have missing : table.contains name = false := by rw [contains, found]; rfl
    rw [found] at failed
    cases failed
    exact .inl ⟨missing, rfl⟩
  | some helper =>
    have known : table.contains name = true := by rw [contains, found]; rfl
    rw [found] at failed
    dsimp only at failed
    cases result : helper args with
    | ok v =>
      rw [result] at failed
      cases failed
    | error reason =>
      rw [result] at failed
      cases failed
      exact .inr ⟨reason, known, rfl⟩

namespace Expr

/-- The expression calls the helper, by a pipe or by its bare name. -/
def Calls (e : Expr) (name : String) : Prop := name ∈ e.pipes ∨ e.base = .helper name

/-- Why an expression has no value. -/
inductive Failure (helpers : HelperTable) (e : Expr) : RenderError → Prop where
  | missing (required : e.guard = .required) : Failure helpers e (.missingValue e.path)
  | unknown {name : String} (called : e.Calls name) (missing : helpers.contains name = false) :
    Failure helpers e (.unknownHelper name)
  | failing {name : String} {reason : HelperError} (called : e.Calls name)
    (known : helpers.contains name = true) : Failure helpers e (.helper name reason)

variable {helpers : HelperTable} {frame : Frame} {e : Expr} {name : String} {cause : RenderError}

/-- A call that fails is one of an unknown helper, or of a helper that fails itself. -/
theorem failure_of_call {args : List Value} (called : e.Calls name)
    (failed : helpers.call name args = .error cause) : e.Failure helpers cause := by
  rcases HelperTable.error_of_call failed with ⟨missing, rfl⟩ | ⟨reason, known, rfl⟩
  · exact .unknown called missing
  · exact .failing called known

/-- Pipes fail where one of them does. -/
theorem failure_of_pipe {v : Value} {pipes : List String} (among : pipes ⊆ e.pipes)
    (failed : pipe helpers v pipes = .error cause) : e.Failure helpers cause := by
  induction pipes generalizing v with
  | nil => cases failed
  | cons first rest ih =>
    obtain ⟨piped, others⟩ := List.cons_subset.1 among
    rcases error_of_bind failed with first | ⟨w, _, later⟩
    · exact failure_of_call (.inl piped) first
    · exact ih others later

/-- An absent value fails by an unknown pipe, or where a value is required. -/
theorem failure_of_absent (failed : e.absent helpers = .error cause) : e.Failure helpers cause := by
  unfold absent at failed
  -- An unknown pipe is reported before the missing value.
  cases sought : e.pipes.find? (!helpers.contains ·) with
  | some name =>
    have missing : helpers.contains name = false := by
      simpa using List.find?_some sought
    rw [sought] at failed
    cases failed
    exact .unknown (.inl (List.mem_of_find?_eq_some sought)) missing
  | none =>
    rw [sought] at failed
    dsimp only at failed
    cases guard : e.guard with
    | required =>
      rw [guard] at failed
      cases failed
      exact .missing guard
    | optional =>
      rw [guard] at failed
      cases failed

/-- From the value at its beginning on an expression fails in no other way. -/
theorem failure_of_evalFrom {found : Option Value}
    (failed : e.evalFrom helpers found = .error cause) : e.Failure helpers cause := by
  unfold evalFrom at failed
  split at failed
  · exact failure_of_absent failed
  · exact failure_of_absent failed
  · next v _ =>
    rcases error_of_bind failed with piping | ⟨w, _, later⟩
    · exact failure_of_pipe (List.Subset.refl _) piping
    · -- The pipes may have led to null.
      split at later
      · next isNull =>
        cases later
        exact .missing isNull.1
      · cases later

/-- An expression fails for want of a value, or by a helper that it calls. -/
theorem failure_of_eval (failed : e.eval helpers frame = .error cause) :
    e.Failure helpers cause := by
  unfold eval at failed
  cases base : e.base with
  | binding slot =>
    rw [base] at failed
    exact failure_of_evalFrom failed
  | context key =>
    rw [base] at failed
    exact failure_of_evalFrom failed
  | helper name =>
    have called : e.Calls name := .inr base
    rw [base] at failed
    dsimp only at failed
    split at failed
    · -- The helper is only looked up.
      split at failed
      · cases failed
      · next missing =>
        cases failed
        exact .unknown called (by simpa using missing)
    · rcases error_of_bind failed with calling | ⟨v, _, later⟩
      · exact failure_of_call called calling
      · exact failure_of_evalFrom later

end Expr

end TextTemplate
