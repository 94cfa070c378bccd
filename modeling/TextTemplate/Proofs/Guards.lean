import TextTemplate.Proofs.Failures
import TextTemplate.Proofs.HelperTables
import TextTemplate.Proofs.Lowering

/-!
# What guards change

The guard of an expression only says what becomes of null. Without it an expression comes to a value
that may be null (`Expr.unguarded`); where a value is required null is refused, else it stays
(`Expr.eval_eq_settle`). So the two guards agree but for the error of a missing value
(`Expr.eval_guards`). The one exception is the bare name of a helper, which is only looked up where
no value is required.

An unknown pipe is an error under either guard, whatever is piped through it: an absent value does
not hide it (`Accessor.piped_of_unknown`).
-/

namespace TextTemplate

/-! ## Unknown pipes -/

/-- A call never says that a value is missing. -/
theorem HelperTable.ne_missingValue_of_call {table : HelperTable} {name : String}
    {args : List Value} {cause : RenderError} (failed : table.call name args = .error cause)
    (path : String) : cause ≠ .missingValue path := by
  rcases HelperTable.error_of_call failed with ⟨_, rfl⟩ | ⟨_, _, rfl⟩ <;> nofun

namespace Accessor

variable {helpers : HelperTable} {v : Value} {pipes : List String}

/-- Pipes never say that a value is missing. -/
theorem ne_missingValue_of_piped {cause : RenderError}
    (failed : piped helpers v pipes = .error cause) (path : String) :
    cause ≠ .missingValue path := by
  unfold piped at failed
  split at failed
  · split at failed
    · cases failed
      nofun
    · cases failed
  · next present =>
    -- The pipes are run one by one, on whatever value the one in front has left.
    clear present
    induction pipes generalizing v with
    | nil => cases failed
    | cons name rest ih =>
      rw [List.foldlM_cons] at failed
      rcases error_of_bind failed with first | ⟨w, _, later⟩
      · exact HelperTable.ne_missingValue_of_call first path
      · exact ih later

/-- Nothing gets through an unknown pipe. -/
theorem piped_of_unknown {name : String} (piped : name ∈ pipes)
    (unknown : helpers.contains name = false) :
    ∃ cause, Accessor.piped helpers v pipes = .error cause := by
  unfold Accessor.piped
  split
  · -- A null meets the unknown pipe before any other is run.
    cases sought : pipes.find? fun name => !helpers.contains name with
    | some other => exact ⟨_, rfl⟩
    | none =>
      have known := List.find?_eq_none.1 sought name piped
      simp [unknown] at known
  · next present =>
    clear present
    induction pipes generalizing v with
    | nil => cases piped
    | cons first rest ih =>
      rw [List.foldlM_cons]
      cases called : helpers.call first [v] with
      | error cause => exact ⟨cause, rfl⟩
      | ok w =>
        rcases List.mem_cons.1 piped with rfl | later
        · -- The unknown one is called, which cannot have a result.
          have missing : helpers.get? name = none := by
            simpa [HelperTable.contains] using unknown
          rw [HelperTable.call, missing] at called
          cases called
        · exact ih later

end Accessor

/-! ## Guards -/

namespace Expr

/-- The expression with another guard. -/
def under (guard : Guard) (e : Expr) : Expr := { e with guard := guard }

/-- The expression is the bare name of a helper. -/
def IsBareHelper (e : Expr) : Prop := (∃ name, e.base = .helper name) ∧ e.pipes = []

/-- The value at the beginning of an expression, if there is one. -/
def found (helpers : HelperTable) (frame : Frame) (e : Expr) :
    Except RenderError (Option Value) :=
  match e.base with
  | .binding slot => .ok ((slotValue? slot frame.locals).bind (·.getPath? e.tail))
  | .context key => .ok ((frame.root.get? key).bind (·.getPath? e.tail))
  | .helper name => (helpers.call name []).map some

/-- What an expression comes to if null is as good as any value. -/
def unguarded (helpers : HelperTable) (frame : Frame) (e : Expr) : Except RenderError Value := do
  let found ← e.found helpers frame
  Accessor.piped helpers (found.getD .null) e.pipes

/-- What a guard makes of a value. -/
def settle (guard : Guard) (path : String) (v : Value) : Except RenderError Value :=
  if guard = .required ∧ v.isNull then .error (.missingValue path) else .ok v

/-- The same result, but null in place of the error that there is no value at the path. -/
def nullIfMissing (path : String) : Except RenderError Value → Except RenderError Value
  | .error (.missingValue missing) =>
    if missing = path then .ok .null else .error (.missingValue missing)
  | result => result

variable {helpers : HelperTable} {frame : Frame} {e : Expr}

/-- An expression is evaluated without its guard first. -/
theorem eval_eq_settle (h : e.guard = .required ∨ ¬ e.IsBareHelper) :
    e.eval helpers frame = e.unguarded helpers frame >>= settle e.guard e.path := by
  unfold eval unguarded found
  cases base : e.base with
  | binding slot => exact evalFrom_eq_piped e _
  | context key => exact evalFrom_eq_piped e _
  | helper name =>
    -- The shortcut for a bare helper is not taken.
    have evaluated : ¬ (e.guard = .optional ∧ e.pipes = []) := by
      rintro ⟨optional, bare⟩
      rcases h with required | proper
      · rw [optional] at required
        cases required
      · exact proper ⟨⟨name, base⟩, bare⟩
    dsimp only
    rw [if_neg evaluated]
    cases helpers.call name [] with
    | error cause => rfl
    | ok v => exact evalFrom_eq_piped e (some v)

/-- Only the guard says that a value is missing. -/
theorem ne_missingValue_of_unguarded {cause : RenderError}
    (failed : e.unguarded helpers frame = .error cause) (path : String) :
    cause ≠ .missingValue path := by
  -- Either the base fails, which only a helper can, or one of the pipes does.
  rcases error_of_bind failed with finding | ⟨found, _, piping⟩
  · unfold Expr.found at finding
    split at finding
    · cases finding
    · cases finding
    · next name _ =>
      cases called : helpers.call name [] with
      | ok v =>
        rw [called] at finding
        cases finding
      | error other =>
        rw [called] at finding
        cases finding
        exact HelperTable.ne_missingValue_of_call called path
  · exact Accessor.ne_missingValue_of_piped piping path

/-- Without a guard too, an expression with an unknown pipe fails. -/
theorem unguarded_of_unknown {name : String} (piped : name ∈ e.pipes)
    (unknown : helpers.contains name = false) :
    ∃ cause, e.unguarded helpers frame = .error cause := by
  unfold unguarded
  cases e.found helpers frame with
  | error cause => exact ⟨cause, rfl⟩
  | ok found => exact Accessor.piped_of_unknown piped unknown

/-- Where a value is required there is no bare name of a helper to be looked up. -/
theorem eval_under_required :
    (e.under .required).eval helpers frame =
      e.unguarded helpers frame >>= settle .required e.path :=
  eval_eq_settle (e := e.under .required) (.inl rfl)

/-- Where none is required an expression has the value that it has without a guard. -/
theorem eval_under_optional (h : ¬ e.IsBareHelper) :
    (e.under .optional).eval helpers frame = e.unguarded helpers frame := by
  have evaluated : (e.under .optional).eval helpers frame =
      e.unguarded helpers frame >>= settle .optional e.path :=
    eval_eq_settle (e := e.under .optional) (.inr h)
  rw [evaluated]
  exact bind_ok _

/-- Null in place of the error undoes what the guard does. -/
theorem nullIfMissing_settle {path : String} {x : Except RenderError Value}
    (h : ∀ cause, x = .error cause → ∀ p, cause ≠ .missingValue p) :
    nullIfMissing path (x >>= settle .required path) = x := by
  cases x with
  | error cause =>
    change nullIfMissing path (.error cause) = _
    unfold nullIfMissing
    split
    · next missing same => exact absurd (Except.error.inj same) (h cause rfl missing)
    · rfl
  | ok v =>
    change nullIfMissing path (settle .required path v) = _
    -- The one error that is turned into null is that of a null value.
    by_cases isNull : v.isNull = true
    · cases v with
      | null =>
        rw [settle, if_pos ⟨rfl, rfl⟩]
        exact if_pos rfl
      | _ => cases isNull
    · simp only [settle, isNull]
      rfl

/-- Where a value is required null does not come out. -/
theorem settle_required_ne_null (path : String) (v : Value) :
    settle .required path v ≠ .ok .null := by
  intro result
  unfold settle at result
  split at result
  · cases result
  · next present =>
    cases result
    exact present ⟨rfl, rfl⟩

/-- **Guards differ only in what absence means.** But for the bare name of a helper, an expression
comes to the same where a value is required and where none is, except that the error of a missing
value is null in the second place; and where one is required it never comes to null. With an unknown
pipe it has no value under either guard, and the reason is not that a value is missing. The bare
name of a helper is true where no value is required, if the table has it, and unknown otherwise;
what the helper does is never asked. -/
theorem eval_guards (helpers : HelperTable) (frame : Frame) (e : Expr) :
    (¬ e.IsBareHelper → (e.under .optional).eval helpers frame =
      nullIfMissing e.path ((e.under .required).eval helpers frame)) ∧
    (e.under .required).eval helpers frame ≠ .ok .null ∧
    (∀ guard, ∀ name ∈ e.pipes, helpers.contains name = false →
      ∃ cause, (e.under guard).eval helpers frame = .error cause ∧
        ∀ path, cause ≠ .missingValue path) ∧
    ∀ name, e.base = .helper name → e.pipes = [] →
      (e.under .optional).eval helpers frame =
        (if helpers.contains name then .ok (.bool true) else .error (.unknownHelper name)) ∧
      ∀ helper : Helper,
        (e.under .optional).eval (helpers.insert name helper) frame = .ok (.bool true) := by
  refine ⟨?_, ?_, ?_, ?_⟩
  · intro proper
    rw [eval_under_optional proper, eval_under_required,
      nullIfMissing_settle fun cause failed => ne_missingValue_of_unguarded failed]
  · rw [eval_under_required]
    cases e.unguarded helpers frame with
    | error cause => nofun
    | ok v => exact settle_required_ne_null e.path v
  · intro guard name piped unknown
    obtain ⟨cause, failed⟩ : ∃ cause, e.unguarded helpers frame = .error cause :=
      unguarded_of_unknown piped unknown
    have proper : ¬ (e.under guard).IsBareHelper := by
      rintro ⟨_, bare⟩
      rw [show e.pipes = [] from bare] at piped
      cases piped
    refine ⟨cause, ?_, ne_missingValue_of_unguarded failed⟩
    rw [eval_eq_settle (.inr proper)]
    change e.unguarded helpers frame >>= _ = _
    rw [failed]
    rfl
  · intro name base bare
    -- A bare helper under the optional guard is looked up and not called, in any table.
    have lookedUp : ∀ table : HelperTable, (e.under .optional).eval table frame =
        if table.contains name then .ok (.bool true) else .error (.unknownHelper name) := by
      intro table
      unfold eval
      simp only [under, base, bare, and_self, if_true]
    refine ⟨lookedUp helpers, ?_⟩
    intro helper
    have held : (helpers.insert name helper).contains name = true :=
      HelperTable.contains_insert_self
    rw [lookedUp, if_pos held]

end Expr

end TextTemplate
