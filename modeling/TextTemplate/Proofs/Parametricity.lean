import Mathlib.Data.List.Forall2
import TextTemplate.Proofs.DepthLimit
import TextTemplate.Proofs.Failures

/-!
# Runs over any state

The steps of a program use the session only through its inclusions. So they can be run over any
state (`Op.runOver`), given a `Host` that says how inclusions are found, entered and refused there.
Over sessions this is the run of the steps (`Program.run_eq_runOver`).

Runs of the same steps over two states and in two frames are related as soon as their inclusions
are, for any relation between computations that respects how computations are put together
(`Over.Respects`), if the frames correspond: what the expressions of the steps come to in them is
treated alike (`Correspondence`, `Program.alike_runOver`). In one frame everything corresponds to
itself (`Program.related_runOver`). A property of computations is such a relation as well: its
second side does not matter.
-/

namespace TextTemplate

/-- A computation that may fail and may change a state. -/
abbrev Over (σ : Type) := ExceptT RenderError (StateM σ)

namespace Over

variable {σ τ α β : Type}

/-- A result that does not depend on the state. -/
def lift (x : Except RenderError α) : Over σ α := ExceptT.mk (pure x)

/-- The results of a computation for each member of a list, in one list. -/
def forEach (f : Nat → α → Over σ (List β)) (index : Nat) : List α → Over σ (List β)
  | [] => pure []
  | a :: rest => do
    let bs ← f index a
    let more ← forEach f (index + 1) rest
    return bs ++ more

theorem forEach_eq (f : Nat → α → Render (List β)) (index : Nat) (as : List α) :
    Render.forEach f index as = forEach f index as := by
  induction as generalizing index with
  | nil => rfl
  | cons a rest ih => rw [Render.forEach, ih, forEach]

end Over

/-- How inclusions are run over a state. -/
abbrev IncluderOver (σ : Type) :=
  Frame → IncludeName → List (String × Expr) → Over σ (List Fragment)

section
variable {σ : Type}

mutual

/-- Runs a step over a state. -/
def Op.runOver (helpers : HelperTable) (includer : IncluderOver σ) (frame : Frame) :
    Op → Over σ (List Fragment)
  | .text s => pure [.literal s]
  | .emit value escape => do
    let v ← Over.lift (value.eval helpers frame)
    let v ← if escape then Over.lift (helpers.call Helper.escapeName [v]) else pure v
    return [.data v.display]
  | .branch condition body otherwise => do
    let v ← Over.lift (condition.eval helpers frame)
    if v.isTruthy then Op.runAllOver helpers includer frame body
    else Op.runAllOver helpers includer frame otherwise
  | .loop items index body => do
    let v ← Over.lift (items.eval helpers frame)
    match v with
    | .null => pure []
    | .list members =>
      Over.forEach
        (fun i item =>
          Op.runAllOver helpers includer (frame.enter item (if index then some i else none)) body)
        0 members
    | v => Over.lift (.error (.nonIterable items.path v.typeName))
  | .inclusion name params => includer frame name params

/-- Runs steps one after the other over a state. -/
def Op.runAllOver (helpers : HelperTable) (includer : IncluderOver σ) (frame : Frame) :
    List Op → Over σ (List Fragment)
  | [] => pure []
  | op :: rest => do
    let out ← Op.runOver helpers includer frame op
    let more ← Op.runAllOver helpers includer frame rest
    return out ++ more

end

/-- What a program needs for its inclusions. -/
structure Host (σ : Type) where
  /-- Refuses an inclusion, the depth being used up. -/
  refuse : String → Over σ (List Fragment)
  /-- Finds the program of a partial. -/
  find : String → Over σ Program
  /-- Runs the program of a partial. -/
  inside : String → Over σ (List Fragment) → Over σ (List Fragment)

/-- Refuses the inclusions of a program. -/
def Host.refuser (helpers : HelperTable) (host : Host σ) : IncluderOver σ := fun frame name _ => do
  let name ← Over.lift (name.eval helpers frame)
  host.refuse name

/-- Runs the inclusions of a program by `run`. -/
def Host.enterer (helpers : HelperTable) (host : Host σ)
    (run : Value → Program → Over σ (List Fragment)) : IncluderOver σ := fun frame name params => do
  let name ← Over.lift (name.eval helpers frame)
  let program ← host.find name
  let values ← Over.lift (Expr.evalParams helpers frame params)
  host.inside name (run (frame.partialContext values) program)

/-- Runs a program over a state, where `depth` more inclusions may nest. -/
def Program.runOver (helpers : HelperTable) (host : Host σ) :
    (depth : Nat) → Value → Program → Over σ (List Fragment)
  | 0, root, program =>
    Op.runAllOver helpers (host.refuser helpers) (.ofContext root) program.ops
  | depth + 1, root, program =>
    Op.runAllOver helpers (host.enterer helpers (Program.runOver helpers host depth))
      (.ofContext root) program.ops

end

/-! ## Runs over sessions -/

mutual

/-- A step is run in sessions as it is run over any state. -/
theorem Op.run_eq_runOver (helpers : HelperTable) (includer : Includer) (frame : Frame) (op : Op) :
    Op.run helpers includer frame op = Op.runOver helpers includer frame op := by
  cases op with
  | text s => rfl
  | emit value escape => rfl
  | branch condition body otherwise =>
    rw [Op.run, Op.runAll_eq_runAllOver _ _ _ body, Op.runAll_eq_runAllOver _ _ _ otherwise]
    rfl
  | loop items index body =>
    -- The bodies are compared for any member, since each runs in a frame of its own.
    have inside : (fun i item => Op.runAll helpers includer
          (frame.enter item (if index then some i else none)) body) =
        fun i item => Op.runAllOver helpers includer
          (frame.enter item (if index then some i else none)) body := by
      funext i item
      exact Op.runAll_eq_runAllOver _ _ _ body
    rw [Op.run, Op.runOver, inside]
    simp only [Over.forEach_eq]
    rfl
  | inclusion name params => rfl

theorem Op.runAll_eq_runAllOver (helpers : HelperTable) (includer : Includer) (frame : Frame)
    (ops : List Op) : Op.runAll helpers includer frame ops =
      Op.runAllOver helpers includer frame ops := by
  cases ops with
  | nil => rfl
  | cons op rest =>
    rw [Op.runAll, Op.run_eq_runOver, Op.runAll_eq_runAllOver _ _ _ rest, Op.runAllOver]

end

/-- Sessions host inclusions by their registry and their cache. -/
def Host.session (helpers : HelperTable) (maxDepth : Nat) : Host Session where
  refuse := fun name => throw (.partialDepthExceeded name maxDepth)
  find := Render.partialProgram helpers
  inside := fun _ run => run

/-- Programs are run in sessions as they are run over any state, with inclusions hosted by the
registry and the cache. -/
theorem Program.run_eq_runOver (helpers : HelperTable) (maxDepth depth : Nat) :
    Program.run helpers maxDepth depth =
      Program.runOver helpers (.session helpers maxDepth) depth := by
  induction depth with
  | zero =>
    funext root program
    exact Op.runAll_eq_runAllOver _ _ _ program.ops
  | succ depth ih =>
    funext root program
    rw [Program.run, ih, Op.runAll_eq_runAllOver]
    rfl

/-! ## Expressions know no depth -/

section
variable {helpers : HelperTable} {frame : Frame}

/-- No helper fails for the depth. -/
theorem HelperTable.not_exceedsDepth_call (name : String) (args : List Value) :
    ¬ ExceedsDepth (helpers.call name args) := by
  rintro ⟨_, _, failed⟩
  rcases HelperTable.error_of_call failed with ⟨_, same⟩ | ⟨_, _, same⟩ <;> cases same

/-- An expression fails for a missing value or a helper alone. -/
theorem Expr.not_exceedsDepth_eval (e : Expr) : ¬ ExceedsDepth (e.eval helpers frame) := by
  rintro ⟨_, _, failed⟩
  cases Expr.failure_of_eval failed

theorem IncludeName.not_exceedsDepth_eval (name : IncludeName) :
    ¬ ExceedsDepth (name.eval helpers frame) := by
  rintro ⟨_, _, failed⟩
  cases name with
  | fixed name => cases failed
  | computed e =>
    rcases error_of_bind failed with evaluating | ⟨v, _, later⟩
    · cases Expr.failure_of_eval evaluating
    · cases later

end

/-! ## The expressions of steps -/

/-- The expressions in the name of an inclusion. -/
def IncludeName.exprs : IncludeName → List Expr
  | fixed _ => []
  | computed e => [e]

mutual

/-- The expressions of a step, and of the steps inside it. -/
def Op.exprs : Op → List Expr
  | .text _ => []
  | .emit value _ => [value]
  | .branch condition body otherwise =>
    condition :: (Op.exprsAll body ++ Op.exprsAll otherwise)
  | .loop items _ body => items :: Op.exprsAll body
  | .inclusion name params => name.exprs ++ params.map (·.2)

/-- The expressions of steps, and of the steps inside them. -/
def Op.exprsAll : List Op → List Expr
  | [] => []
  | op :: rest => op.exprs ++ Op.exprsAll rest

end

/-- The expressions of a program. -/
def Program.exprs (program : Program) : List Expr := Op.exprsAll program.ops

/-! ## Loops -/

/-- The members that a loop runs over. Null has none; other values than lists cannot be looped
over. -/
def Value.members? : Value → Option (List Value)
  | .null => some []
  | .list members => some members
  | _ => none

section
variable {σ : Type}

/-- Runs a body for each member of a value. -/
def Over.iterate (body : Nat → Value → Over σ (List Fragment)) (path : String) (v : Value) :
    Over σ (List Fragment) :=
  match v.members? with
  | some members => forEach body 0 members
  | none => lift (.error (.nonIterable path v.typeName))

/-- A loop evaluates its items and then iterates over their members, if they have any. -/
theorem Op.runOver_loop (helpers : HelperTable) (includer : IncluderOver σ) (frame : Frame)
    (items : Expr) (index : Bool) (body : List Op) :
    Op.runOver helpers includer frame (.loop items index body) =
      Over.lift (items.eval helpers frame) >>= Over.iterate (fun i item =>
        Op.runAllOver helpers includer (frame.enter item (if index then some i else none)) body)
        items.path := by
  rw [Op.runOver]
  congr 1
  funext v
  cases v <;> rfl

end

/-! ## Contexts of partials -/

/-- The entries of a context. What is no map has none. -/
def Value.entries : Value → List (String × Value)
  | .map entries => entries
  | _ => []

/-- A name is looked up among the entries of a map; other values have none. -/
theorem Value.get?_eq (key : String) (v : Value) : v.get? key = Keyed.get? key v.entries := by
  cases v <;> rfl

/-- The context of a partial is a map: the entries of the root, and the parameters over them. -/
theorem Frame.partialContext_eq (params : List (String × Value)) (frame : Frame) :
    frame.partialContext params = .map (Keyed.insertAll frame.root.entries params) := by
  rcases frame with ⟨root, locals⟩
  cases root <;> rfl

/-! ## Relations between runs in two frames -/

/-- Values that stand for each other, or errors that do. -/
def Outcome {α β : Type} (E : RenderError → RenderError → Prop) (V : α → β → Prop) :
    Except RenderError α → Except RenderError β → Prop
  | .ok a, .ok b => V a b
  | .error e, .error f => E e f
  | _, _ => False

section
variable {α β γ δ : Type} {E : RenderError → RenderError → Prop} {V : α → β → Prop}
  {W : γ → δ → Prop} {x : Except RenderError α} {y : Except RenderError β}

/-- Computations that go on alike from corresponding values come to corresponding results. -/
theorem Outcome.bind {f : α → Except RenderError γ} {g : β → Except RenderError δ}
    (h : Outcome E V x y) (hf : ∀ a b, V a b → Outcome E W (f a) (g b)) :
    Outcome E W (x >>= f) (y >>= g) := by
  cases x with
  | error e =>
    cases y with
    | error e' => exact h
    | ok b => exact h.elim
  | ok a =>
    cases y with
    | error e' => exact h.elim
    | ok b => exact hf a b h

/-- A result stands for itself if its error does. -/
theorem Outcome.refl (h : ∀ e, x = .error e → E e e) : Outcome E Eq x x := by
  cases x with
  | error e => exact h e rfl
  | ok a => exact rfl

end

/-- A relation between computations over two states that respects how computations are put
together, where errors in `E` stand for each other. -/
structure Over.Respects {σ τ : Type} (E : RenderError → RenderError → Prop)
    (R : ∀ {α : Type}, Over σ α → Over τ α → Prop) : Prop where
  pure : ∀ {α : Type} (a : α), R (pure a) (pure a)
  throw : ∀ {α : Type} {e f : RenderError}, E e f → R (throw e : Over σ α) (throw f)
  bind : ∀ {α β : Type} {y : Over σ α} {z : Over τ α} {f : α → Over σ β} {g : α → Over τ β},
    R y z → (∀ a, R (f a) (g a)) → R (y >>= f) (z >>= g)

/-- Frames in `F` correspond as far as steps with expressions in `Q` can tell: the expressions come
to values in `V` or to errors in `E`, and the steps show, test, loop over and pass on such values
alike. -/
structure Correspondence (helpers : HelperTable) (E : RenderError → RenderError → Prop)
    (V : Value → Value → Prop) (F : Frame → Frame → Prop) (Q : Expr → Prop) : Prop where
  eval : ∀ {e frame frame'}, Q e → F frame frame' →
    Outcome E V (e.eval helpers frame) (e.eval helpers frame')
  escape : ∀ {v w}, V v w →
    Outcome E V (helpers.call Helper.escapeName [v]) (helpers.call Helper.escapeName [w])
  display : ∀ {v w}, V v w → v.display = w.display
  isTruthy : ∀ {v w}, V v w → v.isTruthy = w.isTruthy
  members : ∀ {v w}, V v w → Option.Rel (List.Forall₂ V) v.members? w.members?
  nonIterable : ∀ {v w} path, V v w →
    E (.nonIterable path v.typeName) (.nonIterable path w.typeName)
  enter : ∀ {frame frame' v w} index, F frame frame' → V v w →
    F (frame.enter v index) (frame'.enter w index)
  partialContext : ∀ {frame frame' ps qs}, F frame frame' →
    List.Forall₂ (fun p q => p.1 = q.1 ∧ V p.2 q.2) ps qs →
    F (.ofContext (frame.partialContext ps)) (.ofContext (frame'.partialContext qs))

namespace Correspondence

variable {helpers : HelperTable} {E : RenderError → RenderError → Prop}
  {V : Value → Value → Prop} {F : Frame → Frame → Prop} {Q : Expr → Prop} {frame frame' : Frame}

/-- Equal values are treated alike. -/
theorem of_eq (eval : ∀ {e frame frame'}, Q e → F frame frame' →
      Outcome E Eq (e.eval helpers frame) (e.eval helpers frame'))
    (escape : ∀ v, Outcome E Eq (helpers.call Helper.escapeName [v])
      (helpers.call Helper.escapeName [v]))
    (nonIterable : ∀ path found, E (.nonIterable path found) (.nonIterable path found))
    (enter : ∀ {frame frame'} v index, F frame frame' →
      F (frame.enter v index) (frame'.enter v index))
    (partialContext : ∀ {frame frame'} params, F frame frame' →
      F (.ofContext (frame.partialContext params)) (.ofContext (frame'.partialContext params))) :
    Correspondence helpers E Eq F Q where
  eval := eval
  escape := by
    rintro v _ rfl
    exact escape v
  display := congrArg _
  isTruthy := congrArg _
  members := by
    rintro v _ rfl
    cases v.members? with
    | none => exact .none
    | some members => exact .some (List.forall₂_eq_eq_eq ▸ rfl)
  nonIterable := by
    rintro v _ path rfl
    exact nonIterable path _
  enter := by
    rintro frame frame' v _ index alike rfl
    exact enter v index alike
  partialContext := by
    intro frame frame' ps qs alike same
    -- Parameters with equal values under equal names are equal.
    have equal : ps = qs := by
      refine List.forall₂_eq_eq_eq ▸ same.imp ?_
      exact fun p q alike => Prod.ext alike.1 alike.2
    rw [equal]
    exact partialContext qs alike

/-- In corresponding frames the parameters of an inclusion have corresponding values under the same
names. -/
theorem evalParams (k : Correspondence helpers E V F Q) (alike : F frame frame')
    {params : List (String × Expr)} (known : ∀ e ∈ params.map (·.2), Q e) :
    Outcome E (List.Forall₂ fun p q => p.1 = q.1 ∧ V p.2 q.2)
      (Expr.evalParams helpers frame params) (Expr.evalParams helpers frame' params) := by
  induction params with
  | nil => exact .nil
  | cons p rest ih =>
    rw [List.map_cons, List.forall_mem_cons] at known
    apply (k.eval known.1 alike).bind
    intro v w same
    apply (ih known.2).bind
    exact fun more more' rests => .cons ⟨rfl, same⟩ rests

/-- In corresponding frames an inclusion has the same name. -/
theorem evalName (k : Correspondence helpers E V F Q) (alike : F frame frame')
    {name : IncludeName} (known : ∀ e ∈ name.exprs, Q e) :
    Outcome E Eq (name.eval helpers frame) (name.eval helpers frame') := by
  cases name with
  | fixed name => exact rfl
  | computed e =>
    apply (k.eval (known e (List.mem_singleton_self e)) alike).bind
    exact fun v w same => k.display same

end Correspondence

section
variable {σ τ : Type} {E : RenderError → RenderError → Prop} {V : Value → Value → Prop}
  {F : Frame → Frame → Prop} {Q : Expr → Prop}
  {R : ∀ {α : Type}, Over σ α → Over τ α → Prop} {helpers : HelperTable}

/-- Results that stand for each other may be used alike. -/
theorem Over.Respects.bind_lift (c : Over.Respects E R) {α β γ : Type} {W : α → β → Prop}
    {x : Except RenderError α} {y : Except RenderError β} {f : α → Over σ γ} {g : β → Over τ γ}
    (h : Outcome E W x y) (hf : ∀ a b, W a b → R (f a) (g b)) :
    R (Over.lift x >>= f) (Over.lift y >>= g) := by
  cases x with
  | error e =>
    cases y with
    | error e' => exact c.throw h
    | ok b => exact h.elim
  | ok a =>
    cases y with
    | error e' => exact h.elim
    | ok b => exact hf a b h

/-- Bodies related for corresponding members are related when run over all of them. -/
theorem Over.Respects.forEach (c : Over.Respects E R) {α β γ : Type} {W : α → β → Prop}
    {f : Nat → α → Over σ (List γ)} {g : Nat → β → Over τ (List γ)}
    (h : ∀ i a b, W a b → R (f i a) (g i b)) (index : Nat) {as : List α} {bs : List β}
    (members : List.Forall₂ W as bs) :
    R (Over.forEach f index as) (Over.forEach g index bs) := by
  induction members generalizing index with
  | nil => exact c.pure _
  | cons same _ ih =>
    apply c.bind (h index _ _ same)
    intro out
    apply c.bind (ih (index + 1))
    exact fun more => c.pure _

/-- Corresponding values have corresponding members, or none of them can be looped over, for the
same reason. -/
theorem Correspondence.iterate (k : Correspondence helpers E V F Q) (c : Over.Respects E R)
    {f : Nat → Value → Over σ (List Fragment)} {g : Nat → Value → Over τ (List Fragment)}
    (h : ∀ i v w, V v w → R (f i v) (g i w)) (path : String) {v w : Value} (same : V v w) :
    R (Over.iterate f path v) (Over.iterate g path w) := by
  have members := k.members same
  have refused := k.nonIterable path same
  unfold Over.iterate
  -- Both values have members or neither has, so two of the four cases are void.
  revert members
  cases v.members? with
  | none =>
    cases w.members? with
    | none => exact fun _ => c.throw refused
    | some bs => exact nofun
  | some as =>
    cases w.members? with
    | none => exact nofun
    | some bs =>
      rintro ⟨members⟩
      exact c.forEach h 0 members

/-- Inclusions are run alike in corresponding frames. -/
def IncluderOver.Alike (R : ∀ {α : Type}, Over σ α → Over τ α → Prop)
    (F : Frame → Frame → Prop) (Q : Expr → Prop) (includer : IncluderOver σ)
    (includer' : IncluderOver τ) : Prop :=
  ∀ frame frame' name (params : List (String × Expr)), F frame frame' →
    (∀ e ∈ name.exprs ++ params.map (·.2), Q e) →
    R (includer frame name params) (includer' frame' name params)

variable {includer : IncluderOver σ} {includer' : IncluderOver τ}

-- The induction is on the steps. A loop goes over to other frames, which correspond again.
mutual

/-- A step is run alike in corresponding frames, if its inclusions are. -/
theorem Op.alike_runOver (c : Over.Respects E R) (k : Correspondence helpers E V F Q)
    (h : IncluderOver.Alike R F Q includer includer') {frame frame' : Frame}
    (alike : F frame frame') (op : Op) (known : ∀ e ∈ op.exprs, Q e) :
    R (Op.runOver helpers includer frame op) (Op.runOver helpers includer' frame' op) := by
  -- Every step but a text begins with its expression, whose values correspond.
  cases op with
  | text s => exact c.pure _
  | emit value escape =>
    apply c.bind_lift (k.eval (known value (List.mem_singleton_self value)) alike)
    intro v w same
    have shown : ∀ {v w}, V v w →
        R (pure [.data v.display] : Over σ (List Fragment)) (pure [.data w.display]) := by
      intro v w same
      rw [k.display same]
      exact c.pure _
    split
    · exact c.bind_lift (k.escape same) fun v w same => shown same
    · exact shown same
  | branch condition body otherwise =>
    rw [Op.exprs, List.forall_mem_cons, List.forall_mem_append] at known
    apply c.bind_lift (k.eval known.1 alike)
    intro v w same
    simp only [k.isTruthy same]
    split
    · exact Op.alike_runAllOver c k h alike body known.2.1
    · exact Op.alike_runAllOver c k h alike otherwise known.2.2
  | loop items index body =>
    rw [Op.exprs, List.forall_mem_cons] at known
    rw [Op.runOver_loop, Op.runOver_loop]
    apply c.bind_lift (k.eval known.1 alike)
    intro v w same
    apply k.iterate c ?_ items.path same
    intro i v w same
    exact Op.alike_runAllOver c k h (k.enter _ alike same) body known.2
  | inclusion name params => exact h frame frame' name params alike known

theorem Op.alike_runAllOver (c : Over.Respects E R) (k : Correspondence helpers E V F Q)
    (h : IncluderOver.Alike R F Q includer includer') {frame frame' : Frame}
    (alike : F frame frame') (ops : List Op) (known : ∀ e ∈ Op.exprsAll ops, Q e) :
    R (Op.runAllOver helpers includer frame ops) (Op.runAllOver helpers includer' frame' ops) := by
  cases ops with
  | nil => exact c.pure _
  | cons op rest =>
    rw [Op.exprsAll, List.forall_mem_append] at known
    apply c.bind (Op.alike_runOver c k h alike op known.1)
    intro out
    apply c.bind (Op.alike_runAllOver c k h alike rest known.2)
    exact fun more => c.pure _

end

variable {host : Host σ} {host' : Host τ}

/-- Hosts that refuse alike are hosts of related inclusions where the depth is used up. -/
theorem Host.alike_refuser (c : Over.Respects E R) (k : Correspondence helpers E V F Q)
    (refuse : ∀ name, R (host.refuse name) (host'.refuse name)) :
    IncluderOver.Alike R F Q (host.refuser helpers) (host'.refuser helpers) := by
  intro frame frame' name params alike known
  apply c.bind_lift (k.evalName alike (List.forall_mem_append.1 known).1)
  rintro name _ rfl
  exact refuse name

/-- The two hosts find the same program, whose expressions are in `Q`. -/
def Host.FindsAlike (R : ∀ {α : Type}, Over σ α → Over τ α → Prop) (Q : Expr → Prop)
    (host : Host σ) (host' : Host τ) : Prop :=
  ∀ name (f : Program → Over σ (List Fragment)) (g : Program → Over τ (List Fragment)),
    (∀ program, (∀ e ∈ program.exprs, Q e) → R (f program) (g program)) →
    R (host.find name >>= f) (host'.find name >>= g)

/-- Hosts that find alike programs are hosts of related inclusions, if the programs are run alike
inside. -/
theorem Host.alike_enterer (c : Over.Respects E R) (k : Correspondence helpers E V F Q)
    (find : Host.FindsAlike R Q host host') {run : Value → Program → Over σ (List Fragment)}
    {run' : Value → Program → Over τ (List Fragment)}
    (inside : ∀ name root root' program, F (.ofContext root) (.ofContext root') →
      (∀ e ∈ program.exprs, Q e) →
      R (host.inside name (run root program)) (host'.inside name (run' root' program))) :
    IncluderOver.Alike R F Q (host.enterer helpers run) (host'.enterer helpers run') := by
  intro frame frame' name params alike known
  rw [List.forall_mem_append] at known
  apply c.bind_lift (k.evalName alike known.1)
  rintro name _ rfl
  apply find name
  intro program among
  apply c.bind_lift (k.evalParams alike known.2)
  intro values values' same
  exact inside name _ _ program (k.partialContext alike same) among

/-- Runs of a program on corresponding contexts are related if their hosts are. -/
theorem Program.alike_runOver (c : Over.Respects E R) (k : Correspondence helpers E V F Q)
    (refuse : ∀ name, R (host.refuse name) (host'.refuse name))
    (find : Host.FindsAlike R Q host host')
    (inside : ∀ name y z, R y z → R (host.inside name y) (host'.inside name z)) (depth : Nat)
    {root root' : Value} (alike : F (.ofContext root) (.ofContext root')) (program : Program)
    (known : ∀ e ∈ program.exprs, Q e) :
    R (Program.runOver helpers host depth root program)
      (Program.runOver helpers host' depth root' program) := by
  induction depth generalizing root root' program with
  | zero => exact Op.alike_runAllOver c k (Host.alike_refuser c k refuse) alike program.ops known
  | succ depth ih =>
    apply Op.alike_runAllOver c k (Host.alike_enterer c k find ?_) alike program.ops known
    intro name root root' program alike known
    exact inside name _ _ (ih alike program known)

end

/-! ## Relations between runs in one frame -/

/-- A relation between computations over two states that respects how computations are put
together. Only a refused inclusion may treat an error of depth in its own way. -/
structure Over.Congruence {σ τ : Type} (R : ∀ {α : Type}, Over σ α → Over τ α → Prop) : Prop where
  lift : ∀ {α : Type} (x : Except RenderError α), ¬ ExceedsDepth x → R (lift x) (lift x)
  bind : ∀ {α β : Type} {y : Over σ α} {z : Over τ α} {f : α → Over σ β} {g : α → Over τ β},
    R y z → (∀ a, R (f a) (g a)) → R (y >>= f) (z >>= g)

/-- The same error, and none of depth. -/
def RenderError.SameNoDepth (e f : RenderError) : Prop :=
  e = f ∧ ∀ name depth, e ≠ .partialDepthExceeded name depth

section
variable {helpers : HelperTable}

theorem Outcome.of_not_exceedsDepth {α : Type} {x : Except RenderError α}
    (h : ¬ ExceedsDepth x) : Outcome RenderError.SameNoDepth Eq x x := by
  apply Outcome.refl
  intro e same
  refine ⟨rfl, ?_⟩
  rintro name depth rfl
  exact h ⟨name, depth, same⟩

/-- In one frame every expression corresponds to itself. -/
theorem Correspondence.same :
    Correspondence helpers RenderError.SameNoDepth Eq Eq fun _ => True := by
  apply Correspondence.of_eq
  · rintro e frame _ _ rfl
    exact .of_not_exceedsDepth (Expr.not_exceedsDepth_eval e)
  · exact fun v => .of_not_exceedsDepth (HelperTable.not_exceedsDepth_call _ _)
  · exact fun path found => ⟨rfl, fun name depth => nofun⟩
  · rintro frame _ v index rfl
    rfl
  · rintro frame _ params rfl
    rfl

end

section
variable {σ τ : Type} {R : ∀ {α : Type}, Over σ α → Over τ α → Prop} {helpers : HelperTable}

theorem Over.Congruence.respects (c : Over.Congruence R) :
    Over.Respects RenderError.SameNoDepth R where
  pure := fun a => c.lift (.ok a) nofun
  throw := by
    rintro α e _ ⟨rfl, plain⟩
    apply c.lift (.error e)
    rintro ⟨name, depth, same⟩
    exact plain name depth (Except.error.inj same)
  bind := c.bind

variable {includer : IncluderOver σ} {includer' : IncluderOver τ}

/-- Steps are related in one frame, if their inclusions are. -/
theorem Op.related_runAllOver (c : Over.Congruence R)
    (h : ∀ frame name params, R (includer frame name params) (includer' frame name params))
    (frame : Frame) (ops : List Op) :
    R (Op.runAllOver helpers includer frame ops) (Op.runAllOver helpers includer' frame ops) := by
  apply Op.alike_runAllOver c.respects .same ?_ rfl ops fun _ _ => trivial
  rintro frame _ name params rfl _
  exact h frame name params

variable {host : Host σ} {host' : Host τ}

theorem Host.related_refuser (c : Over.Congruence R)
    (refuse : ∀ name, R (host.refuse name) (host'.refuse name)) (frame : Frame) (name : IncludeName)
    (params : List (String × Expr)) :
    R (host.refuser helpers frame name params) (host'.refuser helpers frame name params) :=
  Host.alike_refuser c.respects .same refuse frame frame name params rfl fun _ _ => trivial

/-- With no condition on expressions, hosts find alike programs if they find the same ones. -/
theorem Host.finds_alike (c : Over.Congruence R)
    (find : ∀ name, R (host.find name) (host'.find name)) :
    Host.FindsAlike R (fun _ => True) host host' :=
  fun name _ _ h => c.bind (find name) fun program => h program fun _ _ => trivial

/-- Hosts that find the same programs are hosts of related inclusions in one frame. -/
theorem Host.related_enterer (c : Over.Congruence R)
    (find : ∀ name, R (host.find name) (host'.find name))
    {run : Value → Program → Over σ (List Fragment)}
    {run' : Value → Program → Over τ (List Fragment)}
    (inside : ∀ name root program,
      R (host.inside name (run root program)) (host'.inside name (run' root program)))
    (frame : Frame) (name : IncludeName) (params : List (String × Expr)) :
    R (host.enterer helpers run frame name params)
      (host'.enterer helpers run' frame name params) := by
  apply Host.alike_enterer c.respects .same (Host.finds_alike c find) ?_ frame frame name params rfl
    fun _ _ => trivial
  rintro name root root' program same _
  cases same
  exact inside name root program

/-- Runs of a program are related if their hosts are. -/
theorem Program.related_runOver (c : Over.Congruence R)
    (refuse : ∀ name, R (host.refuse name) (host'.refuse name))
    (find : ∀ name, R (host.find name) (host'.find name))
    (inside : ∀ name y z, R y z → R (host.inside name y) (host'.inside name z)) (depth : Nat)
    (root : Value) (program : Program) :
    R (Program.runOver helpers host depth root program)
      (Program.runOver helpers host' depth root program) :=
  Program.alike_runOver c.respects .same refuse (Host.finds_alike c find) inside depth rfl
    program fun _ _ => trivial

end

/-! ## Properties of runs -/

section
variable {σ : Type} {P : ∀ {α : Type}, Over σ α → Prop} {helpers : HelperTable} {host : Host σ}

/-- A property that respects how computations are put together passes from inclusions to steps. -/
theorem Op.property_runAllOver (c : Over.Congruence fun {α} (y _ : Over σ α) => P y)
    {includer : IncluderOver σ} (h : ∀ frame name params, P (includer frame name params))
    (frame : Frame) (ops : List Op) : P (Op.runAllOver helpers includer frame ops) :=
  @Op.related_runAllOver σ σ _ helpers includer includer c h frame ops

theorem Host.property_refuser (c : Over.Congruence fun {α} (y _ : Over σ α) => P y)
    (refuse : ∀ name, P (host.refuse name)) (frame : Frame) (name : IncludeName)
    (params : List (String × Expr)) : P (host.refuser helpers frame name params) :=
  @Host.related_refuser σ σ _ helpers host host c refuse frame name params

/-- The property passes from the programs of partials to the inclusions that run them. -/
theorem Host.property_enterer (c : Over.Congruence fun {α} (y _ : Over σ α) => P y)
    (find : ∀ name, P (host.find name)) {run : Value → Program → Over σ (List Fragment)}
    (inside : ∀ name root program, P (host.inside name (run root program))) (frame : Frame)
    (name : IncludeName) (params : List (String × Expr)) :
    P (host.enterer helpers run frame name params) :=
  @Host.related_enterer σ σ _ helpers host host c find run run inside frame name params

/-- Runs of a program have a property that its host has. -/
theorem Program.property_runOver (c : Over.Congruence fun {α} (y _ : Over σ α) => P y)
    (refuse : ∀ name, P (host.refuse name)) (find : ∀ name, P (host.find name))
    (inside : ∀ name y, P y → P (host.inside name y)) (depth : Nat) (root : Value)
    (program : Program) : P (Program.runOver helpers host depth root program) :=
  @Program.related_runOver σ σ _ helpers host host c refuse find
    (fun name y _ => inside name y) depth root program

end

end TextTemplate
