import TextTemplate.Calendar.CommonLocales
import TextTemplate.Engine
import TextTemplate.Proofs.Agreement
import TextTemplate.Proofs.HelperTables
import TextTemplate.Proofs.PlainValues

/-!
# Renderings of data

A value is rendered as its data are (`Engine.render_eq_renderData`): a rendering on a plain value
comes to the same output as on the value, and to the same error but for the name of a type. Both
runs are in frames whose values are the same but for their dates, and so are the values of all
expressions, as long as helpers do not tell a date from its text (`Correspondence.plain`).
-/

namespace TextTemplate

/-! ## Helpers -/

/-- Called with at most one argument, as renderings call it, the helper does not tell a value from
the plain one, and its result is well-formed. -/
structure Helper.RespectsPlain (helper : Helper) : Prop where
  wellFormed : ∀ args w, args.length ≤ 1 → (∀ v ∈ args, v.WellFormed) → helper args = .ok w →
    w.WellFormed
  plain : ∀ args, args.length ≤ 1 → (∀ v ∈ args, v.WellFormed) →
    helper (args.map Value.plain) = (helper args).map Value.plain

namespace Helper

/-- A helper of the displayed or of the JSON text of its argument cannot tell them apart. -/
theorem respectsPlain_of_text {helper : Helper} {f : Value → String}
    (empty : helper [] = .error (.arity 1 0)) (single : ∀ v, helper [v] = .ok (.text (f v)))
    (same : ∀ v, f v.plain = f v) : helper.RespectsPlain where
  wellFormed := by
    intro args w short _ given
    -- There is at most one argument: none is refused, and one is displayed.
    match args, short with
    | [], _ =>
      rw [empty] at given
      cases given
    | [v], _ =>
      rw [single] at given
      cases given
      exact trivial
  plain := by
    intro args short _
    match args, short with
    | [], _ => rw [List.map_nil, empty]; rfl
    | [v], _ => rw [List.map_singleton, single, single, same]; rfl

/-- A helper that works on the display of its argument respects plain values, since these are
displayed alike. -/
theorem respectsPlain_ofText (f : String → String) : (ofText f).RespectsPlain :=
  respectsPlain_of_text (f := fun v => f v.display) rfl (fun _ => rfl) fun v => by
    rw [Value.display_plain]

/-- All standard helpers but the one for dates are like that. -/
theorem respectsPlain_standard {locales : LocaleTable} {name : String} {helper : Helper}
    (standard : (HelperTable.standard locales).get? name = some helper) (noDate : name ≠ "date") :
    helper.RespectsPlain := by
  rw [HelperTable.get?_standard] at standard
  have among := Keyed.mem_of_get? standard
  simp only [Helper.standard, List.mem_cons, Prod.mk.injEq, List.not_mem_nil, or_false] at among
  rcases among with ⟨-, rfl⟩ | ⟨-, rfl⟩ | ⟨-, rfl⟩ | ⟨-, rfl⟩ | ⟨-, rfl⟩ | ⟨rfl, -⟩ | ⟨-, rfl⟩
  · exact respectsPlain_ofText _
  · exact respectsPlain_ofText _
  · exact respectsPlain_ofText _
  · -- Without a second argument there is but one length.
    exact respectsPlain_of_text (f := fun v => truncateText defaultLength v.display) rfl
      (fun _ => rfl) fun v => by rw [Value.display_plain]
  · exact respectsPlain_of_text rfl (fun _ => rfl) Value.json_plain
  · exact absurd rfl noDate
  · exact respectsPlain_ofText _

end Helper

/-! ## Expressions -/

/-- The second value is the plain one of the first, which is well-formed. -/
structure Value.MadePlain (v w : Value) : Prop where
  wellFormed : v.WellFormed
  plain : w = v.plain

/-- The second frame is the first one with all its values made plain. -/
structure Frame.MadePlain (frame frame' : Frame) : Prop where
  root : frame.root.MadePlain frame'.root
  locals : List.Forall₂ Value.MadePlain frame.locals frame'.locals

/-- The error without the name of the type that was found. -/
def RenderError.withoutType : RenderError → RenderError
  | nonIterable path _ => nonIterable path ""
  | e => e

/-- The same errors up to the name of a type. -/
def RenderError.SameButType (e f : RenderError) : Prop := e.withoutType = f.withoutType

/-- Slots of corresponding locals hold corresponding values. -/
theorem slotValue?_forall₂ {α β : Type} {R : α → β → Prop} (slot : Nat) {as : List α} {bs : List β}
    (h : List.Forall₂ R as bs) : Option.Rel R (slotValue? slot as) (slotValue? slot bs) := by
  induction h with
  | nil => exact .none
  | cons same rest ih =>
    simp only [slotValue?, rest.length_eq]
    split
    · exact .some same
    · exact ih

namespace Value.MadePlain

variable {v w : Value}

theorem get? (h : v.MadePlain w) (name : String) :
    Option.Rel MadePlain (v.get? name) (w.get? name) := by
  rw [h.plain, get?_plain]
  cases found : v.get? name with
  | none => exact .none
  | some inner => exact .some ⟨h.wellFormed.get? found, rfl⟩

/-- A path leads to the plain value of what it leads to, or to nothing in both. -/
theorem getPath? (h : v.MadePlain w) (path : List String) :
    Option.Rel MadePlain (v.getPath? path) (w.getPath? path) := by
  rw [h.plain, getPath?_plain]
  cases found : v.getPath? path with
  | none => exact .none
  | some inner => exact .some ⟨h.wellFormed.getPath? found, rfl⟩

/-- The members of a plain list are the plain members of the list. -/
theorem members? (h : v.MadePlain w) :
    Option.Rel (List.Forall₂ MadePlain) v.members? w.members? := by
  rw [h.plain]
  cases v with
  | null => exact .some .nil
  | list items =>
    rw [Value.plain, plainItems_eq]
    refine .some ?_
    rw [List.forall₂_map_right_iff, List.forall₂_same]
    exact fun v held => ⟨wellFormedItems_iff.1 h.wellFormed v held, rfl⟩
  | _ => exact .none

/-- The entries of a value, as a map, are made plain with it. -/
theorem entries (h : v.MadePlain w) : (map v.entries).MadePlain (map w.entries) := by
  rw [h.plain]
  refine ⟨?_, ?_⟩
  · cases v with
    | map entries => exact h.wellFormed
    | _ => exact ⟨.nil, trivial⟩
  · cases v <;> rfl

end Value.MadePlain

/-- Parameters that are made plain one by one. -/
theorem madePlain_params {ps qs : List (String × Value)}
    (params : List.Forall₂ (fun p q => p.1 = q.1 ∧ p.2.MadePlain q.2) ps qs) :
    (∀ p ∈ ps, p.2.WellFormed) ∧ qs = Keyed.mapValues Value.plain ps := by
  induction params with
  | nil => exact ⟨List.forall_mem_nil _, rfl⟩
  | @cons p q ps qs same _ ih =>
    rcases q with ⟨name, w⟩
    obtain ⟨rfl, made⟩ := same
    refine ⟨List.forall_mem_cons.2 ⟨made.wellFormed, ih.1⟩, ?_⟩
    have plain : w = p.2.plain := made.plain
    rw [ih.2, plain]
    rfl

/-- No helper of the table tells a value from the plain one. -/
def HelperTable.RespectsPlain (helpers : HelperTable) : Prop :=
  ∀ name helper, helpers.get? name = some helper → helper.RespectsPlain

/-- The standard helpers and others, if one of these takes the place of the helper for dates. -/
theorem HelperTable.respectsPlain_of_date (locales : LocaleTable) {added : List (String × Helper)}
    (dated : "date" ∈ Keyed.names added)
    (h : ∀ entry ∈ added, entry.2.RespectsPlain) :
    ((standard locales).insertAll added).RespectsPlain := by
  intro name helper found
  rw [get?_insertAll, Option.or_eq_some_iff] at found
  rcases found with own | ⟨missing, standard⟩
  · exact h _ (List.mem_reverse.1 (Keyed.mem_of_get? own))
  · apply Helper.respectsPlain_standard standard
    -- The name of the helper for dates is among the added ones.
    rintro rfl
    rw [← Option.not_isSome_iff_eq_none, ← Keyed.mem_names, Keyed.names, List.map_reverse,
      List.mem_reverse] at missing
    exact missing dated

section
variable {helpers : HelperTable} {v w : Value}

/-- A call on plain arguments gives the plain value of what it gives on the arguments themselves, or
fails with the same error up to the name of a type. -/
theorem HelperTable.RespectsPlain.call (h : helpers.RespectsPlain) (name : String)
    {args : List Value} (short : args.length ≤ 1) (wf : ∀ v ∈ args, v.WellFormed) :
    Outcome RenderError.SameButType Value.MadePlain (helpers.call name args)
      (helpers.call name (args.map Value.plain)) := by
  unfold HelperTable.call
  cases found : helpers.get? name with
  | none => exact rfl
  | some helper =>
    have respects := h name helper found
    simp only [respects.plain args short wf]
    cases given : helper args with
    | error cause => exact rfl
    | ok w => exact ⟨respects.wellFormed args w short wf given, rfl⟩

theorem HelperTable.RespectsPlain.call_single (h : helpers.RespectsPlain) (name : String)
    (made : v.MadePlain w) : Outcome RenderError.SameButType Value.MadePlain
      (helpers.call name [v]) (helpers.call name [w]) := by
  rw [made.plain]
  exact h.call name le_rfl (List.forall_mem_singleton.2 made.wellFormed)

namespace Expr

/-- Pipes lead from a plain value to a plain value. -/
theorem outcome_pipe (h : helpers.RespectsPlain) (made : v.MadePlain w) (pipes : List String) :
    Outcome RenderError.SameButType Value.MadePlain (pipe helpers v pipes)
      (pipe helpers w pipes) := by
  induction pipes generalizing v w with
  | nil => exact made
  | cons name rest ih => exact (h.call_single name made).bind fun v w made => ih made

/-- An absent value is the same in both frames, null being plain. -/
theorem outcome_absent (helpers : HelperTable) (e : Expr) :
    Outcome RenderError.SameButType Value.MadePlain (e.absent helpers) (e.absent helpers) := by
  unfold absent
  split
  · exact rfl
  · split
    · exact rfl
    · exact ⟨trivial, rfl⟩

/-- An expression has on plain values the plain value that it has on the values themselves. -/
theorem outcome_evalFrom (h : helpers.RespectsPlain) (e : Expr) {found found' : Option Value}
    (made : Option.Rel Value.MadePlain found found') :
    Outcome RenderError.SameButType Value.MadePlain (e.evalFrom helpers found)
      (e.evalFrom helpers found') := by
  cases made with
  | none => exact outcome_absent helpers e
  | @some v w made =>
    have present : Outcome RenderError.SameButType Value.MadePlain
        (do
          let v ← pipe helpers v e.pipes
          if e.guard = .required ∧ v.isNull then .error (.missingValue e.path) else return v)
        (do
          let w ← pipe helpers w e.pipes
          if e.guard = .required ∧ w.isNull then .error (.missingValue e.path) else return w) := by
      apply (outcome_pipe h made e.pipes).bind
      intro v w made
      rw [made.plain, Value.isNull_plain]
      split
      · exact rfl
      · exact ⟨made.wellFormed, rfl⟩
    -- Null is plain, and no other value becomes null.
    rw [made.plain] at present ⊢
    cases v with
    | null => exact outcome_absent helpers e
    | _ => exact present

/-- In frames that are the same but for dates an expression has values that are. -/
theorem outcome_eval (h : helpers.RespectsPlain) (e : Expr) {frame frame' : Frame}
    (made : frame.MadePlain frame') :
    Outcome RenderError.SameButType Value.MadePlain (e.eval helpers frame)
      (e.eval helpers frame') := by
  -- A path from corresponding values leads to corresponding ones, or nowhere in both.
  have path {found found' : Option Value} (made : Option.Rel Value.MadePlain found found') :
      Option.Rel Value.MadePlain (found.bind (·.getPath? e.tail))
        (found'.bind (·.getPath? e.tail)) := by
    cases made with
    | none => exact .none
    | some made => exact made.getPath? e.tail
  unfold eval
  split
  · exact outcome_evalFrom h e (path (slotValue?_forall₂ _ made.locals))
  · exact outcome_evalFrom h e (path (made.root.get? _))
  · split
    · split
      · exact ⟨trivial, rfl⟩
      · exact rfl
    · next name _ _ =>
      have bare := h.call name (show ([] : List Value).length ≤ 1 from Nat.zero_le 1)
        (List.forall_mem_nil _)
      exact bare.bind fun v w made => outcome_evalFrom h e (.some made)

end Expr

/-- The context of a partial is made plain with the frame and the parameters. -/
theorem Frame.MadePlain.partialContext {frame frame' : Frame} (made : frame.MadePlain frame')
    {ps qs : List (String × Value)}
    (params : List.Forall₂ (fun p q => p.1 = q.1 ∧ p.2.MadePlain q.2) ps qs) :
    (ofContext (frame.partialContext ps)).MadePlain (ofContext (frame'.partialContext qs)) := by
  have entries := made.root.entries
  have plain : frame'.root.entries = Value.plainEntries frame.root.entries :=
    Value.map.inj entries.plain
  obtain ⟨wellFormed, rfl⟩ := madePlain_params params
  rw [partialContext_eq, partialContext_eq, plain]
  refine ⟨⟨entries.wellFormed.insertAll wellFormed, ?_⟩, .nil⟩
  simp only [ofContext, Value.plain, Value.plainEntries_eq, Keyed.mapValues_insertAll]

/-- Frames correspond to those with all values made plain, and errors up to the name of a type. -/
theorem Correspondence.plain (h : helpers.RespectsPlain) :
    Correspondence helpers RenderError.SameButType Value.MadePlain Frame.MadePlain
      fun _ => True where
  eval := fun _ made => Expr.outcome_eval h _ made
  escape := fun made => h.call_single _ made
  display := fun made => by rw [made.plain, Value.display_plain]
  isTruthy := fun made => by rw [made.plain, Value.isTruthy_plain]
  members := fun made => made.members?
  nonIterable := fun _ _ => rfl
  enter := by
    intro frame frame' v w index made same
    -- An index is an integer, which is plain already.
    cases index with
    | none => exact ⟨made.root, .cons same made.locals⟩
    | some i => exact ⟨made.root, .cons ⟨trivial, rfl⟩ (.cons same made.locals)⟩
  partialContext := fun made params => made.partialContext params

end

/-! ## Renderings -/

namespace Session

/-- From any session both computations have the same result, up to the name of a type in an error,
and leave the same session. -/
def SameButType {α : Type} (y z : Over Session α) : Prop :=
  ∀ s : Session, Outcome RenderError.SameButType Eq (y.run.run s).1 (z.run.run s).1 ∧
    (y.run.run s).2 = (z.run.run s).2

theorem SameButType.refl {α : Type} (y : Over Session α) : SameButType y y :=
  Over.sameUpTo_refl (E := RenderError.SameButType) (fun _ => rfl) y

theorem SameButType.bind {α β : Type} {y z : Over Session α} {f g : α → Over Session β}
    (h : SameButType y z) (hf : ∀ a, SameButType (f a) (g a)) : SameButType (y >>= f) (z >>= g) :=
  Over.SameUpTo.bind h hf

theorem sameButType_respects : Over.Respects RenderError.SameButType SameButType :=
  Over.sameUpTo_respects (E := RenderError.SameButType) fun _ => rfl

end Session

/-- A program runs on a plain context as on the context. -/
theorem Program.sameButType_run {helpers : HelperTable} (h : helpers.RespectsPlain)
    (maxDepth depth : Nat) {root root' : Value} (made : root.MadePlain root') (program : Program) :
    Session.SameButType (program.run helpers maxDepth depth root)
      (program.run helpers maxDepth depth root') := by
  rw [Program.run_eq_runOver]
  apply Program.alike_runOver Session.sameButType_respects (Correspondence.plain h)
  · exact fun name => .refl _
  · exact fun name f g same =>
      (Session.SameButType.refl _).bind fun program => same program fun _ _ => trivial
  · exact fun _ _ _ same => same
  · exact ⟨made, .nil⟩
  · exact fun _ _ => trivial

/-- An artifact renders a context as it renders the plain one, up to the name of a type in an error.
-/
theorem Artifact.sameButType_render {helpers : HelperTable} (h : helpers.RespectsPlain)
    (maxDepth : Nat) {root root' : Value} (made : root.MadePlain root') (a : Artifact) :
    Session.SameButType (a.render helpers maxDepth root) (a.render helpers maxDepth root') :=
  (Program.sameButType_run h maxDepth maxDepth made a.program).bind fun _ => .refl _

/-- The error without the name of the type that was found. -/
def EngineError.withoutType : EngineError → EngineError
  | render e => render e.withoutType
  | e => e

namespace Engine

/-- An engine renders a source on a plain context as on the context. -/
theorem render_of_madePlain {helpers : HelperTable} (h : helpers.RespectsPlain) {root root' : Value}
    (made : root.MadePlain root') (source : String) (registry : Option Registry) (engine : Engine) :
    (engine.render source root helpers registry).1.mapError EngineError.withoutType =
        (engine.render source root' helpers registry).1.mapError EngineError.withoutType ∧
      (engine.render source root helpers registry).2 =
        (engine.render source root' helpers registry).2 := by
  unfold Engine.render
  cases engine.load source helpers.customNames with
  | mk loaded engine =>
    cases loaded with
    | error cause => exact ⟨rfl, rfl⟩
    | ok loaded =>
      dsimp only
      obtain ⟨same, left⟩ := loaded.artifact.sameButType_render h engine.options.maxDepth made
        ⟨registry, some engine.cache⟩
      -- Both runs begin in the same session, and end in the same one with the same result up to a
      -- type.
      generalize (loaded.artifact.render helpers engine.options.maxDepth root).run.run
        ⟨registry, some engine.cache⟩ = run at same left ⊢
      generalize (loaded.artifact.render helpers engine.options.maxDepth root').run.run
        ⟨registry, some engine.cache⟩ = run' at same left ⊢
      rcases run with ⟨cause | out, session⟩
      · rcases run' with ⟨cause' | out', session'⟩
        · cases left
          exact ⟨congrArg (Except.error ∘ EngineError.render) same, rfl⟩
        · exact same.elim
      · rcases run' with ⟨cause' | out', session'⟩
        · exact same.elim
        · cases left
          cases same
          exact ⟨rfl, rfl⟩

/-- **A value is rendered as its data are.** To hand a value over as data never fails, and makes it
plain; that changes neither its texts nor its truth, at any path. So a source is rendered on the
data to the same output as on the value, or to the same error but for the name of a type, if the
helpers do not tell a value from the plain one. All standard helpers but the one for dates are such
helpers. -/
theorem render_eq_renderData (v : Value) (wellFormed : v.WellFormed) (helpers : HelperTable)
    (respects : helpers.RespectsPlain) (source : String) (registry : Option Registry)
    (engine : Engine) :
    v.toDatum.toValue? = .ok v.plain ∧ v.plain.plain = v.plain ∧
      (∀ path, (v.plain.getPath? path).map Value.display = (v.getPath? path).map Value.display ∧
        (v.plain.getPath? path).map Value.json = (v.getPath? path).map Value.json ∧
        (v.plain.getPath? path).map Value.isTruthy = (v.getPath? path).map Value.isTruthy) ∧
      (engine.render source v helpers registry).1.mapError EngineError.withoutType =
        (engine.renderData source v.toDatum helpers registry).1.mapError EngineError.withoutType ∧
      (engine.render source v helpers registry).2 =
        (engine.renderData source v.toDatum helpers registry).2 ∧
      ∀ locales name helper, (HelperTable.standard locales).get? name = some helper →
        name ≠ "date" → helper.RespectsPlain := by
  have data : v.toDatum.toValue? = .ok v.plain := Value.toValue?_toDatum wellFormed
  obtain ⟨same, left⟩ := render_of_madePlain respects ⟨wellFormed, rfl⟩ source registry engine
  have rendered : engine.renderData source v.toDatum helpers registry =
      engine.render source v.plain helpers registry := by rw [renderData, data]
  refine ⟨data, v.plain_plain, ?_, ?_, ?_, fun _ _ _ => Helper.respectsPlain_standard⟩
  · intro path
    rw [Value.getPath?_plain]
    simp only [Option.map_map, Function.comp_def, Value.display_plain, Value.json_plain,
      Value.isTruthy_plain, and_self]
  · rw [rendered, same]
  · rw [rendered, left]

/-- A day in a list and an instant, which cannot be looped over. -/
theorem render_eq_renderData_dates :
    let d : Date := ⟨2024, 2, 29, by decide⟩
    let v := Value.map [("at", .dateTime (.ofDate d)), ("days", .list [.date d, .null])]
    let helpers := (HelperTable.standard .common).insertAll [("date", .ofText id)]
    let source := "\x7b\x7bdays |> upper\x7d\x7d" ++
      "\x7b\x7b#each at as |x|\x7d\x7d\x7b\x7b/each\x7d\x7d"
    let engine := Engine.ofOptions .standard
    v.WellFormed ∧ helpers.RespectsPlain ∧ v.toDatum.toValue? = .ok v.plain ∧
      (engine.render source v helpers none).1.mapError EngineError.withoutType =
        (engine.renderData source v.toDatum helpers none).1.mapError EngineError.withoutType := by
  intro d v helpers source engine
  have ordered : "at" < "days" := String.lt_iff_toList_lt.2 (by decide)
  have wellFormed : v.WellFormed :=
    ⟨List.pairwise_pair.2 ordered, trivial, ⟨trivial, trivial, trivial⟩, trivial⟩
  -- The helper for dates tells dates from texts, and so it has to be replaced.
  have respects : helpers.RespectsPlain := by
    apply HelperTable.respectsPlain_of_date .common (List.mem_singleton_self _)
    rw [List.forall_mem_singleton]
    exact Helper.respectsPlain_ofText id
  obtain ⟨data, _, _, same, _⟩ :=
    render_eq_renderData v wellFormed helpers respects source none engine
  exact ⟨wellFormed, respects, data, same⟩

end Engine

end TextTemplate
