import Mathlib
import TextTemplate.Calendar.CommonLocales
import TextTemplate.Proofs.Parametricity
import TextTemplate.Proofs.Partials
import TextTemplate.Proofs.SessionSteps

/-!
# The keys of the context that show

A rendering reads the context at the keys that its programs name, and nowhere else: two contexts
with the same entries at these keys give the same output, or the same error, and leave the same
registry and the same cache (`Artifact.render_of_agree`). This is so although each inclusion passes
on the whole context, and although values decide which texts are included.

Both runs are in frames that agree at the keys (`Frame.AgreeAt`), where all expressions come to the
same values. That the programs of included texts name no other keys either is an invariant of the
session (`Session.NamesOnly`).
-/

namespace TextTemplate

variable {keys : Set String} {customNames : List String}

/-! ## Frames that agree -/

/-- The frames have the same loop bindings, and their contexts agree at the keys. -/
structure Frame.AgreeAt (keys : Set String) (frame frame' : Frame) : Prop where
  locals : frame.locals = frame'.locals
  root : ∀ key ∈ keys, frame.root.get? key = frame'.root.get? key

namespace Frame.AgreeAt

variable {frame frame' : Frame}

/-- A loop binds the same in frames that agree, and leaves their contexts alone. -/
theorem enter (h : frame.AgreeAt keys frame') (v : Value) (index : Option Nat) :
    (frame.enter v index).AgreeAt keys (frame'.enter v index) := by
  cases index with
  | none => exact ⟨congrArg (v :: ·) h.locals, h.root⟩
  | some i => exact ⟨congrArg (Value.integer (Int64.ofNat i) :: v :: ·) h.locals, h.root⟩

/-- Parameters are added to contexts that agree, and so the contexts go on to agree. -/
theorem partialContext (h : frame.AgreeAt keys frame') (params : List (String × Value)) :
    (ofContext (frame.partialContext params)).AgreeAt keys
      (ofContext (frame'.partialContext params)) where
  locals := rfl
  root := by
    intro key known
    have same := h.root key known
    rw [Value.get?_eq, Value.get?_eq] at same
    rw [partialContext_eq, partialContext_eq]
    simp only [ofContext, Value.get?, Keyed.get?_insertAll, same]

end Frame.AgreeAt

/-! ## Expressions that name keys -/

/-- The expression begins at no key of the context but these. -/
def Expr.NamesOnly (keys : Set String) (e : Expr) : Prop :=
  ∀ key, e.base = .context key → key ∈ keys

/-- The expressions of the program begin at no keys of the context but these. -/
def Program.NamesOnly (keys : Set String) (program : Program) : Prop :=
  ∀ e ∈ program.exprs, e.NamesOnly keys

/-- The keys that a program names are those at the beginnings of its expressions. -/
theorem Program.namesOnly_iff {program : Program} : program.NamesOnly keys ↔
    ∀ key, .context key ∈ program.exprs.map (·.base) → key ∈ keys := by
  simp only [NamesOnly, Expr.NamesOnly, List.mem_map]
  constructor
  · rintro h key ⟨e, among, base⟩
    exact h e among key base
  · exact fun h e among key base => h key ⟨e, among, base⟩

/-- In frames that agree an expression has the same value. -/
theorem Expr.eval_of_agreeAt {helpers : HelperTable} {e : Expr} {frame frame' : Frame}
    (known : e.NamesOnly keys) (agree : frame.AgreeAt keys frame') :
    e.eval helpers frame = e.eval helpers frame' := by
  unfold Expr.eval
  cases base : e.base with
  | binding slot => simp only [agree.locals]
  | helper name => rfl
  | context key => simp only [agree.root key (known key base)]

/-- Frames that agree at the keys of an expression give it the same value. -/
theorem Correspondence.agreeAt (helpers : HelperTable) (keys : Set String) :
    Correspondence helpers Eq Eq (Frame.AgreeAt keys) (Expr.NamesOnly keys) := by
  apply Correspondence.of_eq
  · intro e frame frame' known agree
    rw [Expr.eval_of_agreeAt known agree]
    exact Outcome.refl fun _ _ => rfl
  · exact fun v => Outcome.refl fun _ _ => rfl
  · exact fun path found => rfl
  · exact fun v index agree => agree.enter v index
  · exact fun params agree => agree.partialContext params

/-! ## Sessions whose texts name keys -/

/-- The texts that the registry may offer compile to programs that name no keys but these, as far
as they compile; and if there is a cache, so do the artifacts that it keeps under their keys. -/
structure Session.NamesOnly (keys : Set String) (customNames : List String) (s : Session) :
    Prop where
  compiled : ∀ text a, Registry.MayOffer s.registry text →
    Artifact.compile? text customNames = .ok a → a.program.NamesOnly keys
  kept : ∀ text c a, Registry.MayOffer s.registry text → s.cache = some c →
    (.derive text customNames, a) ∈ c.kept.entries → a.artifact.program.NamesOnly keys

namespace Session.NamesOnly

variable {s : Session} {name text : String}

/-- A faithful cache keeps nothing else, if none of its requests collides with an offered text. -/
theorem of_faithful {requests : List Request} {r : Registry} {c : ArtifactCache}
    (faithful : c.Faithful requests)
    (free : ∀ q ∈ requests, ∀ text, r.Offers text → q.key = .derive text customNames →
      q.Same ⟨text, customNames⟩)
    (compiled : ∀ text a, r.Offers text → Artifact.compile? text customNames = .ok a →
      a.program.NamesOnly keys) :
    NamesOnly keys customNames ⟨some r, some c⟩ where
  compiled := by
    rintro text a ⟨_, ⟨⟩, offers⟩ compiles
    exact compiled text a offers compiles
  kept := by
    rintro text _ a ⟨_, ⟨⟩, offers⟩ ⟨⟩ held
    obtain ⟨q, asked, sameKey, compiles⟩ := faithful _ held
    rw [Request.compile?_congr (free q asked text offers sameKey) sameKey] at compiles
    exact compiled text a.artifact offers compiles

/-- A lookup asks for nothing that was not offered before. -/
theorem lookUp (h : s.NamesOnly keys customNames) (name : String) :
    (s.lookUp name).NamesOnly keys customNames where
  compiled := fun text a offers => h.compiled text a offers.of_textOf
  kept := fun text c a offers => h.kept text c a offers.of_textOf

/-- Compiling an offered text keeps the session as it has to be. -/
theorem compile (h : s.NamesOnly keys customNames) (offers : Registry.MayOffer s.registry text) :
    (s.compile text customNames).2.NamesOnly keys customNames ∧
      ∀ a, (s.compile text customNames).1 = .ok a → a.program.NamesOnly keys := by
  unfold Session.compile
  cases cached : s.cache with
  | none => exact ⟨h, fun a => h.compiled text a offers⟩
  | some c =>
    dsimp only
    constructor
    · refine ⟨h.compiled, ?_⟩
      rintro other _ a offered ⟨⟩ held
      -- An artifact in the cache was there before, or it has just been compiled from this text.
      rcases ArtifactCache.mem_of_mem_getOrCompile held with held | compiles
      · exact h.kept other c a offered cached held
      · exact h.compiled text a.artifact offers compiles
    · intro a given
      cases result : (c.getOrCompile text customNames).1 with
      | error cause =>
        rw [result] at given
        cases given
      | ok stamped =>
        rw [result] at given
        cases given
        rcases ArtifactCache.kept_or_compiled result with held | compiles
        · exact h.kept text c stamped offers cached held
        · exact h.compiled text stamped.artifact offers compiles

/-- The program of a partial names no other keys. -/
theorem program (h : s.NamesOnly keys customNames) (name : String) :
    (s.program customNames name).2.NamesOnly keys customNames ∧
      ∀ program, (s.program customNames name).1 = .ok program → program.NamesOnly keys := by
  unfold Session.program
  cases found : (Registry.textOf name s.registry).1 with
  | error e => exact ⟨h.lookUp name, nofun⟩
  | ok text =>
    obtain ⟨left, given⟩ := (h.lookUp name).compile (Registry.mayOffer_textOf found)
    refine ⟨left, ?_⟩
    intro program result
    dsimp only at result
    cases compiled : ((s.lookUp name).compile text customNames).1 with
    | error cause =>
      rw [compiled] at result
      cases result
    | ok a =>
      rw [compiled] at result
      cases result
      exact given a compiled

end Session.NamesOnly

/-! ## Renderings -/

namespace Session

/-- From sessions whose texts name no other keys, both computations come to the same, and they leave
such a session. -/
def RunsAlike (keys : Set String) (customNames : List String) {α : Type} (y z : Over Session α) :
    Prop :=
  ∀ s : Session, s.NamesOnly keys customNames →
    y.run.run s = z.run.run s ∧ (y.run.run s).2.NamesOnly keys customNames

/-- Runs that are alike stay alike, as the session that is left still names only these keys. -/
theorem RunsAlike.bind {α β : Type} {y z : Over Session α} {f g : α → Over Session β}
    (h : RunsAlike keys customNames y z)
    (hf : ∀ a s s', s.NamesOnly keys customNames → y.run.run s = (.ok a, s') →
      RunsAlike keys customNames (f a) (g a)) :
    RunsAlike keys customNames (y >>= f) (z >>= g) := by
  intro s names
  obtain ⟨same, left⟩ := h s names
  rw [run_bind, run_bind, ← same]
  cases read : y.run.run s with
  | mk result s' =>
    rw [read] at left
    cases result with
    | error e => exact ⟨rfl, left⟩
    | ok a => exact hf a s s' names read s' left

/-- A whole run is alike if its steps are. -/
theorem runsAlike_respects (keys : Set String) (customNames : List String) :
    Over.Respects Eq (RunsAlike keys customNames) where
  pure := fun a s names => ⟨rfl, names⟩
  throw := by
    rintro α e _ rfl s names
    exact ⟨rfl, names⟩
  bind := fun h hf => h.bind fun a _ _ _ _ => hf a

/-- The programs that a session finds name no other keys. -/
theorem findsAlike (helpers : HelperTable) (maxDepth : Nat) (keys : Set String) :
    Host.FindsAlike (RunsAlike keys helpers.customNames) (Expr.NamesOnly keys)
      (.session helpers maxDepth) (.session helpers maxDepth) := by
  intro name f g h
  have find : RunsAlike keys helpers.customNames (Render.partialProgram helpers name)
      (Render.partialProgram helpers name) := by
    intro s names
    rw [run_partialProgram]
    exact ⟨rfl, (names.program name).1⟩
  apply find.bind
  intro program s s' names found
  rw [run_partialProgram] at found
  exact h program ((names.program name).2 program (congrArg Prod.fst found))

end Session

namespace Artifact

/-- **A rendering depends on the keys that its programs name.** Let the program of an artifact, and
those of all texts that the session may include, name no keys of the context but some. Then on two
contexts that agree at these keys, be they maps or not, the rendering has the same output or the
same error, and it leaves the same registry and the same cache. -/
theorem render_of_agree (keys : Set String) (helpers : HelperTable) (maxDepth : Nat) (a : Artifact)
    (s : Session) (root root' : Value) (program : a.program.NamesOnly keys)
    (session : s.NamesOnly keys helpers.customNames)
    (agree : ∀ key ∈ keys, root.get? key = root'.get? key) :
    (a.render helpers maxDepth root).run.run s = (a.render helpers maxDepth root').run.run s := by
  have runs : Session.RunsAlike keys helpers.customNames
      (a.program.run helpers maxDepth maxDepth root)
      (a.program.run helpers maxDepth maxDepth root') := by
    rw [Program.run_eq_runOver]
    -- Frames correspond if their roots agree at the keys and their locals are the same.
    apply Program.alike_runOver (Session.runsAlike_respects keys helpers.customNames)
      (Correspondence.agreeAt helpers keys)
    · exact fun name => (Session.runsAlike_respects keys helpers.customNames).throw rfl
    · exact Session.findsAlike helpers maxDepth keys
    · exact fun _ _ _ same => same
    · exact ⟨rfl, agree⟩
    · exact program
  rw [render, render, run_bind, run_bind, (runs s session).1]

/-- Two contexts, of which one has a key more, and a loop whose partial the context chooses. -/
theorem render_of_agree_chosen_partial :
    let keys : Set String := {"name", "pick", "rows", "v"}
    let t : Template :=
      [.each ⟨"rows", [], []⟩ "row" none
        [.inclusion (.computed ⟨"pick", [], []⟩) (some [("v", ⟨"row", [], []⟩)])]]
    let helpers := HelperTable.standard .common
    let a := Artifact.ofTemplate Helper.standardNames "" t
    let registry : Registry := ⟨[("p", "\x7b\x7bv\x7d\x7d\x7b\x7bname\x7d\x7d")], none, 0⟩
    let session : Session := ⟨some registry, some (.empty 1)⟩
    let rows := Value.list [.integer 1, .bool true]
    let root :=
      Value.map [("hidden", .text "h"), ("name", .text "n"), ("pick", .text "p"), ("rows", rows)]
    let root' := Value.map [("name", .text "n"), ("pick", .text "p"), ("rows", rows)]
    a.program.NamesOnly keys ∧ session.NamesOnly keys helpers.customNames ∧
      (∀ key ∈ keys, root.get? key = root'.get? key) ∧
      (a.render helpers 4 root).run.run session =
        (a.render helpers 4 root').run.run session := by
  intro keys t helpers a registry session rows root root'
  have program : a.program.NamesOnly keys := by
    have bases : a.program.exprs.map (·.base) =
        [.context "rows", .context "pick", .binding 0] := by cbv
    rw [Program.namesOnly_iff, bases]
    simp [keys]
  have names : session.NamesOnly keys helpers.customNames := by
    apply Session.NamesOnly.of_faithful (@ArtifactCache.faithful_empty [] 1)
      fun q asked => absurd asked List.not_mem_nil
    intro text a offers compiles
    -- The registry offers this one text, so its program is the only one to check.
    have only : text = "\x7b\x7bv\x7d\x7d\x7b\x7bname\x7d\x7d" :=
      List.mem_singleton.1 (offers.mem_of_unresolved rfl)
    subst only
    have spelled : Template.ofSource? "\x7b\x7bv\x7d\x7d\x7b\x7bname\x7d\x7d" =
        .ok [.interpolation ⟨"v", [], []⟩ true, .interpolation ⟨"name", [], []⟩ true] := by cbv
    obtain ⟨included, spells, lowered⟩ := program_of_compile? compiles
    rw [spelled] at spells
    cases spells
    have bases : (Program.ofTemplate (Helper.standardNames ++ helpers.customNames)
        [.interpolation ⟨"v", [], []⟩ true, .interpolation ⟨"name", [], []⟩ true]).exprs.map
          (·.base) = [.context "v", .context "name"] := by cbv
    rw [lowered, Program.namesOnly_iff, bases]
    simp [keys]
  have agree : ∀ key ∈ keys, root.get? key = root'.get? key := by
    simp [keys, root, root', Value.get?, Keyed.get?]
  exact ⟨program, names, agree,
    render_of_agree keys helpers 4 a session root root' program names agree⟩

end Artifact

end TextTemplate
