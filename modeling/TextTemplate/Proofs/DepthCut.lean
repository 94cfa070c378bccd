import Mathlib
import TextTemplate.Calendar.CommonLocales
import TextTemplate.Proofs.Observation
import TextTemplate.Proofs.Simulation

/-!
# The depth limit cuts renderings and nothing else

A rendering that is not refused for its depth is the same at every greater limit, down to what it
looks up (`Program.cuts_observed`). One that is refused has come to the end of a chain of inclusions
as long as the limit (`Program.bounded_observed`): what a run keeps of the chain and of the record
is `Observation.Kept`, and the runs of a program keep it at each depth.
-/

namespace TextTemplate

namespace Observation

variable {α β : Type} {d : Nat} {o inner : Observation}

/-! ## Deeper limits -/

/-- The first computation is refused for its depth, or the second one is the same. -/
def Cuts (y z : Over Observation α) : Prop :=
  ∀ o, ExceedsDepth (y.run.run o).1 ∨ y.run.run o = z.run.run o

/-- What is cut off at one depth is cut off there also in the middle of a longer run. -/
theorem Cuts.bind {y z : Over Observation α} {f g : α → Over Observation β} (h : Cuts y z)
    (hf : ∀ a, Cuts (f a) (g a)) : Cuts (y >>= f) (z >>= g) := by
  intro o
  rw [run_bind, run_bind]
  rcases h o with ⟨name, depth, refused⟩ | same
  · -- A first part that is refused refuses the whole.
    cases read : y.run.run o with
    | mk result inner =>
      rw [read] at refused
      cases refused
      exact .inl ⟨name, depth, rfl⟩
  · rw [← same]
    cases y.run.run o with
    | mk result inner =>
      cases result with
      | error e => exact .inr rfl
      | ok a => exact hf a inner

theorem cuts_congruence : Over.Congruence Cuts where
  lift := fun _ _ _ => .inr rfl
  bind := Cuts.bind

/-- A refusal is cut off by definition, whatever a deeper run would have done. -/
theorem cuts_refuse (helpers : HelperTable) (maxDepth : Nat) (name : String)
    (z : Over Observation (List Fragment)) :
    Cuts ((Host.observed helpers maxDepth).refuse name) z :=
  fun _ => .inl ⟨name, maxDepth, rfl⟩

/-- An inclusion is cut off where its program is. -/
theorem Cuts.inside {helpers : HelperTable} {maxDepth maxDepth' : Nat}
    {y z : Over Observation (List Fragment)} (h : Cuts y z) (name : String) :
    Cuts ((Host.observed helpers maxDepth).inside name y)
      ((Host.observed helpers maxDepth').inside name z) := by
  intro o
  cases read : y.run.run (o.enter name) with
  | mk result inner =>
    -- Inside, the smaller limit is either hit, and then it is hit outside too, or it makes no
    -- difference.
    rcases h (o.enter name) with ⟨refused, depth, same⟩ | same
    · rw [read] at same
      cases same
      exact .inl ⟨refused, depth, by rw [Host.run_inside_error read]⟩
    · rw [read] at same
      refine .inr ?_
      cases result with
      | error e => rw [Host.run_inside_error read, Host.run_inside_error same.symm]
      | ok out => rw [Host.run_inside_ok read, Host.run_inside_ok same.symm]

end Observation

/-- Where at least as many inclusions may nest, a run is the same unless it is refused. -/
theorem Program.cuts_observed {helpers : HelperTable} {maxDepth maxDepth' depth depth' : Nat}
    (le : depth ≤ depth') (root : Value) (program : Program) :
    Observation.Cuts (Program.runOver helpers (.observed helpers maxDepth) depth root program)
      (Program.runOver helpers (.observed helpers maxDepth') depth' root program) := by
  have c := Observation.cuts_congruence
  induction depth generalizing depth' root program with
  | zero =>
    -- Every inclusion is refused once it has a name, whatever the other run does with it.
    have refused : ∀ frame (name : IncludeName) (params : List (String × Expr))
        (rest : String → Over Observation (List Fragment)),
        Observation.Cuts ((Host.observed helpers maxDepth).refuser helpers frame name params)
          (do let name ← Over.lift (name.eval helpers frame); rest name) := by
      intro frame name params rest
      apply c.bind (c.lift _ (IncludeName.not_exceedsDepth_eval name))
      exact fun name => Observation.cuts_refuse helpers maxDepth name _
    cases depth' with
    | zero => exact Op.related_runAllOver c (fun _ _ _ => refused _ _ _ _) _ program.ops
    | succ depth' => exact Op.related_runAllOver c (fun _ _ _ => refused _ _ _ _) _ program.ops
  | succ depth ih =>
    cases depth' with
    | zero => cases le
    | succ depth' =>
      apply Op.related_runAllOver c (Host.related_enterer c ?_ ?_) _ program.ops
      · exact fun name o => .inr rfl
      · intro name root program
        exact (ih (Nat.le_of_succ_le_succ le) root program).inside name

/-! ## Chains of inclusions -/

namespace Observation

variable {α β : Type} {d : Nat} {o inner : Observation}

/-- What a run out of `d` inclusions that may nest keeps of the chain and of the record. -/
structure Kept (d : Nat) (o : Observation) (result : Except RenderError α) (inner : Observation) :
    Prop where
  chain : ∀ a, result = .ok a → inner.chain = o.chain
  recorded : o.events <:+ inner.events
  /-- No inclusion that is entered is deeper than `d`. -/
  entered : ∀ c, .entered c ∈ inner.events → .entered c ∈ o.events ∨ c.length ≤ d
  /-- One that is refused stands at the end of `d` inclusions that have been entered. -/
  refused : ∀ name depth, result = .error (.partialDepthExceeded name depth) → depth = d ∧
    ∃ chain, inner.events.head? = some (.refused name chain) ∧ chain.length = d ∧
      o.chain <:+ chain ∧ ∀ c, c <:+ chain → o.chain.length < c.length → .entered c ∈ inner.events

/-- What is kept in a first part and in the part behind it is kept in the whole. -/
theorem Kept.trans {a : α} {result : Except RenderError β} {last : Observation}
    (h : Kept d o (.ok a) inner) (h' : Kept d inner result last) : Kept d o result last where
  chain := by
    intro b ok
    rw [h'.chain b ok, h.chain a rfl]
  recorded := h.recorded.trans h'.recorded
  entered := by
    intro c mem
    rcases h'.entered c mem with before | le
    · exact h.entered c before
    · exact .inr le
  refused := by
    intro name depth error
    have same := h.chain a rfl
    rw [← same]
    exact h'.refused name depth error

/-- A run keeps the chain and the record, where `depth` more inclusions may nest. -/
def Bounded (d depth : Nat) (y : Over Observation α) : Prop :=
  ∀ o : Observation, o.chain.length + depth = d → Kept d o (y.run.run o).1 (y.run.run o).2

/-- A run that enters and refuses nothing keeps what it does not touch. -/
theorem kept_of_not_exceedsDepth {result : Except RenderError α} (within : ¬ ExceedsDepth result)
    (chain : inner.chain = o.chain) (recorded : o.events <:+ inner.events)
    (entered : ∀ c, .entered c ∈ inner.events → .entered c ∈ o.events) :
    Kept d o result inner where
  chain := fun _ _ => chain
  recorded := recorded
  entered := fun c mem => .inl (entered c mem)
  refused := fun name depth error => absurd ⟨name, depth, error⟩ within

theorem bounded_congruence (d depth : Nat) :
    Over.Congruence fun {α} (y _ : Over Observation α) => Bounded d depth y where
  lift := fun _ within _ _ => kept_of_not_exceedsDepth within rfl (List.suffix_refl _) fun _ => id
  bind := by
    intro α β y _ f _ h hf o length
    have first := h o length
    rw [run_bind]
    cases read : y.run.run o with
    | mk result inner =>
      rw [read] at first
      cases result with
      | ok a =>
        -- The chain is as before, so the depth that is left is right for the second part, too.
        have same : inner.chain = o.chain := first.chain a rfl
        exact first.trans (hf a inner (by rw [same]; exact length))
      | error e =>
        refine ⟨nofun, first.recorded, first.entered, ?_⟩
        intro name depth error
        cases error
        exact first.refused name depth rfl

/-- A refusal comes from a chain that uses up the depth. -/
theorem bounded_refuse {helpers : HelperTable} (name : String) :
    Bounded d 0 ((Host.observed helpers d).refuse name) := by
  intro o length
  have ran : ((Host.observed helpers d).refuse name).run.run o =
      (.error (.partialDepthExceeded name d), o.note (.refused name o.chain)) := rfl
  rw [ran]
  refine ⟨nofun, List.suffix_cons _ _, ?_, ?_⟩
  · intro c mem
    exact .inl (List.mem_of_ne_of_mem Event.noConfusion mem)
  · intro _ _ error
    cases error
    refine ⟨rfl, o.chain, rfl, length, List.suffix_refl _, ?_⟩
    intro c suffix longer
    -- No end of the chain is longer than the chain itself.
    exact absurd suffix.length_le (Nat.not_le.2 longer)

/-- To find a partial needs no depth. -/
theorem not_exceedsDepth_partialProgram (helpers : HelperTable) (name : String) (s : Session) :
    ¬ ExceedsDepth ((Render.partialProgram helpers name).run.run s).1 := by
  rintro ⟨_, _, refused⟩
  rw [run_partialProgram] at refused
  rcases Session.error_of_program refused with same | ⟨_, same⟩ | ⟨_, same⟩ <;> cases same

/-- Finding a partial enters nothing. -/
theorem bounded_find {helpers : HelperTable} {maxDepth depth : Nat} (name : String) :
    Bounded d depth ((Host.observed helpers maxDepth).find name) := by
  intro o _
  apply kept_of_not_exceedsDepth
  · exact not_exceedsDepth_partialProgram helpers name o.session
  · rfl
  · exact List.suffix_cons _ _
  · intro c mem
    exact List.mem_of_ne_of_mem Event.noConfusion mem

/-- An inclusion adds one name to the chains of its program. -/
theorem Bounded.inside {helpers : HelperTable} {maxDepth depth : Nat}
    {run : Over Observation (List Fragment)} (h : Bounded d depth run) (name : String) :
    Bounded d (depth + 1) ((Host.observed helpers maxDepth).inside name run) := by
  intro o length
  have deeper : (o.enter name).chain.length + depth = d := by
    rw [← length, Observation.enter, List.length_cons]
    omega
  have kept := h (o.enter name) deeper
  cases read : run.run.run (o.enter name) with
  | mk result inner =>
    rw [read] at kept
    have recorded : o.events <:+ inner.events := (List.suffix_cons _ _).trans kept.recorded
    have entered : ∀ c, .entered c ∈ inner.events → .entered c ∈ o.events ∨ c.length ≤ d := by
      intro c mem
      rcases kept.entered c mem with before | le
      · rcases List.mem_cons.1 before with same | before
        · cases same
          exact .inr (Nat.le.intro deeper)
        · exact .inl before
      · exact .inr le
    cases result with
    | ok out =>
      rw [Host.run_inside_ok read]
      exact ⟨fun _ _ => rfl, recorded, entered, nofun⟩
    | error e =>
      -- A refusal further inside stands at the end of a chain that this inclusion is part of.
      rw [Host.run_inside_error read]
      refine ⟨nofun, recorded, entered, ?_⟩
      intro refused depth error
      obtain ⟨limit, chain, last, full, inside, passed⟩ := kept.refused refused depth error
      refine ⟨limit, chain, last, full, (List.suffix_cons _ _).trans inside, ?_⟩
      intro c suffix longer
      by_cases here : (o.enter name).chain.length < c.length
      · exact passed c suffix here
      · -- What is one longer than the chain outside is the inclusion that has been entered.
        have same : c = (o.enter name).chain := by
          apply (List.suffix_of_suffix_length_le suffix inside (Nat.not_lt.1 here)).eq_of_length
          have one : (o.enter name).chain.length = o.chain.length + 1 := rfl
          omega
        rw [same]
        exact kept.recorded.subset List.mem_cons_self

end Observation

/-- The runs of a program keep the chain and the record at each depth. -/
theorem Program.bounded_observed (helpers : HelperTable) (d depth : Nat) (root : Value)
    (program : Program) :
    Observation.Bounded d depth
      (Program.runOver helpers (.observed helpers d) depth root program) := by
  induction depth generalizing root program with
  | zero =>
    have c := Observation.bounded_congruence d 0
    exact Op.property_runAllOver c (Host.property_refuser c Observation.bounded_refuse) _
      program.ops
  | succ depth ih =>
    have c := Observation.bounded_congruence d (depth + 1)
    apply Op.property_runAllOver c (Host.property_enterer c Observation.bounded_find ?_) _
      program.ops
    exact fun name root program => (ih root program).inside name

/-! ## Renderings -/

/-- To say something about the result does not change how it was reached. -/
theorem Observation.Kept.map {α β : Type} {d : Nat} {o inner : Observation}
    {result : Except RenderError α} (h : Kept d o result inner) (f : α → β) :
    Kept d o (result.map f) inner := by
  cases result with
  | ok a => exact ⟨fun _ _ => h.chain a rfl, h.recorded, h.entered, nofun⟩
  | error e =>
    refine ⟨nofun, h.recorded, h.entered, ?_⟩
    intro name depth error
    cases error
    exact h.refused name depth rfl

namespace Artifact

variable {helpers : HelperTable} {d d' : Nat} {root : Value} {a : Artifact} {session : Session}

/-- A rendering that is not refused is the same at a greater limit, whatever is observed of it. -/
theorem observe_of_le (le : d ≤ d')
    (within : ¬ ExceedsDepth (a.observe helpers d root session).1) :
    a.observe helpers d' root session = a.observe helpers d root session := by
  have cut : Observation.Cuts
      (Program.runOver helpers (.observed helpers d) d root a.program)
      (Program.runOver helpers (.observed helpers d') d' root a.program) :=
    Program.cuts_observed le root a.program
  unfold observe at within ⊢
  rcases cut ⟨session, [], []⟩ with ⟨name, depth, refused⟩ | same
  · exact absurd ⟨name, depth, congrArg (Except.map Fragment.join) refused⟩ within
  · rw [same]

/-- What is observed of a rendering is kept within the limit. -/
theorem kept_observe : Observation.Kept d ⟨session, [], []⟩ (a.observe helpers d root session).1
    (a.observe helpers d root session).2 := by
  have kept := Program.bounded_observed helpers d d root a.program ⟨session, [], []⟩
    (Nat.zero_add d)
  exact kept.map Fragment.join

/-- **The depth of inclusions cuts a rendering and changes nothing else.** A rendering that is not
refused comes to the same output or error at each greater limit; it leaves the same session, and it
looks up the same texts and enters the same inclusions on the way. One that is refused tells its own
limit, and the refused inclusion stands at the end of a chain of as many that have been entered.
None that is entered is deeper. -/
theorem render_cut_by_depth (helpers : HelperTable) {d d' : Nat} (le : d ≤ d') (root : Value)
    (a : Artifact) (session : Session) :
    let plain := fun n => (a.render helpers n root).run.run session
    let seen := fun n => a.observe helpers n root session
    (∀ n, plain n = ((seen n).1, (seen n).2.session)) ∧
      (¬ ExceedsDepth (plain d).1 →
        plain d' = plain d ∧ (seen d').2.events = (seen d).2.events) ∧
      (∀ name depth, (plain d).1 = .error (.partialDepthExceeded name depth) →
        depth = d ∧ ∃ chain : List String, chain.length = d ∧
          (seen d).2.events.head? = some (.refused name chain) ∧
          ∀ c, c <:+ chain → c ≠ [] → .entered c ∈ (seen d).2.events) ∧
      ∀ c, .entered c ∈ (seen d).2.events → c.length ≤ d := by
  intro plain seen
  -- Without what is observed it is the plain run, at every limit.
  have erased : ∀ n, plain n = ((seen n).1, (seen n).2.session) :=
    fun n => a.render_eq_observe helpers n root session
  have kept : Observation.Kept d ⟨session, [], []⟩ (seen d).1 (seen d).2 := kept_observe
  refine ⟨erased, ?_, ?_, ?_⟩
  · intro within
    rw [erased d] at within
    have same : seen d' = seen d := observe_of_le le within
    rw [erased d', erased d, same]
    exact ⟨rfl, rfl⟩
  · intro name depth refused
    rw [erased d] at refused
    obtain ⟨limit, chain, last, full, _, passed⟩ := kept.refused name depth refused
    refine ⟨limit, chain, full, last, ?_⟩
    intro c suffix nonempty
    exact passed c suffix (List.length_pos_iff.2 nonempty)
  · intro c mem
    -- Nothing has been entered before the run.
    rcases kept.entered c mem with before | le
    · cases before
    · exact le

/-- A template that includes itself is refused two inclusions deep, and one that includes a plain
text is not. -/
theorem render_cut_in_self_inclusion :
    let a := ofTemplate [] "page" [.inclusion (.fixed "p") none]
    let itself : Registry := ⟨[("p", "\x7b\x7b>p\x7d\x7d")], none, 0⟩
    let plain : Registry := ⟨[("p", "x")], none, 0⟩
    let helpers := HelperTable.standard .common
    2 ≤ 3 ∧
      (a.renderAlone helpers 2 .null (some itself)).1 =
        .error (.partialDepthExceeded "p" 2) ∧
      (∃ chain : List String, chain.length = 2 ∧
        (a.observe helpers 2 .null ⟨some itself, none⟩).2.events.head? =
          some (.refused "p" chain)) ∧
      (a.renderAlone helpers 2 .null (some plain)).1 = .ok "x" ∧
      (a.render helpers 3 .null).run.run ⟨some plain, none⟩ =
        (a.render helpers 2 .null).run.run ⟨some plain, none⟩ := by
  intro a itself plain helpers
  have le : 2 ≤ 3 := by decide
  have refused : (a.renderAlone helpers 2 .null (some itself)).1 =
      .error (.partialDepthExceeded "p" 2) := by
    rw [renderAlone_eq_interpret (t := [.inclusion (.fixed "p") none]) rfl]
    cbv
  have written : (a.renderAlone helpers 2 .null (some plain)).1 = .ok "x" := by
    rw [renderAlone_eq_interpret (t := [.inclusion (.fixed "p") none]) rfl]
    cbv
  refine ⟨le, refused, ?_, written, ?_⟩
  · obtain ⟨_, chain, full, last, _⟩ :=
      (render_cut_by_depth helpers le .null a ⟨some itself, none⟩).2.2.1 "p" 2 refused
    exact ⟨chain, full, last⟩
  · have within : ¬ ExceedsDepth (a.renderAlone helpers 2 .null (some plain)).1 := by
      rw [written]
      rintro ⟨_, _, same⟩
      cases same
    exact ((render_cut_by_depth helpers le .null a ⟨some plain, none⟩).2.1 within).1

end Artifact

end TextTemplate
