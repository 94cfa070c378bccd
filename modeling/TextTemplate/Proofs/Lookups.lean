import TextTemplate.Calendar.CommonLocales
import TextTemplate.Proofs.Answers
import TextTemplate.Proofs.Observation

/-!
# Lookups are stable

A registry goes through registrations, lookups and the renderings of any engines (`Registry.Move`).
The lookups of a rendering are those that are observed of it (`Engine.uses`), in the middle of its
loops and inclusions as well. All together they are a log that leads from the first registry to the
last one (`Registry.leads_runAll`): each lookup of a rendering finds the registry as the uses before
it have left it, and that is kept by every part of a run (`Observation.Traces`).

So what is known of logs holds of all runs (`Registry.memoizes_runAll`).
-/

namespace TextTemplate

/-! ## The log of a rendering -/

namespace Event

/-- What a lookup is for the registry. -/
def use? : Event → Option Registry.Use
  | lookup name (some registry) => some (.lookedUp name registry)
  | lookup _ none => none
  | entered _ => none
  | refused .. => none

end Event

namespace Observation

variable {α β : Type} {helpers : HelperTable} {maxDepth : Nat}

/-- The lookups of a registry, first one first. -/
def uses (o : Observation) : List Registry.Use := o.events.reverse.filterMap Event.use?

/-- An event adds the use that it is of the registry, if it is one. -/
theorem uses_note (e : Event) (o : Observation) :
    (o.note e).uses = o.uses ++ e.use?.toList := by
  simp only [uses, note, List.reverse_cons, List.filterMap_append]
  cases h : e.use? <;> simp [h]

/-- What a computation looks up leads from the registry that it finds to the one that it leaves. -/
def Traces (y : Over Observation α) : Prop :=
  ∀ (o : Observation) (r : Registry), o.session.registry = some r → ∃ looked last,
    (y.run.run o).2.session.registry = some last ∧ (y.run.run o).2.uses = o.uses ++ looked ∧
      r.Leads looked last

theorem traces_congruence : Over.Congruence fun {α} (y _ : Over Observation α) => Traces y where
  lift := fun _ _ o r found => ⟨[], r, found, (List.append_nil _).symm, .nil r⟩
  bind := by
    intro α β y _ f _ h hf o r found
    obtain ⟨looked, middle, left, uses, leads⟩ := h o r found
    rw [run_bind]
    cases read : y.run.run o with
    | mk result inner =>
      rw [read] at left uses
      cases result with
      | error e => exact ⟨looked, middle, left, uses, leads⟩
      | ok a =>
        -- The second part goes on with the registry that the first one leaves.
        obtain ⟨more, last, left', uses', leads'⟩ := hf a inner middle left
        refine ⟨looked ++ more, last, left', ?_, leads.append leads'⟩
        rw [← List.append_assoc, ← uses]
        exact uses'

theorem traces_refuse (name : String) : Traces ((Host.observed helpers maxDepth).refuse name) := by
  intro o r found
  exact ⟨[], r, found, uses_note (.refused name o.chain) o, .nil r⟩

/-- To find a partial is one lookup, which is noted. -/
theorem traces_find (name : String) : Traces ((Host.observed helpers maxDepth).find name) := by
  intro o r found
  refine ⟨[.lookedUp name r], (r.resolve name).2, ?_, ?_, .lookUp (.nil _)⟩
  · have asked := Session.registry_program helpers.customNames name o.session
    rw [← run_partialProgram, found] at asked
    exact asked
  · have noted : ((Host.observed helpers maxDepth).find name |>.run.run o).2.uses =
        o.uses ++ (Event.lookup name o.session.registry).use?.toList := uses_note _ o
    rw [noted, found]
    rfl

/-- The lookups of an inclusion are noted with those around it. -/
theorem Traces.inside {run : Over Observation (List Fragment)} (h : Traces run) (name : String) :
    Traces ((Host.observed helpers maxDepth).inside name run) := by
  intro o r found
  have entered : (o.enter name).uses = o.uses :=
    (uses_note (.entered (name :: o.chain)) o).trans (List.append_nil _)
  obtain ⟨looked, last, left, uses, leads⟩ := h (o.enter name) r found
  rw [entered] at uses
  -- Whether the partial succeeds or fails, its lookups are those of the whole.
  cases read : run.run.run (o.enter name) with
  | mk result inner =>
    rw [read] at left uses
    cases result with
    | ok out =>
      rw [Host.run_inside_ok read]
      exact ⟨looked, last, left, uses, leads⟩
    | error e =>
      rw [Host.run_inside_error read]
      exact ⟨looked, last, left, uses, leads⟩

end Observation

/-- A run changes its registry by the lookups that it notes, and by nothing else. -/
theorem Program.traces_observed (helpers : HelperTable) (maxDepth depth : Nat) (root : Value)
    (program : Program) : Observation.Traces
      (Program.runOver helpers (.observed helpers maxDepth) depth root program) :=
  Program.property_runOver Observation.traces_congruence Observation.traces_refuse
    Observation.traces_find (fun name _ h => h.inside name) depth root program

/-- What a rendering looks up leads to the registry that it leaves. -/
theorem Artifact.leads_observe (helpers : HelperTable) (maxDepth : Nat) (root : Value)
    (a : Artifact) (r : Registry) (cache : Option ArtifactCache) :
    ∃ last, (a.observe helpers maxDepth root ⟨some r, cache⟩).2.session.registry = some last ∧
      r.Leads (a.observe helpers maxDepth root ⟨some r, cache⟩).2.uses last := by
  obtain ⟨looked, last, left, uses, leads⟩ := Program.traces_observed helpers maxDepth maxDepth
    root a.program ⟨⟨some r, cache⟩, [], []⟩ r rfl
  have all : (a.observe helpers maxDepth root ⟨some r, cache⟩).2.uses = looked := uses
  rw [all]
  exact ⟨last, left, leads⟩

/-- The lookups of an engine that renders a source. -/
def Engine.uses (source : String) (root : Value) (helpers : HelperTable) (r : Registry)
    (engine : Engine) : List Registry.Use :=
  match engine.load source helpers.customNames with
  | (.error _, _) => []
  | (.ok loaded, engine) =>
    (loaded.artifact.observe helpers engine.options.maxDepth root
      ⟨some r, some engine.cache⟩).2.uses

/-- What an engine looks up leads to the registry that its rendering leaves. -/
theorem Engine.leads_render (source : String) (root : Value) (helpers : HelperTable) (r : Registry)
    (engine : Engine) : ∃ last, (engine.render source root helpers (some r)).2.2 = some last ∧
      r.Leads (engine.uses source root helpers r) last := by
  unfold Engine.render Engine.uses
  cases engine.load source helpers.customNames with
  | mk loaded engine =>
    cases loaded with
    | error cause => exact ⟨r, rfl, .nil r⟩
    | ok loaded =>
      obtain ⟨last, left, leads⟩ := loaded.artifact.leads_observe helpers engine.options.maxDepth
        root r (some engine.cache)
      refine ⟨last, ?_, leads⟩
      dsimp only
      rw [Artifact.render_eq_observe]
      dsimp only
      split <;> exact left

/-! ## Runs -/

namespace Registry

/-- A move over a registry. An engine may be in any state. -/
inductive Move where
  | register (name text : String)
  | resolve (name : String)
  | render (engine : Engine) (source : String) (root : Value) (helpers : HelperTable)

namespace Move

/-- What a move makes of the registry. -/
def run (r : Registry) : Move → Registry
  | register name text => r.register name text
  | resolve name => (r.resolve name).2
  | render engine source root helpers =>
    (engine.render source root helpers (some r)).2.2.getD r

/-- What happens to the registry in a move. -/
def uses (r : Registry) : Move → List Use
  | register name text => [.registered name text]
  | resolve name => [.lookedUp name r]
  | render engine source root helpers => engine.uses source root helpers r

/-- The text of a name that has been registered last. -/
def latest? (name : String) : List Move → Option String
  | [] => none
  | register n text :: later => (latest? name later).or (if n = name then some text else none)
  | resolve _ :: later => latest? name later
  | render .. :: later => latest? name later

/-- The uses of a move lead from the registry before it to the one behind it. -/
theorem leads_run (r : Registry) (move : Move) : r.Leads (move.uses r) (move.run r) := by
  cases move with
  | register name text => exact .register (.nil _)
  | resolve name => exact .lookUp (.nil _)
  | render engine source root helpers =>
    obtain ⟨last, left, leads⟩ := engine.leads_render source root helpers r
    rw [run, left]
    exact leads

end Move

/-- What moves make of a registry, one after the other. -/
def runAll (r : Registry) (moves : List Move) : Registry := moves.foldl Move.run r

/-- What happens to the registry in moves, one after the other. -/
def logOf (r : Registry) : List Move → List Use
  | [] => []
  | move :: rest => move.uses r ++ logOf (move.run r) rest

/-- The log of some moves leads from the first registry to the last one. -/
theorem leads_runAll (r : Registry) (moves : List Move) :
    r.Leads (logOf r moves) (runAll r moves) := by
  induction moves generalizing r with
  | nil => exact .nil r
  | cons move rest ih => exact (move.leads_run r).append (ih (move.run r))

/-- The latest registration of a name is the last one of the later uses, if these have any. -/
theorem latest?_append (name : String) (uses more : List Use) :
    latest? name (uses ++ more) = (latest? name more).or (latest? name uses) := by
  induction uses with
  | nil => simp [latest?]
  | cons use rest ih =>
    cases use with
    | registered n text => simp only [List.cons_append, latest?, ih, Option.or_assoc]
    | lookedUp n before => exact ih

/-- Nothing is registered while something is observed. -/
theorem latest?_uses (name : String) (o : Observation) : latest? name o.uses = none := by
  unfold Observation.uses
  induction o.events.reverse with
  | nil => rfl
  | cons e rest ih =>
    rcases e with ⟨n, _ | registry⟩ | chain | ⟨n, chain⟩
    · exact ih
    · exact ih
    · exact ih
    · exact ih

/-- What has been registered in a log are the texts of the moves. -/
theorem latest?_logOf (name : String) (r : Registry) (moves : List Move) :
    latest? name (logOf r moves) = Move.latest? name moves := by
  induction moves generalizing r with
  | nil => rfl
  | cons move rest ih =>
    rw [logOf, latest?_append, ih]
    cases move with
    | register n text => simp [Move.latest?, Move.uses, latest?]
    | resolve n => exact Option.or_none
    | render engine source root helpers =>
      -- A rendering only looks names up, and so registers none.
      have unchanged : latest? name (engine.uses source root helpers r) = none := by
        unfold Engine.uses
        split
        · rfl
        · exact latest?_uses name _
      rw [Move.uses, unchanged, Move.latest?, Option.or_none]

/-! ## What is known of a log -/

/-- What a log tells that leads from an empty registry to the last one. -/
structure Memoizes (resolver : Option Resolver) (log : List Use) (last : Registry) : Prop where
  /-- Each lookup finds the registry as the uses before it have left it. -/
  leads : Leads (.empty resolver) log last
  /-- What is held is not asked for. -/
  unasked : ∀ (name : String) (before : Registry), .lookedUp name before ∈ log →
    before.contains name = true → (before.resolve name).2 = before
  /-- What is not held is answered by the resolver, as it does at that time. -/
  answered : ∀ (name : String) (before : Registry) (ask : Resolver),
    .lookedUp name before ∈ log → resolver = some ask → before.contains name = false →
    (before.resolve name).1 = Resolver.answer (ask before.calls) name
  /-- The resolver has been asked in these lookups and nowhere else. -/
  calls : last.calls = log.countP Use.asks
  /-- A text that has been registered or found is what the later lookups give, without a question,
  until another one is registered. -/
  stable : ∀ (past : List Use) (use : Use) (between : List Use) (before : Registry)
    (later : List Use) (text : String),
    log = past ++ use :: (between ++ .lookedUp use.name before :: later) → use.text? = some text →
    (∀ other, .registered use.name other ∉ between) →
    before.resolve use.name = (.ok (some text), before)
  /-- A lookup without a text stores nothing. -/
  unstored : ∀ (name : String) (before : Registry), .lookedUp name before ∈ log →
    (Use.lookedUp name before).text? = none →
    (before.resolve name).2.templates = before.templates
  /-- The next lookup asks again, if there is a resolver. -/
  askedAgain : ∀ (past : List Use) (name : String) (before : Registry) (between : List Use)
    (next : Registry) (later : List Use),
    log = past ++ .lookedUp name before :: (between ++ .lookedUp name next :: later) →
    (Use.lookedUp name before).text? = none → (∀ use ∈ between, use.name ≠ name) →
    next.contains name = false ∧
      (next.resolve name).2.calls = next.calls + if resolver.isSome then 1 else 0
  /-- The size is the number of the names that have been registered or found. -/
  size : ∀ past later : List Use, log = past ++ later →
    (replay (.empty resolver) past).size = (supplied past).card
  /-- The size never gets smaller. -/
  grows : ∀ past between later : List Use, log = past ++ between ++ later →
    (replay (.empty resolver) past).size ≤ (replay (.empty resolver) (past ++ between)).size

namespace Leads

variable {resolver : Option Resolver} {log : List Use} {last : Registry}

/-- A lookup finds a registry that uses of the empty one have led to. -/
theorem exists_before {name : String} {before : Registry} (h : Leads (.empty resolver) log last)
    (mem : .lookedUp name before ∈ log) : ∃ past, Leads (.empty resolver) past before := by
  obtain ⟨past, later, split⟩ := List.append_of_mem mem
  subst split
  exact ⟨past, h.before_lookUp.1⟩

/-- A text once found is what every later lookup of its name gives, unless another one is
registered. -/
theorem stable {past between later : List Use} {use : Use} {before : Registry} {text : String}
    (h : Leads (.empty resolver)
      (past ++ use :: (between ++ .lookedUp use.name before :: later)) last)
    (gives : use.text? = some text) (kept : ∀ other, .registered use.name other ∉ between) :
    before.resolve use.name = (.ok (some text), before) := by
  obtain ⟨middle, _, behind⟩ := h.split
  obtain ⟨held, after⟩ := behind.holds_text gives
  obtain ⟨since, _⟩ := after.before_lookUp
  exact resolve_of_get? (since.holds held kept)

/-- A name that was not found is asked for again if nothing was stored under it in between. -/
theorem askedAgain {past between later : List Use} {name : String} {before next : Registry}
    (h : Leads (.empty resolver)
      (past ++ .lookedUp name before :: (between ++ .lookedUp name next :: later)) last)
    (unanswered : (Use.lookedUp name before).text? = none)
    (unused : ∀ use ∈ between, use.name ≠ name) :
    next.contains name = false ∧
      (next.resolve name).2.calls = next.calls + if resolver.isSome then 1 else 0 := by
  obtain ⟨first, behind⟩ := h.before_lookUp
  obtain ⟨since, _⟩ := behind.before_lookUp
  -- The lookup has left the name missing, and it is not used before the next one.
  have missing : Keyed.get? name (before.resolve name).2.templates = none := by
    rw [Option.eq_none_iff_forall_ne_some]
    intro text held
    rw [Use.text?_lookedUp.2 ((lookup name before).get?_iff.1 held)] at unanswered
    cases unanswered
  have free : next.contains name = false := by
    rw [contains, since.misses missing unused]
    rfl
  have known : next.resolver = resolver :=
    since.resolver.trans ((lookup name before).resolver_eq.trans first.resolver)
  refine ⟨free, ?_⟩
  rw [(lookup name next).calls_eq, free, known]
  simp

/-- More uses supply more names. -/
theorem size_le {past between : List Use} (h : Leads (.empty resolver) (past ++ between) last) :
    (replay (.empty resolver) past).size ≤ last.size := by
  obtain ⟨middle, first, _⟩ := h.split
  rw [← first.eq_replay, first.size, h.size]
  apply Finset.card_le_card
  intro name mem
  obtain ⟨use, mem, supplies⟩ := mem_supplied.1 mem
  exact mem_supplied.2 ⟨use, List.mem_append_left _ mem, supplies⟩

/-- Where uses lead from an empty registry to another, all laws of the log hold of them. -/
theorem memoizes (h : Leads (.empty resolver) log last) : Memoizes resolver log last where
  leads := h
  unasked := by
    intro name before mem held
    obtain ⟨text, same⟩ := resolve_of_contains held
    rw [same]
  answered := by
    intro name before ask mem asks missing
    -- The resolver at the time of the lookup is the one from the start.
    obtain ⟨past, first⟩ := h.exists_before mem
    have known : before.resolver = some ask := first.resolver.trans asks
    have missing : Keyed.get? name before.templates = none :=
      Option.isNone_iff_eq_none.1 (Option.isSome_eq_false_iff.1 missing)
    rw [resolve_of_resolver known, missing]
    rfl
  calls := h.calls.trans (Nat.zero_add _)
  stable := by
    intro past use between before later text split gives kept
    subst split
    exact h.stable gives kept
  unstored := by
    intro name before mem unanswered
    apply (lookup name before).templates_eq
    intro text gives
    rw [Use.text?_lookedUp.2 gives] at unanswered
    cases unanswered
  askedAgain := by
    intro past name before between next later split unanswered unused
    subst split
    exact h.askedAgain unanswered unused
  size := by
    intro past later split
    subst split
    obtain ⟨middle, first, _⟩ := h.split
    rw [← first.eq_replay]
    exact first.size
  grows := by
    intro past between later split
    subst split
    obtain ⟨middle, first, _⟩ := h.split
    rw [← first.eq_replay]
    exact first.size_le

end Leads

/-! ## What comes before does not show -/

/-- What does not show where the resolver is a function of the name. -/
structure Transparent (f : String → Except (List String) (Option String)) (moves : List Move) :
    Prop where
  /-- A lookup gives the text that has been registered last, or else the answer of the function. -/
  answers : ∀ past name before later,
    logOf (.empty (some (.ofFunction f))) moves = past ++ .lookedUp name before :: later →
    (before.resolve name).1 = answerOf f name (latest? name past)
  /-- An engine renders the same after other moves that register the same texts last, and it keeps
  the same artifacts. -/
  renders : ∀ moves', (∀ name, Move.latest? name moves' = Move.latest? name moves) →
    ∀ (engine : Engine) source root helpers,
      let after := fun moves => engine.render source root helpers
        (some (runAll (.empty (some (.ofFunction f))) moves))
      (after moves).1 = (after moves').1 ∧ (after moves).2.1 = (after moves').2.1
  /-- This is so whatever the engine has been used for: it renders as if there was no cache. -/
  cached : ∀ moves', (∀ name, Move.latest? name moves' = Move.latest? name moves) →
    ∀ capacity cacheMoves options source root helpers,
      let registry := runAll (.empty (some (.ofFunction f))) moves
      let registry' := runAll (.empty (some (.ofFunction f))) moves'
      Request.CollisionFree (requestsAfter cacheMoves options source root helpers (some registry)) →
      (renderAfter capacity cacheMoves options source root helpers (some registry)).1 =
        (renderDirectly source root helpers (some registry') options.maxDepth).1

section
variable {f : String → Except (List String) (Option String)} {moves moves' : List Move}

/-- With a resolver that is a function, a lookup depends on the last registration of the name only.
-/
theorem resolve_runAll (f : String → Except (List String) (Option String)) (moves : List Move)
    (name : String) : ((runAll (.empty (some (.ofFunction f))) moves).resolve name).1 =
      answerOf f name (Move.latest? name moves) := by
  have function : (Registry.empty (some (.ofFunction f))).resolver = some (.ofFunction f) := rfl
  rw [(leads_runAll _ moves).answers function, latest?_logOf]
  cases Move.latest? name moves with
  | some text => rfl
  | none => exact resolve_of_function function

/-- Moves that register the same last texts leave registries that answer alike. -/
theorem alike_runAll (same : ∀ name, Move.latest? name moves' = Move.latest? name moves) :
    Alike (runAll (.empty (some (.ofFunction f))) moves)
      (runAll (.empty (some (.ofFunction f))) moves') where
  function := ⟨f, (leads_runAll _ moves).resolver, (leads_runAll _ moves').resolver⟩
  answers := by
    intro name
    rw [resolve_runAll, resolve_runAll, same]

theorem transparent (f : String → Except (List String) (Option String)) (moves : List Move) :
    Transparent f moves where
  answers := by
    intro past name before later split
    have leads := leads_runAll (.empty (some (.ofFunction f))) moves
    rw [split] at leads
    have function : (Registry.empty (some (.ofFunction f))).resolver = some (.ofFunction f) := rfl
    -- A resolver that is a function gives at any time what it would have given at first.
    rw [leads.before_lookUp.1.answers function]
    cases latest? name past with
    | some text => rfl
    | none => exact resolve_of_function function
  renders := by
    intro moves' same engine source root helpers
    exact engine.render_of_alike (alike_runAll same) source root helpers
  cached := by
    intro moves' same capacity cacheMoves options source root helpers registry registry' free
    rw [renderAfter_of_collisionFree free]
    exact renderDirectly_of_alike (alike_runAll same) source root helpers options.maxDepth

end

/-- **Lookups are stable, and what is kept does not show.** Whatever is registered, looked up and
rendered over a registry, its log tells that what it holds is never asked for, that a text once
found is what later lookups give, and that nothing else is stored. Where the resolver is a function
of the name, lookups and renderings come to what they come to after any other moves that register
the same texts. -/
theorem memoizes_runAll (resolver : Option Resolver) (moves : List Move) :
    Memoizes resolver (logOf (.empty resolver) moves) (runAll (.empty resolver) moves) ∧
      ∀ f, Transparent f moves := by
  constructor
  · exact (leads_runAll (.empty resolver) moves).memoizes
  · exact fun f => transparent f moves

/-- A resolver that has a text at its second question only. The text is found in a rendering, and
the lookups behind it ask no more. -/
theorem memoizes_found_in_rendering :
    let ask : Resolver := fun calls _ =>
      if calls = 0 then .ok none else if calls = 1 then .ok (some "x") else .error []
    let moves : List Move := [.resolve "p",
      .render (.ofOptions .standard) "\x7b\x7b>p\x7d\x7d\x7b\x7b>p\x7d\x7d" .null
        (.standard .common),
      .resolve "p"]
    let log := logOf (.empty (some ask)) moves
    let last := runAll (.empty (some ask)) moves
    log.map (fun use => (use.name, use.text?)) =
        [("p", none), ("p", some "x"), ("p", some "x"), ("p", some "x")] ∧
      last.calls = 2 ∧ last.size = 1 ∧ Memoizes (some ask) log last := by
  intro ask moves log last
  have found : log.map (fun use => (use.name, use.text?)) =
      [("p", none), ("p", some "x"), ("p", some "x"), ("p", some "x")] := by decide +kernel
  have asked : last.calls = 2 ∧ last.size = 1 := by decide +kernel
  exact ⟨found, asked.1, asked.2, (memoizes_runAll (some ask) moves).1⟩

end Registry

end TextTemplate
