import TextTemplate.Proofs.History
import TextTemplate.Proofs.RegistryLog
import TextTemplate.Proofs.SessionSteps

/-!
# Where partials come from

The text of a partial is one that the registry offers: it holds the text, or its resolver may answer
with it, and a lookup makes it offer no other (`Registry.Offers`). The artifact of the text is one
that the cache keeps under the key of the text, or what the text compiles to; nothing else comes
into the cache.
-/

namespace TextTemplate

/-! ## Texts -/

namespace Registry

variable {r after : Registry} {name text : String} {registry : Option Registry}

/-- The text may come out of the registry, now or later. -/
inductive Offers (r : Registry) (text : String) : Prop
  | held (name : String) : Keyed.get? name r.templates = some text → Offers r text
  | answered (ask : Resolver) (calls : Nat) (name : String) : r.resolver = some ask →
      ask calls name = .ok (some text) → Offers r text

/-- The text may come out of the registry, if there is one. -/
def MayOffer (registry : Option Registry) (text : String) : Prop :=
  ∃ r, registry = some r ∧ r.Offers text

/-- Without a resolver a registry offers the texts that it holds. -/
theorem Offers.mem_of_unresolved (h : r.Offers text) (unresolved : r.resolver = none) :
    text ∈ r.templates.map (·.2) := by
  cases h with
  | held name holds => exact List.mem_map_of_mem (Keyed.mem_of_get? holds)
  | answered ask calls name asks answers =>
    rw [unresolved] at asks
    cases asks

theorem mayOffer_some :
    MayOffer (some r) text ↔ r.Offers text := by
  constructor
  · rintro ⟨_, ⟨⟩, offers⟩
    exact offers
  · exact fun offers => ⟨r, rfl, offers⟩

/-- A text that is found goes on to be offered. -/
theorem Lookup.offers {result : Except (List String) (Option String)}
    (h : Lookup name r result after) (found : result = .ok (some text)) : after.Offers text := by
  cases h with
  | held holds =>
    cases found
    exact .held name holds
  | unresolved _ _ => cases found
  | failed _ _ _ => cases found
  | absent _ _ _ _ => cases found
  | answered _ _ _ _ =>
    cases found
    refine .held name ?_
    rw [get?_register, if_pos rfl]

/-- A lookup makes a registry offer no other texts. -/
theorem Lookup.offers_of_after {result : Except (List String) (Option String)}
    (h : Lookup name r result after) (offers : after.Offers text) : r.Offers text := by
  cases h with
  | held _ => exact offers
  | unresolved _ _ => exact offers
  | failed _ _ _ =>
    cases offers with
    | held other holds => exact .held other holds
    | answered ask calls other asks answers => exact .answered ask calls other asks answers
  | absent _ _ _ _ =>
    cases offers with
    | held other holds => exact .held other holds
    | answered ask calls other asks answers => exact .answered ask calls other asks answers
  | answered missing asks answers nonempty =>
    cases offers with
    | answered ask calls other asks answers => exact .answered ask calls other asks answers
    | held other holds =>
      -- The only text that is new is the answer itself.
      rw [get?_register] at holds
      split at holds
      · cases holds
        exact .answered _ _ name asks answers
      · exact .held other holds

/-- A text that has been found was on offer, and it still is afterwards. -/
theorem mayOffer_textOf (found : (textOf name registry).1 = .ok text) :
    MayOffer (textOf name registry).2 text := by
  cases registry with
  | none => cases found
  | some r =>
    -- Only a lookup that gives a text has found any.
    refine ⟨_, rfl, (lookup name r).offers ?_⟩
    simp only [textOf] at found
    rcases h : (r.resolve name).1 with causes | _ | other
    · rw [h] at found
      cases found
    · rw [h] at found
      cases found
    · rw [h] at found
      cases found
      rfl

/-- A lookup brings no text on offer that was not on offer before. -/
theorem MayOffer.of_textOf (offers : MayOffer (textOf name registry).2 text) :
    MayOffer registry text := by
  obtain ⟨after, found, offers⟩ := offers
  cases registry with
  | none => cases found
  | some r =>
    cases found
    exact ⟨r, rfl, (lookup name r).offers_of_after offers⟩

end Registry

/-! ## Artifacts -/

namespace ArtifactCache

variable {c : ArtifactCache} {source : String} {customNames : List String}

/-- The artifact of a source is kept under its key, or compiled. -/
theorem kept_or_compiled {a : StampedArtifact}
    (given : (c.getOrCompile source customNames).1 = .ok a) :
    (.derive source customNames, a) ∈ c.kept.entries ∨
      Artifact.compile? source customNames = .ok a.artifact := by
  -- A hit gives what is kept, a miss what is compiled now.
  cases found : (c.get? (.derive source customNames)).1 with
  | some b =>
    rw [getOrCompile_of_found found] at given
    cases given
    rw [get?_fst] at found
    exact .inl (Lru.mem_of_peek? found)
  | none =>
    rw [getOrCompile_of_missing found] at given
    cases compiled : Artifact.compile? source customNames with
    | error cause =>
      rw [compiled] at given
      cases given
    | ok b =>
      rw [compiled] at given
      cases given
      exact .inr rfl

/-- Asking for the artifact of a source brings in what the source compiles to, if anything. -/
theorem mem_of_mem_getOrCompile {entry : CacheKey × StampedArtifact}
    (held : entry ∈ (c.getOrCompile source customNames).2.kept.entries) :
    entry ∈ c.kept.entries ∨ Artifact.compile? source customNames = .ok entry.2.artifact := by
  cases found : (c.get? (.derive source customNames)).1 with
  | some b =>
    rw [getOrCompile_of_found found] at held
    exact .inl (Lru.mem_of_mem_get? held)
  | none =>
    rw [getOrCompile_of_missing found] at held
    cases compiled : Artifact.compile? source customNames with
    | error cause =>
      rw [compiled] at held
      exact .inl held
    | ok b =>
      rw [compiled] at held
      -- An insertion may drop entries, but it adds only this one.
      rcases Lru.mem_of_mem_insert held with rfl | ⟨held, _⟩
      · exact .inr rfl
      · exact .inl held

end ArtifactCache

/-- A text that does not compile leaves the session as it was. -/
theorem Session.compile_of_error {text : String} {customNames : List String} {s : Session}
    {cause : CompileError} (failed : (s.compile text customNames).1 = .error cause) :
    (s.compile text customNames).2 = s := by
  rcases s with ⟨registry, cache⟩
  cases cache with
  | none => rfl
  | some c =>
    simp only [compile] at failed ⊢
    cases given : (c.getOrCompile text customNames).1 with
    | error cause => rw [ArtifactCache.getOrCompile_of_error given]
    | ok a =>
      rw [given] at failed
      cases failed

end TextTemplate
