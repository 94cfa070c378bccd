import Mathlib.Data.List.TakeWhile
import TextTemplate.Proofs.History

/-!
# What a cache retains

Of the keys that it has used, a cache holds those that were used last. The keys in front of a held
key are those that were used after it (`mem_front_replay`), so a key stays until as many others have
been used as there is room for (`mem_replay_of_card_lt`), and no longer (`card_used_lt`).

`Retention` collects what this says about a cache, and `retention_runAll` is that it holds after any
operations on a cache that starts empty.
-/

namespace TextTemplate.ArtifactCache

variable {capacity : Nat} {key other : CacheKey} {keys : List CacheKey}

/-- The keys that stand in front of a key. -/
def front (key : CacheKey) (keys : List CacheKey) : List CacheKey := keys.takeWhile (· ≠ key)

/-! ## The keys in front of a key -/

@[simp] theorem front_cons_self : front key (key :: keys) = [] := by simp [front]

theorem front_cons_of_ne (ne : other ≠ key) :
    front key (other :: keys) = other :: front key keys := by
  simp [front, ne]

/-- Keys fall into the front of a key that is among them, the key, and the rest. -/
theorem exists_back (held : key ∈ keys) : ∃ back, keys = front key keys ++ key :: back := by
  induction keys with
  | nil => cases held
  | cons first rest ih =>
    by_cases same : first = key
    · subst same
      exact ⟨rest, by simp⟩
    · rcases ih (List.mem_of_ne_of_mem (Ne.symm same) held) with ⟨back, split⟩
      refine ⟨back, ?_⟩
      rw [front_cons_of_ne same, List.cons_append, ← split]

theorem not_mem_front : key ∉ front key keys := by
  intro infront
  have differs := List.mem_takeWhile_imp infront
  simp at differs

theorem front_sublist : (front key keys).Sublist keys := (List.takeWhile_prefix _).sublist

/-- Dropping other keys drops them in front of a key. -/
theorem front_filter {p : CacheKey → Bool} (stays : p key = true) :
    front key (keys.filter p) = (front key keys).filter p := by
  induction keys with
  | nil => rfl
  | cons first rest ih =>
    by_cases same : first = key
    · subst same
      simp [stays]
    · rw [front_cons_of_ne same]
      by_cases kept : p first = true
      · rw [List.filter_cons_of_pos kept, List.filter_cons_of_pos kept, front_cons_of_ne same, ih]
      · rw [List.filter_cons_of_neg kept, List.filter_cons_of_neg kept, ih]

/-- A key stays among the first ones as long as few enough are in front of it. -/
theorem mem_take_iff (held : key ∈ keys) :
    key ∈ keys.take capacity ↔ (front key keys).length < capacity := by
  -- The key stands right behind its front, so it is among the first ones if the front is short
  -- enough.
  rcases exists_back held with ⟨back, split⟩
  have absent : key ∉ front key keys := not_mem_front
  constructor
  · intro kept
    by_contra many
    rw [split, List.take_append_of_le_length (by omega)] at kept
    exact absent (List.mem_of_mem_take kept)
  · intro few
    rw [split, List.take_append, List.mem_append]
    right
    obtain ⟨n, rest⟩ : ∃ n, capacity - (front key keys).length = n + 1 :=
      ⟨capacity - (front key keys).length - 1, by omega⟩
    rw [rest, List.take_succ_cons]
    exact List.mem_cons_self ..

/-- Dropping keys at the back leaves the front of a key that is kept. -/
theorem front_take (kept : key ∈ keys.take capacity) :
    front key (keys.take capacity) = front key keys := by
  induction keys generalizing capacity with
  | nil => simp
  | cons first rest ih =>
    cases capacity with
    | zero => simp at kept
    | succ n =>
      rw [List.take_succ_cons] at kept ⊢
      -- The front ends at the first place of the key, which is kept, so nothing of it is cut.
      by_cases same : first = key
      · subst same
        simp
      · rw [front_cons_of_ne same, front_cons_of_ne same,
          ih (List.mem_of_ne_of_mem (Ne.symm same) kept)]

/-! ## One event -/

/-- A touch brings no other key in. -/
theorem mem_of_mem_touch (ne : other ≠ key) (kept : key ∈ touch capacity other keys) :
    key ∈ keys := by
  have among := List.mem_of_mem_take kept
  rcases List.mem_cons.1 among with same | held
  · exact absurd same.symm ne
  · exact List.mem_of_mem_filter held

/-- A key that is used comes in front of the others. -/
theorem front_touch (ne : other ≠ key) (kept : key ∈ touch capacity other keys) :
    front key (touch capacity other keys) = other :: (front key keys).filter (· ≠ other) := by
  rw [touch, front_take kept, front_cons_of_ne ne, front_filter (by simpa using ne.symm)]

/-- A key that is touched is kept, if there is room for any. -/
theorem mem_touch_self (room : 0 < capacity) : key ∈ touch capacity key keys := by
  rw [touch, mem_take_iff (List.mem_cons_self ..), front_cons_self]
  exact room

theorem front_touch_self : front key (touch capacity key keys) = [] := by
  cases capacity with
  | zero => rfl
  | succ n => simp [touch]

/-- A held key stays when another one is used, if there is room for all that stand in front of it
then. -/
theorem mem_touch_of_card_lt (ne : other ≠ key) (held : key ∈ keys) (nodup : keys.Nodup)
    (few : ({other} ∪ (front key keys).toFinset).card < capacity) :
    key ∈ touch capacity other keys := by
  have stays : key ∈ keys.filter (· ≠ other) := List.mem_filter.2 ⟨held, by simpa using ne.symm⟩
  have infront : front key (other :: keys.filter (· ≠ other)) =
      other :: (front key keys).filter (· ≠ other) := by
    rw [front_cons_of_ne ne, front_filter (by simpa using ne.symm)]
  have distinct : (other :: (front key keys).filter (· ≠ other)).Nodup := by
    refine List.nodup_cons.2 ⟨by simp, ?_⟩
    exact (nodup.sublist front_sublist).filter _
  -- The keys in front of it afterwards are those before and the one that is touched.
  have sameKeys : (other :: (front key keys).filter (· ≠ other)).toFinset =
      {other} ∪ (front key keys).toFinset := by
    ext k
    by_cases h : k = other <;> simp [h]
  rw [touch, mem_take_iff (List.mem_cons_of_mem _ stays), infront,
    ← List.toFinset_card_of_nodup distinct, sameKeys]
  exact few

namespace Event

/-- An event that uses a key brings it to the front. -/
theorem keysAfter_of_used {event : Event} (h : event.used? = some other) :
    event.keysAfter capacity keys = touch capacity other keys := by
  cases event <;> cases h <;> rfl

/-- An event that uses no key drops some. -/
theorem keysAfter_of_unused {event : Event} (h : event.used? = none) :
    event.keysAfter capacity keys = keys.filter (!event.drops ·) := by
  cases event with
  | hit key => cases h
  | store key a => cases h
  | drop key =>
    apply List.filter_congr
    intro k _
    by_cases same : k = key
    · simp [drops, same]
    · simp [drops, same, Ne.symm same]
  | dropAll => simp [keysAfter, drops]

/-- What is kept after an event that does not use it was kept before. -/
theorem mem_of_mem_keysAfter {event : Event} (unused : event.used? ≠ some key)
    (kept : key ∈ event.keysAfter capacity keys) : key ∈ keys := by
  cases h : event.used? with
  | none =>
    rw [keysAfter_of_unused h] at kept
    exact List.mem_of_mem_filter kept
  | some other =>
    rw [keysAfter_of_used h] at kept
    exact mem_of_mem_touch (fun same => unused (same ▸ h)) kept

/-- Only the key that is used may come in front of another one. -/
theorem mem_front_keysAfter {event : Event} (unused : event.used? ≠ some key)
    (kept : key ∈ event.keysAfter capacity keys)
    (infront : other ∈ front key (event.keysAfter capacity keys)) :
    other ∈ front key keys ∨ event.used? = some other := by
  -- An event may drop keys, or it brings one to the front.
  cases h : event.used? with
  | none =>
    rw [keysAfter_of_unused h] at kept infront
    rw [front_filter (List.mem_filter.1 kept).2] at infront
    exact .inl (List.mem_of_mem_filter infront)
  | some k =>
    have ne : k ≠ key := fun same => unused (same ▸ h)
    rw [keysAfter_of_used h] at kept infront
    rw [front_touch ne kept] at infront
    rcases List.mem_cons.1 infront with same | before
    · exact .inr (by rw [same])
    · exact .inl (List.mem_of_mem_filter before)

/-- A held key stays after an event that does not drop it, if there is room for all keys in front
of it and for the one that the event uses. -/
theorem mem_keysAfter_of_card_lt {event : Event} (nodup : keys.Nodup) (held : key ∈ keys)
    (unused : event.used? ≠ some key) (undropped : event.drops key = false)
    (few : ((front key keys).toFinset ∪ used [event]).card < capacity) :
    key ∈ event.keysAfter capacity keys := by
  cases h : event.used? with
  | none =>
    rw [keysAfter_of_unused h]
    exact List.mem_filter.2 ⟨held, by simp [undropped]⟩
  | some other =>
    have ne : other ≠ key := fun same => unused (same ▸ h)
    have one : used [event] = {other} := by simp [used, h]
    rw [one, Finset.union_comm] at few
    rw [keysAfter_of_used h]
    exact mem_touch_of_card_lt ne held nodup few

end Event

/-! ## Any events -/

section
variable {later : List Event}

theorem mem_used_cons {event : Event} {events : List Event} :
    key ∈ used (event :: events) ↔ event.used? = some key ∨ key ∈ used events := by
  simp [mem_used]

theorem used_cons (event : Event) (events : List Event) :
    used (event :: events) = used [event] ∪ used events := by
  ext key
  simp [mem_used]

/-- A key that is held behind events that do not use it was held before them. In front of it are
only keys that were there already or that the events use. -/
theorem mem_front_replay (unused : ∀ event ∈ later, event.used? ≠ some key)
    (kept : key ∈ replay capacity keys later) :
    key ∈ keys ∧ ∀ other ∈ front key (replay capacity keys later),
      other ∈ front key keys ∨ other ∈ used later := by
  -- By induction on the events: what is in front at the end was so after the first event, or has
  -- been used since.
  induction later generalizing keys with
  | nil => exact ⟨kept, fun other infront => .inl infront⟩
  | cons event rest ih =>
    rw [replay_cons] at kept ⊢
    have unusedNow := unused event (List.mem_cons_self ..)
    rcases ih (fun e h => unused e (List.mem_cons_of_mem _ h)) kept with ⟨keptNow, fronts⟩
    refine ⟨Event.mem_of_mem_keysAfter unusedNow keptNow, ?_⟩
    intro other infront
    rw [mem_used_cons]
    rcases fronts other infront with before | after
    · rcases Event.mem_front_keysAfter unusedNow keptNow before with h | h
      · exact .inl h
      · exact .inr (.inl h)
    · exact .inr (.inr after)

/-- Where nothing is dropped, all keys that were in front of a key stay there, and those that are
used come in front of it, as long as it is held. -/
theorem used_subset_front_replay (unused : ∀ event ∈ later, event.used? ≠ some key)
    (undropped : ∀ event ∈ later, event.used?.isSome) (kept : key ∈ replay capacity keys later) :
    ∀ other, other ∈ front key keys ∨ other ∈ used later →
      other ∈ front key (replay capacity keys later) := by
  induction later generalizing keys with
  | nil =>
    rintro other (infront | used)
    · exact infront
    · cases used
  | cons event rest ih =>
    rw [replay_cons] at kept ⊢
    have unusedNow := unused event (List.mem_cons_self ..)
    have unusedRest : ∀ e ∈ rest, e.used? ≠ some key :=
      fun e h => unused e (List.mem_cons_of_mem _ h)
    have keptNow := (mem_front_replay unusedRest kept).1
    have step := ih unusedRest (fun e h => undropped e (List.mem_cons_of_mem _ h)) kept
    rcases Option.isSome_iff_exists.1 (undropped event (List.mem_cons_self ..)) with ⟨now, h⟩
    have ne : now ≠ key := fun same => unusedNow (same ▸ h)
    rw [Event.keysAfter_of_used h] at keptNow
    -- After the first event its key is in front, and so is what was in front before.
    have fronts : front key (event.keysAfter capacity keys) =
        now :: (front key keys).filter (· ≠ now) := by
      rw [Event.keysAfter_of_used h, front_touch ne keptNow]
    rw [fronts] at step
    intro other cases
    apply step
    by_cases same : other = now
    · exact .inl (same ▸ List.mem_cons_self ..)
    · rcases cases with before | after
      · exact .inl (List.mem_cons_of_mem _ (List.mem_filter.2 ⟨before, by simpa using same⟩))
      · rcases mem_used_cons.1 after with usedNow | usedLater
        · rw [h] at usedNow
          exact absurd (Option.some.inj usedNow).symm same
        · exact .inr usedLater

/-- A held key stays if nothing drops it and there is room for all keys in front of it and all that
are used. -/
theorem mem_replay_of_card_lt (nodup : keys.Nodup) (held : key ∈ keys)
    (unused : ∀ event ∈ later, event.used? ≠ some key)
    (undropped : ∀ event ∈ later, event.drops key = false)
    (few : ((front key keys).toFinset ∪ used later).card < capacity) :
    key ∈ replay capacity keys later := by
  induction later generalizing keys with
  | nil => exact held
  | cons event rest ih =>
    have unusedNow := unused event (List.mem_cons_self ..)
    rw [used_cons, ← Finset.union_assoc] at few
    have heldNow : key ∈ event.keysAfter capacity keys := by
      apply Event.mem_keysAfter_of_card_lt nodup held unusedNow
      · exact undropped event (List.mem_cons_self ..)
      · exact (Finset.card_le_card Finset.subset_union_left).trans_lt few
    rw [replay_cons]
    apply ih (Event.nodup_keysAfter nodup event) heldNow
      (fun e h => unused e (List.mem_cons_of_mem _ h))
      (fun e h => undropped e (List.mem_cons_of_mem _ h))
    -- What is in front of the key now was there before, or it is the key that the event uses.
    have fronts : (front key (event.keysAfter capacity keys)).toFinset ⊆
        (front key keys).toFinset ∪ used [event] := by
      intro k infront
      rw [List.mem_toFinset] at infront
      rw [Finset.mem_union, List.mem_toFinset]
      rcases Event.mem_front_keysAfter unusedNow heldNow infront with before | now
      · exact .inl before
      · exact .inr (mem_used.2 ⟨event, List.mem_cons_self .., now⟩)
    exact (Finset.card_le_card (Finset.union_subset_union_left fronts)).trans_lt few

end

/-! ## The last use of a key -/

section
variable {history later : List Event}

/-- Right after its use a key is the first one that is held. -/
theorem LastUse.replay_eq (capacity : Nat) (h : LastUse key history later) :
    ∃ keys, keys.Nodup ∧
      replay capacity [] history = replay capacity (touch capacity key keys) later := by
  obtain ⟨earlier, use, split, uses⟩ := h.split
  refine ⟨replay capacity [] earlier, nodup_replay List.nodup_nil earlier, ?_⟩
  rw [split, replay_append, replay_cons, Event.keysAfter_of_used uses]

/-- A held key has been used. -/
theorem exists_lastUse (held : key ∈ replay capacity [] history) :
    ∃ later, LastUse key history later := by
  -- By induction on the history from its end, where the last use is found first.
  induction history using List.reverseRecOn with
  | nil => cases held
  | append_singleton history event ih =>
    by_cases use : event.used? = some key
    · exact ⟨[], ⟨history, event, rfl, use⟩, by simp⟩
    · rw [replay_append] at held
      have heldBefore := Event.mem_of_mem_keysAfter use held
      rcases ih heldBefore with ⟨later, ⟨earlier, last, split, uses⟩, rest⟩
      refine ⟨later ++ [event], ⟨earlier, last, by simp [split], uses⟩, ?_⟩
      intro e among
      rcases List.mem_append.1 among with before | now
      · exact rest e before
      · rw [List.mem_singleton.1 now]
        exact use

/-- A key whose last use has not been dropped is kept, if fewer keys than there is room for have
been used since. -/
theorem mem_replay_of_lastUse (h : LastUse key history later)
    (undropped : ∀ event ∈ later, event.drops key = false)
    (few : (used later).card < capacity) : key ∈ replay capacity [] history := by
  obtain ⟨keys, nodup, same⟩ := h.replay_eq capacity
  rw [same]
  apply mem_replay_of_card_lt (nodup_touch nodup) (mem_touch_self (by omega)) h.last undropped
  rw [front_touch_self, List.toFinset_nil, Finset.empty_union]
  exact few

/-- All keys that are in front of a held key have been used since its last use. -/
theorem mem_used_of_mem_front (h : LastUse key history later)
    (held : key ∈ replay capacity [] history)
    (infront : other ∈ front key (replay capacity [] history)) : other ∈ used later := by
  obtain ⟨keys, nodup, same⟩ := h.replay_eq capacity
  rw [same] at held infront
  rcases (mem_front_replay h.last held).2 other infront with before | after
  · rw [front_touch_self] at before
    cases before
  · exact after

/-- A key that is held, nothing having been dropped since its last use, has room behind all keys
used since. -/
theorem card_used_lt (h : LastUse key history later)
    (undropped : ∀ event ∈ later, event.used?.isSome)
    (room : (replay capacity [] history).length ≤ capacity)
    (held : key ∈ replay capacity [] history) : (used later).card < capacity := by
  obtain ⟨keys, nodup, same⟩ := h.replay_eq capacity
  rw [same] at held room
  have infront : used later ⊆
      (front key (replay capacity (touch capacity key keys) later)).toFinset := by
    intro other uses
    rw [List.mem_toFinset]
    exact used_subset_front_replay h.last undropped held other (.inr uses)
  obtain ⟨back, split⟩ := exists_back held
  have few := (Finset.card_le_card infront).trans (List.toFinset_card_le _)
  -- The front, the key and what is behind it all fit in.
  have whole := congrArg List.length split
  rw [List.length_append, List.length_cons] at whole
  omega

/-- The key that leaves when another one comes to the front stands behind all others. -/
theorem mem_front_of_not_mem_touch {comes leaves : CacheKey} (room : keys.length ≤ capacity)
    (held : leaves ∈ keys) (ne : leaves ≠ comes) (gone : leaves ∉ touch capacity comes keys)
    (otherHeld : other ∈ keys) (otherNe : other ≠ leaves) : other ∈ front leaves keys := by
  have fresh : comes ∉ keys := by
    intro there
    apply gone
    rw [touch_of_mem there room]
    exact List.mem_cons_of_mem _ (List.mem_filter.2 ⟨held, by simpa using ne⟩)
  rw [touch_of_not_mem fresh, mem_take_iff (List.mem_cons_of_mem _ held), front_cons_of_ne ne.symm,
    List.length_cons] at gone
  obtain ⟨back, split⟩ := exists_back held
  have whole := congrArg List.length split
  rw [List.length_append, List.length_cons] at whole
  -- The cache is full and the key falls out, so there is nothing behind it.
  have last : back = [] := List.length_eq_zero_iff.1 (by omega)
  rw [split, last] at otherHeld
  rcases List.mem_append.1 otherHeld with infront | itself
  · exact infront
  · exact absurd (List.mem_singleton.1 itself) otherNe

end

/-- The key that leaves is the only one behind those that there is room for. -/
theorem getElem?_eq_some_iff_of_nodup {all : List CacheKey} (nodup : all.Nodup)
    (room : all.length ≤ capacity + 1) :
    all[capacity]? = some key ↔ key ∈ all ∧ key ∉ all.take capacity := by
  constructor
  · intro last
    refine ⟨List.mem_of_getElem? last, ?_⟩
    intro kept
    obtain ⟨i, same⟩ := List.mem_iff_getElem?.1 kept
    rw [List.getElem?_take] at same
    split at same
    · next before =>
      have here := (List.getElem?_eq_some_iff.1 last).1
      have twice := (List.getElem?_inj (by omega) nodup).1 (same.trans last.symm)
      omega
    · cases same
  · rintro ⟨among, gone⟩
    obtain ⟨i, here⟩ := List.mem_iff_getElem?.1 among
    have short := (List.getElem?_eq_some_iff.1 here).1
    -- It is not among the first ones, and there is only one place left.
    have behind : ¬i < capacity := by
      intro before
      apply gone
      apply List.mem_iff_getElem?.2 ⟨i, ?_⟩
      rw [List.getElem?_take, if_pos before]
      exact here
    have last : i = capacity := by omega
    rw [← last]
    exact here

section
variable {c : ArtifactCache} {a : StampedArtifact}

/-- Putting an artifact in reports a key exactly if this is another key that leaves. -/
theorem evicted_eq_some_iff (room : c.size ≤ c.capacity) (nodup : c.kept.keys.Nodup)
    (one : 0 < c.capacity) : (c.insert a).1 = some key ↔
      key ≠ a.artifact.key ∧ key ∈ c.kept.keys ∧ key ∉ (c.insert a).2.kept.keys := by
  have reported : (c.insert a).1 = (a.artifact.key ::
      c.kept.keys.filter (· ≠ a.artifact.key))[c.capacity]? := Lru.evicted_insert _ _ room
  have kept : (c.insert a).2.kept.keys = (a.artifact.key ::
      c.kept.keys.filter (· ≠ a.artifact.key)).take c.capacity := Lru.keys_insert _ _ room
  have distinct : (a.artifact.key :: c.kept.keys.filter (· ≠ a.artifact.key)).Nodup :=
    List.nodup_cons.2 ⟨by simp, nodup.filter _⟩
  have short : (a.artifact.key :: c.kept.keys.filter (· ≠ a.artifact.key)).length ≤
      c.capacity + 1 := by
    have fewer := List.length_filter_le (· ≠ a.artifact.key) c.kept.keys
    rw [length_keys] at fewer
    rw [List.length_cons]
    omega
  rw [reported, kept, getElem?_eq_some_iff_of_nodup distinct short, List.mem_cons,
    List.mem_filter, decide_eq_true_eq]
  constructor
  · rintro ⟨rfl | ⟨held, ne⟩, gone⟩
    · -- The key that is put in is the first one, and there is room for one.
      obtain ⟨n, capacity⟩ : ∃ n, c.capacity = n + 1 := ⟨c.capacity - 1, by omega⟩
      rw [capacity, List.take_succ_cons] at gone
      exact absurd (List.mem_cons_self ..) gone
    · exact ⟨ne, held, gone⟩
  · rintro ⟨ne, held, gone⟩
    exact ⟨.inr ⟨held, ne⟩, gone⟩

end

/-! ## Artifacts -/

/-- Each artifact of the cache is the one that was put in last under its key. -/
def Recalls (history : List Event) (c : ArtifactCache) : Prop :=
  ∀ entry ∈ c.kept.entries, lastStored? entry.1 history = some entry.2

section
variable {history : List Event} {c c' : ArtifactCache}

/-- The cache still recalls its history after an event that puts in nothing, if it has not grown. -/
theorem Recalls.of_subset (h : Recalls history c) {event : Event}
    (idle : ∀ key, event.stored? key = none)
    (sub : ∀ entry ∈ c'.kept.entries, entry ∈ c.kept.entries) :
    Recalls (history ++ [event]) c' := by
  intro entry held
  rw [lastStored?_append, idle, Option.none_or]
  exact h entry (sub entry held)

/-- A cache that puts an artifact in recalls it, and what it has recalled before. -/
theorem Recalls.insert (h : Recalls history c) (key : CacheKey) (a : StampedArtifact)
    (kept : c'.kept = (c.kept.insert key a).2) :
    Recalls (history ++ [.store key a]) c' := by
  intro entry held
  rw [kept] at held
  rw [lastStored?_append]
  rcases Lru.mem_of_mem_insert held with rfl | ⟨held, ne⟩
  · simp [Event.stored?]
  · simp only [Event.stored?, if_neg ne.symm, Option.none_or]
    exact h entry held

/-- An operation leaves a cache that recalls its history, the operation included. -/
theorem recalls_run (h : Recalls history c) (op : Operation) :
    Recalls (history ++ (op.event? c).toList) (op.run c) := by
  have effect := op.effect c
  generalize op.event? c = event?, op.run c = c' at effect ⊢
  generalize kept : c'.kept = entries at effect
  -- Only a store adds an entry, and that one is the last of its key. All other events leave entries
  -- as they are, or remove some.
  cases effect with
  | idle => simpa [Recalls, kept] using h
  | hit held =>
    refine h.of_subset (fun _ => rfl) ?_
    rw [kept]
    exact fun entry => Lru.mem_of_mem_get?
  | store key a => exact h.insert key a kept
  | drop key =>
    refine h.of_subset (fun _ => rfl) ?_
    rw [kept]
    exact fun entry => Lru.mem_of_mem_erase
  | dropAll =>
    refine h.of_subset (fun _ => rfl) ?_
    rw [kept]
    exact fun entry held => nomatch held

/-- A cache recalls its history after any operations from the empty one. -/
theorem recalls_runAll (capacity : Nat) (ops : List Operation) :
    Recalls (historyOf (empty capacity) ops) (runAll (empty capacity) ops) := by
  induction ops using List.reverseRecOn with
  | nil =>
    intro entry held
    cases held
  | append_singleton ops op ih =>
    rw [runAll_append, historyOf_append]
    exact recalls_run ih op

/-- A held key gives the artifact that was put in last. -/
theorem Recalls.get? (h : Recalls history c) (held : key ∈ c.kept.keys) :
    ∃ a, lastStored? key history = some a ∧ (c.get? key).1 = some a := by
  obtain ⟨a, found⟩ := Option.isSome_iff_exists.1 (isSome_get?.2 held)
  refine ⟨a, ?_, found⟩
  rw [get?_fst] at found
  exact h _ (Lru.mem_of_peek? found)

end

/-! ## Retention -/

/-- An operation that only looks, finds nothing, or fails. -/
inductive Operation.Idle (c : ArtifactCache) : Operation → Prop
  | contains (key : CacheKey) : Idle c (.contains key)
  | size : Idle c .size
  | missed {key : CacheKey} (missing : (c.get? key).1 = none) : Idle c (.get key)
  | failed {source : String} {customNames : List String} {e : CompileError}
    (failed : (c.getOrCompile source customNames).1 = .error e) :
    Idle c (.getOrCompile source customNames)

/-- An idle operation leaves the cache as it is. -/
theorem Operation.run_of_idle {c : ArtifactCache} {op : Operation} (idle : op.Idle c) :
    op.run c = c := by
  cases idle with
  | contains key => rfl
  | size => rfl
  | missed missing => exact get?_of_missing missing
  | failed failed => exact getOrCompile_of_error failed

/-- What a cache with room for `capacity` keys retains of its history. -/
structure Retention (capacity : Nat) (history : List Event) (c : ArtifactCache) : Prop where
  /-- There are never more keys than there is room for. -/
  size_le : c.size ≤ capacity
  /-- No key is held twice. -/
  nodup : c.kept.keys.Nodup
  /-- A key that has not been dropped since its last use, since which fewer other keys have been
  used than there is room for, is held. Looking it up gives the artifact that was put in last. -/
  recent : ∀ key later, LastUse key history later →
    (∀ event ∈ later, event.drops key = false) → (used later).card < capacity →
    c.contains key = true ∧ ∃ a, lastStored? key history = some a ∧ (c.get? key).1 = some a ∧
      ∀ source customNames, .derive source customNames = key →
        (c.getOrCompile source customNames).1 = .ok a
  /-- A key since whose last use nothing has been dropped, but as many other keys used as there is
  room for, is no longer held. -/
  past : ∀ key later, LastUse key history later → (∀ event ∈ later, event.used?.isSome) →
    capacity ≤ (used later).card → c.contains key = false
  /-- Putting an artifact in reports a key exactly if this is another key that leaves. -/
  evicted_iff : ∀ a key, (c.insert a).1 = some key ↔
    key ≠ a.artifact.key ∧ c.contains key = true ∧ (c.insert a).2.contains key = false
  /-- The key that is reported is the one whose last use is the oldest: all other held keys have
  been used since. -/
  evicted_oldest : ∀ a key, (c.insert a).1 = some key →
    ∃ later, LastUse key history later ∧
      ∀ other, c.contains other = true → other ≠ key → other ∈ used later
  /-- Operations that only look, find nothing or fail change nothing. -/
  idle : ∀ op, Operation.Idle c op → op.run c = c

/-- **A cache retains the keys that it has used last.** After any operations, a cache that started
empty holds the keys since whose last use fewer others have been used than there is room for, with
the artifacts that were put in last; the key that has to leave is the one whose last use is the
oldest. -/
theorem retention_runAll (capacity : Nat) (ops : List Operation) :
    Retention (max capacity 1) (historyOf (empty capacity) ops) (runAll (empty capacity) ops) := by
  have room := size_runAll_le capacity ops
  have nodup := nodup_keys_runAll capacity ops
  have keys := keys_runAll capacity ops
  have recalls := recalls_runAll capacity ops
  have limit := capacity_runAll capacity ops
  generalize historyOf (empty capacity) ops = history at *
  generalize runAll (empty capacity) ops = c at *
  have one : 0 < c.capacity := by omega
  have short : c.kept.keys.length ≤ max capacity 1 := by
    rw [length_keys, ← limit]
    exact room
  constructor
  case size_le => exact limit ▸ room
  case nodup => exact nodup
  case recent =>
    intro key later last undropped few
    have held : key ∈ c.kept.keys := by
      rw [keys]
      exact mem_replay_of_lastUse last undropped few
    obtain ⟨a, stored, found⟩ := recalls.get? held
    refine ⟨contains_iff.2 held, a, stored, found, ?_⟩
    rintro source customNames rfl
    rw [getOrCompile_of_found found]
  -- A key that is still held has fewer others used behind it than there is room for.
  case past =>
    intro key later last undropped many
    rw [← Bool.not_eq_true, contains_iff]
    intro held
    rw [keys] at held short
    have few := card_used_lt last undropped short held
    omega
  case evicted_iff =>
    intro a key
    rw [evicted_eq_some_iff room nodup one, contains_iff, ← Bool.not_eq_true, contains_iff]
  case evicted_oldest =>
    intro a key reported
    obtain ⟨ne, held, gone⟩ := (evicted_eq_some_iff room nodup one).1 reported
    have kept : (c.insert a).2.kept.keys = touch c.capacity a.artifact.key c.kept.keys :=
      Lru.keys_insert _ _ room
    rw [kept, limit] at gone
    obtain ⟨later, last⟩ := exists_lastUse (keys ▸ held)
    refine ⟨later, last, ?_⟩
    intro other otherHeld otherNe
    have infront := mem_front_of_not_mem_touch short held ne gone (contains_iff.1 otherHeld) otherNe
    rw [keys] at held infront
    exact mem_used_of_mem_front last held infront
  case idle => exact fun op idle => Operation.run_of_idle idle

/-- Reading the first of two artifacts protects it from the third. -/
example :
    let c := runAll (empty 2) [.insert ⟨⟨⟨0⟩, "", ⟨[]⟩⟩, 0⟩, .insert ⟨⟨⟨1⟩, "", ⟨[]⟩⟩, 1⟩, .get ⟨0⟩]
    (c.insert ⟨⟨⟨2⟩, "", ⟨[]⟩⟩, 2⟩).1 = some ⟨1⟩ ∧
      (c.insert ⟨⟨⟨2⟩, "", ⟨[]⟩⟩, 2⟩).2.kept.keys = [⟨2⟩, ⟨0⟩] := by
  decide

end TextTemplate.ArtifactCache
