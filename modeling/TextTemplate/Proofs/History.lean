import Mathlib.Data.Finset.Card
import TextTemplate.Proofs.Coherence

/-!
# Histories of caches

A cache that starts empty goes through operations. Some of them leave an event: a lookup that finds
its key, an artifact that is put in, a key or everything that is dropped. The other operations, such
as a lookup that finds nothing, leave no event and change nothing (`Operation.run_of_idle`).

The keys that a cache holds, most recently used first, depend on its history alone: they are what
the events make of no keys (`keys_runAll`).
-/

namespace TextTemplate.ArtifactCache

/-- An operation on a cache. -/
inductive Operation where
  | getOrCompile (source : String) (customNames : List String)
  | get (key : CacheKey)
  | insert (a : StampedArtifact)
  | contains (key : CacheKey)
  | size
  | remove (key : CacheKey)
  | clear

/-- Uses a key: it comes to the front, and as many keys stay as there is room for. -/
def touch (capacity : Nat) (key : CacheKey) (keys : List CacheKey) : List CacheKey :=
  (key :: keys.filter (· ≠ key)).take capacity

/-- What an operation leaves in the history of a cache. -/
inductive Event where
  /-- A lookup that found the key. -/
  | hit (key : CacheKey)
  /-- An artifact that was put in under the key. -/
  | store (key : CacheKey) (a : StampedArtifact)
  | drop (key : CacheKey)
  | dropAll

namespace Event

/-- The key that the event uses. -/
def used? : Event → Option CacheKey
  | hit key => some key
  | store key _ => some key
  | drop _ => none
  | dropAll => none

/-- Whether the event drops a key. -/
def drops (key : CacheKey) : Event → Bool
  | hit _ => false
  | store _ _ => false
  | drop other => other = key
  | dropAll => true

/-- What the event makes of the keys that are held, most recently used first. -/
def keysAfter (capacity : Nat) (keys : List CacheKey) : Event → List CacheKey
  | hit key => touch capacity key keys
  | store key _ => touch capacity key keys
  | drop key => keys.filter (· ≠ key)
  | dropAll => []

/-- The artifact that the event puts in under a key. -/
def stored? (key : CacheKey) : Event → Option StampedArtifact
  | store other a => if other = key then some a else none
  | _ => none

end Event

/-- What events make of the keys that are held. -/
def replay (capacity : Nat) (keys : List CacheKey) (events : List Event) : List CacheKey :=
  events.foldl (Event.keysAfter capacity) keys

/-- The keys that events use. -/
def used (events : List Event) : Finset CacheKey := (events.filterMap Event.used?).toFinset

/-- The artifact that was put in last under a key. -/
def lastStored? (key : CacheKey) (history : List Event) : Option StampedArtifact :=
  (history.filterMap (Event.stored? key)).getLast?

/-- The last use of a key stands in the history, and `later` is what comes after it. -/
structure LastUse (key : CacheKey) (history later : List Event) : Prop where
  split : ∃ earlier use, history = earlier ++ use :: later ∧ use.used? = some key
  last : ∀ event ∈ later, event.used? ≠ some key

namespace Operation

/-- What an operation makes of a cache. -/
def run (c : ArtifactCache) : Operation → ArtifactCache
  | getOrCompile source customNames => (c.getOrCompile source customNames).2
  | get key => (c.get? key).2
  | insert a => (c.insert a).2
  | contains _ => c
  | size => c
  | remove key => (c.erase key).2
  | clear => c.clear

/-- What an operation leaves in the history of a cache. Compiling a source uses its key, if it
succeeds: the key is found, or what the source compiles to is put in. -/
def event? (c : ArtifactCache) : Operation → Option Event
  | getOrCompile source customNames =>
    match (c.getOrCompile source customNames).1 with
    | .error _ => none
    | .ok a =>
      if c.contains (.derive source customNames) then some (.hit (.derive source customNames))
      else some (.store (.derive source customNames) a)
  | get key => if (c.get? key).1.isSome then some (.hit key) else none
  | insert a => some (.store a.artifact.key a)
  | contains _ => none
  | size => none
  | remove key => some (.drop key)
  | clear => some .dropAll

end Operation

/-- What operations make of a cache, one after the other. -/
def runAll (c : ArtifactCache) (ops : List Operation) : ArtifactCache := ops.foldl Operation.run c

/-- The events that operations leave, in order. -/
def historyOf (c : ArtifactCache) : List Operation → List Event
  | [] => []
  | op :: rest => (op.event? c).toList ++ historyOf (op.run c) rest

/-! ## Histories -/

/-- A key is used by a history if one of its events uses it. -/
theorem mem_used {key : CacheKey} {events : List Event} :
    key ∈ used events ↔ ∃ event ∈ events, event.used? = some key := by
  simp [used]

/-- An event that puts in an artifact of the key settles what was put in last; others do not
matter. -/
theorem lastStored?_append (key : CacheKey) (history : List Event) (event : Event) :
    lastStored? key (history ++ [event]) = (event.stored? key).or (lastStored? key history) := by
  cases h : event.stored? key with
  | none => simp [lastStored?, List.filterMap_append, h]
  | some a => simp [lastStored?, List.filterMap_append, h]

variable {c : ArtifactCache}

/-- The last operation of a run is run on what the others leave. -/
theorem runAll_append (ops : List Operation) (op : Operation) :
    runAll c (ops ++ [op]) = op.run (runAll c ops) := by
  simp [runAll]

/-- The last operation of a run adds its event to the history, if it has one. -/
theorem historyOf_append (ops : List Operation) (op : Operation) :
    historyOf c (ops ++ [op]) = historyOf c ops ++ (op.event? (runAll c ops)).toList := by
  induction ops generalizing c with
  | nil => simp [historyOf, runAll]
  | cons first rest ih =>
    rw [List.cons_append, historyOf, historyOf, ih, List.append_assoc]
    rfl

/-! ## One operation -/

theorem get?_fst (key : CacheKey) (c : ArtifactCache) : (c.get? key).1 = c.kept.peek? key := by
  simp only [ArtifactCache.get?, Lru.get?]
  cases c.kept.peek? key <;> rfl

/-- A lookup that finds nothing changes nothing. -/
theorem get?_of_missing {key : CacheKey} (missing : (c.get? key).1 = none) :
    (c.get? key).2 = c := by
  rw [get?_fst] at missing
  simp only [ArtifactCache.get?, Lru.get?, missing]

/-- There is an artifact for exactly the keys that are kept. -/
theorem isSome_get? {key : CacheKey} : (c.get? key).1.isSome = true ↔ key ∈ c.kept.keys := by
  rw [get?_fst]
  exact Lru.isSome_peek?

theorem contains_iff {key : CacheKey} : c.contains key = true ↔ key ∈ c.kept.keys :=
  Lru.contains_iff

/-- The artifact of a source whose key is held is the one that is kept. -/
theorem getOrCompile_of_found {source : String} {customNames : List String} {a : StampedArtifact}
    (found : (c.get? (.derive source customNames)).1 = some a) :
    c.getOrCompile source customNames = (.ok a, (c.get? (.derive source customNames)).2) := by
  unfold getOrCompile
  cases h : c.get? (.derive source customNames) with
  | mk result c' =>
    rw [h] at found
    simp only at found
    subst found
    rfl

/-- The artifact of a source whose key is not held is compiled and put in. -/
theorem getOrCompile_of_missing {source : String} {customNames : List String}
    (missing : (c.get? (.derive source customNames)).1 = none) :
    c.getOrCompile source customNames =
      match Artifact.compile? source customNames with
      | .error e => (.error e, c)
      | .ok a => (.ok (c.stamp a).1, ((c.stamp a).2.insert (c.stamp a).1).2) := by
  have same := get?_of_missing missing
  unfold getOrCompile
  cases h : c.get? (.derive source customNames) with
  | mk result c' =>
    rw [h] at missing same
    simp only at missing same
    subst missing same
    rfl

/-- A source that does not compile leaves the cache as it was. -/
theorem getOrCompile_of_error {source : String} {customNames : List String} {e : CompileError}
    (failed : (c.getOrCompile source customNames).1 = .error e) :
    (c.getOrCompile source customNames).2 = c := by
  -- A hit does not fail; a miss that fails has kept nothing.
  cases found : (c.get? (.derive source customNames)).1 with
  | some a =>
    rw [getOrCompile_of_found found] at failed
    cases failed
  | none =>
    rw [getOrCompile_of_missing found] at failed ⊢
    cases compiled : Artifact.compile? source customNames with
    | error e => rfl
    | ok a =>
      rw [compiled] at failed
      cases failed

/-! ## Keys -/

section
variable {capacity : Nat} {key : CacheKey} {keys : List CacheKey}

/-- A key that is put in front leaves no more keys than there is room for. -/
theorem length_touch_le : (touch capacity key keys).length ≤ capacity := by
  rw [touch, List.length_take]
  exact Nat.min_le_left ..

/-- A key that is put in front is taken out where it was. -/
theorem nodup_touch (nodup : keys.Nodup) : (touch capacity key keys).Nodup := by
  have others : (keys.filter (· ≠ key)).Nodup := nodup.filter _
  have fresh : key ∉ keys.filter (· ≠ key) := by simp
  exact (List.nodup_cons.2 ⟨fresh, others⟩).take

/-- Using a key that is held lets no other key go. -/
theorem touch_of_mem (held : key ∈ keys) (room : keys.length ≤ capacity) :
    touch capacity key keys = key :: keys.filter (· ≠ key) := by
  have fewer : (keys.filter (· ≠ key)).length < keys.length :=
    List.length_filter_lt_length_iff_exists.2 ⟨key, held, by simp⟩
  apply List.take_of_length_le
  rw [List.length_cons]
  omega

theorem filter_ne_of_not_mem (absent : key ∉ keys) : keys.filter (· ≠ key) = keys := by
  apply List.filter_eq_self.2
  intro other among
  have differs : other ≠ key := fun same => absent (same ▸ among)
  simpa using differs

/-- Using a key that is not held puts it in front of the others. -/
theorem touch_of_not_mem (absent : key ∉ keys) :
    touch capacity key keys = (key :: keys).take capacity := by
  rw [touch, filter_ne_of_not_mem absent]

/-- Using a key that is held leaves as many keys as before. -/
theorem length_touch_of_mem (nodup : keys.Nodup) (held : key ∈ keys)
    (room : keys.length ≤ capacity) : (touch capacity key keys).length = keys.length := by
  have erased : keys.filter (· ≠ key) = keys.erase key := by
    rw [nodup.erase_eq_filter]
    apply List.filter_congr
    intro other _
    by_cases same : other = key <;> simp [same]
  rw [touch_of_mem held room, List.length_cons, erased]
  exact List.length_erase_add_one held

namespace Event

/-- No event leaves more keys than there is room for. -/
theorem length_keysAfter_le (room : keys.length ≤ capacity) (event : Event) :
    (event.keysAfter capacity keys).length ≤ capacity := by
  cases event with
  | hit key => exact length_touch_le
  | store key a => exact length_touch_le
  | drop key => exact (List.length_filter_le _ _).trans room
  | dropAll => exact Nat.zero_le _

/-- No event leaves a key twice. -/
theorem nodup_keysAfter (nodup : keys.Nodup) (event : Event) :
    (event.keysAfter capacity keys).Nodup := by
  cases event with
  | hit key => exact nodup_touch nodup
  | store key a => exact nodup_touch nodup
  | drop key => exact nodup.filter _
  | dropAll => exact List.nodup_nil

end Event

end

theorem length_keys (c : ArtifactCache) : c.kept.keys.length = c.size := List.length_map ..

theorem contains_eq_isSome (key : CacheKey) (c : ArtifactCache) :
    c.contains key = (c.get? key).1.isSome := by
  rw [Bool.eq_iff_iff, contains_iff, isSome_get?]

/-- Compiling a source finds its key, if that is held. -/
theorem event?_getOrCompile_of_found {source : String} {customNames : List String}
    {a : StampedArtifact} (found : (c.get? (.derive source customNames)).1 = some a) :
    (Operation.getOrCompile source customNames).event? c =
      some (.hit (.derive source customNames)) := by
  simp only [Operation.event?, getOrCompile_of_found found, contains_eq_isSome, found,
    Option.isSome_some, if_true]

/-- Compiling a source whose key is not held puts in what it compiles to. -/
theorem event?_getOrCompile_of_missing {source : String} {customNames : List String}
    (missing : (c.get? (.derive source customNames)).1 = none) :
    (Operation.getOrCompile source customNames).event? c =
      match Artifact.compile? source customNames with
      | .error _ => none
      | .ok a => some (.store (.derive source customNames) (c.stamp a).1) := by
  simp only [Operation.event?, getOrCompile_of_missing missing, contains_eq_isSome, missing]
  cases Artifact.compile? source customNames <;> rfl

/-- What an event does to the kept entries. Without an event nothing changes. -/
inductive Effect (kept : Lru CacheKey StampedArtifact) :
    Option Event → Lru CacheKey StampedArtifact → Prop
  | idle : Effect kept none kept
  | hit {key : CacheKey} (held : key ∈ kept.keys) : Effect kept (some (.hit key)) (kept.get? key).2
  | store (key : CacheKey) (a : StampedArtifact) :
    Effect kept (some (.store key a)) (kept.insert key a).2
  | drop (key : CacheKey) : Effect kept (some (.drop key)) (kept.erase key).2
  | dropAll : Effect kept (some .dropAll) kept.clear

namespace Operation

/-- An operation does to the entries what the event that it leaves does. -/
theorem effect (op : Operation) (c : ArtifactCache) :
    Effect c.kept (op.event? c) (op.run c).kept := by
  cases op with
  | getOrCompile source customNames =>
    cases found : (c.get? (.derive source customNames)).1 with
    | some a =>
      rw [event?_getOrCompile_of_found found, run, getOrCompile_of_found found]
      exact .hit (isSome_get?.1 (by rw [found]; rfl))
    | none =>
      rw [event?_getOrCompile_of_missing found, run, getOrCompile_of_missing found]
      cases compiled : Artifact.compile? source customNames with
      | error e => exact .idle
      | ok a =>
        -- The artifact is put in under its own key, which is the one that was looked up.
        have own : a.key = .derive source customNames := Artifact.key_of_compile? compiled
        rw [← own]
        exact .store _ _
  | get key =>
    cases found : (c.get? key).1 with
    | some a =>
      rw [event?, found, run]
      exact .hit (isSome_get?.1 (by rw [found]; rfl))
    | none =>
      rw [event?, found, run, get?_of_missing found]
      exact .idle
  | insert a => exact .store _ _
  | contains key => exact .idle
  | size => exact .idle
  | remove key => exact .drop key
  | clear => exact .dropAll

/-- No operation changes the capacity. -/
theorem capacity_run (op : Operation) : (op.run c).capacity = c.capacity := by
  have effect := op.effect c
  simp only [capacity]
  generalize op.event? c = event?, (op.run c).kept = kept at effect ⊢
  cases effect with
  | idle => rfl
  | hit held => exact Lru.capacity_get? _ _
  | store key a => exact Lru.capacity_insert _ _ _
  | drop key => rfl
  | dropAll => rfl

/-- The keys after an operation are what its event makes of the keys before it. -/
theorem keys_run (room : c.size ≤ c.capacity) (op : Operation) :
    (op.run c).kept.keys = match op.event? c with
      | none => c.kept.keys
      | some event => event.keysAfter c.capacity c.kept.keys := by
  have effect := op.effect c
  generalize op.event? c = event?, (op.run c).kept = kept at effect ⊢
  cases effect with
  | idle => rfl
  | hit held =>
    -- A key that is looked up comes to the front, which drops none as there is room for all.
    have short : c.kept.keys.length ≤ c.capacity := (length_keys c).trans_le room
    exact (Lru.keys_get? _ _).trans ((if_pos held).trans (touch_of_mem held short).symm)
  | store key a => exact Lru.keys_insert key a room
  | drop key => exact Lru.keys_erase key c.kept
  | dropAll => rfl

/-- No operation leaves more artifacts than there is room for. -/
theorem size_run_le (room : c.size ≤ c.capacity) (op : Operation) :
    (op.run c).size ≤ (op.run c).capacity := by
  have short : c.kept.keys.length ≤ c.capacity := (length_keys c).trans_le room
  rw [← length_keys, keys_run room, capacity_run]
  cases op.event? c with
  | none => exact short
  | some event => exact event.length_keysAfter_le short

end Operation

/-! ## Runs -/

theorem replay_cons {capacity : Nat} {keys : List CacheKey} (event : Event) (events : List Event) :
    replay capacity keys (event :: events) =
      replay capacity (event.keysAfter capacity keys) events := rfl

/-- A history may be replayed in two parts. -/
theorem replay_append {capacity : Nat} {keys : List CacheKey} (before after : List Event) :
    replay capacity keys (before ++ after) = replay capacity (replay capacity keys before) after :=
  List.foldl_append ..

theorem nodup_replay {capacity : Nat} {keys : List CacheKey} (nodup : keys.Nodup)
    (events : List Event) : (replay capacity keys events).Nodup := by
  induction events generalizing keys with
  | nil => exact nodup
  | cons event rest ih => exact ih (event.nodup_keysAfter nodup)

section
variable (capacity : Nat) (ops : List Operation)

/-- A cache keeps the capacity that it was made with, which is one at least. -/
theorem capacity_runAll : (runAll (empty capacity) ops).capacity = max capacity 1 := by
  induction ops using List.reverseRecOn with
  | nil => rfl
  | append_singleton ops op ih => rw [runAll_append, Operation.capacity_run, ih]

/-- A cache never holds more artifacts than its capacity. -/
theorem size_runAll_le :
    (runAll (empty capacity) ops).size ≤ (runAll (empty capacity) ops).capacity := by
  induction ops using List.reverseRecOn with
  | nil => exact Nat.zero_le _
  | append_singleton ops op ih =>
    rw [runAll_append]
    exact op.size_run_le ih

/-- The keys that a cache holds are what its history makes of no keys. -/
theorem keys_runAll : (runAll (empty capacity) ops).kept.keys =
    replay (max capacity 1) [] (historyOf (empty capacity) ops) := by
  induction ops using List.reverseRecOn with
  | nil => rfl
  | append_singleton ops op ih =>
    rw [runAll_append, historyOf_append, op.keys_run (size_runAll_le capacity ops),
      capacity_runAll, ih, replay_append]
    cases op.event? (runAll (empty capacity) ops) <;> rfl

/-- A cache never holds two artifacts of one key. -/
theorem nodup_keys_runAll : (runAll (empty capacity) ops).kept.keys.Nodup := by
  rw [keys_runAll]
  exact nodup_replay List.nodup_nil _

end

end TextTemplate.ArtifactCache
