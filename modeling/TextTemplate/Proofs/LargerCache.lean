import TextTemplate.Proofs.Retention

/-!
# Larger caches

Two caches that start empty go through the same operations. What the smaller one holds the larger
one holds as well, and in the same order (`keys_eq_filter_of_capacity_le`).

The keys of the smaller cache need not come first in the larger one: after a key has been removed,
a lookup may find a key that only the larger cache holds and bring it to the front. What stays true
is `Within`: the larger cache holds no more keys of its own than it has more room. So when it has to
let a key go that both hold, the smaller one is full, and lets the same key go.
-/

namespace TextTemplate.ArtifactCache

variable {small large : Nat} {few many : List CacheKey} {key : CacheKey}

/-- What loses its last member stays within what loses its own. -/
theorem dropLast_sublist_dropLast (h : few.Sublist many) : few.dropLast.Sublist many.dropLast := by
  have behind := h.reverse.tail
  rw [List.tail_reverse, List.tail_reverse] at behind
  exact List.reverse_sublist.1 behind

/-- The keys of a cache with room for `small` beside those of one with room for `large`. -/
structure Within (small large : Nat) (few many : List CacheKey) : Prop where
  sublist : few.Sublist many
  nodup : many.Nodup
  few_le : few.length ≤ small
  many_le : many.length ≤ large
  /-- The larger cache holds no more keys of its own than it has more room. -/
  extra : many.length + small ≤ few.length + large

namespace Within

theorem nil (le : small ≤ large) : Within small large [] [] where
  sublist := List.Sublist.refl []
  nodup := List.nodup_nil
  few_le := Nat.zero_le _
  many_le := Nat.zero_le _
  extra := by simpa using le

/-- Keys that are dropped from both leave no more keys to the larger one alone. -/
theorem filter (h : Within small large few many) (p : CacheKey → Bool) :
    Within small large (few.filter p) (many.filter p) where
  sublist := h.sublist.filter p
  nodup := h.nodup.filter p
  few_le := (List.length_filter_le p few).trans h.few_le
  many_le := (List.length_filter_le p many).trans h.many_le
  extra := by
    have dropped := (h.sublist.filter (!p ·)).length_le
    have fewParts := List.length_eq_length_filter_add (l := few) p
    have manyParts := List.length_eq_length_filter_add (l := many) p
    have extra := h.extra
    omega

/-- A key that only the larger cache holds may come to its front. -/
theorem touch_larger (h : Within small large few many) (held : key ∈ many) (alone : key ∉ few) :
    Within small large few (touch large key many) := by
  constructor
  case sublist =>
    rw [touch_of_mem held h.many_le, ← filter_ne_of_not_mem alone]
    exact (h.sublist.filter _).cons key
  case nodup => exact nodup_touch h.nodup
  case few_le => exact h.few_le
  case many_le => exact length_touch_le
  case extra =>
    rw [length_touch_of_mem h.nodup held h.many_le]
    exact h.extra

/-- A key that both caches hold comes to the front of both. -/
theorem touch_shared (h : Within small large few many) (held : key ∈ few) :
    Within small large (touch small key few) (touch large key many) := by
  have held' : key ∈ many := h.sublist.subset held
  constructor
  case sublist =>
    rw [touch_of_mem held h.few_le, touch_of_mem held' h.many_le]
    exact (h.sublist.filter _).cons_cons key
  case nodup => exact nodup_touch h.nodup
  case few_le => exact length_touch_le
  case many_le => exact length_touch_le
  case extra =>
    -- Neither cache grows by a key that it holds, so the difference in size stays.
    rw [length_touch_of_mem (h.nodup.sublist h.sublist) held h.few_le,
      length_touch_of_mem h.nodup held' h.many_le]
    exact h.extra

/-- A key that is new to the smaller cache comes to the front of both. -/
theorem touch_new (h : Within small large few many) (new : key ∉ few) :
    Within small large (touch small key few) (touch large key many) := by
  have extra := h.extra
  have fewLength : (touch small key few).length = min small (few.length + 1) := by
    rw [touch_of_not_mem new, List.length_take, List.length_cons]
  by_cases held : key ∈ many
  · -- The larger cache only moves the key, and the smaller one loses what it may hold alone.
    constructor
    case sublist =>
      rw [touch_of_not_mem new, touch_of_mem held h.many_le, ← filter_ne_of_not_mem new]
      exact (List.take_sublist _ _).trans ((h.sublist.filter _).cons_cons key)
    case nodup => exact nodup_touch h.nodup
    case few_le => exact length_touch_le
    case many_le => exact length_touch_le
    case extra =>
      have room := h.many_le
      rw [fewLength, length_touch_of_mem h.nodup held h.many_le]
      omega
  · have manyLength : (touch large key many).length = min large (many.length + 1) := by
      rw [touch_of_not_mem held, List.length_take, List.length_cons]
    have both : (key :: few).Sublist (key :: many) := h.sublist.cons_cons key
    constructor
    case sublist =>
      rw [touch_of_not_mem new, touch_of_not_mem held]
      by_cases full : many.length < large
      · rw [List.take_of_length_le (l := key :: many) (by rw [List.length_cons]; omega)]
        exact (List.take_sublist _ _).trans both
      · -- The larger cache is full, so the smaller one is: both let their last key go.
        have manyFull : large = (key :: many).length - 1 := by
          rw [List.length_cons]
          have := h.many_le
          omega
        have fewFull : small = (key :: few).length - 1 := by
          rw [List.length_cons]
          have := h.many_le
          have := h.few_le
          omega
        rw [fewFull, manyFull, ← List.dropLast_eq_take, ← List.dropLast_eq_take]
        exact dropLast_sublist_dropLast both
    case nodup => exact nodup_touch h.nodup
    case few_le => exact length_touch_le
    case many_le => exact length_touch_le
    case extra =>
      rw [fewLength, manyLength]
      omega

/-- A key that both caches use comes to both fronts. -/
theorem touch (h : Within small large few many) :
    Within small large (touch small key few) (touch large key many) := by
  by_cases held : key ∈ few
  · exact h.touch_shared held
  · exact h.touch_new held

end Within

/-! ## Operations on both caches -/

/-- What an operation does to two caches of which one holds what the other one holds. -/
inductive Alike (c d : ArtifactCache) : Option Event → Option Event → Prop
  /-- Both use the same key, and the larger one finds it if the smaller one does. -/
  | used {e f : Event} {key : CacheKey} (smaller : e.used? = some key)
    (larger : f.used? = some key) (found : e = .hit key → f = .hit key) :
    Alike c d (some e) (some f)
  /-- Only the larger cache finds the key. -/
  | missed {key : CacheKey} (held : key ∈ d.kept.keys) (alone : key ∉ c.kept.keys) :
    Alike c d none (some (.hit key))
  /-- Both drop the same keys. -/
  | dropped {e : Event} (unused : e.used? = none) : Alike c d (some e) (some e)
  | idle : Alike c d none none

section
variable {c d : ArtifactCache}

/-- The same operation is at most a hit in the larger cache where it misses in the smaller one. -/
theorem Operation.alike (sub : c.kept.keys ⊆ d.kept.keys) (op : Operation) :
    Alike c d (op.event? c) (op.event? d) := by
  cases op with
  | getOrCompile source customNames =>
    have smaller : (c.get? (.derive source customNames)).1.isSome = true ↔
        .derive source customNames ∈ c.kept.keys := isSome_get?
    have larger : (d.get? (.derive source customNames)).1.isSome = true ↔
        .derive source customNames ∈ d.kept.keys := isSome_get?
    cases foundLarger : (d.get? (.derive source customNames)).1 with
    | some b =>
      rw [event?_getOrCompile_of_found foundLarger]
      cases found : (c.get? (.derive source customNames)).1 with
      | some a =>
        rw [event?_getOrCompile_of_found found]
        exact .used rfl rfl id
      | none =>
        rw [event?_getOrCompile_of_missing found]
        cases Artifact.compile? source customNames with
        | error e =>
          rw [found] at smaller
          rw [foundLarger] at larger
          exact .missed (larger.1 rfl) fun held => by simpa using smaller.2 held
        | ok a => exact .used rfl rfl nofun
    | none =>
      -- What the larger cache does not hold the smaller one does not hold either.
      have found : (c.get? (.derive source customNames)).1 = none := by
        rw [← Option.not_isSome_iff_eq_none, smaller]
        intro held
        have there := larger.2 (sub held)
        rw [foundLarger] at there
        cases there
      rw [event?_getOrCompile_of_missing found, event?_getOrCompile_of_missing foundLarger]
      cases Artifact.compile? source customNames with
      | error e => exact .idle
      | ok a => exact .used rfl rfl nofun
  | get key =>
    simp only [event?, isSome_get?]
    by_cases held : key ∈ c.kept.keys
    · rw [if_pos held, if_pos (sub held)]
      exact .used rfl rfl id
    · rw [if_neg held]
      by_cases there : key ∈ d.kept.keys
      · rw [if_pos there]
        exact .missed there held
      · rw [if_neg there]
        exact .idle
  | insert a => exact .used rfl rfl id
  | contains key => exact .idle
  | size => exact .idle
  | remove key => exact .dropped rfl
  | clear => exact .dropped rfl

/-- An operation keeps the smaller cache within the larger one. -/
theorem within_run (h : Within c.capacity d.capacity c.kept.keys d.kept.keys) (op : Operation) :
    Within c.capacity d.capacity (op.run c).kept.keys (op.run d).kept.keys := by
  have smallRoom : c.size ≤ c.capacity := (length_keys c).symm.trans_le h.few_le
  have largeRoom : d.size ≤ d.capacity := (length_keys d).symm.trans_le h.many_le
  rw [op.keys_run smallRoom, op.keys_run largeRoom]
  have alike := op.alike h.sublist.subset
  -- From here on only the two events matter, and they are alike.
  generalize op.event? c = event?, op.event? d = event?' at alike ⊢
  cases alike with
  | used smaller larger found =>
    simp only [Event.keysAfter_of_used smaller, Event.keysAfter_of_used larger]
    exact h.touch
  | missed held alone => exact h.touch_larger held alone
  | dropped unused =>
    simp only [Event.keysAfter_of_unused unused]
    exact h.filter _
  | idle => exact h

/-- The smaller cache stays within the larger one along any operations. -/
theorem within_runAll (le : small ≤ large) (ops : List Operation) :
    Within (max small 1) (max large 1) (runAll (empty small) ops).kept.keys
      (runAll (empty large) ops).kept.keys := by
  induction ops using List.reverseRecOn with
  | nil => exact .nil (by omega)
  | append_singleton ops op ih =>
    rw [runAll_append, runAll_append]
    rw [← capacity_runAll small ops, ← capacity_runAll large ops] at ih ⊢
    exact within_run ih op

end

/-- Keys that stand in a list without repetition, in its order, are those of the list that they
hold. -/
theorem eq_filter_of_sublist (nodup : many.Nodup) (sub : few.Sublist many) :
    few = many.filter (· ∈ few) := by
  have kept : few.Sublist (many.filter (· ∈ few)) := by
    have whole : few.filter (· ∈ few) = few := List.filter_eq_self.2 (by simp)
    rw [← whole]
    simpa using sub.filter (· ∈ few)
  apply kept.eq_of_length_le
  apply (nodup.filter _).subperm ?_ |>.length_le
  intro key among
  simpa using (List.mem_filter.1 among).2

/-- **A larger cache never loses a key that a smaller one holds.** Two caches that start empty come
through the same operations, so through each part that these begin with. Then the keys of the
smaller one are those of the larger one that it holds, in the same order, and a lookup that finds
its key in the smaller one finds it in the larger one. -/
theorem keys_eq_filter_of_capacity_le (le : small ≤ large) (ops : List Operation) :
    let smaller := runAll (empty small) ops
    let larger := runAll (empty large) ops
    (∀ key, smaller.contains key = true → larger.contains key = true) ∧
      smaller.kept.keys = larger.kept.keys.filter (smaller.contains ·) ∧
      ∀ (op : Operation) key, op.event? smaller = some (.hit key) →
        op.event? larger = some (.hit key) := by
  have within := within_runAll le ops
  intro smaller larger
  refine ⟨?_, ?_, ?_⟩
  · intro key held
    exact contains_iff.2 (within.sublist.subset (contains_iff.1 held))
  · have same := eq_filter_of_sublist within.nodup within.sublist
    simpa [contains, Lru.contains] using same
  · intro op key hit
    have alike := op.alike within.sublist.subset
    rw [hit] at alike
    generalize op.event? larger = event? at alike ⊢
    -- A hit uses its key, and so the larger cache uses it too, by a hit.
    cases alike with
    | used smaller larger found =>
      cases smaller
      rw [found rfl]
    | dropped unused => cases unused

/-- After a key has been removed, a lookup brings one to the front that only the larger cache still
holds. -/
theorem keys_after_larger_hit :
    1 ≤ 2 ∧
      let ops : List Operation :=
        [.insert ⟨⟨⟨0⟩, "", ⟨[]⟩⟩, 0⟩, .insert ⟨⟨⟨1⟩, "", ⟨[]⟩⟩, 1⟩, .remove ⟨1⟩, .get ⟨0⟩,
          .insert ⟨⟨⟨2⟩, "", ⟨[]⟩⟩, 2⟩]
      (runAll (empty 1) ops).kept.keys = [⟨2⟩] ∧ (runAll (empty 2) ops).kept.keys = [⟨2⟩, ⟨0⟩] ∧
        (runAll (empty 1) ops).kept.keys =
          (runAll (empty 2) ops).kept.keys.filter ((runAll (empty 1) ops).contains ·) :=
  ⟨by decide, by decide, by decide, (keys_eq_filter_of_capacity_le (by decide) _).2.1⟩

end TextTemplate.ArtifactCache
