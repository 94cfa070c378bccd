/-!
# Bounded caches

A cache keeps at most `capacity` entries, the most recently used first. Reading an entry and putting
one in are uses; a cache that grows too long loses its last entry. Nothing else changes the order.
-/

namespace TextTemplate

/-- A cache of bounded size. -/
structure Lru (κ α : Type) where
  capacity : Nat
  /-- The entries, most recently used first. -/
  entries : List (κ × α)

namespace Lru

variable {κ α : Type}

/-- A cache without entries. There is always room for one. -/
def empty (capacity : Nat) : Lru κ α := ⟨max capacity 1, []⟩

/-- The keys, most recently used first. -/
def keys (c : Lru κ α) : List κ := c.entries.map (·.1)

def size (c : Lru κ α) : Nat := c.entries.length

def isEmpty (c : Lru κ α) : Bool := c.entries.isEmpty

/-- Drops all entries. -/
def clear (c : Lru κ α) : Lru κ α := { c with entries := [] }

@[simp] theorem keys_empty (capacity : Nat) : (empty capacity : Lru κ α).keys = [] := rfl

@[simp] theorem keys_clear (c : Lru κ α) : c.clear.keys = [] := rfl

variable [DecidableEq κ]

/-- Whether a key is held. This is no use of it. -/
def contains (key : κ) (c : Lru κ α) : Bool := c.keys.contains key

/-- The entry of a key. This is no use of it. -/
def peek? (key : κ) (c : Lru κ α) : Option α := (c.entries.find? (·.1 = key)).map (·.2)

/-- The entries of other keys. -/
def without (key : κ) (c : Lru κ α) : List (κ × α) := c.entries.filter (·.1 ≠ key)

/-- Reads an entry, which comes to the front. -/
def get? (key : κ) (c : Lru κ α) : Option α × Lru κ α :=
  match c.peek? key with
  | none => (none, c)
  | some a => (some a, { c with entries := (key, a) :: c.without key })

/-- Puts an entry to the front, in place of the one of the same key. The key that has to leave for
it, if any, comes back. -/
def insert (key : κ) (a : α) (c : Lru κ α) : Option κ × Lru κ α :=
  let entries := (key, a) :: c.without key
  if entries.length ≤ c.capacity then (none, { c with entries := entries })
  else (entries.getLast?.map (·.1), { c with entries := entries.dropLast })

/-- Drops an entry, which comes back. -/
def erase (key : κ) (c : Lru κ α) : Option α × Lru κ α :=
  (c.peek? key, { c with entries := c.without key })

/-! ## What the operations do to the entries -/

@[simp] theorem capacity_get? (key : κ) (c : Lru κ α) : (c.get? key).2.capacity = c.capacity := by
  simp only [get?]
  split <;> rfl

@[simp] theorem capacity_insert (key : κ) (a : α) (c : Lru κ α) :
    (c.insert key a).2.capacity = c.capacity := by
  simp only [insert]
  split <;> rfl

theorem mem_of_peek? {key : κ} {a : α} {c : Lru κ α} (h : c.peek? key = some a) :
    (key, a) ∈ c.entries := by
  simp only [peek?, Option.map_eq_some_iff] at h
  obtain ⟨⟨k, b⟩, found, rfl⟩ := h
  have same := List.find?_some found
  simp only [decide_eq_true_eq] at same
  subst same
  exact List.mem_of_find?_eq_some found

theorem mem_without {key : κ} {entry : κ × α} {c : Lru κ α} :
    entry ∈ c.without key ↔ entry ∈ c.entries ∧ entry.1 ≠ key := by
  simp [without]

theorem mem_of_mem_without {key : κ} {entry : κ × α} {c : Lru κ α} (h : entry ∈ c.without key) :
    entry ∈ c.entries := (mem_without.1 h).1

/-- Reading brings no entry in. -/
theorem mem_of_mem_get? {key : κ} {entry : κ × α} {c : Lru κ α}
    (h : entry ∈ (c.get? key).2.entries) : entry ∈ c.entries := by
  cases found : c.peek? key with
  | none => simpa [get?, found] using h
  | some a =>
    simp only [get?, found, List.mem_cons] at h
    rcases h with rfl | h
    · exact mem_of_peek? found
    · exact mem_of_mem_without h

/-- Putting an entry in brings no other one in, and leaves no other one of its key. -/
theorem mem_of_mem_insert {key : κ} {a : α} {entry : κ × α} {c : Lru κ α}
    (h : entry ∈ (c.insert key a).2.entries) :
    entry = (key, a) ∨ entry ∈ c.entries ∧ entry.1 ≠ key := by
  have held : entry ∈ (key, a) :: c.without key := by
    simp only [insert] at h
    split at h
    · exact h
    · exact List.dropLast_subset _ h
  rcases List.mem_cons.1 held with rfl | held
  · exact .inl rfl
  · exact .inr (mem_without.1 held)

/-- Dropping an entry brings none in. -/
theorem mem_of_mem_erase {key : κ} {entry : κ × α} {c : Lru κ α}
    (h : entry ∈ (c.erase key).2.entries) : entry ∈ c.entries := mem_of_mem_without h

/-! ## What the operations do to the keys -/

theorem contains_iff {key : κ} {c : Lru κ α} : c.contains key = true ↔ key ∈ c.keys := by
  simp [contains]

theorem map_without (key : κ) (c : Lru κ α) :
    (c.without key).map (·.1) = c.keys.filter (· ≠ key) := by
  simp only [without, keys, List.filter_map]
  rfl

/-- Dropping an entry keeps the order of the others. -/
@[simp] theorem keys_erase (key : κ) (c : Lru κ α) :
    (c.erase key).2.keys = c.keys.filter (· ≠ key) := map_without key c

/-- A key has an entry exactly if it is held. -/
theorem isSome_peek? {key : κ} {c : Lru κ α} : (c.peek? key).isSome = true ↔ key ∈ c.keys := by
  simp only [peek?, keys, Option.isSome_map, List.find?_isSome, decide_eq_true_eq, List.mem_map]

/-- Reading moves a held key to the front; reading another changes nothing. -/
theorem keys_get? (key : κ) (c : Lru κ α) :
    (c.get? key).2.keys = if key ∈ c.keys then key :: c.keys.filter (· ≠ key) else c.keys := by
  cases h : c.peek? key with
  | none =>
    have absent : key ∉ c.keys := by
      intro held
      have found := isSome_peek?.2 held
      rw [h] at found
      cases found
    simp [get?, h, absent]
  | some a =>
    have held : key ∈ c.keys := by
      apply isSome_peek?.1
      rw [h]
      rfl
    rw [if_pos held, get?, h, ← map_without]
    rfl

/-- Putting an entry in moves its key to the front and keeps as many keys as there is room for. -/
theorem keys_insert (key : κ) (a : α) {c : Lru κ α} (room : c.size ≤ c.capacity) :
    (c.insert key a).2.keys = (key :: c.keys.filter (· ≠ key)).take c.capacity := by
  have fewer : (c.without key).length ≤ c.capacity :=
    Nat.le_trans (List.length_filter_le _ _) room
  rw [← map_without]
  simp only [insert, List.length_cons]
  split
  · next fits =>
    rw [List.take_of_length_le (by simpa using fits)]
    rfl
  · next full =>
    have exact : c.capacity = (c.without key).length := by omega
    simp only [keys, List.dropLast_eq_take, exact]
    simp

/-- Of the keys behind the one that is put in, the first without room leaves. -/
theorem evicted_insert (key : κ) (a : α) {c : Lru κ α} (room : c.size ≤ c.capacity) :
    (c.insert key a).1 = (key :: c.keys.filter (· ≠ key))[c.capacity]? := by
  have fewer : (c.without key).length ≤ c.capacity :=
    Nat.le_trans (List.length_filter_le _ _) room
  rw [← map_without]
  simp only [insert, List.length_cons]
  split
  · next fits =>
    rw [List.getElem?_eq_none]
    simpa using fits
  · next full =>
    have exact : c.capacity = (c.without key).length := by omega
    have keys : key :: (c.without key).map (·.1) = ((key, a) :: c.without key).map (·.1) := rfl
    rw [keys, List.getElem?_map, List.getLast?_eq_getElem?, List.length_cons, exact]
    rfl

end Lru

end TextTemplate
