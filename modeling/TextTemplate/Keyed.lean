/-!
# Lists of named entries

A finite map from names is a list of pairs in increasing order of its names, by code points. `get?`
reads it, `insert` adds or replaces an entry and keeps the order.
-/

namespace TextTemplate.Keyed

variable {α : Type}

/-- The entry of a name. -/
def get? (name : String) : List (String × α) → Option α
  | [] => none
  | (n, a) :: rest => if n = name then some a else get? name rest

/-- Adds an entry, or replaces the one of the same name. -/
def insert (name : String) (a : α) : List (String × α) → List (String × α)
  | [] => [(name, a)]
  | (n, b) :: rest =>
    if name < n then (name, a) :: (n, b) :: rest
    else if n = name then (name, a) :: rest
    else (n, b) :: insert name a rest

/-- Adds entries one after the other; a later one of the same name wins. -/
def insertAll (entries : List (String × α)) (added : List (String × α)) : List (String × α) :=
  added.foldl (fun entries (n, a) => insert n a entries) entries

/-- The names in order. -/
def names (entries : List (String × α)) : List String := entries.map (·.1)

@[simp] theorem get?_nil (name : String) : get? name ([] : List (String × α)) = none := rfl

/-- Reading after an insertion gives the inserted entry at its name and the old one elsewhere. -/
theorem get?_insert (name other : String) (a : α) (entries : List (String × α)) :
    get? other (insert name a entries) = if name = other then some a else get? other entries := by
  induction entries with
  | nil => simp [insert, get?]
  | cons entry rest ih =>
    simp only [insert]
    split
    · simp [get?]
    · split
      · next h =>
        subst h
        by_cases h : entry.1 = other <;> simp [get?, h]
      · next h =>
        simp only [get?, ih]
        by_cases h' : entry.1 = other
        · simp [h', show name ≠ other from fun h'' => h (h'.trans h''.symm)]
        · simp [h']

end TextTemplate.Keyed
