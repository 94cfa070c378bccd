/-!
# Sets of names

A set of names is a list in increasing order of code points without repetitions. `ofList` forgets
order and repetitions, so that two lists with the same members give the same set.
-/

namespace TextTemplate.Names

/-- Adds a name. -/
def insert (name : String) : List String → List String
  | [] => [name]
  | n :: rest =>
    if name < n then name :: n :: rest
    else if n = name then n :: rest
    else n :: insert name rest

/-- The members of a list, in order and once each. -/
def ofList (names : List String) : List String := names.foldr insert []

theorem mem_insert {name other : String} {names : List String} :
    other ∈ insert name names ↔ other = name ∨ other ∈ names := by
  induction names with
  | nil => simp [insert]
  | cons n rest ih =>
    simp only [insert]
    split
    · simp
    · split
      · next h =>
        subst h
        simp
      · simp only [List.mem_cons, ih]
        constructor
        · rintro (h | h | h)
          · exact .inr (.inl h)
          · exact .inl h
          · exact .inr (.inr h)
        · rintro (h | h | h)
          · exact .inr (.inl h)
          · exact .inl h
          · exact .inr (.inr h)

theorem mem_ofList {name : String} {names : List String} :
    name ∈ ofList names ↔ name ∈ names := by
  induction names with
  | nil => simp [ofList]
  | cons n rest ih =>
    simp only [ofList, List.foldr_cons, mem_insert, List.mem_cons]
    exact or_congr_right ih

end TextTemplate.Names
