import Mathlib.Data.Finset.Card
import Mathlib.Data.List.Sort
import Mathlib.Data.String.Basic
import TextTemplate.Keyed
import TextTemplate.Names

/-!
# Names and entries in order

Sets of names and lists of named entries are kept in increasing order of the names. An insertion
keeps the order, and the names of entries change by it as a set of names does
(`Keyed.names_insert`). So a set is determined by its members (`Names.ofList_eq_iff`), and entries
in order are as many as their names (`Keyed.Sorted.card_names`). Of entries that are added one after
the other the last of each name counts (`Keyed.get?_insertAll`), and so they are as many as their
names again (`Keyed.length_insertAll`).
-/

namespace TextTemplate

/-! ## Sets of names -/

namespace Names

/-- An insertion keeps the order, and adds no name twice. -/
theorem pairwise_insert {names : List String} (h : names.Pairwise (· < ·)) (name : String) :
    (insert name names).Pairwise (· < ·) := by
  induction names with
  | nil => exact List.pairwise_singleton _ _
  | cons n rest ih =>
    obtain ⟨first, ordered⟩ := List.pairwise_cons.1 h
    simp only [insert]
    split
    · -- The new name is in front of the first one, and so of all others.
      next before =>
      refine List.pairwise_cons.2 ⟨?_, h⟩
      intro m mem
      rcases List.mem_cons.1 mem with rfl | mem
      · exact before
      · exact lt_trans before (first m mem)
    · next notBefore =>
      split
      · exact h
      · next differs =>
        refine List.pairwise_cons.2 ⟨?_, ih ordered⟩
        intro m mem
        rcases mem_insert.1 mem with rfl | mem
        · exact lt_of_le_of_ne (not_lt.1 notBefore) differs
        · exact first m mem

theorem pairwise_ofList (names : List String) : (ofList names).Pairwise (· < ·) := by
  induction names with
  | nil => exact .nil
  | cons n rest ih => exact pairwise_insert ih n

/-- Lists with the same members give the same set, and no others do. -/
theorem ofList_eq_iff {names others : List String} :
    ofList names = ofList others ↔ ∀ n, n ∈ names ↔ n ∈ others := by
  constructor
  · intro same n
    rw [← mem_ofList, same, mem_ofList]
  · intro same
    apply (pairwise_ofList names).eq_of_mem_iff (pairwise_ofList others)
    intro n
    rw [mem_ofList, mem_ofList, same n]

end Names

/-! ## Entries -/

namespace Keyed

variable {α : Type}

/-- A name is there exactly if it has an entry. -/
theorem mem_names {name : String} {entries : List (String × α)} :
    name ∈ names entries ↔ (get? name entries).isSome = true := by
  induction entries with
  | nil => simp [names]
  | cons entry rest ih =>
    simp only [names, List.map_cons, List.mem_cons, get?] at ih ⊢
    by_cases h : entry.1 = name
    · simp [h]
    · simp only [h, if_false, ← ih, or_iff_right_iff_imp]
      exact fun same => absurd same.symm h

/-- What is read is one of the entries. -/
theorem mem_of_get? {name : String} {a : α} {entries : List (String × α)}
    (h : get? name entries = some a) : (name, a) ∈ entries := by
  induction entries with
  | nil => cases h
  | cons entry rest ih =>
    simp only [get?] at h
    split at h
    · next same =>
      cases h
      rw [← same]
      exact List.mem_cons_self ..
    · exact List.mem_cons_of_mem _ (ih h)

/-- The names of entries change by an insertion as a set of names does. -/
theorem names_insert (name : String) (a : α) (entries : List (String × α)) :
    names (insert name a entries) = Names.insert name (names entries) := by
  induction entries with
  | nil => rfl
  | cons entry rest ih =>
    simp only [insert, names, List.map_cons, Names.insert] at ih ⊢
    split
    · rfl
    · split
      · next same => simp [same]
      · simp [ih]

theorem mem_names_insert {name other : String} {a : α} {entries : List (String × α)} :
    other ∈ names (insert name a entries) ↔ other = name ∨ other ∈ names entries := by
  rw [names_insert, Names.mem_insert]

/-- An insertion brings no other entry than its own. -/
theorem mem_of_mem_insert {name : String} {a : α} {entry : String × α}
    {entries : List (String × α)} (h : entry ∈ insert name a entries) :
    entry = (name, a) ∨ entry ∈ entries := by
  induction entries with
  | nil => exact .inl (List.mem_singleton.1 h)
  | cons first rest ih =>
    simp only [insert] at h
    split at h
    · exact List.mem_cons.1 h
    · split at h
      · exact (List.mem_cons.1 h).imp_right (List.mem_cons_of_mem _)
      · rcases List.mem_cons.1 h with rfl | behind
        · exact .inr (List.mem_cons_self ..)
        · exact (ih behind).imp_right (List.mem_cons_of_mem _)

/-- The names are in order, and so each of them is there once. -/
def Sorted (entries : List (String × α)) : Prop := (names entries).Pairwise (· < ·)

theorem sorted_nil : Sorted ([] : List (String × α)) := List.Pairwise.nil

/-- An insertion keeps entries in order. -/
theorem Sorted.insert {entries : List (String × α)} (h : Sorted entries) (name : String) (a : α) :
    Sorted (Keyed.insert name a entries) := by
  rw [Sorted, names_insert]
  exact Names.pairwise_insert h name

/-- Entries in order are as many as their names. -/
theorem Sorted.card_names {entries : List (String × α)} (h : Sorted entries) :
    (names entries).toFinset.card = entries.length := by
  have nodup : (names entries).Nodup := h.imp fun less => ne_of_lt less
  rw [List.toFinset_card_of_nodup nodup, names, List.length_map]

/-! ## Many entries -/

variable {entries added : List (String × α)}

/-- Of two lists of entries the first one is read first. -/
theorem get?_append (name : String) (front back : List (String × α)) :
    get? name (front ++ back) = (get? name front).or (get? name back) := by
  induction front with
  | nil => rfl
  | cons entry rest ih =>
    rw [List.cons_append, get?, get?, ih]
    split <;> rfl

/-- An entry is read if it is the only one of its name. -/
theorem get?_of_mem {name : String} {a : α} (nodup : (names entries).Nodup)
    (h : (name, a) ∈ entries) : get? name entries = some a := by
  induction entries with
  | nil => cases h
  | cons entry rest ih =>
    obtain ⟨apart, nodup⟩ := List.nodup_cons.1 nodup
    rw [get?]
    rcases List.mem_cons.1 h with rfl | behind
    · exact if_pos rfl
    · rw [if_neg, ih nodup behind]
      intro same
      exact apart (List.mem_map.2 ⟨_, behind, same.symm⟩)

/-- Where each name is there once, an entry is read if and only if it is there. -/
theorem get?_eq_some_iff {name : String} {a : α} (nodup : (names entries).Nodup) :
    get? name entries = some a ↔ (name, a) ∈ entries :=
  ⟨mem_of_get?, get?_of_mem nodup⟩

/-- The order of entries does not matter where each name is there once. -/
theorem get?_reverse (nodup : (names entries).Nodup) (name : String) :
    get? name entries.reverse = get? name entries := by
  have reversed : (names entries.reverse).Nodup := by
    rw [names, List.map_reverse]
    exact List.nodup_reverse.2 nodup
  ext a
  rw [get?_eq_some_iff reversed, get?_eq_some_iff nodup, List.mem_reverse]

/-- Of the added entries of a name the last one counts. -/
theorem get?_insertAll (name : String) (entries added : List (String × α)) :
    get? name (insertAll entries added) = (get? name added.reverse).or (get? name entries) := by
  induction added generalizing entries with
  | nil => rfl
  | cons entry rest ih =>
    have step : insertAll entries (entry :: rest) =
        insertAll (insert entry.1 entry.2 entries) rest := rfl
    rw [step, ih, get?_insert, List.reverse_cons, get?_append, Option.or_assoc]
    congr 1
    rw [get?, get?]
    split <;> rfl

/-- Added to nothing, entries are read as they were listed if each name is there once. -/
theorem get?_insertAll_nil (nodup : (names added).Nodup) (name : String) :
    get? name (insertAll [] added) = get? name added := by
  rw [get?_insertAll, get?_reverse nodup, get?_nil, Option.or_none]

/-- An added entry is read if no entry of its name comes after it. -/
theorem get?_insertAll_last {name : String} {before after : List (String × α)}
    (last : name ∉ names after) (a : α) :
    get? name (insertAll entries (before ++ (name, a) :: after)) = some a := by
  have nothing : get? name after.reverse = none := by
    rw [← Option.not_isSome_iff_eq_none, ← mem_names, names, List.map_reverse, List.mem_reverse]
    exact last
  rw [get?_insertAll, List.reverse_append, List.reverse_cons, get?_append, get?_append, nothing,
    Option.none_or, get?, if_pos rfl]
  rfl

/-- An added entry is read if it is the only one of its name. -/
theorem get?_insertAll_of_mem {name : String} {a : α} (nodup : (names added).Nodup)
    (h : (name, a) ∈ added) : get? name (insertAll entries added) = some a := by
  obtain ⟨before, after, rfl⟩ := List.append_of_mem h
  rw [names, List.map_append, List.map_cons] at nodup
  exact get?_insertAll_last (List.nodup_cons.1 nodup.of_append_right).1 a

/-- The names after insertions are the old ones and the added ones. -/
theorem mem_names_insertAll {name : String} :
    name ∈ names (insertAll entries added) ↔ name ∈ names added ∨ name ∈ names entries := by
  induction added generalizing entries with
  | nil => simp [insertAll, names]
  | cons entry rest ih =>
    have step : insertAll entries (entry :: rest) =
        insertAll (insert entry.1 entry.2 entries) rest := rfl
    have first : names (entry :: rest) = entry.1 :: names rest := rfl
    rw [step, ih, mem_names_insert, first, List.mem_cons, or_left_comm, or_assoc]

theorem Sorted.insertAll (h : Sorted entries) (added : List (String × α)) :
    Sorted (Keyed.insertAll entries added) := by
  induction added generalizing entries with
  | nil => exact h
  | cons entry rest ih => exact ih (h.insert entry.1 entry.2)

/-- Added to nothing, entries are as many as they have names. -/
theorem length_insertAll (added : List (String × α)) :
    (insertAll [] added).length = (names added).toFinset.card := by
  have sorted : Sorted (insertAll [] added) := Sorted.insertAll sorted_nil added
  have same : (names (insertAll [] added)).toFinset = (names added).toFinset := by
    ext name
    rw [List.mem_toFinset, List.mem_toFinset, mem_names_insertAll]
    exact or_iff_left List.not_mem_nil
  rw [← sorted.card_names, same]

end Keyed

end TextTemplate
