import TextTemplate.Helper.Table
import TextTemplate.Proofs.Entries

/-!
# Tables of helpers

What a table finds is what was added last under the name, or else what was there before
(`HelperTable.get?_insertAll`). The standard table finds the standard helpers as they are listed
(`HelperTable.get?_standard`).

The standard names are listed apart from the table that holds the standard helpers, and a table
notes the names of added helpers apart from its entries. All of them stay in step
(`HelperTable.InStep`): the standard table holds the listed names (`HelperTable.inStep_standard`),
and an insertion adds a name on both sides (`HelperTable.InStep.insert`). So the names that a source
is compiled for are those of the table that it is rendered with, whatever was added
(`HelperTable.mem_known_iff`).
-/

namespace TextTemplate.HelperTable

variable {table : HelperTable} {locales : LocaleTable} {name : String}

/-! ## Looking helpers up -/

/-- A table contains the names of its entries. -/
theorem contains_iff : table.contains name = true ↔ name ∈ table.names := Keyed.mem_names.symm

theorem contains_insert_self {helper : Helper} :
    (table.insert name helper).contains name = true := by
  rw [contains, get?, insert, Keyed.get?_insert, if_pos rfl]
  rfl

/-- Helpers are added to the entries one after the other. -/
theorem entries_insertAll (added : List (String × Helper)) :
    (table.insertAll added).entries = Keyed.insertAll table.entries added := by
  induction added generalizing table with
  | nil => rfl
  | cons entry rest ih => exact ih

/-- Of the added helpers of a name the last one counts, and it hides the one that was there. -/
theorem get?_insertAll (added : List (String × Helper)) (name : String) :
    (table.insertAll added).get? name = (Keyed.get? name added.reverse).or (table.get? name) := by
  rw [get?, entries_insertAll, Keyed.get?_insertAll, get?]

/-- The list of the standard names is that of the standard helpers. -/
theorem names_standard (locales : LocaleTable) :
    Keyed.names (Helper.standard locales) = Helper.standardNames := rfl

/-- The standard helpers are found as they are listed: no two of them have one name. -/
theorem get?_standard (locales : LocaleTable) (name : String) :
    (standard locales).get? name = Keyed.get? name (Helper.standard locales) := by
  have nodup : (Keyed.names (Helper.standard locales)).Nodup := by
    rw [names_standard]
    decide
  exact Keyed.get?_insertAll_nil nodup name

/-! ## Names in step -/

/-- The names that a source is compiled for, which are the standard ones and those that the table
notes, are the names of the entries of the table. -/
def InStep (table : HelperTable) : Prop :=
  ∀ name, name ∈ Helper.standardNames ++ table.customNames ↔ table.contains name = true

/-- The standard table holds the listed names, each by an insertion of its own. -/
theorem inStep_standard (locales : LocaleTable) : InStep (standard locales) := by
  intro name
  have unadded : (standard locales).customNames = [] := rfl
  rw [unadded, List.append_nil, contains_iff, names, standard, Keyed.mem_names_insertAll,
    names_standard]
  exact (or_iff_left List.not_mem_nil).symm

/-- An insertion adds one name to the entries and to the added names alike. -/
theorem InStep.insert (h : table.InStep) (name : String) (helper : Helper) :
    (table.insert name helper).InStep := by
  intro other
  have custom : other ∈ (table.insert name helper).customNames ↔
      other = name ∨ other ∈ table.customNames := Names.mem_insert
  have entries : other ∈ (table.insert name helper).names ↔
      other = name ∨ other ∈ table.names := Keyed.mem_names_insert
  have before := h other
  rw [List.mem_append, contains_iff] at before
  rw [List.mem_append, contains_iff, custom, entries, ← before, or_left_comm]

/-- The names stay in step along any insertions. -/
theorem InStep.insertAll (h : table.InStep) (added : List (String × Helper)) :
    (table.insertAll added).InStep := by
  induction added generalizing table with
  | nil => exact h
  | cons entry rest ih => exact ih (h.insert entry.1 entry.2)

/-- The noted names are the old ones and those of the added helpers. -/
theorem mem_customNames_insertAll {added : List (String × Helper)} :
    name ∈ (table.insertAll added).customNames ↔
      name ∈ added.map (·.1) ∨ name ∈ table.customNames := by
  induction added generalizing table with
  | nil => simp [insertAll]
  | cons entry rest ih =>
    have others : name ∈ (table.insertAll (entry :: rest)).customNames ↔
        name ∈ rest.map (·.1) ∨ name ∈ (table.insert entry.1 entry.2).customNames := ih
    have first : name ∈ (table.insert entry.1 entry.2).customNames ↔
        name = entry.1 ∨ name ∈ table.customNames := Names.mem_insert
    rw [others, first, List.map_cons, List.mem_cons, or_left_comm, or_assoc]

/-- The names that a source is compiled for are those of the table that it is rendered with. -/
theorem mem_known_iff {added : List (String × Helper)} :
    name ∈ Helper.standardNames ++ ((standard locales).insertAll added).customNames ↔
      ((standard locales).insertAll added).contains name = true :=
  (inStep_standard locales).insertAll added name

end TextTemplate.HelperTable
