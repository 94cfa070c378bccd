import TextTemplate.Proofs.Entries
import TextTemplate.Proofs.Lowering
import TextTemplate.Value.Datum

/-!
# Plain values

A value that is handed over as data comes back with its dates as their texts
(`Value.toValue?_toDatum`). It is plain then, and goes through data as it is. A plain value shows
and tests as the value does that it comes from, and paths lead to the same places in both. What
tells them apart is the name of the type of a date.

To make a value plain changes what the names of a map stand for, and not the names. So it commutes
with whatever is done to entries by their names (`Keyed.mapValues`).
-/

namespace TextTemplate

/-! ## Entries -/

namespace Keyed

variable {α β : Type} {f : α → β} {name : String} {entries : List (String × α)}

/-- Applies a function to what the names stand for. -/
def mapValues (f : α → β) (entries : List (String × α)) : List (String × β) :=
  entries.map fun p => (p.1, f p.2)

theorem names_mapValues : names (mapValues f entries) = names entries := by
  simp [names, mapValues, Function.comp_def]

/-- A function of the values does not change which names are found. -/
theorem get?_mapValues : get? name (mapValues f entries) = (get? name entries).map f := by
  induction entries with
  | nil => rfl
  | cons entry rest ih =>
    simp only [mapValues, List.map_cons, get?] at ih ⊢
    split
    · rfl
    · exact ih

/-- Inserting and changing the values can be done in either order. -/
theorem mapValues_insert (a : α) :
    mapValues f (insert name a entries) = insert name (f a) (mapValues f entries) := by
  induction entries with
  | nil => rfl
  | cons entry rest ih =>
    simp only [mapValues, List.map_cons, insert] at ih ⊢
    split
    · rfl
    · split
      · rfl
      · rw [List.map_cons, ih]

theorem mapValues_insertAll (added : List (String × α)) :
    mapValues f (insertAll entries added) =
      insertAll (mapValues f entries) (mapValues f added) := by
  induction added generalizing entries with
  | nil => rfl
  | cons entry rest ih =>
    have others := @ih (insert entry.1 entry.2 entries)
    rw [mapValues_insert] at others
    exact others

/-- An entry behind all others is added at the end. -/
theorem insert_of_lt (a : α) (last : ∀ n ∈ names entries, n < name) :
    insert name a entries = entries ++ [(name, a)] := by
  induction entries with
  | nil => rfl
  | cons entry rest ih =>
    rw [names, List.map_cons, List.forall_mem_cons] at last
    rw [insert, if_neg (lt_asymm last.1), if_neg (ne_of_lt last.1), ih last.2]
    rfl

/-- Entries in order are added as they stand. -/
theorem insertAll_of_sorted {added : List (String × α)} (h : Sorted (entries ++ added)) :
    insertAll entries added = entries ++ added := by
  induction added generalizing entries with
  | nil => exact (List.append_nil _).symm
  | cons entry rest ih =>
    have last : ∀ n ∈ names entries, n < entry.1 := by
      rw [Sorted, names, List.map_append, List.pairwise_append] at h
      exact fun n held => h.2.2 n held entry.1 (List.mem_cons_self ..)
    have behind := List.append_assoc entries [entry] rest
    have added : insertAll entries (entry :: rest) =
        insertAll (insert entry.1 entry.2 entries) rest := rfl
    rw [added, insert_of_lt entry.2 last, ih (by rw [behind]; exact h), behind]
    rfl

end Keyed

/-! ## Plain values -/

namespace Value

mutual

/-- The value with its dates as their texts, at any depth. -/
def plain : Value → Value
  | null => null
  | bool b => bool b
  | integer n => integer n
  | float x => float x
  | text s => text s
  | date d => text d.text
  | dateTime t => text t.text
  | dateTimeUtc t => text t.utcText
  | list items => list (plainItems items)
  | map entries => map (plainEntries entries)

def plainItems : List Value → List Value
  | [] => []
  | v :: rest => plain v :: plainItems rest

def plainEntries : List (String × Value) → List (String × Value)
  | [] => []
  | (name, v) :: rest => (name, plain v) :: plainEntries rest

end

theorem plainItems_eq (items : List Value) : plainItems items = items.map plain := by
  induction items with
  | nil => rfl
  | cons v rest ih => rw [plainItems, ih, List.map_cons]

theorem plainEntries_eq (entries : List (String × Value)) :
    plainEntries entries = Keyed.mapValues plain entries := by
  induction entries with
  | nil => rfl
  | cons entry rest ih => rw [plainEntries, ih, Keyed.mapValues, Keyed.mapValues, List.map_cons]

-- The inductions below are on the value, with its members and its entries.
mutual

theorem plain_plain (v : Value) : v.plain.plain = v.plain := by
  cases v with
  | list items => rw [plain, plain, plainItems_plainItems items]
  | map entries => rw [plain, plain, plainEntries_plainEntries entries]
  | _ => rfl

theorem plainItems_plainItems (items : List Value) :
    plainItems (plainItems items) = plainItems items := by
  cases items with
  | nil => rfl
  | cons v rest => rw [plainItems, plainItems, plain_plain v, plainItems_plainItems rest]

theorem plainEntries_plainEntries (entries : List (String × Value)) :
    plainEntries (plainEntries entries) = plainEntries entries := by
  cases entries with
  | nil => rfl
  | cons entry rest =>
    rw [plainEntries, plainEntries, plain_plain entry.2, plainEntries_plainEntries rest]

end

mutual

/-- A value is written in JSON as the plain one is. -/
theorem json_plain (v : Value) : v.plain.json = v.json := by
  cases v with
  | list items => rw [plain, json, json, jsonItems_plainItems items]
  | map entries => rw [plain, json, json, jsonEntries_plainEntries entries]
  | _ => rfl

theorem jsonItems_plainItems (items : List Value) :
    jsonItems (plainItems items) = jsonItems items := by
  cases items with
  | nil => rfl
  | cons v rest => rw [plainItems, jsonItems, jsonItems, json_plain v, jsonItems_plainItems rest]

theorem jsonEntries_plainEntries (entries : List (String × Value)) :
    jsonEntries (plainEntries entries) = jsonEntries entries := by
  cases entries with
  | nil => rfl
  | cons entry rest =>
    rw [plainEntries, jsonEntries, jsonEntries, json_plain entry.2, jsonEntries_plainEntries rest]

end

mutual

/-- A value is displayed as the plain one is. -/
theorem display_plain (v : Value) : v.plain.display = v.display := by
  cases v with
  | list items => rw [plain, display, display, displayItems_plainItems items]
  | map entries => exact json_plain (map entries)
  | _ => rfl

theorem displayItems_plainItems (items : List Value) :
    displayItems (plainItems items) = displayItems items := by
  cases items with
  | nil => rfl
  | cons v rest =>
    rw [plainItems, displayItems, displayItems, display_plain v, displayItems_plainItems rest]

end

theorem isNull_plain (v : Value) : v.plain.isNull = v.isNull := by
  cases v <;> rfl

theorem dayText_ne_empty (d : Date) : Pattern.dayText d ≠ "" := by
  simp [Pattern.dayText, String.append_eq_empty_iff]

/-- The text of an instant is not empty, and so it is as true as the instant. -/
theorem instantText_ne_empty (t : DateTime) : Pattern.instantText t ≠ "" := by
  simp [Pattern.instantText, String.append_eq_empty_iff]

/-- Dates have texts that are not empty, and so their texts count as the dates do. -/
theorem isTruthy_plain (v : Value) : v.plain.isTruthy = v.isTruthy := by
  have shown : ∀ s, s ≠ "" → (text s).isTruthy = true := by
    intro s nonempty
    simpa [isTruthy, String.isEmpty_iff] using nonempty
  cases v with
  | date d => exact shown _ (dayText_ne_empty d)
  | dateTime t => exact shown _ (instantText_ne_empty t)
  | dateTimeUtc t =>
    apply shown
    simp [DateTime.utcText, String.append_eq_empty_iff]
  | _ => rfl

/-! ## Paths -/

/-- Looking up a name and making plain can be done in either order. -/
theorem get?_plain (name : String) (v : Value) : v.plain.get? name = (v.get? name).map plain := by
  cases v with
  | map entries =>
    rw [plain, plainEntries_eq]
    exact Keyed.get?_mapValues
  | _ => rfl

/-- A path leads to the plain value of what it leads to. -/
theorem getPath?_plain (path : List String) (v : Value) :
    v.plain.getPath? path = (v.getPath? path).map plain := by
  induction path generalizing v with
  | nil => rfl
  | cons name rest ih =>
    rw [getPath?_cons, getPath?_cons, get?_plain]
    cases v.get? name with
    | none => rfl
    | some inner => exact ih inner

/-! ## Well-formed values -/

theorem wellFormedItems_iff {items : List Value} :
    WellFormedItems items ↔ ∀ v ∈ items, v.WellFormed := by
  induction items with
  | nil => simp [WellFormedItems]
  | cons v rest ih => rw [WellFormedItems, ih, List.forall_mem_cons]

theorem wellFormedEntries_iff {entries : List (String × Value)} :
    WellFormedEntries entries ↔ ∀ entry ∈ entries, entry.2.WellFormed := by
  induction entries with
  | nil => simp [WellFormedEntries]
  | cons entry rest ih => rw [WellFormedEntries, ih, List.forall_mem_cons]

theorem WellFormed.get? {v w : Value} {name : String} (h : v.WellFormed)
    (found : v.get? name = some w) : w.WellFormed := by
  cases v with
  | map entries =>
    exact wellFormedEntries_iff.1 h.2 _ (Keyed.mem_of_get? found)
  | _ => cases found

/-- A path leads from a well-formed value to well-formed values only. -/
theorem WellFormed.getPath? {path : List String} {v w : Value} (h : v.WellFormed)
    (found : v.getPath? path = some w) : w.WellFormed := by
  induction path generalizing v with
  | nil =>
    cases found
    exact h
  | cons name rest ih =>
    rw [getPath?_cons] at found
    obtain ⟨inner, first, found⟩ := Option.bind_eq_some_iff.1 found
    exact ih (h.get? first) found

mutual

theorem WellFormed.plain {v : Value} (h : v.WellFormed) : v.plain.WellFormed := by
  cases v with
  | list items => exact WellFormed.plainItems h
  | map entries =>
    refine ⟨?_, WellFormed.plainEntries h.2⟩
    rw [plainEntries_eq, Keyed.names_mapValues]
    exact h.1
  | _ => exact trivial

theorem WellFormed.plainItems {items : List Value} (h : WellFormedItems items) :
    WellFormedItems (plainItems items) := by
  cases items with
  | nil => exact trivial
  | cons v rest => exact ⟨WellFormed.plain h.1, WellFormed.plainItems h.2⟩

theorem WellFormed.plainEntries {entries : List (String × Value)} (h : WellFormedEntries entries) :
    WellFormedEntries (plainEntries entries) := by
  cases entries with
  | nil => exact trivial
  | cons entry rest => exact ⟨WellFormed.plain h.1, WellFormed.plainEntries h.2⟩

end

/-- Well-formed values may be added to a well-formed map. -/
theorem WellFormed.insertAll {entries added : List (String × Value)} (h : (map entries).WellFormed)
    (among : ∀ p ∈ added, p.2.WellFormed) : (map (Keyed.insertAll entries added)).WellFormed := by
  induction added generalizing entries with
  | nil => exact h
  | cons p rest ih =>
    rw [List.forall_mem_cons] at among
    refine @ih (Keyed.insert p.1 p.2 entries) ?_ among.2
    refine ⟨Keyed.Sorted.insert h.1 p.1 p.2, wellFormedEntries_iff.2 ?_⟩
    intro entry held
    rcases Keyed.mem_of_mem_insert held with rfl | before
    · exact among.1
    · exact wellFormedEntries_iff.1 h.2 entry before

/-! ## Values through data -/

mutual

/-- A value comes back plain. -/
theorem toValue?_toDatum {v : Value} (h : v.WellFormed) : v.toDatum.toValue? = .ok v.plain := by
  cases v with
  | list items =>
    rw [toDatum, Datum.toValue?, toValues?_toData h, plain]
    rfl
  | map entries =>
    have sorted : Keyed.Sorted ([] ++ plainEntries entries) := by
      rw [List.nil_append, Keyed.Sorted, plainEntries_eq, Keyed.names_mapValues]
      exact h.1
    rw [toDatum, Datum.toValue?, toEntries?_toParts h.2, Keyed.insertAll_of_sorted sorted, plain]
    rfl
  | _ => rfl

/-- Well-formed items, taken as data and converted again, are the plain items. -/
theorem toValues?_toData {items : List Value} (h : WellFormedItems items) :
    Datum.toValues? (toData items) = .ok (plainItems items) := by
  cases items with
  | nil => rfl
  | cons v rest =>
    rw [toData, Datum.toValues?, toValue?_toDatum h.1, toValues?_toData h.2, plainItems]
    rfl

/-- Well-formed entries, taken as data, are converted to the plain entries over those from before.
-/
theorem toEntries?_toParts {entries before : List (String × Value)}
    (h : WellFormedEntries entries) :
    Datum.toEntries? none before (toParts entries) =
      .ok (Keyed.insertAll before (plainEntries entries)) := by
  cases entries with
  | nil => rfl
  | cons entry rest =>
    rw [toParts, Datum.toEntries?, Datum.toValue?]
    simp only [Datum.nameOf?, bind, Except.bind]
    rw [Datum.toEntries?, toValue?_toDatum h.1]
    exact toEntries?_toParts h.2

end

end Value

end TextTemplate
