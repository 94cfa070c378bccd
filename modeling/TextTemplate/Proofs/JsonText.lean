import Mathlib
import TextTemplate.Proofs.HelperTables
import TextTemplate.Proofs.Legible
import TextTemplate.Proofs.PlainValues

/-!
# JSON text identifies a value

A value whose leaves are null, booleans, integers and texts is a tree (`Value.IsTree`). The JSON
text of a tree tells which tree it is the text of, and where it ends, in front of what does not go
on with a number (`Value.json_legible`, by induction on the tree). The first character tells the
type of the value (`Value.exists_lead`), so that a text inside a string is never taken for anything
else. A value without floating-point numbers is a tree when its dates are texts, and that is what
the text identifies (`Value.json_identifies`).
-/

namespace TextTemplate.Value

/-! ## Leaves -/

mutual

/-- Whether what is neither a list nor a map in the value passes, at any depth. -/
def Leaves (passes : Value → Prop) : Value → Prop
  | list items => LeavesItems passes items
  | map entries => LeavesEntries passes entries
  | v => passes v

def LeavesItems (passes : Value → Prop) : List Value → Prop
  | [] => True
  | v :: rest => Leaves passes v ∧ LeavesItems passes rest

def LeavesEntries (passes : Value → Prop) : List (String × Value) → Prop
  | [] => True
  | (_, v) :: rest => Leaves passes v ∧ LeavesEntries passes rest

end

def isFloat : Value → Bool
  | float _ => true
  | _ => false

def isDate : Value → Bool
  | date _ | dateTime _ | dateTimeUtc _ => true
  | _ => false

/-- No part of the value is a floating-point number. -/
def FloatFree (v : Value) : Prop := v.Leaves fun w => w.isFloat = false

/-- The value is made of null, booleans, integers, texts, lists and maps. -/
def IsTree (v : Value) : Prop := v.Leaves fun w => w.isFloat = false ∧ w.isDate = false

/-- The leaves of a list are those of its items. -/
theorem leavesItems_iff {passes : Value → Prop} {items : List Value} :
    LeavesItems passes items ↔ ∀ v ∈ items, v.Leaves passes := by
  induction items with
  | nil => simp [LeavesItems]
  | cons v rest ih => rw [LeavesItems, ih, List.forall_mem_cons]

theorem leavesEntries_iff {passes : Value → Prop} {entries : List (String × Value)} :
    LeavesEntries passes entries ↔ ∀ entry ∈ entries, entry.2.Leaves passes := by
  induction entries with
  | nil => simp [LeavesEntries]
  | cons entry rest ih => rw [LeavesEntries, ih, List.forall_mem_cons]

mutual

/-- Without floating-point numbers, a value with its dates as texts is a tree. -/
theorem FloatFree.plain {v : Value} (h : v.FloatFree) : v.plain.IsTree := by
  cases v with
  | list items => exact FloatFree.plainItems h
  | map entries => exact FloatFree.plainEntries h
  | float x => cases h
  | _ => exact ⟨rfl, rfl⟩

/-- Items without floating-point numbers are trees once their dates are texts. -/
theorem FloatFree.plainItems {items : List Value}
    (h : LeavesItems (fun w => w.isFloat = false) items) :
    LeavesItems (fun w => w.isFloat = false ∧ w.isDate = false) (plainItems items) := by
  cases items with
  | nil => exact trivial
  | cons v rest => exact ⟨FloatFree.plain h.1, FloatFree.plainItems h.2⟩

theorem FloatFree.plainEntries {entries : List (String × Value)}
    (h : LeavesEntries (fun w => w.isFloat = false) entries) :
    LeavesEntries (fun w => w.isFloat = false ∧ w.isDate = false) (plainEntries entries) := by
  cases entries with
  | nil => exact trivial
  | cons entry rest => exact ⟨FloatFree.plain h.1, FloatFree.plainEntries h.2⟩

end

/-! ## Strings and numbers -/

theorem hexDigit_injective {m n : Nat} (hm : m < 16) (hn : n < 16)
    (same : hexDigit m = hexDigit n) : m = n := by
  have all : ∀ m < 16, ∀ n < 16, hexDigit m = hexDigit n → m = n := by decide
  exact all m hm n hn same

/-- The characters with a short escape in JSON strings. -/
def jsonEscapes : List (Char × Char) :=
  [('"', '"'), ('\\', '\\'), ('\n', 'n'), ('\r', 'r'), ('\t', 't'), (Char.ofNat 8, 'b'),
    (Char.ofNat 12, 'f')]

/-- The code point of a control in JSON strings. -/
def jsonPoint (c : Char) : List Char :=
  ['0', '0', hexDigit (c.toNat / 16), hexDigit (c.toNat % 16)]

/-- A character is written as itself, by a mark of its own, or, below the blank, by its code point.
-/
theorem escaped_jsonChar (c : Char) :
    Escaped jsonEscapes (fun c => c.toNat < 32) jsonPoint c (jsonChar c) := by
  have short : ∀ {d : Char}, d.toNat = c.toNat → d = c := Char.toNat_inj.1
  unfold jsonChar
  split_ifs with quote backslash newline carriage tab backspace formFeed control
  · subst quote
    exact .short (by decide)
  · subst backslash
    exact .short (by decide)
  · subst newline
    exact .short (by decide)
  · subst carriage
    exact .short (by decide)
  · subst tab
    exact .short (by decide)
  -- Backspace and form feed are given by their numbers.
  · cases (short (d := Char.ofNat 8) backspace.symm)
    exact .short (by decide)
  · cases (short (d := Char.ofNat 12) formFeed.symm)
    exact .short (by decide)
  · exact .point control
  · exact .plain backslash quote

/-- No character is written with another one's text at its front. -/
theorem prefixFree_jsonChar : PrefixFree jsonChar := by
  refine prefixFree_of_escaped escaped_jsonChar (by decide) (by decide) ?_
  intro c control d control' r s _ _ same
  simp only [jsonPoint, List.cons_append, List.nil_append, List.cons.injEq, true_and] at same
  obtain ⟨high, low, rest⟩ := same
  have high := hexDigit_injective (by omega) (by omega) high
  have low := hexDigit_injective (by omega) (by omega) low
  exact ⟨Char.toNat_inj.1 (by omega), rest⟩

/-- A text ends at its closing quote, which no character of it is written with. -/
theorem prefixFree_jsonString : PrefixFree fun s => (jsonString s).toList := by
  have quoted := prefixFree_quoted escaped_jsonChar prefixFree_jsonChar
  simpa only [jsonString, String.toList_ofList] using quoted

/-- A character of an integer. -/
def isNumeral (c : Char) : Bool := c.isDigit || c == '-'

/-- An integer is written with digits and a minus alone. -/
theorem isNumeral_of_mem {n : Int64} {c : Char} (h : c ∈ (json (integer n)).toList) :
    isNumeral c = true := by
  rw [json, Int.toString_eq_repr, Int.repr_eq_if] at h
  have digit : ∀ {m : Nat}, c ∈ (m.repr).toList → isNumeral c = true := by
    intro m held
    rw [Nat.toList_repr] at held
    rw [isNumeral, Nat.isDigit_of_mem_toDigits (by omega) (by omega) held, Bool.true_or]
  -- A negative integer has a minus in front of its digits.
  split at h
  · exact digit h
  · rw [String.toList_append, List.mem_append] at h
    rcases h with sign | held
    · cases List.mem_singleton.1 sign
      rfl
    · exact digit held

theorem json_integer_ne_nil (n : Int64) : (json (integer n)).toList ≠ [] := by
  rw [json, Int.toString_eq_repr, Int.repr_eq_if]
  split <;> simp [Nat.toList_repr, Nat.toDigits_ne_nil]

/-! ## The type of a text -/

/-- The type of the tree whose JSON text begins with the character. -/
def leadType (c : Char) : String :=
  if c = 'n' then "null"
  else if c = 't' ∨ c = 'f' then "bool"
  else if c = '"' then "string"
  else if c = '[' then "list"
  else if c = '\x7b' then "map"
  else if isNumeral c then "integer"
  else ""

/-- A digit or a minus begins an integer. -/
theorem leadType_of_isNumeral {c : Char} (h : isNumeral c = true) : leadType c = "integer" := by
  have differs : ∀ d, isNumeral d = false → c ≠ d := by
    rintro d foreign rfl
    exact absurd h (foreign ▸ Bool.false_ne_true)
  simp [leadType, differs 'n' (by decide), differs 't' (by decide), differs 'f' (by decide),
    differs '"' (by decide), differs '[' (by decide), differs '\x7b' (by decide), h]

theorem toList_json_list (items : List Value) :
    (json (list items)).toList =
      '[' :: ([','].intercalate (items.map fun v => v.json.toList) ++ [']']) := by
  have texts : jsonItems items = items.map json := by
    induction items with
    | nil => rfl
    | cons v rest ih => rw [jsonItems, ih, List.map_cons]
  rw [json, texts, String.toList_append, String.toList_append, String.toList_intercalate,
    List.map_map]
  rfl

/-- The JSON text of an entry. -/
def entryText (entry : String × Value) : List Char :=
  (jsonString entry.1).toList ++ ':' :: entry.2.json.toList

/-- A map is written with its entries between braces and commas between them. -/
theorem toList_json_map (entries : List (String × Value)) :
    (json (map entries)).toList =
      '\x7b' :: ([','].intercalate (entries.map entryText) ++ ['\x7d']) := by
  have texts : (jsonEntries entries).map String.toList = entries.map entryText := by
    induction entries with
    | nil => rfl
    | cons entry rest ih =>
      rw [jsonEntries, List.map_cons, List.map_cons, ih, String.toList_append,
        String.toList_append, List.append_assoc]
      rfl
  rw [json, String.toList_append, String.toList_append, String.toList_intercalate, texts]
  rfl

/-- The first character of a tree's text tells the type. -/
theorem exists_lead {v : Value} (h : v.IsTree) :
    ∃ c cs, v.json.toList = c :: cs ∧ leadType c = v.typeName := by
  -- Each kind of tree begins with a character that no other kind begins with.
  cases v with
  | null => exact ⟨_, _, rfl, rfl⟩
  | bool b => cases b <;> exact ⟨_, _, rfl, rfl⟩
  | integer n =>
    obtain ⟨c, cs, split⟩ := List.exists_cons_of_ne_nil (json_integer_ne_nil n)
    have numeral := isNumeral_of_mem (split ▸ List.mem_cons_self)
    exact ⟨c, cs, split, leadType_of_isNumeral numeral⟩
  | text s => exact ⟨'"', _, String.toList_ofList, rfl⟩
  | list items => exact ⟨'[', _, toList_json_list items, rfl⟩
  | map entries => exact ⟨'\x7b', _, toList_json_map entries, rfl⟩
  | float x => cases h.1
  | _ => cases h.2

/-- The first character tells the type of a tree. -/
theorem typeName_eq_of_json {a b : Value} (ha : a.IsTree) (hb : b.IsTree) {r s : List Char}
    (same : a.json.toList ++ r = b.json.toList ++ s) : a.typeName = b.typeName := by
  obtain ⟨c, cs, first, type⟩ := exists_lead ha
  obtain ⟨d, ds, second, type'⟩ := exists_lead hb
  rw [first, second] at same
  rw [← type, ← type', (List.cons.inj same).1]

/-! ## The text of a tree -/

/-- The JSON text is legible in front of what does not go on with a number. -/
def JsonLegible (v : Value) : Prop :=
  Legible (fun v => v.json.toList) IsTree (Ends isNumeral) v

/-- No tree begins with a mark that is not among the first characters. -/
theorem json_ne_of_leadType {v : Value} (h : v.IsTree) {mark : Char}
    (foreign : leadType mark = "") (r more : List Char) : v.json.toList ++ r ≠ mark :: more := by
  obtain ⟨c, cs, first, type⟩ := exists_lead h
  intro same
  rw [first] at same
  rw [(List.cons.inj same).1, foreign] at type
  cases v <;> simp [typeName] at type

/-- A list can be read back if its items can, since no item begins with the bracket at the end. -/
theorem jsonLegible_list {items : List Value} (h : (list items).IsTree)
    (each : ∀ v ∈ items, v.JsonLegible) : (list items).JsonLegible := by
  have inside := Legible.enclosed '[' ']' [','] each (leavesItems_iff.1 h)
    (ends_cons rfl) (ends_cons rfl) (by simp) fun v tree => json_ne_of_leadType tree rfl
  intro b tree r s _ _ same
  have type := typeName_eq_of_json h tree same
  cases b with
  | list others =>
    simp only [toList_json_list] at same
    obtain ⟨rfl, rest⟩ := inside others (leavesItems_iff.1 tree) r s trivial trivial same
    exact ⟨rfl, rest⟩
  | _ => exact absurd type (by simp [typeName])

/-- An entry can be read back if its value can: the quoted name ends by itself. -/
theorem entryText_legible {entry : String × Value} (each : entry.2.JsonLegible) :
    Legible entryText (fun entry => entry.2.IsTree) (Ends isNumeral) entry := by
  obtain ⟨name, v⟩ := entry
  rintro ⟨name', v'⟩ tree r s ends ends' same
  simp only [entryText, List.append_assoc, List.cons_append] at same
  obtain ⟨rfl, behind⟩ := prefixFree_jsonString name name' _ _ same
  obtain ⟨rfl, rest⟩ := each v' tree r s ends ends' (List.cons.inj behind).2
  exact ⟨rfl, rest⟩

/-- An entry begins with a quote, and not with the brace at the end of a map. -/
theorem entryText_ne (entry : String × Value) (r more : List Char) :
    entryText entry ++ r ≠ '\x7d' :: more := by
  intro same
  rw [entryText, jsonString, String.toList_ofList] at same
  exact absurd (List.cons.inj same).1 (by decide)

/-- A map can be read back if its entries can. -/
theorem jsonLegible_map {entries : List (String × Value)} (h : (map entries).IsTree)
    (each : ∀ entry ∈ entries, entry.2.JsonLegible) : (map entries).JsonLegible := by
  have inside := Legible.enclosed '\x7b' '\x7d' [',']
    (fun entry held => entryText_legible (each entry held)) (leavesEntries_iff.1 h)
    (ends_cons rfl) (ends_cons rfl) (by simp) fun entry _ => entryText_ne entry
  intro b tree r s _ _ same
  have type := typeName_eq_of_json h tree same
  cases b with
  | map others =>
    simp only [toList_json_map] at same
    obtain ⟨rfl, rest⟩ := inside others (leavesEntries_iff.1 tree) r s trivial trivial same
    exact ⟨rfl, rest⟩
  | _ => exact absurd type (by simp [typeName])

theorem jsonLegible_null : null.JsonLegible := by
  intro b tree r s ends ends' same
  have type := typeName_eq_of_json (a := null) ⟨rfl, rfl⟩ tree same
  cases b with
  | null => exact ⟨rfl, List.append_cancel_left same⟩
  | _ => exact absurd type (by simp [typeName])

theorem jsonLegible_bool (b : Bool) : (bool b).JsonLegible := by
  intro c tree r s ends ends' same
  have type := typeName_eq_of_json (a := bool b) ⟨rfl, rfl⟩ tree same
  cases c with
  | bool c =>
    cases b <;> cases c
    case false.false => exact ⟨rfl, List.append_cancel_left same⟩
    case true.true => exact ⟨rfl, List.append_cancel_left same⟩
    all_goals exact absurd (List.cons.inj same).1 (by decide)
  | _ => exact absurd type (by simp [typeName])

/-- An integer ends where no digit follows. -/
theorem jsonLegible_integer (n : Int64) : (integer n).JsonLegible := by
  intro b tree r s ends ends' same
  have type := typeName_eq_of_json (a := integer n) ⟨rfl, rfl⟩ tree same
  cases b with
  | integer m =>
    obtain ⟨digits, rest⟩ := eq_of_runs (fun _ => isNumeral_of_mem) (fun _ => isNumeral_of_mem)
      ends ends' same
    rw [json, json, String.toList_inj, Int.toString_eq_repr, Int.toString_eq_repr] at digits
    rw [Int64.toInt_inj.1 (Int.repr_injective digits)]
    exact ⟨rfl, rest⟩
  | _ => exact absurd type (by simp [typeName])

theorem jsonLegible_text (t : String) : (text t).JsonLegible := by
  intro b tree r s ends ends' same
  have type := typeName_eq_of_json (a := text t) ⟨rfl, rfl⟩ tree same
  cases b with
  | text u =>
    obtain ⟨rfl, rest⟩ := prefixFree_jsonString t u r s same
    exact ⟨rfl, rest⟩
  | _ => exact absurd type (by simp [typeName])

mutual

/-- The JSON text of a tree is legible. -/
theorem json_legible (v : Value) (h : v.IsTree) : v.JsonLegible := by
  cases v with
  | list items => exact jsonLegible_list h (jsonItems_legible items h)
  | map entries => exact jsonLegible_map h (jsonEntries_legible entries h)
  | null => exact jsonLegible_null
  | bool b => exact jsonLegible_bool b
  | integer n => exact jsonLegible_integer n
  | text s => exact jsonLegible_text s
  | float x => cases h.1
  | _ => cases h.2

/-- All items of a list of trees can be read back. -/
theorem jsonItems_legible (items : List Value) (h : (list items).IsTree) :
    ∀ v ∈ items, v.JsonLegible := by
  cases items with
  | nil => exact fun v held => absurd held List.not_mem_nil
  | cons v rest =>
    exact List.forall_mem_cons.2 ⟨json_legible v h.1, jsonItems_legible rest h.2⟩

/-- All entries of a map of trees can be read back. -/
theorem jsonEntries_legible (entries : List (String × Value)) (h : (map entries).IsTree) :
    ∀ entry ∈ entries, entry.2.JsonLegible := by
  cases entries with
  | nil => exact fun v held => absurd held List.not_mem_nil
  | cons entry rest =>
    exact List.forall_mem_cons.2 ⟨json_legible entry.2 h.1, jsonEntries_legible rest h.2⟩

end

/-- Trees with one JSON text are one. -/
theorem eq_of_json {a b : Value} (ha : a.IsTree) (hb : b.IsTree) (same : a.json = b.json) :
    a = b := by
  have texts : a.json.toList ++ [] = b.json.toList ++ [] := congrArg (·.toList ++ []) same
  exact (json_legible a ha b hb [] [] ends_nil ends_nil texts).1

/-! ## The text of a value -/

/-- **JSON text identifies a value.** Values without floating-point numbers have one JSON text if
and only if they come back the same from data, that is, if they are the same when their dates are
texts. This is so for what the `json` helper makes of them, and for the display of maps. Two trees
have one JSON text only if they are one. -/
theorem json_identifies {a b : Value} (wellFormed : a.WellFormed ∧ b.WellFormed)
    (floatFree : a.FloatFree ∧ b.FloatFree) :
    (a.json = b.json ↔ a.toDatum.toValue? = b.toDatum.toValue?) ∧
    (a.json = b.json ↔ a.plain = b.plain) ∧
    (∀ locales, ∃ helper, (HelperTable.standard locales).get? "json" = some helper ∧
      (helper [a] = helper [b] ↔ a.json = b.json)) ∧
    (∀ es fs, a = map es → b = map fs → (a.display = b.display ↔ a.plain = b.plain)) ∧
    (a.IsTree → b.IsTree → a.json = b.json → a = b) := by
  have plain : a.json = b.json ↔ a.plain = b.plain := by
    rw [← json_plain a, ← json_plain b]
    exact ⟨eq_of_json floatFree.1.plain floatFree.2.plain, congrArg json⟩
  refine ⟨?_, plain, ?_, ?_, eq_of_json⟩
  · rw [toValue?_toDatum wellFormed.1, toValue?_toDatum wellFormed.2, Except.ok.injEq]
    exact plain
  · intro locales
    refine ⟨Helper.json, HelperTable.get?_standard locales "json", ?_⟩
    simp [Helper.json, Helper.firstArgument]
  · rintro es fs rfl rfl
    exact plain

/-- A map that holds a day, and one that holds the text of the day. -/
theorem json_identifies_day :
    let a := map [("k\"", list [null, date ⟨2024, 2, 29, by decide⟩])]
    let b := map [("k\"", list [null, text "2024-02-29"])]
    (a.WellFormed ∧ b.WellFormed) ∧ (a.FloatFree ∧ b.FloatFree) ∧
      (a.json = b.json ↔ a.toDatum.toValue? = b.toDatum.toValue?) ∧ a ≠ b ∧ a.json = b.json := by
  intro a b
  have wellFormed : a.WellFormed ∧ b.WellFormed := by
    simp [a, b, WellFormed, WellFormedEntries, WellFormedItems, Keyed.names]
  have floatFree : a.FloatFree ∧ b.FloatFree := by
    simp [a, b, FloatFree, Leaves, LeavesEntries, LeavesItems, isFloat]
  have day : a.plain = b.plain := by cbv
  obtain ⟨data, plain, -⟩ := json_identifies wellFormed floatFree
  exact ⟨wellFormed, floatFree, data, by simp [a, b], plain.2 day⟩

end TextTemplate.Value
