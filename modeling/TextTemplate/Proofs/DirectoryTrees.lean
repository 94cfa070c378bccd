import Mathlib.Data.List.Nodup
import TextTemplate.Partial.Directory
import TextTemplate.Proofs.Entries

/-!
# The files of a directory tree

The files of a tree can be listed, or asked for by their paths. Where the names in each directory
are different and can be those of files, both see the same files: what is found at a path is what
the list has there (`Entry.follow_eq_file`), and the list has every path once
(`Entry.nodup_paths`). The list has the files of a directory in the order of its entries, whatever
that is, so that it stands for any walk that goes through one entry after the other.

A path leads from where its front leads to (`Entry.exists_of_follow_append`). One that goes down at
each step does not see what is around, and ends inside of where it starts (`Entry.follow_eq_find`,
`Entry.inside_of_find`).
-/

namespace TextTemplate.Entry

/-! ## Trees -/

/-- Whether a file or a directory can have the name. -/
def IsFileName (name : String) : Prop :=
  name ≠ "" ∧ name ≠ "." ∧ name ≠ ".." ∧ name.utf8ByteSize ≤ longestName

instance : DecidablePred IsFileName := fun _ => inferInstanceAs (Decidable (_ ∧ _))

mutual

/-- Every directory has different names in it, all of which are possible. -/
def IsTree : Entry → Prop
  | file _ => True
  | directory entries => (Keyed.names entries).Nodup ∧ AreTrees entries

def AreTrees : List (String × Entry) → Prop
  | [] => True
  | (name, e) :: rest => IsFileName name ∧ IsTree e ∧ AreTrees rest

end

/-- The entries of a directory are trees one by one. -/
theorem areTrees_iff {entries : List (String × Entry)} :
    AreTrees entries ↔ ∀ entry ∈ entries, IsFileName entry.1 ∧ IsTree entry.2 := by
  induction entries with
  | nil => exact iff_of_true trivial (List.forall_mem_nil _)
  | cons entry rest ih => rw [AreTrees, ih, List.forall_mem_cons, and_assoc]

/-! ## Listed files -/

/-- A file below a directory is one below an entry of it, with the name of the entry in front of its
path. -/
theorem mem_filesOf {entries : List (String × Entry)} {path : List String}
    {content : List UInt8} :
    (path, content) ∈ filesOf entries ↔
      ∃ name e rest, (name, e) ∈ entries ∧ (rest, content) ∈ files e ∧ name :: rest = path := by
  induction entries with
  | nil => simp [filesOf]
  | cons entry others ih =>
    rw [filesOf, List.mem_append, ih, List.mem_map]
    constructor
    -- The file is below the first entry or below another one.
    · rintro (⟨⟨rest, c⟩, held, same⟩ | ⟨name, e, rest, mem, held, same⟩)
      · cases same
        exact ⟨entry.1, entry.2, rest, List.mem_cons_self .., held, rfl⟩
      · exact ⟨name, e, rest, List.mem_cons_of_mem _ mem, held, same⟩
    · rintro ⟨name, e, rest, mem, held, same⟩
      rcases List.mem_cons.1 mem with rfl | mem
      · exact .inl ⟨(rest, content), held, by rw [← same]⟩
      · exact .inr ⟨name, e, rest, mem, held, same⟩

/-- Whether a component of a path stands for an entry of the directory it is met in. -/
def IsStep (name : String) : Prop := name ≠ "" ∧ name ≠ "." ∧ name ≠ ".."

/-- A component that goes down leads to the entry of its name, if the name is not too long. -/
theorem follow_cons {name : String} (step : IsStep name) (around : List Entry) (rest : List String)
    (entries : List (String × Entry)) :
    follow around (name :: rest) (directory entries) =
      if longestName < name.utf8ByteSize then .error .nameTooLong
      else
        match Keyed.get? name entries with
        | none => .error .notFound
        | some inner => follow (directory entries :: around) rest inner := by
  obtain ⟨nonempty, onePoint, twoPoints⟩ := step
  rw [follow.eq_def]
  exact (if_neg (not_or.2 ⟨nonempty, onePoint⟩)).trans (if_neg twoPoints)

/-- In a tree, what is at a path is the file that the list has there. -/
theorem follow_eq_file {around : List Entry} {path : List String} {e : Entry}
    {content : List UInt8} (tree : e.IsTree) (steps : ∀ name ∈ path, IsStep name) :
    follow around path e = .ok (file content) ↔ (path, content) ∈ files e := by
  induction path generalizing around e with
  | nil =>
    have here : follow around [] e = .ok e := by rw [follow]
    cases e with
    | file c => simp [here, files, eq_comm]
    | directory entries => simp [here, files, mem_filesOf]
  | cons name rest ih =>
    cases e with
    | file c => simp [follow, files]
    | directory entries =>
      obtain ⟨step, steps⟩ := List.forall_mem_cons.1 steps
      rw [IsTree, areTrees_iff] at tree
      -- An entry of the tree is the one that its name is looked up to.
      have entry : ∀ e, (name, e) ∈ entries →
          follow around (name :: rest) (directory entries) =
            follow (directory entries :: around) rest e := by
        intro e mem
        have fits : ¬longestName < name.utf8ByteSize := Nat.not_lt.2 (tree.2 _ mem).1.2.2.2
        rw [follow_cons step, if_neg fits, Keyed.get?_of_mem tree.1 mem]
      rw [files, mem_filesOf]
      constructor
      · intro found
        -- Of the ways to fail none finds a file.
        have held : ∃ e, (name, e) ∈ entries := by
          rw [follow_cons step] at found
          split at found
          · cases found
          · split at found
            · cases found
            · next e got => exact ⟨e, Keyed.mem_of_get? got⟩
        obtain ⟨e, mem⟩ := held
        rw [entry e mem] at found
        exact ⟨name, e, rest, mem, (ih (tree.2 _ mem).2 steps).1 found, rfl⟩
      · rintro ⟨_, e, _, mem, held, same⟩
        cases same
        rw [entry e mem]
        exact (ih (tree.2 _ mem).2 steps).2 held

/-- The text that can be read is that of the file that is found. -/
theorem read_eq_ok_iff {path : List String} {e : Entry} {text : String} :
    read path e = .ok text ↔
      ∃ content, e.find path = .ok (file content) ∧ decode content = .ok text := by
  rw [read]
  cases e.find path with
  | error cause => simp
  | ok inner =>
    cases inner with
    | file content => simp
    | directory entries => simp

/-- An empty component in front of others stays in the directory. What is no directory is refused by
any component. -/
theorem read_empty_cons {path : List String} (nonempty : path ≠ []) (e : Entry) :
    read ("" :: path) e = read path e := by
  have same : e.find ("" :: path) = e.find path := by
    cases e with
    | directory entries =>
      rw [find, follow.eq_def]
      exact if_pos (.inl rfl)
    | file content =>
      obtain ⟨name, rest, rfl⟩ := List.exists_cons_of_ne_nil nonempty
      rw [find, find, follow, follow]
  rw [read, read, same]

/-- The text of a file can be read where the list has the file and its content is text. -/
theorem read_eq_ok {path : List String} {e : Entry} {text : String} (tree : e.IsTree)
    (steps : ∀ name ∈ path, IsStep name) :
    read path e = .ok text ↔ ∃ content, (path, content) ∈ files e ∧ decode content = .ok text := by
  have listed : ∀ content, e.find path = .ok (file content) ↔ (path, content) ∈ files e :=
    fun _ => follow_eq_file tree steps
  simp only [read_eq_ok_iff, listed]

/-! ## Paths that go down -/

/-- An entry is inside a directory if this has it, or another directory inside has it. -/
inductive Inside (e : Entry) : Entry → Prop
  | here {name : String} {entries : List (String × Entry)} :
    (name, e) ∈ entries → Inside e (directory entries)
  | deeper {name : String} {inner : Entry} {entries : List (String × Entry)} :
    (name, inner) ∈ entries → Inside e inner → Inside e (directory entries)

/-- A path that goes down at each step does not see what is around. -/
theorem follow_eq_find {path : List String} (steps : ∀ name ∈ path, IsStep name)
    (around : List Entry) (e : Entry) : follow around path e = e.find path := by
  -- What is around matters to a step upwards only, of which there is none.
  suffices same : ∀ around', follow around path e = follow around' path e from same []
  intro around'
  induction path generalizing around around' e with
  | nil => rw [follow, follow]
  | cons name rest ih =>
    cases e with
    | file content => rw [follow, follow]
    | directory entries =>
      obtain ⟨step, steps⟩ := List.forall_mem_cons.1 steps
      rw [follow_cons step, follow_cons step]
      split
      · rfl
      · split
        · rfl
        · exact ih steps _ _ _

/-- What is found at the end of a path that goes down is inside. -/
theorem inside_of_find {path : List String} {e found : Entry} (nonempty : path ≠ [])
    (steps : ∀ name ∈ path, IsStep name) (h : e.find path = .ok found) : found.Inside e := by
  induction path generalizing e with
  | nil => exact absurd rfl nonempty
  | cons name rest ih =>
    cases e with
    | file content => cases h
    | directory entries =>
      obtain ⟨step, steps⟩ := List.forall_mem_cons.1 steps
      rw [find, follow_cons step] at h
      split at h
      · cases h
      · split at h
        · cases h
        · next inner got =>
          have mem : (name, inner) ∈ entries := Keyed.mem_of_get? got
          -- At the last name the entry itself is found, before it something inside it.
          by_cases last : rest = []
          · rw [last, follow] at h
            rw [← Except.ok.inj h]
            exact .here mem
          · rw [follow_eq_find steps] at h
            exact .deeper mem (ih last steps h)

/-- What one component leads to in a directory, and the directories around it. -/
def step? (around : List Entry) (name : String) (entries : List (String × Entry)) :
    Except ReadError (List Entry × Entry) :=
  if name = "" ∨ name = "." then .ok (around, directory entries)
  else if name = ".." then
    match around with
    | [] => .error .notFound
    | outer :: around => .ok (around, outer)
  else if longestName < name.utf8ByteSize then .error .nameTooLong
  else
    match Keyed.get? name entries with
    | none => .error .notFound
    | some inner => .ok (directory entries :: around, inner)

/-- A path is followed one component after the other. -/
theorem follow_eq_step (around : List Entry) (name : String) (rest : List String)
    (entries : List (String × Entry)) :
    follow around (name :: rest) (directory entries) =
      step? around name entries >>= fun reached => follow reached.1 rest reached.2 := by
  rw [follow.eq_def, step?.eq_def]
  dsimp only
  split
  · rfl
  · split
    · cases around <;> rfl
    · split
      · rfl
      · cases Keyed.get? name entries <;> rfl

/-- Where a path leads on, its front leads to one place, from which any other path goes on. -/
theorem exists_of_follow_append {front rest : List String} {around : List Entry} {e found : Entry}
    (h : follow around (front ++ rest) e = .ok found) :
    ∃ outer place, follow outer rest place = .ok found ∧
      ∀ other, follow around (front ++ other) e = follow outer other place := by
  -- The walk along the front ends at a place, and what is behind starts there whatever it is.
  induction front generalizing around e with
  | nil => exact ⟨around, e, h, fun _ => rfl⟩
  | cons name front ih =>
    cases e with
    | file content => cases h
    | directory entries =>
      simp only [List.cons_append, follow_eq_step] at h ⊢
      cases reached : step? around name entries with
      | error cause =>
        rw [reached] at h
        cases h
      | ok place =>
        rw [reached] at h
        exact ih h

mutual

/-- Every path is listed once. -/
theorem nodup_paths {e : Entry} (tree : e.IsTree) : ((files e).map (·.1)).Nodup := by
  cases e with
  | file content => exact List.nodup_singleton _
  | directory entries =>
    rw [IsTree] at tree
    rw [files]
    exact nodup_pathsOf tree.1 tree.2

/-- The files of a directory have different paths, since its entries have different names. -/
theorem nodup_pathsOf {entries : List (String × Entry)} (nodup : (Keyed.names entries).Nodup)
    (trees : AreTrees entries) : ((filesOf entries).map (·.1)).Nodup := by
  cases entries with
  | nil => exact List.nodup_nil
  | cons entry rest =>
    obtain ⟨apart, nodup⟩ := List.nodup_cons.1 nodup
    have first : ((files entry.2).map (·.1)).Nodup := nodup_paths trees.2.1
    have others : ((filesOf rest).map (·.1)).Nodup := nodup_pathsOf nodup trees.2.2
    have paths : (filesOf (entry :: rest)).map (·.1) =
        ((files entry.2).map (·.1)).map (entry.1 :: ·) ++ (filesOf rest).map (·.1) := by
      rw [filesOf, List.map_append, List.map_map, List.map_map]
      rfl
    rw [paths]
    -- A path in both parts would begin with the first name and with one behind it.
    refine (first.map fun _ _ same => (List.cons.inj same).2).append others ?_
    intro path here there
    obtain ⟨tail, -, rfl⟩ := List.mem_map.1 here
    obtain ⟨⟨_, content⟩, held, rfl⟩ := List.mem_map.1 there
    obtain ⟨name, e, _, mem, -, same⟩ := mem_filesOf.1 held
    cases same
    exact apart (List.mem_map.2 ⟨_, mem, rfl⟩)

end

end TextTemplate.Entry
