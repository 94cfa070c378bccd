import Mathlib.Data.List.Nodup

/-!
# Legible writing

What is written for a value is legible if it tells which value it was written for, and where it
ends, in front of whatever may follow it (`Legible`). A way of writing that is legible in front of
anything is `PrefixFree`. What is written for values in a row is legible if that of each is
(`Legible.flatMap`), and so is a text between quotes if its characters are written so that no quote
is among them but behind a backslash (`prefixFree_quoted`).
-/

namespace TextTemplate

variable {α : Type}

/-- What is written for `a`, with something behind it that may follow, is not what is written for
another good value, with something behind it that may follow. -/
def Legible (write : α → List Char) (good : α → Prop) (follows : List Char → Prop) (a : α) : Prop :=
  ∀ b, good b → ∀ r s, follows r → follows s → write a ++ r = write b ++ s → a = b ∧ r = s

/-- What is written is legible in front of anything. -/
def PrefixFree (write : α → List Char) : Prop :=
  ∀ a b r s, write a ++ r = write b ++ s → a = b ∧ r = s

/-- What is never the front of another text needs no help from what follows. -/
theorem PrefixFree.legible {write : α → List Char} (h : PrefixFree write) {good : α → Prop}
    {follows : List Char → Prop} (a : α) : Legible write good follows a :=
  fun b _ r s _ _ same => h a b r s same

/-- What is written for each value may have the same in front. -/
theorem Legible.behind {write : α → List Char} {good : α → Prop} {follows : List Char → Prop}
    {a : α} (h : Legible write good follows a) (front : List Char) :
    Legible (fun a => front ++ write a) good follows a := by
  intro b proper r s ends ends' same
  simp only [List.append_assoc] at same
  exact h b proper r s ends ends' (List.append_cancel_left same)

/-! ## Runs of characters -/

/-- No character that passes stands in front. -/
def Ends (passes : Char → Bool) (r : List Char) : Prop := ∀ c more, r = c :: more → passes c = false

theorem ends_cons {passes : Char → Bool} {c : Char} (h : passes c = false) (more : List Char) :
    Ends passes (c :: more) := by
  rintro d rest ⟨⟩
  exact h

theorem ends_nil {passes : Char → Bool} : Ends passes [] := by
  rintro c more ⟨⟩

/-- Behind an end there is nothing more to take. -/
theorem takeWhile_of_ends {passes : Char → Bool} {r : List Char} (h : Ends passes r) :
    r.takeWhile passes = [] := by
  cases r with
  | nil => rfl
  | cons c more => rw [List.takeWhile_cons, h c more rfl, if_neg Bool.false_ne_true]

theorem dropWhile_of_ends {passes : Char → Bool} {r : List Char} (h : Ends passes r) :
    r.dropWhile passes = r := by
  cases r with
  | nil => rfl
  | cons c more => rw [List.dropWhile_cons, h c more rfl, if_neg Bool.false_ne_true]

/-- Two runs of characters that pass are told apart where they end. -/
theorem eq_of_runs {passes : Char → Bool} {cs ds r s : List Char}
    (all : ∀ c ∈ cs, passes c = true) (all' : ∀ d ∈ ds, passes d = true) (ends : Ends passes r)
    (ends' : Ends passes s) (same : cs ++ r = ds ++ s) : cs = ds ∧ r = s := by
  have runs := congrArg (List.takeWhile passes) same
  rw [List.takeWhile_append_of_pos all, List.takeWhile_append_of_pos all', takeWhile_of_ends ends,
    takeWhile_of_ends ends', List.append_nil, List.append_nil] at runs
  subst runs
  exact ⟨rfl, List.append_cancel_left same⟩

/-- Values that are written as runs of characters that pass. -/
theorem legible_run {write : α → List Char} {good : α → Prop} {passes : Char → Bool} {a : α}
    (all : ∀ b, good b → ∀ c ∈ write b, passes c = true) (proper : good a)
    (injective : ∀ b, good b → write a = write b → a = b) :
    Legible write good (Ends passes) a := by
  intro b good' r s ends ends' same
  obtain ⟨first, rest⟩ := eq_of_runs (all a proper) (all b good') ends ends' same
  exact ⟨injective b good' first, rest⟩

/-! ## Values in a row -/

section
variable {write : α → List Char} {good : α → Prop} {follows stops : List Char → Prop} {as : List α}

/-- Values in a row may follow if each may, and if so may what stands behind the last. -/
theorem follows_flatMap (goesOn : ∀ a, good a → ∀ r, follows (write a ++ r))
    (last : ∀ r, stops r → follows r) (proper : ∀ a ∈ as, good a) {r : List Char} (stop : stops r) :
    follows (as.flatMap write ++ r) := by
  cases as with
  | nil => exact last r stop
  | cons a as =>
    rw [List.flatMap_cons, List.append_assoc]
    exact goesOn a (proper a List.mem_cons_self) _

/-- What is written for values in a row is legible in front of what begins no other value. -/
theorem Legible.flatMap (each : ∀ a ∈ as, Legible write good follows a) (proper : ∀ a ∈ as, good a)
    (goesOn : ∀ a, good a → ∀ r, follows (write a ++ r))
    (starts : ∀ a, good a → ∀ r, ¬ stops (write a ++ r)) (last : ∀ r, stops r → follows r) :
    Legible (List.flatMap write) (fun bs => ∀ b ∈ bs, good b) stops as := by
  intro bs proper' r s stop stop' same
  -- By induction on the members, which are read back one after the other. One list ends where the
  -- other does, since no member begins with what stops them.
  induction as generalizing bs with
  | nil =>
    cases bs with
    | nil => exact ⟨rfl, same⟩
    | cons b bs =>
      rw [List.flatMap_nil, List.nil_append, List.flatMap_cons, List.append_assoc] at same
      exact absurd (same ▸ stop) (starts b (proper' b List.mem_cons_self) _)
  | cons a as ih =>
    rw [List.forall_mem_cons] at each proper
    rw [List.flatMap_cons, List.append_assoc] at same
    cases bs with
    | nil =>
      rw [List.flatMap_nil, List.nil_append] at same
      exact absurd (same ▸ stop') (starts a proper.1 _)
    | cons b bs =>
      rw [List.forall_mem_cons] at proper'
      rw [List.flatMap_cons, List.append_assoc] at same
      obtain ⟨rfl, rest⟩ := each.1 b proper'.1 _ _ (follows_flatMap goesOn last proper.2 stop)
        (follows_flatMap goesOn last proper'.2 stop') same
      obtain ⟨rfl, stopped⟩ := ih each.2 proper.2 bs proper'.2 rest
      exact ⟨rfl, stopped⟩

end

/-- Values with separators between them, the first of which stands on its own. -/
theorem intercalate_cons (separator : List Char) (write : α → List Char) (a : α) (as : List α) :
    separator.intercalate ((a :: as).map write) =
      write a ++ as.flatMap fun b => separator ++ write b := by
  induction as generalizing a with
  | nil => simp
  | cons b as ih =>
    have rest := ih b
    rw [List.map_cons] at rest
    rw [List.map_cons, List.map_cons, List.intercalate_cons_cons, rest, List.flatMap_cons]
    simp only [List.append_assoc]

/-- Values with separators between them are legible in front of what begins no value. -/
theorem Legible.intercalate {separator : List Char} {write : α → List Char} {good : α → Prop}
    {follows stops : List Char → Prop} {as : List α}
    (each : ∀ a ∈ as, Legible write good follows a) (proper : ∀ a ∈ as, good a)
    (goesOn : ∀ r, follows (separator ++ r)) (parts : ∀ r, ¬ stops (separator ++ r))
    (starts : ∀ a, good a → ∀ r, ¬ stops (write a ++ r)) (last : ∀ r, stops r → follows r) :
    Legible (fun as => separator.intercalate (as.map write)) (fun bs => ∀ b ∈ bs, good b)
      stops as := by
  intro bs proper' r s stop stop' same
  have goesOn' : ∀ a, good a → ∀ r, follows ((separator ++ write a) ++ r) := by
    intro a _ r
    rw [List.append_assoc]
    exact goesOn _
  cases as with
  | nil =>
    cases bs with
    | nil => exact ⟨rfl, same⟩
    | cons b bs =>
      simp only [List.map_nil, List.intercalate_nil, List.nil_append, intercalate_cons,
        List.append_assoc] at same
      exact absurd (same ▸ stop) (starts b (proper' b List.mem_cons_self) _)
  | cons a as =>
    rw [List.forall_mem_cons] at each proper
    simp only [intercalate_cons, List.append_assoc] at same
    cases bs with
    | nil =>
      simp only [List.map_nil, List.intercalate_nil, List.nil_append] at same
      exact absurd (same ▸ stop') (starts a proper.1 _)
    | cons b bs =>
      rw [List.forall_mem_cons] at proper'
      simp only [intercalate_cons, List.append_assoc] at same
      obtain ⟨rfl, rest⟩ := each.1 b proper'.1 _ _ (follows_flatMap goesOn' last proper.2 stop)
        (follows_flatMap goesOn' last proper'.2 stop') same
      -- Behind the first values there are values with their separators in front.
      have others : Legible (List.flatMap fun b => separator ++ write b)
          (fun bs => ∀ b ∈ bs, good b) stops as := by
        refine .flatMap (fun a held => (each.2 a held).behind separator) proper.2 goesOn' ?_ last
        intro a _ r
        rw [List.append_assoc]
        exact parts _
      obtain ⟨rfl, stopped⟩ := others bs proper'.2 r s stop stop' rest
      exact ⟨rfl, stopped⟩

/-- Values between brackets, with separators between them, are legible in front of anything. -/
theorem Legible.enclosed (opening closing : Char) (separator : List Char) {write : α → List Char}
    {good : α → Prop} {follows : List Char → Prop} {as : List α}
    (each : ∀ a ∈ as, Legible write good follows a) (proper : ∀ a ∈ as, good a)
    (goesOn : ∀ r, follows (separator ++ r)) (last : ∀ r, follows (closing :: r))
    (parts : ∀ r more, separator ++ r ≠ closing :: more)
    (starts : ∀ a, good a → ∀ r more, write a ++ r ≠ closing :: more) :
    Legible (fun as => opening :: (separator.intercalate (as.map write) ++ [closing]))
      (fun bs => ∀ b ∈ bs, good b) (fun _ => True) as := by
  -- Inside the brackets, whatever comes next begins with the closing one.
  have inside : Legible (fun as => separator.intercalate (as.map write))
      (fun bs => ∀ b ∈ bs, good b) (fun r => ∃ more, r = closing :: more) as := by
    refine .intercalate each proper goesOn ?_ ?_ ?_
    · rintro r ⟨more, same⟩
      exact parts r more same
    · rintro a good r ⟨more, same⟩
      exact starts a good r more same
    · rintro r ⟨more, rfl⟩
      exact last more
  intro bs proper' r s _ _ same
  simp only [List.cons_append, List.append_assoc, List.nil_append, List.cons.injEq,
    true_and] at same
  obtain ⟨values, rest⟩ := inside bs proper' _ _ ⟨r, rfl⟩ ⟨s, rfl⟩ same
  exact ⟨values, (List.cons.inj rest).2⟩

/-! ## Quoted texts -/

/-- How a character stands between quotes: by a short escape of the table, by its code point, or as
it is. -/
inductive Escaped (table : List (Char × Char)) (coded : Char → Prop) (point : Char → List Char)
    (c : Char) : List Char → Prop
  | short {e : Char} : (c, e) ∈ table → Escaped table coded point c ['\\', e]
  | point : coded c → Escaped table coded point c ('\\' :: 'u' :: point c)
  | plain : c ≠ '\\' → c ≠ '"' → Escaped table coded point c [c]

section
variable {table : List (Char × Char)} {coded : Char → Prop} {point code : Char → List Char}

/-- A character between quotes is legible if its short escape and its code point are. -/
theorem prefixFree_of_escaped (h : ∀ c, Escaped table coded point c (code c))
    (distinct : (table.map (·.2)).Nodup) (apart : 'u' ∉ table.map (·.2))
    (points : ∀ c, coded c → Legible point coded (fun _ => True) c) : PrefixFree code := by
  intro c d r s same
  have first := h c
  have second := h d
  generalize code c = cs at first same
  generalize code d = ds at second same
  -- The first character tells marks from plain characters, and the second one marks from points.
  cases first with
  | short among =>
    cases second with
    | short among' =>
      cases same
      have same := List.inj_on_of_nodup_map distinct among among' rfl
      exact ⟨congrArg Prod.fst same, rfl⟩
    | point =>
      cases same
      exact absurd (List.mem_map_of_mem among) apart
    | plain backslash =>
      cases same
      exact absurd rfl backslash
  | point here =>
    cases second with
    | short among' =>
      cases same
      exact absurd (List.mem_map_of_mem among') apart
    | point here' =>
      exact points c here d here' r s trivial trivial (List.cons.inj (List.cons.inj same).2).2
    | plain backslash =>
      cases same
      exact absurd rfl backslash
  | plain backslash =>
    cases second with
    | plain =>
      cases same
      exact ⟨rfl, rfl⟩
    | _ =>
      cases same
      exact absurd rfl backslash

/-- No character between quotes begins with a quote. -/
theorem Escaped.ne_quote {c : Char} {cs : List Char} (h : Escaped table coded point c cs)
    (r s : List Char) : cs ++ r ≠ '"' :: s := by
  cases h with
  | plain _ quote => exact fun same => quote (List.cons.inj same).1
  | _ => exact fun same => absurd (List.cons.inj same).1 (by decide)

/-- A text between quotes. -/
theorem prefixFree_quoted (h : ∀ c, Escaped table coded point c (code c))
    (free : PrefixFree code) :
    PrefixFree fun s : String => '"' :: s.toList.flatMap code ++ ['"'] := by
  intro a b r s same
  have inside : Legible (List.flatMap code) (fun ds => ∀ d ∈ ds, True)
      (fun r => ∃ more, r = '"' :: more) a.toList := by
    refine .flatMap (fun c _ => free.legible c) (fun _ _ => trivial) (fun _ _ _ => trivial) ?_
      fun _ _ => trivial
    rintro c - r ⟨s, quote⟩
    exact (h c).ne_quote r s quote
  have same : a.toList.flatMap code ++ '"' :: r = b.toList.flatMap code ++ '"' :: s := by
    simpa using same
  obtain ⟨chars, rest⟩ := inside _ (fun _ _ => trivial) _ _ ⟨r, rfl⟩ ⟨s, rfl⟩ same
  exact ⟨String.toList_inj.1 chars, (List.cons.inj rest).2⟩

end

end TextTemplate
