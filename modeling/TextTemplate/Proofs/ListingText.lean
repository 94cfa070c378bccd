import Mathlib
import TextTemplate.Program.Listing
import TextTemplate.Proofs.Legible
import TextTemplate.Proofs.SpelledNames

/-!
# Listings are legible

The listing of steps tells which steps it lists (`Op.eq_of_listings`). A quoted text ends at its
quote, a name where no word goes on, and an expression in front of what may stand behind one in a
listing. The steps of a block are further in than what closes it, so a block ends where a line
begins earlier; and the first word of a line tells the kind of the step, so that the induction on
the steps goes kind by kind.

The listing of an expression does not show the path that is kept for messages. It can be told from
what the listing shows, but for an expression that begins at a loop slot.
-/

namespace TextTemplate

open Lexer

/-! ## Quoted texts -/

namespace Quoted

theorem digitChar_injective {m n : Nat} (hm : m < 16) (hn : n < 16)
    (same : Nat.digitChar m = Nat.digitChar n) : m = n := by
  have all : ∀ m < 16, ∀ n < 16, Nat.digitChar m = Nat.digitChar n → m = n := by decide
  exact all m hm n hn same

/-- A number is determined by its hexadecimal digits. -/
theorem hexDigits_injective {m n : Nat} (same : Nat.toDigits 16 m = Nat.toDigits 16 n) :
    m = n := by
  induction m using Nat.strongRecOn generalizing n with
  | ind m ih =>
    rw [Nat.toDigits_eq_if (n := m) (by omega), Nat.toDigits_eq_if (n := n) (by omega)] at same
    have several : ∀ {k : Nat} {c d : Char}, Nat.toDigits 16 k ++ [c] ≠ [d] := by
      intro k c d single
      have lengths := congrArg List.length single
      have positive := List.length_pos_iff.2 (Nat.toDigits_ne_nil (b := 16) (n := k))
      simp only [List.length_append, List.length_cons, List.length_nil] at lengths
      omega
    -- Numbers with one digit are told from larger ones by the number of digits; of larger ones the
    -- last digit is taken off.
    split at same
    · split at same
      · exact digitChar_injective ‹_› ‹_› (List.cons.inj same).1
      · exact absurd same.symm several
    · split at same
      · exact absurd same several
      · obtain ⟨high, low⟩ := List.append_inj' same rfl
        have high := ih (m / 16) (by omega) high
        have low := digitChar_injective (by omega) (by omega) (List.cons.inj low).1
        omega

/-- No hexadecimal digit is the brace behind it. -/
theorem ne_brace_of_mem_hexDigits {n : Nat} {c : Char} (h : c ∈ Nat.toDigits 16 n) :
    c ≠ '\x7d' := by
  have digit : ∀ m < 16, Nat.digitChar m ≠ '\x7d' := by decide
  induction n using Nat.strongRecOn with
  | ind n ih =>
    rw [Nat.toDigits_eq_if (by omega)] at h
    split at h
    · rw [List.mem_singleton.1 h]
      exact digit n ‹_›
    · rcases List.mem_append.1 h with high | low
      · exact ih (n / 16) (by omega) high
      · rw [List.mem_singleton.1 low]
        exact digit _ (by omega)

/-- The characters with a short escape in quoted texts. -/
def escapes : List (Char × Char) :=
  [('"', '"'), ('\\', '\\'), ('\t', 't'), ('\r', 'r'), ('\n', 'n'), ('\x00', '0')]

/-- A code point in quoted texts. -/
def point (c : Char) : List Char := '\x7b' :: (Nat.toDigits 16 c.toNat ++ ['\x7d'])

/-- A quoted character is written as itself, by a mark of its own, or by its code point in braces.
-/
theorem escaped_encodeChar (c : Char) :
    Escaped escapes (fun _ => True) point c (encodeChar c) := by
  unfold encodeChar
  split_ifs with quote backslash tab carriage newline zero hidden
  · subst quote
    exact .short (by decide)
  · subst backslash
    exact .short (by decide)
  · subst tab
    exact .short (by decide)
  · subst carriage
    exact .short (by decide)
  · subst newline
    exact .short (by decide)
  · subst zero
    exact .short (by decide)
  · exact .point trivial
  · exact .plain backslash quote

/-- No character is quoted with another one's text at its front. -/
theorem prefixFree_encodeChar : PrefixFree encodeChar := by
  refine prefixFree_of_escaped escaped_encodeChar (by decide) (by decide) ?_
  intro c _ d _ r s _ _ same
  have hexadecimal : ∀ {e : Char}, ∀ x ∈ Nat.toDigits 16 e.toNat, (x != '\x7d') = true :=
    fun x held => bne_iff_ne.2 (ne_brace_of_mem_hexDigits held)
  simp only [point, List.cons_append, List.append_assoc, List.nil_append, List.cons.injEq,
    true_and] at same
  obtain ⟨digits, rest⟩ := eq_of_runs hexadecimal hexadecimal (ends_cons (by decide) r)
    (ends_cons (by decide) s) same
  exact ⟨Char.toNat_inj.1 (hexDigits_injective digits), (List.cons.inj rest).2⟩

/-- A quoted text ends at its closing quote. -/
theorem prefixFree_encode : PrefixFree fun s => (encode s).toList := by
  have quoted := prefixFree_quoted escaped_encodeChar prefixFree_encodeChar
  simpa only [encode, String.toList_ofList] using quoted

end Quoted

/-! ## Names -/

/-- All characters of a word may go on with a word. -/
theorem Lexer.IsWord.continues {w : List Char} (h : IsWord w) :
    ∀ c ∈ w, continuesWord c = true := by
  obtain ⟨c, cs, rfl, starts, more⟩ := h
  exact List.forall_mem_cons.2 ⟨continuesWord_of_startsWord starts, more⟩

/-- A name is legible in front of what does not go on with a word. -/
theorem legible_name {s : String} (h : WordName s) :
    Legible String.toList WordName (Ends continuesWord) s :=
  legible_run (fun _ proper => proper.continues) h fun _ _ same => String.toList_inj.1 same

/-- So are names that have a mark in front of each, if the mark does not follow. -/
theorem legible_names {mark : List Char} (apart : ∀ r, Ends continuesWord (mark ++ r))
    {names : List String} (h : ∀ s ∈ names, WordName s) :
    Legible (List.flatMap fun s : String => mark ++ s.toList) (fun ns => ∀ s ∈ ns, WordName s)
      (fun r => Ends continuesWord r ∧ ¬ mark <+: r) names := by
  refine .flatMap (fun s held => (legible_name (h s held)).behind mark) h ?_ ?_ fun _ => And.left
  · intro s _ r
    rw [List.append_assoc]
    exact apart _
  · rintro s - r ⟨_, absent⟩
    rw [List.append_assoc] at absent
    exact absent (List.prefix_append ..)

/-! ## Expressions -/

/-- The names that an expression is written with. -/
def Base.names : Base → List String
  | binding _ => []
  | helper name => [name]
  | context key => [key]

/-- The path that a listing tells of an expression. -/
def Base.path (tail : List String) : Base → String
  | binding _ => ""
  | helper name => ".".intercalate (name :: tail)
  | context key => ".".intercalate (key :: tail)

/-- The expression without its path, if it begins at a loop slot. -/
def Expr.withoutBindingPath (e : Expr) : Expr :=
  match e.base with
  | .binding _ => { e with path := "" }
  | _ => e

/-- The names of the expression are words, and its path follows from them. -/
structure Expr.Written (e : Expr) : Prop where
  base : ∀ s ∈ e.base.names, WordName s
  tail : ∀ s ∈ e.tail, WordName s
  pipes : ∀ s ∈ e.pipes, WordName s
  path : e.path = e.base.path e.tail

/-- The expression of an accessor is written in words if the accessor is, once the paths that no
listing shows are forgotten. -/
theorem Expr.written_ofAccessor (names : List String) (scope : Scope) (guard : Guard)
    {a : Accessor} (h : a.Worded) :
    (Expr.ofAccessor names scope guard a).withoutBindingPath.Written := by
  simp only [Accessor.Worded, Accessor.names, Accessor.path, List.forall_mem_append,
    List.forall_mem_cons] at h
  obtain ⟨⟨head, tail⟩, pipes⟩ := h
  unfold ofAccessor
  split
  · exact ⟨by simp [withoutBindingPath, Base.names], tail, pipes, rfl⟩
  · split
    · exact ⟨List.forall_mem_singleton.2 head, tail, pipes, rfl⟩
    · exact ⟨List.forall_mem_singleton.2 head, tail, pipes, rfl⟩

theorem Expr.listing_withoutBindingPath (e : Expr) : e.withoutBindingPath.listing = e.listing := by
  unfold withoutBindingPath
  split <;> rfl

/-- How a listing marks an expression that may be absent. -/
def Guard.mark : Guard → List Char
  | required => []
  | optional => [' ', '?']

/-- An expression is listed by its base, the names of its path, its pipes and the mark of its guard.
-/
theorem Expr.toList_listing (e : Expr) :
    e.listing.toList = e.base.listing.toList ++
      ((e.tail.flatMap fun s => ['.'] ++ s.toList) ++
        ((e.pipes.flatMap fun s => " |> ".toList ++ s.toList) ++ e.guard.mark)) := by
  obtain ⟨base, tail, pipes, guard, path⟩ := e
  cases guard <;> simp [listing, Guard.mark, String.toList_join, List.flatMap_map]

theorem continuesWord_of_isDigit {c : Char} (h : c.isDigit = true) : continuesWord c = true := by
  simp [continuesWord, Char.isAlphanum, h]

/-- A slot is written in digits. -/
theorem continuesWord_of_mem_slot {slot : Nat} : ∀ c ∈ (toString slot).toList,
    continuesWord c = true := by
  intro c held
  rw [Nat.toString_eq_repr, Nat.toList_repr] at held
  exact continuesWord_of_isDigit (Nat.isDigit_of_mem_toDigits (by omega) (by omega) held)

/-- A base can be read back where no further character of a word follows. -/
theorem legible_base {b : Base} (h : ∀ s ∈ b.names, WordName s) :
    Legible (fun b => b.listing.toList) (fun b => ∀ s ∈ b.names, WordName s) (Ends continuesWord)
      b := by
  intro b' h' r s ends ends' same
  -- Each kind of base begins with a word of its own.
  cases b with
  | binding slot =>
    cases b' with
    | binding slot' =>
      simp only [Base.listing, String.toList_append, List.append_assoc,
        List.append_cancel_left_eq] at same
      obtain ⟨digits, rest⟩ := eq_of_runs continuesWord_of_mem_slot continuesWord_of_mem_slot ends
        ends' same
      rw [Nat.repr_injective (String.toList_inj.1 digits)]
      exact ⟨rfl, rest⟩
    | _ => simp [Base.listing] at same
  | helper name =>
    cases b' with
    | helper name' =>
      simp only [Base.listing, String.toList_append, List.append_assoc,
        List.append_cancel_left_eq] at same
      obtain ⟨rfl, rest⟩ := legible_name (h name List.mem_cons_self) name'
        (h' name' List.mem_cons_self) r s ends ends' same
      exact ⟨rfl, rest⟩
    | _ => simp [Base.listing] at same
  | context key =>
    cases b' with
    | context key' =>
      simp only [Base.listing, String.toList_append, List.append_assoc,
        List.append_cancel_left_eq] at same
      obtain ⟨rfl, rest⟩ := legible_name (h key List.mem_cons_self) key'
        (h' key' List.mem_cons_self) r s ends ends' same
      exact ⟨rfl, rest⟩
    | _ => simp [Base.listing] at same

/-- What may stand behind an expression in a listing. -/
def FollowsExpr (r : List Char) : Prop :=
  ∃ c more, r = c :: more ∧ (c = '\n' ∨ c = ')' ∨ c = ',' ∨ c = ' ' ∧ ∃ rest, more = 'a' :: rest)

theorem followsExpr_newline (r : List Char) : FollowsExpr (['\n'] ++ r) :=
  ⟨_, _, rfl, .inl rfl⟩

theorem followsExpr_paren (r : List Char) : FollowsExpr ([')'] ++ r) :=
  ⟨_, _, rfl, .inr (.inl rfl)⟩

theorem followsExpr_comma (r : List Char) : FollowsExpr ([',', ' '] ++ r) :=
  ⟨_, _, rfl, .inr (.inr (.inl rfl))⟩

theorem followsExpr_as (r : List Char) : FollowsExpr (" as ".toList ++ r) :=
  ⟨_, _, rfl, .inr (.inr (.inr ⟨rfl, _, rfl⟩))⟩

/-- What may stand behind an expression may stand behind a question mark, and what stands there
goes on with no name. -/
structure EndsNames (r : List Char) : Prop where
  word : Ends continuesWord r
  tail : ¬ ['.'] <+: r
  pipe : ¬ " |> ".toList <+: r

/-- What follows an expression ends its names too, with the mark of the guard in between. -/
theorem FollowsExpr.endsNames {r : List Char} (h : FollowsExpr r) (guard : Guard) :
    EndsNames (guard.mark ++ r) := by
  cases guard with
  | required =>
    obtain ⟨c, more, rfl, rfl | rfl | rfl | ⟨rfl, rest, rfl⟩⟩ := h <;>
      exact ⟨ends_cons rfl _, by simp [Guard.mark], by simp [Guard.mark]⟩
  | optional => exact ⟨ends_cons rfl _, by simp [Guard.mark], by simp [Guard.mark]⟩

/-- The mark of a guard can be told from what follows an expression. -/
theorem FollowsExpr.eq_of_mark {r s : List Char} (h : FollowsExpr r) (h' : FollowsExpr s)
    {guard guard' : Guard} (same : guard.mark ++ r = guard'.mark ++ s) :
    guard = guard' ∧ r = s := by
  have absent : ∀ {r}, FollowsExpr r → ∀ s, r ≠ [' ', '?'] ++ s := by
    rintro _ ⟨c, more, rfl, rfl | rfl | rfl | ⟨rfl, rest, rfl⟩⟩ s <;> simp
  cases guard with
  | required =>
    cases guard' with
    | required => exact ⟨rfl, same⟩
    | optional => exact absurd same (absent h s)
  | optional =>
    cases guard' with
    | required => exact absurd same.symm (absent h' r)
    | optional => exact ⟨rfl, List.append_cancel_left same⟩

/-- Behind the segments of its path an expression goes on with no name but by a pipe. -/
theorem FollowsExpr.endsTail {r : List Char} (h : FollowsExpr r) {pipes : List String}
    (words : ∀ s ∈ pipes, WordName s) (guard : Guard) :
    Ends continuesWord
        ((pipes.flatMap fun s => " |> ".toList ++ s.toList) ++ (guard.mark ++ r)) ∧
      ¬ ['.'] <+: (pipes.flatMap fun s => " |> ".toList ++ s.toList) ++ (guard.mark ++ r) := by
  constructor
  · refine @follows_flatMap _ _ WordName (Ends continuesWord) EndsNames pipes ?_
      (fun _ => EndsNames.word) words _ (h.endsNames guard)
    exact fun s _ r => ends_cons rfl _
  · refine @follows_flatMap _ _ WordName (¬ ['.'] <+: ·) EndsNames pipes ?_
      (fun _ => EndsNames.tail) words _ (h.endsNames guard)
    exact fun s _ r => by simp

/-- An expression is legible in front of what may follow it. -/
theorem Expr.Written.legible {e : Expr} (h : e.Written) :
    Legible (fun e : Expr => e.listing.toList) Expr.Written FollowsExpr e := by
  intro e' h' r s follows follows' same
  have dot : ∀ r, Ends continuesWord (['.'] ++ r) := fun r => ends_cons rfl r
  have arrow : ∀ r, Ends continuesWord (" |> ".toList ++ r) := fun r => ends_cons rfl _
  have segments : ∀ {tail : List String} {r}, (∀ s ∈ tail, WordName s) → Ends continuesWord r →
      Ends continuesWord ((tail.flatMap fun s => ['.'] ++ s.toList) ++ r) := by
    intro tail r words ends
    refine @follows_flatMap _ _ WordName _ (Ends continuesWord) tail ?_ (fun _ => id) words _ ends
    exact fun s _ r => ends_cons rfl _
  have pipes : ∀ {e : Expr} {r}, FollowsExpr r →
      Ends continuesWord (e.guard.mark ++ r) ∧ ¬ " |> ".toList <+: e.guard.mark ++ r :=
    fun follows => ⟨(follows.endsNames _).word, (follows.endsNames _).pipe⟩
  have behind := follows.endsTail h.pipes e.guard
  have behind' := follows'.endsTail h'.pipes e'.guard
  simp only [toList_listing, List.append_assoc] at same
  obtain ⟨base, same⟩ := legible_base h.base e'.base h'.base _ _ (segments h.tail behind.1)
    (segments h'.tail behind'.1) same
  obtain ⟨tail, same⟩ := legible_names dot h.tail e'.tail h'.tail _ _ behind behind' same
  obtain ⟨piped, same⟩ := legible_names arrow h.pipes e'.pipes h'.pipes _ _ (pipes follows)
    (pipes follows') same
  obtain ⟨guard, rest⟩ := follows.eq_of_mark follows' same
  have path : e.path = e'.path := by rw [h.path, h'.path, base, tail]
  obtain ⟨_, _, _, _, _⟩ := e
  obtain ⟨_, _, _, _, _⟩ := e'
  simp only at base tail piped guard path
  subst base tail piped guard path
  exact ⟨rfl, rest⟩

/-! ## Inclusions -/

/-- A fixed name is quoted and a computed one is in parentheses, and so either can be read back. -/
theorem IncludeName.legible {name : IncludeName} (h : name.Each Expr.Written) :
    Legible (fun name : IncludeName => name.listing.toList) (·.Each Expr.Written) (fun _ => True)
      name := by
  have first : ∀ s, ∃ cs, (Quoted.encode s).toList = '"' :: cs :=
    fun s => ⟨_, String.toList_ofList⟩
  intro name' h' r s _ _ same
  cases name with
  | fixed name =>
    cases name' with
    | fixed name' =>
      obtain ⟨rfl, rest⟩ := Quoted.prefixFree_encode name name' r s same
      exact ⟨rfl, rest⟩
    | computed e' =>
      obtain ⟨cs, quoted⟩ := first name
      simp [listing, quoted] at same
  | computed e =>
    cases name' with
    | fixed name' =>
      obtain ⟨cs, quoted⟩ := first name'
      simp [listing, quoted] at same
    | computed e' =>
      simp only [listing, String.toList_append, List.append_assoc,
        List.append_cancel_left_eq] at same
      obtain ⟨rfl, rest⟩ := Expr.Written.legible h e' h' _ _ (followsExpr_paren r)
        (followsExpr_paren s) same
      exact ⟨rfl, List.append_cancel_left rest⟩

/-- How a listing writes a parameter. -/
def paramText (p : String × Expr) : List Char := p.1.toList ++ '=' :: p.2.listing.toList

/-- A parameter whose name and expression are written. -/
def WrittenParam (p : String × Expr) : Prop := WordName p.1 ∧ p.2.Written

/-- A parameter is a word up to its equals sign, and an expression behind it. -/
theorem legible_param {p : String × Expr} (h : WrittenParam p) :
    Legible paramText WrittenParam FollowsExpr p := by
  obtain ⟨key, e⟩ := p
  rintro ⟨key', e'⟩ h' r s follows follows' same
  simp only [paramText, List.append_assoc, List.cons_append] at same
  obtain ⟨rfl, behind⟩ := legible_name h.1 key' h'.1 _ _ (ends_cons rfl _) (ends_cons rfl _) same
  obtain ⟨rfl, rest⟩ := h.2.legible e' h'.2 r s follows follows' (List.cons.inj behind).2
  exact ⟨rfl, rest⟩

theorem toList_paramsListing_cons (p : String × Expr) (rest : List (String × Expr)) :
    (paramsListing (p :: rest)).toList =
      " with ".toList ++ [',', ' '].intercalate ((p :: rest).map paramText) := by
  have given : paramsListing (p :: rest) =
      " with " ++ ", ".intercalate ((p :: rest).map fun p => p.1 ++ "=" ++ p.2.listing) := rfl
  have texts : ((p :: rest).map fun p => p.1 ++ "=" ++ p.2.listing).map String.toList =
      (p :: rest).map paramText := by
    simp [paramText]
  rw [given, String.toList_append, String.toList_intercalate, texts]
  rfl

/-- Parameters are legible in front of the end of the line. -/
theorem legible_params {params : List (String × Expr)} (h : ∀ p ∈ params, WrittenParam p) :
    Legible (fun ps => (paramsListing ps).toList) (fun ps => ∀ p ∈ ps, WrittenParam p)
      (fun r => ∃ more, r = '\n' :: more) params := by
  have inside : Legible (fun ps : List (String × Expr) => [',', ' '].intercalate (ps.map paramText))
      (fun ps => ∀ p ∈ ps, WrittenParam p) (fun r => ∃ more, r = '\n' :: more) params := by
    refine .intercalate (fun p held => legible_param (h p held)) h ?_ ?_ ?_ ?_
    · exact followsExpr_comma
    · rintro r ⟨more, same⟩
      cases same
    · rintro ⟨key, e⟩ ⟨⟨c, cs, word, starts, _⟩, _⟩ r ⟨more, same⟩
      simp only [paramText, word, List.cons_append, List.cons.injEq] at same
      rw [same.1] at starts
      exact absurd starts (by decide)
    · rintro r ⟨more, rfl⟩
      exact followsExpr_newline more
  -- What begins the parameters does not begin what follows them, so neither list can be empty
  -- alone.
  have absent : ∀ {r s : List Char}, (∃ more, r = '\n' :: more) → r ≠ " with ".toList ++ s := by
    rintro _ s ⟨more, rfl⟩ same
    cases same
  intro params' h' r s ends ends' same
  cases params with
  | nil =>
    cases params' with
    | nil => exact ⟨rfl, same⟩
    | cons q rest' =>
      simp only [toList_paramsListing_cons, List.append_assoc] at same
      exact absurd same (absent ends)
  | cons p rest =>
    simp only [toList_paramsListing_cons, List.append_assoc] at same
    cases params' with
    | nil => exact absurd same.symm (absent ends')
    | cons q rest' =>
      simp only [toList_paramsListing_cons, List.append_assoc, List.append_cancel_left_eq] at same
      exact inside (q :: rest') h' r s ends ends' same

/-! ## Steps -/

/-- The blanks that a line at a depth begins with. -/
def indent (depth : Nat) : List Char := List.replicate (2 * depth) ' '

theorem toList_listingLine (depth : Nat) (s : String) :
    (listingLine depth s).toList = indent depth ++ (s.toList ++ ['\n']) := by
  simp [listingLine, indent]

/-- The word that the line of a step begins with. -/
def Op.keyword : Op → String
  | .text _ => "text"
  | .emit _ _ => "emit"
  | .branch _ _ _ => "if"
  | .loop _ _ _ => "each"
  | .inclusion _ _ => "include"

/-- The listing of a step begins with its indentation and its keyword. -/
theorem Op.exists_line (depth : Nat) (op : Op) :
    ∃ rest, (op.listing depth).toList = indent depth ++ (op.keyword.toList ++ ' ' :: rest) := by
  cases op <;> exact ⟨_, by simp [Op.listing, toList_listingLine, keyword]; rfl⟩

theorem Op.keyword_ne_nil (op : Op) : op.keyword.toList ≠ [] := by
  cases op <;> simp [keyword]

/-- The first word of a line tells the kind of the step. -/
theorem Op.keyword_eq {depth : Nat} {op op' : Op} {r s : List Char}
    (same : (op.listing depth).toList ++ r = (op'.listing depth).toList ++ s) :
    op.keyword = op'.keyword := by
  have letters : ∀ op : Op, ∀ c ∈ op.keyword.toList, c.isAlpha = true := by
    intro op
    cases op <;> rw [keyword] <;> exact List.all_eq_true.1 rfl
  obtain ⟨rest, line⟩ := Op.exists_line depth op
  obtain ⟨rest', line'⟩ := Op.exists_line depth op'
  simp only [line, line', List.append_assoc, List.cons_append] at same
  have words := List.append_cancel_left same
  exact String.toList_inj.1 (eq_of_runs (letters op) (letters op') (ends_cons rfl _)
    (ends_cons rfl _) words).1

/-- The expressions of the step are written, and so are the names of parameters. -/
def Op.Written (op : Op) : Prop := op.Each Expr.Written WordName

/-- A step is legible in front of anything. -/
def Op.Legible (depth : Nat) (op : Op) : Prop :=
  TextTemplate.Legible (fun op : Op => (op.listing depth).toList) Op.Written (fun _ => True) op

/-- A text is listed in quotes, and so its line can be read back. -/
theorem Op.legible_text (depth : Nat) (s : String) : (Op.text s).Legible depth := by
  intro op' h' r rest _ _ same
  have kind := Op.keyword_eq same
  cases op' with
  | text s' =>
    simp only [Op.listing, toList_listingLine, String.toList_append, List.append_assoc,
      List.append_cancel_left_eq] at same
    obtain ⟨rfl, behind⟩ := Quoted.prefixFree_encode s s' _ _ same
    exact ⟨rfl, List.append_cancel_left behind⟩
  | _ => exact absurd kind (by simp [keyword])

/-- The line of an interpolation ends its expression, and the keyword says whether it escapes. -/
theorem Op.legible_emit (depth : Nat) {value : Expr} (h : value.Written) (escape : Bool) :
    (Op.emit value escape).Legible depth := by
  intro op' h' r s _ _ same
  have kind := Op.keyword_eq same
  cases op' with
  | emit value' escape' =>
    simp only [Op.listing, toList_listingLine, String.toList_append, List.append_assoc,
      List.append_cancel_left_eq] at same
    -- The word behind the keyword differs: `escape` or `raw`.
    have marked : escape = escape' := by
      cases escape <;> cases escape' <;> first | rfl | simp at same
    subst marked
    rw [List.append_cancel_left_eq] at same
    obtain ⟨rfl, behind⟩ := h.legible value' h' _ _ (followsExpr_newline _) (followsExpr_newline _)
      same
    exact ⟨rfl, List.append_cancel_left behind⟩
  | _ => exact absurd kind (by simp [keyword])

/-- The line of an inclusion can be read back: its name, and its parameters up to the end of the
line. -/
theorem Op.legible_inclusion (depth : Nat) {name : IncludeName} {params : List (String × Expr)}
    (h : (Op.inclusion name params).Written) : (Op.inclusion name params).Legible depth := by
  intro op' h' r s _ _ same
  have kind := Op.keyword_eq same
  cases op' with
  | inclusion name' params' =>
    simp only [Op.listing, toList_listingLine, String.toList_append, List.append_assoc,
      List.append_cancel_left_eq] at same
    obtain ⟨rfl, given⟩ := IncludeName.legible h.1 name' h'.1 _ _ trivial trivial same
    obtain ⟨rfl, behind⟩ := legible_params h.2 params' h'.2 _ _ ⟨_, rfl⟩ ⟨_, rfl⟩ given
    exact ⟨rfl, (List.cons.inj behind).2⟩
  | _ => exact absurd kind (by simp [keyword])

/-! ## Blocks -/

/-- No line at the depth stands in front. -/
def Outdented (depth : Nat) (r : List Char) : Prop := ∀ c more, r ≠ indent depth ++ c :: more

/-- Steps are legible in front of what is not at their depth. -/
def Op.LegibleAll (depth : Nat) (ops : List Op) : Prop :=
  TextTemplate.Legible (fun ops : List Op => (Op.listings depth ops).toList)
    (fun ops => Op.EachAll Expr.Written WordName ops) (Outdented depth) ops

theorem Op.toList_listings (depth : Nat) (ops : List Op) :
    (Op.listings depth ops).toList = ops.flatMap fun op => (op.listing depth).toList := by
  induction ops with
  | nil => rfl
  | cons op rest ih => rw [Op.listings, String.toList_append, ih, List.flatMap_cons]

/-- Steps in a row can be read back if each of them can. -/
theorem Op.legibleAll_of_each {depth : Nat} {ops : List Op}
    (h : Op.EachAll Expr.Written WordName ops) (each : ∀ op ∈ ops, op.Legible depth) :
    Op.LegibleAll depth ops := by
  have rows : TextTemplate.Legible (List.flatMap fun op : Op => (op.listing depth).toList)
      (fun ops => ∀ op ∈ ops, op.Written) (Outdented depth) ops := by
    refine .flatMap each (Op.eachAll_iff.1 h) (fun _ _ _ => trivial) ?_ fun _ _ => trivial
    intro op _ r outdented
    obtain ⟨rest, line⟩ := Op.exists_line depth op
    obtain ⟨c, cs, word⟩ := List.exists_cons_of_ne_nil (Op.keyword_ne_nil op)
    rw [line, word, List.append_assoc] at outdented
    exact outdented c _ rfl
  intro ops' h' r s ends ends' same
  simp only [Op.toList_listings] at same
  exact rows ops' (Op.eachAll_iff.1 h') r s ends ends' same

theorem indent_succ (depth : Nat) : indent (depth + 1) = indent depth ++ [' ', ' '] := by
  rw [indent, indent, Nat.mul_add, List.replicate_add]
  rfl

/-- A line with `else` or `end` is not at the depth of the steps in front of it. -/
theorem outdented_closing (depth : Nat) {word : List Char} (first : word.head? = some 'e')
    (r : List Char) : Outdented (depth + 1) (indent depth ++ (word ++ r)) := by
  obtain ⟨cs, rfl⟩ := List.head?_eq_some_iff.1 first
  intro c more same
  rw [indent_succ, List.append_assoc] at same
  exact absurd (List.cons.inj (List.append_cancel_left same)).1 (by decide)

/-- A loop can be read back if its body can: the body is indented further than the line that ends
it. -/
theorem Op.legible_loop {depth : Nat} {items : Expr} {body : List Op} (h : items.Written)
    (index : Bool) (inside : Op.LegibleAll (depth + 1) body) :
    (Op.loop items index body).Legible depth := by
  intro op' h' r s _ _ same
  have kind := Op.keyword_eq same
  cases op' with
  | loop items' index' body' =>
    simp only [Op.listing, toList_listingLine, String.toList_append, List.append_assoc,
      List.append_cancel_left_eq] at same
    obtain ⟨rfl, behind⟩ := h.legible items' h'.1 _ _ (followsExpr_as _) (followsExpr_as _) same
    -- The end of the line tells whether there is an index.
    have bound : index = index' := by
      cases index <;> cases index' <;> first | rfl | simp at behind
    subst bound
    simp only [List.append_cancel_left_eq] at behind
    obtain ⟨rfl, rest⟩ := inside body' h'.2 _ _ (outdented_closing depth rfl _)
      (outdented_closing depth rfl _) behind
    simp only [List.append_cancel_left_eq] at rest
    exact ⟨rfl, rest⟩
  | _ => exact absurd kind (by simp [keyword])

/-- The lines for the case that a condition fails. -/
def elseText (depth : Nat) (otherwise : List Op) : List Char :=
  if otherwise.isEmpty then [] else
    indent depth ++ ("else".toList ++ (['\n'] ++ (Op.listings (depth + 1) otherwise).toList))

/-- The last line of a step with blocks. -/
def endText (depth : Nat) : List Char := indent depth ++ ("end".toList ++ ['\n'])

theorem elseText_cons (depth : Nat) (op : Op) (rest : List Op) (r : List Char) :
    elseText depth (op :: rest) ++ r =
      indent depth ++ ("else".toList ++
        (['\n'] ++ ((Op.listings (depth + 1) (op :: rest)).toList ++ r))) := by
  simp [elseText]

theorem endText_append (depth : Nat) (r : List Char) :
    endText depth ++ r = indent depth ++ ("end".toList ++ (['\n'] ++ r)) := by
  simp [endText]

/-- The line that ends a body is less indented than the body. -/
theorem outdented_endText (depth : Nat) (r : List Char) :
    Outdented (depth + 1) (endText depth ++ r) := by
  rw [endText_append]
  exact outdented_closing depth rfl _

/-- What follows the steps for the case that a condition holds is not at their depth. -/
theorem outdented_elseText (depth : Nat) (otherwise : List Op) (r : List Char) :
    Outdented (depth + 1) (elseText depth otherwise ++ (endText depth ++ r)) := by
  cases otherwise with
  | nil => exact outdented_endText depth r
  | cons op rest =>
    rw [elseText_cons]
    exact outdented_closing depth rfl _

/-- The steps behind an `else` can be read back, and whether there is an `else` at all. -/
theorem legible_elseText {depth : Nat} {otherwise otherwise' : List Op}
    (inside : Op.LegibleAll (depth + 1) otherwise)
    (h' : Op.EachAll Expr.Written WordName otherwise') {r s : List Char}
    (same : elseText depth otherwise ++ (endText depth ++ r) =
      elseText depth otherwise' ++ (endText depth ++ s)) :
    otherwise = otherwise' ∧ r = s := by
  -- Where only one of the conditions has such steps, an `else` stands where the other ends.
  have absent : ∀ op rest r s,
      elseText depth (op :: rest) ++ (endText depth ++ r) ≠ endText depth ++ s := by
    intro op rest r s same
    rw [elseText_cons, endText_append depth s] at same
    simp at same
  cases otherwise with
  | nil =>
    cases otherwise' with
    | nil => exact ⟨rfl, List.append_cancel_left same⟩
    | cons op rest => exact absurd same.symm (absent op rest s r)
  | cons op rest =>
    cases otherwise' with
    | nil => exact absurd same (absent op rest r s)
    | cons op' rest' =>
      simp only [elseText_cons, List.append_cancel_left_eq] at same
      obtain ⟨steps, closing⟩ := inside _ h' _ _ (outdented_endText depth r)
        (outdented_endText depth s) same
      exact ⟨steps, List.append_cancel_left closing⟩

/-- A branch can be read back if both its bodies can. -/
theorem Op.legible_branch {depth : Nat} {condition : Expr} {body otherwise : List Op}
    (h : condition.Written) (inside : Op.LegibleAll (depth + 1) body)
    (others : Op.LegibleAll (depth + 1) otherwise) :
    (Op.branch condition body otherwise).Legible depth := by
  -- The lines of a branch, with and without another one, in one form.
  have lines : ∀ condition body otherwise,
      ((Op.branch condition body otherwise).listing depth).toList = indent depth ++
        ("if ".toList ++ (condition.listing.toList ++ (['\n'] ++
          ((Op.listings (depth + 1) body).toList ++
            (elseText depth otherwise ++ endText depth))))) := by
    intro condition body otherwise
    simp only [Op.listing, toList_listingLine, String.toList_append, List.append_assoc, elseText,
      endText]
    split <;> simp [toList_listingLine]
  intro op' h' r s _ _ same
  have kind := Op.keyword_eq same
  cases op' with
  | branch condition' body' otherwise' =>
    simp only [lines, List.append_assoc, List.append_cancel_left_eq] at same
    obtain ⟨rfl, behind⟩ := h.legible condition' h'.1 _ _ (followsExpr_newline _)
      (followsExpr_newline _) same
    rw [List.append_cancel_left_eq] at behind
    -- The body ends where a line is less indented, be it that of the other branch or the last one.
    obtain ⟨rfl, closing⟩ := inside body' h'.2.1 _ _ (outdented_elseText depth otherwise r)
      (outdented_elseText depth otherwise' s) behind
    obtain ⟨rfl, rest⟩ := legible_elseText others h'.2.2 closing
    exact ⟨rfl, rest⟩
  | _ => exact absurd kind (by simp [keyword])

-- The induction is on the steps; a block is one level further in.
mutual

/-- Every step in words can be read back at any depth. -/
theorem Op.legible_of_written (depth : Nat) (op : Op) (h : op.Written) : op.Legible depth := by
  cases op with
  | text s => exact Op.legible_text depth s
  | emit value escape => exact Op.legible_emit depth h escape
  | branch condition body otherwise =>
    exact Op.legible_branch h.1
      (Op.legibleAll_of_each h.2.1 (Op.legible_of_mem (depth + 1) body h.2.1))
      (Op.legibleAll_of_each h.2.2 (Op.legible_of_mem (depth + 1) otherwise h.2.2))
  | loop items index body =>
    exact Op.legible_loop h.1 index
      (Op.legibleAll_of_each h.2 (Op.legible_of_mem (depth + 1) body h.2))
  | inclusion name params => exact Op.legible_inclusion depth h

/-- All steps of a body in words can be read back at any depth. -/
theorem Op.legible_of_mem (depth : Nat) (ops : List Op)
    (h : Op.EachAll Expr.Written WordName ops) : ∀ op ∈ ops, op.Legible depth := by
  cases ops with
  | nil => exact fun op among => absurd among List.not_mem_nil
  | cons op rest =>
    exact List.forall_mem_cons.2
      ⟨Op.legible_of_written depth op h.1, Op.legible_of_mem depth rest h.2⟩

end

/-- Written steps with one listing are the same. -/
theorem Op.eq_of_listings {ops ops' : List Op} (h : Op.EachAll Expr.Written WordName ops)
    (h' : Op.EachAll Expr.Written WordName ops') (same : Op.listings 0 ops = Op.listings 0 ops') :
    ops = ops' := by
  have ends : Outdented 0 [] := by
    rintro c more ⟨⟩
  have texts : (Op.listings 0 ops).toList ++ [] = (Op.listings 0 ops').toList ++ [] := by rw [same]
  exact (Op.legibleAll_of_each h (Op.legible_of_mem 0 ops h) ops' h' [] [] ends ends texts).1

end TextTemplate
