import TextTemplate.Proofs.Lookahead
import TextTemplate.Proofs.SegmentationReading

/-!
# Tokens of sources in a row

The reader of tokens keeps no memory but its state: characters that stand further on have their
tokens further on (`Lexer.tokens_shift`), and behind a readable source it stands outside of tags, so
the tokens of another source go on from there (`Lexer.goesOn_of_tokens`). Only a text at the end of
the one and a text at the start of the other are one text, and no pair of opening braces may lie
across the seam.
-/

namespace TextTemplate

/-! ## Lists joined at the seam -/

section
variable {α : Type} {merge : α → α → Option α}

/-- Two lists in a row, where the last member of the one and the first of the other may be one. -/
def joinWith (merge : α → α → Option α) : List α → List α → List α
  | [], bs => bs
  | [a], b :: bs =>
    match merge a b with
    | some c => c :: bs
    | none => a :: b :: bs
  | a :: as, bs => a :: joinWith merge as bs

/-- The first member takes no part in the seam, unless it is the last one too. -/
theorem joinWith_cons {a : α} {as : List α} (h : as ≠ [] ∨ ∀ b, merge a b = none) (bs : List α) :
    joinWith merge (a :: as) bs = a :: joinWith merge as bs := by
  cases as with
  | cons x as => rw [joinWith]; simp
  | nil =>
    have single := h.resolve_left fun h => h rfl
    cases bs with
    | nil => rfl
    | cons b bs => simp only [joinWith, single b]

/-- Either the lists have two members that are one, or they are apart. -/
theorem joinWith_cases (merge : α → α → Option α) (as bs : List α) :
    (∃ as' a b bs' c, as = as' ++ [a] ∧ bs = b :: bs' ∧ merge a b = some c) ∨
      ∀ a ∈ as.getLast?, ∀ b ∈ bs.head?, merge a b = none := by
  -- The seam is between the last member of the one list and the first of the other.
  rcases List.eq_nil_or_concat as with rfl | ⟨as', a, rfl⟩
  · exact .inr nofun
  cases bs with
  | nil => exact .inr fun _ _ => nofun
  | cons b bs' =>
    cases h : merge a b with
    | some c => exact .inl ⟨as', a, b, bs', c, List.concat_eq_append, rfl, h⟩
    | none =>
      refine .inr ?_
      intro a' last b' first
      cases first
      rw [List.concat_eq_append, List.getLast?_concat] at last
      cases last
      exact h

theorem joinWith_merged {a b c : α} (h : merge a b = some c) (as bs : List α) :
    joinWith merge (as ++ [a]) (b :: bs) = as ++ c :: bs := by
  induction as with
  | nil => rw [List.nil_append, joinWith, h]; rfl
  | cons x as ih => rw [List.cons_append, joinWith_cons (.inl (by simp)), ih]; rfl

/-- Lists whose members at the seam are not one stand in a row. -/
theorem joinWith_apart {as bs : List α}
    (h : ∀ a ∈ as.getLast?, ∀ b ∈ bs.head?, merge a b = none) :
    joinWith merge as bs = as ++ bs := by
  induction as with
  | nil => rfl
  | cons a as ih =>
    -- Only at the last member does the definition look at the other list.
    cases as with
    | nil =>
      cases bs with
      | nil => rfl
      | cons b bs => rw [joinWith, h a rfl b rfl]; rfl
    | cons x as =>
      rw [joinWith_cons (.inl (List.cons_ne_nil x as)), ih]
      · rfl
      · intro last mem
        exact h last (by rwa [List.getLast?_cons_cons])

/-- What cannot be one with a member in front of it may stand behind both lists. -/
theorem joinWith_concat {c : α} (h : ∀ a, merge a c = none) (as bs : List α) :
    joinWith merge as (bs ++ [c]) = joinWith merge as bs ++ [c] := by
  rcases joinWith_cases merge as bs with ⟨as', a, b, bs', d, rfl, rfl, merged⟩ | apart
  · rw [List.cons_append, joinWith_merged merged, joinWith_merged merged, List.append_assoc]
    rfl
  · rw [joinWith_apart apart, joinWith_apart, List.append_assoc]
    intro a last b first
    cases bs with
    | nil =>
      cases first
      exact h a
    | cons b' bs => exact apart a last b first

/-- A member of the whole is a member of either list, or it comes from two members at the seam. -/
theorem mem_of_mem_joinWith {x : α} {as bs : List α} (h : x ∈ joinWith merge as bs) :
    x ∈ as ∨ x ∈ bs ∨ ∃ a b, merge a b = some x := by
  rcases joinWith_cases merge as bs with ⟨as', a, b, bs', d, rfl, rfl, merged⟩ | apart
  · rw [joinWith_merged merged] at h
    rcases List.mem_append.1 h with mem | mem
    · exact .inl (List.mem_append_left _ mem)
    · rcases List.mem_cons.1 mem with rfl | mem
      · exact .inr (.inr ⟨a, b, merged⟩)
      · exact .inr (.inl (List.mem_cons_of_mem _ mem))
  · rw [joinWith_apart apart] at h
    exact (List.mem_append.1 h).imp_right .inl

end

/-- Two texts in a row are one. -/
def Token.merge? : Token → Token → Option Token
  | ⟨.text s, p⟩, ⟨.text t, _⟩ => some ⟨.text (s ++ t), p⟩
  | _, _ => none

theorem Token.merge?_eq_some {t u v : Token} (h : t.merge? u = some v) :
    ∃ x p y q, t = ⟨.text x, p⟩ ∧ u = ⟨.text y, q⟩ ∧ v = ⟨.text (x ++ y), p⟩ := by
  unfold merge? at h
  split at h
  · cases h
    exact ⟨_, _, _, _, rfl, rfl, rfl⟩
  · cases h

theorem Token.merge?_of_ne_text {t : Token} (h : ∀ s, t.lexeme ≠ .text s) (u : Token) :
    t.merge? u = none := by
  obtain ⟨l, p⟩ := t
  cases l with
  | text s => exact absurd rfl (h s)
  | _ => rfl

/-! ## Characters further on -/

/-- The error `d` bytes further on. -/
def LexicalError.shift (d : Nat) : LexicalError → LexicalError
  | unclosedTag p => unclosedTag (p + d)
  | unexpectedCharacter c p => unexpectedCharacter c (p + d)
  | unknownKeyword w p => unknownKeyword w (p + d)

namespace Lexer

/-- What the tokens of a source come to, `d` bytes further on. -/
def shiftTokens (d : Nat) : Except LexicalError (List Token) → Except LexicalError (List Token)
  | .error e => .error (e.shift d)
  | .ok ts => .ok (ts.map (·.shift d))

/-- The state `d` bytes further on. -/
@[simp] def State.shift (d : Nat) : State → State
  | text => text
  | tag opened => tag (opened + d)

/-- Tokens are moved together with those behind them. -/
theorem shiftTokens_bind (d : Nat) (x : Except LexicalError (List Token)) (us : List Token) :
    (do let ts ← shiftTokens d x; return us.map (·.shift d) ++ ts) =
      shiftTokens d (do let ts ← x; return us ++ ts) := by
  cases x with
  | error e => rfl
  | ok ts => exact congrArg Except.ok (List.map_append).symm

theorem Piece.map_shift_tokens (p : Piece) (d pos : Nat) :
    (p.tokens pos).map (·.shift d) = p.tokens (pos + d) := by
  cases p with
  | keyword s =>
    rw [Piece.tokens, Piece.tokens, Nat.add_right_comm pos d 1]
    rfl
  | _ => rfl

/-- What blocks the reader blocks it further on too. -/
theorem Blocked.shift {opened pos : Nat} {cs : List Char} {e : LexicalError}
    (h : Blocked opened pos cs e) (d : Nat) : Blocked (opened + d) (pos + d) cs (e.shift d) := by
  cases h with
  | unclosed => exact .unclosed
  | unexpected noClose noHash noBlank noMark noWord =>
    exact .unexpected noClose noHash noBlank noMark noWord
  | unknown longest unknown => exact .unknown longest unknown

/-- The reader treats the same characters alike wherever they begin. -/
theorem tokens_shift (d : Nat) (state : State) (pos : Nat) (cs : List Char) :
    tokens (state.shift d) (pos + d) cs = shiftTokens d (tokens state pos cs) := by
  -- By induction on how the reader goes: what is read first moves, and the rest does by induction.
  induction state, pos, cs using reading_induction with
  | ended pos =>
    rw [State.shift, tokens.eq_1, tokens.eq_1]
    rfl
  | literal pos run rest ne runs ih =>
    simp only [State.shift] at ih ⊢
    rw [tokens_of_text ne runs, tokens_of_text ne runs, Nat.add_right_comm, ih]
    exact shiftTokens_bind d _ [⟨.text (String.ofList run), pos⟩]
  | openTag pos rest ih =>
    simp only [State.shift] at ih ⊢
    rw [tokens_of_opening, tokens_of_opening, Nat.add_right_comm, ih]
    exact shiftTokens_bind d _ [⟨.symbol .openTag, pos⟩]
  | closeTag opened pos rest ih =>
    simp only [State.shift] at ih ⊢
    rw [tokens_of_closing, tokens_of_closing, Nat.add_right_comm, ih]
    exact shiftTokens_bind d _ [⟨.symbol .closeTag, pos⟩]
  | piece opened pos p rest stands ih =>
    simp only [State.shift] at ih ⊢
    rw [tokens_of_piece stands, tokens_of_piece stands, Nat.add_right_comm, ih,
      ← p.map_shift_tokens]
    exact shiftTokens_bind d _ (p.tokens pos)
  | blocked opened pos cs e blocked =>
    rw [State.shift, tokens_of_blocked (blocked.shift d), tokens_of_blocked blocked]
    rfl

/-! ## Changing what follows -/

theorem endsWord_closing : EndsWord closing := by
  rintro c more h
  cases h
  rfl

/-- Where a word ends depends on the next character alone. -/
theorem EndsWord.of_head {rest other : List Char} (h : EndsWord rest)
    (same : other.head? = rest.head?) : EndsWord other := by
  rintro c more rfl
  obtain ⟨tail, rfl⟩ := List.head?_eq_some_iff.1 same.symm
  exact h c tail rfl

/-- A piece only minds whether a word in it could go on. -/
theorem Piece.Stands.imp {p : Piece} {rest other : List Char} (h : p.Stands rest)
    (ends : EndsWord rest → EndsWord other) : p.Stands other := by
  cases p with
  | blank | mark => exact h
  | reserved | keyword => exact ⟨h.1, ends h.2⟩
  | identifier => exact ⟨h.1, ends h.2.1, h.2.2⟩

/-- Pieces stand in front of other characters too, if a word ends there as before. -/
theorem Piece.AllStand.imp {pieces : List Piece} {rest other : List Char}
    (h : Piece.AllStand rest pieces) (ends : EndsWord rest → EndsWord other) :
    Piece.AllStand other pieces := by
  induction pieces with
  | nil => trivial
  | cons p more ih =>
    refine ⟨h.1.imp fun stops => ?_, ih h.2⟩
    cases behind : charsOf more with
    | nil => exact ends (by rwa [behind] at stops)
    | cons c tail =>
      rw [behind] at stops
      exact stops.of_head rfl

/-- A text runs as well to another tag, or to the end. -/
theorem RunsTo.imp {run rest other : List Char} (h : RunsTo opening run rest)
    (ends : other = [] ∨ opening <+: other)
    (same : other.head? = some '{' → rest.head? = some '{') : RunsTo opening run other := by
  induction run with
  | nil => exact ⟨ends, fun _ _ _ => Nat.zero_le _⟩
  | cons c run ih =>
    obtain ⟨single, more⟩ := runsTo_cons.1 h
    refine runsTo_cons.2 ⟨?_, ih more⟩
    rw [opening_prefix_iff] at single ⊢
    rintro ⟨rfl, tail, pair⟩
    apply single
    -- The last character of the run may be a brace that pairs with the first one behind it.
    cases run with
    | nil =>
      have first := same (List.head?_eq_some_iff.2 ⟨tail, pair⟩)
      exact ⟨rfl, List.head?_eq_some_iff.1 first⟩
    | cons x run =>
      cases pair
      exact ⟨rfl, run ++ rest, rfl⟩

/-! ## Sources in a row -/

/-- No pair of opening braces lies across the seam. -/
def Apart (cs ds : List Char) : Prop := ¬ (cs.getLast? = some '{' ∧ ds.head? = some '{')

theorem Apart.nil (ds : List Char) : Apart [] ds := by
  rintro ⟨last, -⟩
  cases last

/-- Only the last character in front of a seam matters. -/
theorem Apart.of_append (cs : List Char) {rest ds : List Char} (h : Apart (cs ++ rest) ds) :
    Apart rest ds := by
  rintro ⟨last, first⟩
  exact h ⟨by rw [List.getLast?_append, last]; rfl, first⟩

/-- Tokens in a row, where a text at the end of the ones and a text at the start of the others are
one text. -/
def weld : List Token → List Token → List Token := joinWith Token.merge?

/-- Tokens that are no texts stay as they are. -/
theorem weld_append {vs : List Token} (h : ∀ t ∈ vs, ∀ s, t.lexeme ≠ .text s)
    (us more : List Token) : weld (vs ++ us) more = vs ++ weld us more := by
  induction vs with
  | nil => rfl
  | cons t vs ih =>
    have plain := Token.merge?_of_ne_text (h t List.mem_cons_self)
    have rest := ih fun t mem => h t (List.mem_cons_of_mem _ mem)
    rw [List.cons_append, weld, joinWith_cons (.inr plain)]
    exact congrArg (t :: ·) rest

/-- A text at the end goes on into the text of other characters. -/
theorem RunsTo.append_text {run ds : List Char} (h : RunsTo opening run []) (apart : Apart run ds) :
    RunsTo opening (run ++ text ds) (afterText ds) := by
  induction run with
  | nil => exact runsTo_text ds
  | cons c run ih =>
    obtain ⟨single, more⟩ := runsTo_cons.1 h
    rw [List.cons_append]
    refine runsTo_cons.2 ⟨?_, ih more (Apart.of_append [c] apart)⟩
    rw [List.append_assoc, text_append_afterText, opening_prefix_iff]
    rintro ⟨rfl, tail, pair⟩
    -- At the last character of the run the pair would lie across the seam.
    cases run with
    | nil => exact apart ⟨rfl, List.head?_eq_some_iff.2 ⟨tail, pair⟩⟩
    | cons x run =>
      cases pair
      exact single (opening_prefix_iff.2 ⟨rfl, run ++ [], rfl⟩)

/-- Inside a tag stand no texts, and no end of input. -/
theorem Piece.tokens_plain (p : Piece) (pos : Nat) :
    ∀ t ∈ p.tokens pos, t.lexeme ≠ .endOfInput ∧ ∀ s, t.lexeme ≠ .text s := by
  cases p <;> simp [Piece.tokens]

/-- The tokens end where the characters do, and those of other characters go on from there. -/
def GoesOn (state : State) (pos : Nat) (cs : List Char) (ts : List Token) : Prop :=
  ∃ us, ts = us ++ [⟨.endOfInput, pos + byteLength cs⟩] ∧ (∀ t ∈ us, t.lexeme ≠ .endOfInput) ∧
    ∀ ds, Apart cs ds → tokens state pos (cs ++ ds) = (do
      let more ← tokens .text (pos + byteLength cs) ds
      return weld us more)

/-- Characters that are read for themselves, in front of others. -/
theorem GoesOn.behind {state state' : State} {pos pos' : Nat} {u rest : List Char}
    {v ts : List Token} (h : GoesOn state' pos' rest ts) (further : pos' = pos + byteLength u)
    (plain : ∀ t ∈ v, t.lexeme ≠ .endOfInput ∧ ∀ s, t.lexeme ≠ .text s)
    (reads : ∀ ds, tokens state pos (u ++ (rest ++ ds)) = (do
      let ts ← tokens state' pos' (rest ++ ds)
      return v ++ ts)) :
    GoesOn state pos (u ++ rest) (v ++ ts) := by
  obtain ⟨us, rfl, proper, going⟩ := h
  have far : pos' + byteLength rest = pos + byteLength (u ++ rest) := by
    rw [further, byteLength_append, Nat.add_assoc]
  rw [far] at going ⊢
  refine ⟨v ++ us, (List.append_assoc ..).symm, ?_, ?_⟩
  · intro t mem
    rcases List.mem_append.1 mem with mem | mem
    · exact (plain t mem).1
    · exact proper t mem
  · intro ds apart
    -- The seam is behind the rest, so tokens read in front of it are not touched.
    rw [List.append_assoc, reads, going ds (Apart.of_append u apart)]
    simp only [bind_assoc, pure_bind, weld_append fun t mem => (plain t mem).2]

/-- A text goes on into the text of other characters. -/
theorem tokens_text_append (pos : Nat) (run ds : List Char) :
    (do let ts ← tokens .text (pos + byteLength (run ++ text ds)) (afterText ds)
        return ⟨.text (String.ofList (run ++ text ds)), pos⟩ :: ts) =
      (do let more ← tokens .text (pos + byteLength run) ds
          return weld [⟨.text (String.ofList run), pos⟩] more) := by
  rw [byteLength_append, ← Nat.add_assoc, String.ofList_append]
  -- Behind the seam the input ends, a tag opens, or the text goes on; only the last joins texts.
  fun_cases text ds with
  | case1 =>
    rw [String.ofList_nil, String.append_empty, afterText.eq_1, tokens.eq_1, tokens.eq_1]
    rfl
  | case2 rest =>
    rw [String.ofList_nil, String.append_empty, afterText.eq_2, tokens.eq_2, tokens.eq_2]
    simp only [bind_assoc, pure_bind]
    rfl
  | case3 c rest single =>
    rw [tokens.eq_3 _ _ _ single, afterText.eq_3 _ _ single]
    simp only [bind_assoc, pure_bind]
    rfl

/-- A text in front of characters that are read. It goes on into other characters if it is the end
of its own. -/
theorem goesOn_text {pos : Nat} {run rest : List Char} {ts : List Token} (ne : run ≠ [])
    (runs : RunsTo opening run rest)
    (tail : tokens .text (pos + byteLength run) rest = .ok ts)
    (h : GoesOn .text (pos + byteLength run) rest ts) :
    GoesOn .text pos (run ++ rest) (⟨.text (String.ofList run), pos⟩ :: ts) := by
  obtain ⟨us, rfl, proper, going⟩ := h
  have far : pos + byteLength run + byteLength rest = pos + byteLength (run ++ rest) := by
    rw [byteLength_append, Nat.add_assoc]
  rw [far] at going ⊢
  refine ⟨⟨.text (String.ofList run), pos⟩ :: us, rfl, ?_, ?_⟩
  · simpa using proper
  intro ds apart
  rw [List.append_assoc]
  obtain rfl | ⟨after, rfl⟩ := runs.1
  · -- The text goes on into the other characters.
    have alone : us = [] := by
      have same := congrArg List.length (Except.ok.inj ((tokens.eq_1 _).symm.trans tail))
      simpa using same
    subst alone
    rw [List.append_nil] at apart ⊢
    have longer : run ++ text ds ≠ [] := List.append_ne_nil_of_left_ne_nil ne _
    have whole : tokens .text pos (run ++ text ds ++ afterText ds) = _ :=
      tokens_of_text longer (runs.append_text apart)
    rw [List.append_assoc, text_append_afterText] at whole
    exact whole.trans (tokens_text_append pos run ds)
  · -- The text ends at a tag, whose opening braces are a token between the texts.
    have more : us ≠ [] := by
      rintro rfl
      rw [tokens_of_opening] at tail
      obtain ⟨ts, _, same⟩ := bind_pure_eq_ok.1 tail
      cases same
    have runs' : RunsTo opening run (opening ++ after ++ ds) :=
      runs.imp (.inr ⟨after ++ ds, (List.append_assoc ..).symm⟩) fun _ => rfl
    rw [tokens_of_text ne runs', going ds (Apart.of_append run apart)]
    simp only [bind_assoc, pure_bind, weld, joinWith_cons (.inl more)]

/-- Characters that are read on their own are read in front of others too, up to the seam. -/
theorem goesOn_of_tokens {state : State} {pos : Nat} {cs : List Char} {ts : List Token}
    (h : tokens state pos cs = .ok ts) : GoesOn state pos cs ts := by
  induction state, pos, cs using reading_induction generalizing ts with
  | ended pos =>
    cases (tokens.eq_1 pos).symm.trans h
    refine ⟨[], rfl, fun t mem => absurd mem List.not_mem_nil, fun ds _ => ?_⟩
    exact (bind_pure _).symm
  | literal pos run rest ne runs ih =>
    rw [tokens_of_text ne runs] at h
    obtain ⟨ts, tail, rfl⟩ := bind_pure_eq_ok.1 h
    exact goesOn_text ne runs tail (ih tail)
  | openTag pos rest ih =>
    rw [tokens_of_opening] at h
    obtain ⟨ts, tail, rfl⟩ := bind_pure_eq_ok.1 h
    apply GoesOn.behind (u := opening) (v := [⟨.symbol .openTag, pos⟩]) (ih tail) rfl
    · simp
    · exact fun ds => tokens_of_opening pos _
  | closeTag opened pos rest ih =>
    rw [tokens_of_closing] at h
    obtain ⟨ts, tail, rfl⟩ := bind_pure_eq_ok.1 h
    apply GoesOn.behind (u := closing) (v := [⟨.symbol .closeTag, pos⟩]) (ih tail) rfl
    · simp
    · exact fun ds => tokens_of_closing opened pos _
  | piece opened pos p rest stands ih =>
    rw [tokens_of_piece stands] at h
    obtain ⟨ts, tail, rfl⟩ := bind_pure_eq_ok.1 h
    apply GoesOn.behind (ih tail) rfl (p.tokens_plain pos)
    intro ds
    have stands' : p.Stands (rest ++ ds) := by
      refine stands.imp fun ends => ends.of_head ?_
      cases rest with
      | nil =>
        -- The end of the source would leave the tag unclosed.
        cases (tokens.eq_4 ..).symm.trans tail
      | cons c rest => rfl
    exact tokens_of_piece stands'
  | blocked opened pos cs e blocked =>
    cases (tokens_of_blocked blocked).symm.trans h

end Lexer

end TextTemplate
