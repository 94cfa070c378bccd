import Mathlib
import TextTemplate.Proofs.Coherence
import TextTemplate.Proofs.Concatenation
import TextTemplate.Proofs.Positions

/-!
# White space inside tags

The tokens of a source say what white space may stand between them: any inside of tags, but none
behind a `#`, and at least some between two words (`MayPart`). A source is its own tokens with such
white space between them (`Lexer.spells_of_tokens`), and any other source that spells the lexemes of
these tokens with such white space has tokens with the same lexemes (`Lexer.yields_of_spells`): no
two lexemes but words become one when the white space between them goes. So it makes the same
template, or it is refused for the same reason at the same token (`Template.ofSource_respelled`).
-/

namespace TextTemplate

/-! ## Lexemes with white space between them -/

namespace Lexeme

/-- Whether a lexeme is a word. -/
def isWord : Lexeme → Bool
  | identifier _ => true
  | symbol s => s.isWord
  | _ => false

/-- Whether a tag goes on behind a lexeme. -/
def staysInTag : Lexeme → Bool
  | text _ | endOfInput | symbol .closeTag => false
  | _ => true

end Lexeme

/-- Whether `gap` may stand between the lexeme `a` and the lexeme `b` behind it. -/
structure MayPart (a : Lexeme) (gap : List Char) (b : Lexeme) : Prop where
  /-- It is white space. -/
  blank : ∀ c ∈ gap, Unicode.isBlank c = true
  /-- It is inside a tag. -/
  inTag : gap ≠ [] → a.staysInTag = true
  /-- A `#` and its word stand side by side. -/
  keyword : a = .symbol .hash → gap = []
  /-- Two words do not. -/
  words : a.isWord = true → b.isWord = true → gap ≠ []

instance (a : Lexeme) (gap : List Char) (b : Lexeme) : Decidable (MayPart a gap b) :=
  decidable_of_iff (gap.all Unicode.isBlank = true ∧ (gap ≠ [] → a.staysInTag = true) ∧
      (a = .symbol .hash → gap = []) ∧ (a.isWord = true → b.isWord = true → gap ≠ []))
    ⟨fun h => ⟨List.all_eq_true.1 h.1, h.2.1, h.2.2.1, h.2.2.2⟩,
      fun h => ⟨List.all_eq_true.2 h.blank, h.inTag, h.keyword, h.words⟩⟩

/-- The characters spell the lexemes behind the lexeme `a`, with white space between them. -/
inductive Spells : Lexeme → List Lexeme → List Char → Prop
  | done (a : Lexeme) : Spells a [] []
  | lexeme {a b : Lexeme} {gap cs : List Char} {more : List Lexeme} :
    MayPart a gap b → Spells b more cs →
    Spells a (b :: more) (gap ++ (b.spelling.toList ++ cs))

/-- The source spells the lexemes of the tokens, perhaps with other white space inside of tags. In
front of the first token it is outside of tags, as behind the end of one. -/
def Respells (source : String) (ts : List Token) : Prop :=
  Spells (.symbol .closeTag) (ts.map (·.lexeme)) source.toList

/-- Lexemes with gaps in front of them spell themselves if the gaps may part them. -/
theorem Spells.of_gaps {g : List Char × Lexeme} {gaps : List (List Char × Lexeme)}
    (h : (g :: gaps).IsChain fun g g' => MayPart g.2 g'.1 g'.2) :
    Spells g.2 (gaps.map (·.2)) (gaps.flatMap fun g => g.1 ++ g.2.spelling.toList) := by
  induction gaps generalizing g with
  | nil => exact .done g.2
  | cons g' gaps ih =>
    obtain ⟨part, more⟩ := List.isChain_cons_cons.1 h
    rw [List.flatMap_cons, List.append_assoc]
    exact .lexeme part (ih more)

/-- Behind white space that may stand there, the first lexeme is spelled, and then the others. -/
theorem Spells.uncons {a b : Lexeme} {more : List Lexeme} {cs : List Char}
    (h : Spells a (b :: more) cs) :
    ∃ gap rest, cs = gap ++ (b.spelling.toList ++ rest) ∧ MayPart a gap b ∧ Spells b more rest := by
  cases h with
  | lexeme part more => exact ⟨_, _, rfl, part, more⟩

/-- Outside of tags no white space parts lexemes, since there it is text. -/
theorem MayPart.eq_nil {a b : Lexeme} {gap : List Char} (h : MayPart a gap b)
    (outside : a.staysInTag = false) : gap = [] := by
  by_contra nonempty
  rw [h.inTag nonempty] at outside
  cases outside

/-- Outside of tags the next lexeme follows at once. -/
theorem Spells.outside {a b : Lexeme} {more : List Lexeme} {cs : List Char}
    (h : Spells a (b :: more) cs) (outside : a.staysInTag = false) :
    ∃ rest, cs = b.spelling.toList ++ rest ∧ Spells b more rest := by
  obtain ⟨gap, rest, rfl, part, tail⟩ := h.uncons
  cases part.eq_nil outside
  exact ⟨rest, rfl, tail⟩

namespace Lexer

/-! ## What a tag goes on with -/

/-- A lexeme that stands inside tags. -/
def Inner (l : Lexeme) : Prop := l ≠ .endOfInput ∧ ∀ s, l ≠ .text s

theorem inner_of_mem_tokensOf {pieces : List Piece} {pos : Nat} {t : Token}
    (h : t ∈ Piece.tokensOf pos pieces) : Inner t.lexeme := by
  induction pieces generalizing pos with
  | nil => cases h
  | cons p more ih =>
    rcases List.mem_append.1 h with first | later
    · exact p.tokens_plain pos t first
    · exact ih later

/-- What is read inside a tag begins with a lexeme of the tag. -/
theorem exists_inner {opened pos : Nat} {cs : List Char} {ts : List Token}
    (h : tokens (.tag opened) pos cs = .ok ts) : ∃ t rest, ts = t :: rest ∧ Inner t.lexeme := by
  obtain ⟨pieces, spans, -, -, -, rfl⟩ := found_of_tokens h
  cases front : Piece.tokensOf pos pieces with
  | nil => exact ⟨_, _, rfl, by simp [Inner]⟩
  | cons t rest =>
    have held : t ∈ Piece.tokensOf pos pieces := front ▸ List.mem_cons_self
    exact ⟨t, _, rfl, inner_of_mem_tokensOf held⟩

/-- What stands behind a word does not go on with it: it is white space, or a mark, or the end of
the tag. -/
theorem endsWord_of_spells {a b : Lexeme} {more : List Lexeme} {cs : List Char}
    (h : Spells a (b :: more) cs) (word : a.isWord = true) (inner : Inner b) : EndsWord cs := by
  obtain ⟨gap, rest, rfl, part, -⟩ := h.uncons
  -- With white space in between the word ends there; without any, the next lexeme is no word.
  cases gap with
  | cons c gap =>
    rintro d tail ⟨⟩
    have blank := part.blank c List.mem_cons_self
    by_contra goesOn
    rw [isBlank_of_continuesWord (Bool.not_eq_false _ ▸ goesOn)] at blank
    cases blank
  | nil =>
    have noWord : b.isWord ≠ true := fun second => part.words word second rfl
    cases b with
    | text s => exact absurd rfl (inner.2 s)
    | identifier s => exact absurd rfl noWord
    | endOfInput => exact absurd rfl inner.1
    | symbol s =>
      rintro d tail split
      cases s <;> first | exact absurd rfl noWord | (cases split; rfl)

/-! ## Places behind lexemes -/

/-- Whether the reader stands inside a tag. -/
def State.inTag : State → Bool
  | text => false
  | tag _ => true

/-- The reader is in the state behind the lexeme, and the lexeme is complete. -/
structure State.After (state : State) (l : Lexeme) : Prop where
  place : l.staysInTag = state.inTag
  complete : l ≠ .symbol .hash

theorem State.after_of_isWord {l : Lexeme} (h : l.isWord = true) (opened : Nat) :
    (tag opened).After l := by
  cases l with
  | identifier s => exact ⟨rfl, by simp⟩
  | symbol s => cases s <;> first | exact absurd h (by decide) | exact ⟨rfl, by simp⟩
  | _ => cases h

theorem State.after_of_mem_marks {s : Symbol} (h : s ∈ marks) (opened : Nat) :
    (tag opened).After (.symbol s) := by
  cases s <;> first | exact absurd h (by decide) | exact ⟨rfl, by simp⟩

theorem isWord_of_mem_marks {s : Symbol} (h : s ∈ marks) : s.isWord = false := by
  cases s <;> first | rfl | exact absurd h (by decide)

/-- The piece in front of `rest` is the one lexeme `l`. -/
structure Piece.IsLexeme (p : Piece) (rest : List Char) (l : Lexeme) : Prop where
  tokens : ∀ pos, p.tokens pos = [⟨l, pos⟩]
  chars : p.chars = l.spelling.toList
  after : ∀ opened, (State.tag opened).After l
  word : l.isWord = true → IsWord p.chars ∧ EndsWord rest
  stands : ∀ other, (l.isWord = true → EndsWord other) → p.Stands other

/-- A piece is a blank, a word behind a `#`, or one lexeme. -/
theorem Piece.Stands.cases {p : Piece} {rest : List Char} (h : p.Stands rest) :
    (∃ c, p = .blank c) ∨ (∃ s, p = .keyword s) ∨ ∃ l, p.IsLexeme rest l := by
  cases p with
  | blank c => exact .inl ⟨c, rfl⟩
  | keyword s => exact .inr (.inl ⟨s, rfl⟩)
  -- Marks, reserved words and identifiers are one lexeme each.
  | mark s =>
    have noWord : (Lexeme.symbol s).isWord ≠ true := ne_true_of_eq_false (isWord_of_mem_marks h)
    refine .inr (.inr ⟨.symbol s, fun _ => rfl, rfl, State.after_of_mem_marks h, ?_, fun _ _ => h⟩)
    exact fun word => absurd word noWord
  | reserved s =>
    refine .inr (.inr ⟨.symbol s, fun _ => rfl, rfl, State.after_of_isWord h.1, ?_, ?_⟩)
    · exact fun word => ⟨isWord_of_reserved word, h.2⟩
    · exact fun other ends => ⟨h.1, ends h.1⟩
  | identifier w =>
    refine .inr (.inr ⟨.identifier (String.ofList w), fun _ => rfl, String.toList_ofList.symm,
      State.after_of_isWord rfl, ?_, ?_⟩)
    · exact fun _ => ⟨h.1, h.2.1⟩
    · exact fun other ends => ⟨h.1, ends rfl, h.2.2⟩

/-! ## A source spells its lexemes -/

/-- White space in front of the characters `cs`, behind the lexeme `a` and in a state of the reader:
what has been skipped since the last token. -/
structure Skipped (state : State) (a : Lexeme) (gap cs : List Char) : Prop where
  blank : ∀ c ∈ gap, Unicode.isBlank c = true
  inTag : gap ≠ [] → state.inTag = true
  after : state.After a
  ends : a.isWord = true → gap = [] → EndsWord cs

/-- Behind a token nothing has been skipped. -/
theorem Skipped.behind {state : State} {a : Lexeme} {cs : List Char} (after : state.After a)
    (ends : a.isWord = true → EndsWord cs) : Skipped state a [] cs where
  blank := by simp
  inTag := absurd rfl
  after := after
  ends := fun word _ => ends word

/-- A blank is skipped, too. -/
theorem Skipped.blank_behind {opened : Nat} {a : Lexeme} {gap cs : List Char} {c : Char}
    (h : Skipped (.tag opened) a gap (c :: cs)) (blank : Unicode.isBlank c = true) :
    Skipped (.tag opened) a (gap ++ [c]) cs where
  blank := by
    intro d among
    rcases List.mem_append.1 among with among | among
    · exact h.blank d among
    · rw [List.mem_singleton.1 among]
      exact blank
  inTag := fun _ => rfl
  after := h.after
  ends := by
    intro _ nonempty
    simp at nonempty

/-- What has been skipped may stand in front of a lexeme that is there. -/
theorem Skipped.mayPart {state : State} {a b : Lexeme} {gap cs : List Char}
    (h : Skipped state a gap cs)
    (starts : b.isWord = true → ∃ c more, cs = c :: more ∧ continuesWord c = true) :
    MayPart a gap b where
  blank := h.blank
  inTag := fun nonempty => h.after.place.trans (h.inTag nonempty)
  keyword := fun hash => absurd hash h.after.complete
  words := by
    intro first second empty
    obtain ⟨c, more, rfl, goesOn⟩ := starts second
    rw [h.ends first empty c more rfl] at goesOn
    cases goesOn

theorem continuesWord_of_isWord {w : List Char} (h : IsWord w) (rest : List Char) :
    ∃ c more, w ++ rest = c :: more ∧ continuesWord c = true := by
  obtain ⟨c, cs, rfl, starts, -⟩ := h
  exact ⟨c, cs ++ rest, rfl, continuesWord_of_startsWord starts⟩

/-- A `#` and its word, with nothing between them. -/
theorem mayPart_hash (s : Symbol) : MayPart (.symbol .hash) [] (.symbol s) where
  blank := by simp
  inTag := absurd rfl
  keyword := fun _ => rfl
  words := by
    rintro ⟨⟩

/-- A piece is spelled behind the white space that has been skipped in front of it. -/
theorem spells_piece {opened pos : Nat} {a : Lexeme} {gap rest : List Char} {p : Piece}
    {ls : List Lexeme} (stands : p.Stands rest)
    (more : ∀ a gap, Skipped (.tag opened) a gap rest → Spells a ls (gap ++ rest))
    (h : Skipped (.tag opened) a gap (p.chars ++ rest)) :
    Spells a ((p.tokens pos).map (·.lexeme) ++ ls) (gap ++ (p.chars ++ rest)) := by
  -- White space is skipped on; `#` and its word may not be parted; other pieces are one lexeme.
  rcases stands.cases with ⟨c, rfl⟩ | ⟨s, rfl⟩ | ⟨l, lexeme⟩
  · have spelled := more a (gap ++ [c]) (h.blank_behind stands)
    rwa [List.append_assoc] at spelled
  · obtain ⟨word, ends⟩ := stands
    have behind : Spells (.symbol s) ls rest :=
      more _ [] (.behind (State.after_of_isWord (l := .symbol s) word opened) fun _ => ends)
    exact .lexeme (h.mayPart (by rintro ⟨⟩)) (.lexeme (mayPart_hash s) behind)
  · rw [lexeme.tokens, lexeme.chars] at *
    refine .lexeme (h.mayPart fun word => ?_) (more l [] (.behind (lexeme.after opened) ?_))
    · rw [← lexeme.chars]
      exact continuesWord_of_isWord (lexeme.word word).1 rest
    · exact fun word => (lexeme.word word).2

/-- What is read spells the lexemes of its tokens. -/
theorem spells_of_tokens {state : State} {pos : Nat} {cs : List Char} {ts : List Token}
    (h : tokens state pos cs = .ok ts) {a : Lexeme} {gap : List Char}
    (skipped : Skipped state a gap cs) : Spells a (ts.map (·.lexeme)) (gap ++ cs) := by
  -- By induction on how the reader goes, with the white space that it has skipped since the last
  -- token.
  induction state, pos, cs using reading_induction generalizing ts a gap with
  | ended pos =>
    cases (tokens.eq_1 pos).symm.trans h
    exact .lexeme (skipped.mayPart (by rintro ⟨⟩)) (.done .endOfInput)
  | literal pos run rest ne runs ih =>
    rw [tokens_of_text ne runs] at h
    obtain ⟨us, tail, rfl⟩ := bind_pure_eq_ok.1 h
    have behind := ih tail (a := .text (String.ofList run)) (.behind ⟨rfl, by simp⟩ (by rintro ⟨⟩))
    have spelled := Spells.lexeme (skipped.mayPart (by rintro ⟨⟩)) behind
    rwa [Lexeme.spelling, String.toList_ofList] at spelled
  | openTag pos rest ih =>
    rw [tokens_of_opening] at h
    obtain ⟨us, tail, rfl⟩ := bind_pure_eq_ok.1 h
    have behind := ih tail (a := .symbol .openTag) (.behind ⟨rfl, by simp⟩ (by rintro ⟨⟩))
    exact .lexeme (skipped.mayPart (by rintro ⟨⟩)) behind
  | closeTag opened pos rest ih =>
    rw [tokens_of_closing] at h
    obtain ⟨us, tail, rfl⟩ := bind_pure_eq_ok.1 h
    have behind := ih tail (a := .symbol .closeTag) (.behind ⟨rfl, by simp⟩ (by rintro ⟨⟩))
    exact .lexeme (skipped.mayPart (by rintro ⟨⟩)) behind
  | piece opened pos p rest stands ih =>
    rw [tokens_of_piece stands] at h
    obtain ⟨us, tail, rfl⟩ := bind_pure_eq_ok.1 h
    rw [List.map_append]
    exact spells_piece stands (fun _ _ => ih tail) skipped
  | blocked opened pos cs e blocked =>
    cases (tokens_of_blocked blocked).symm.trans h

/-! ## Lexemes with other white space are read -/

/-- Any white space inside a tag is skipped. -/
theorem tokens_of_blanks {gap : List Char} (h : ∀ c ∈ gap, Unicode.isBlank c = true)
    (opened pos : Nat) (rest : List Char) :
    tokens (.tag opened) pos (gap ++ rest) =
      tokens (.tag opened) (pos + byteLength gap) rest := by
  induction gap generalizing pos with
  | nil => rfl
  | cons c gap ih =>
    rw [List.forall_mem_cons] at h
    rw [List.cons_append, tokens_of_blank h.1, ih h.2, byteLength_cons, Nat.add_assoc]

/-- The characters are read, and their lexemes are these. -/
def Yields (state : State) (pos : Nat) (cs : List Char) (ls : List Lexeme) : Prop :=
  ∃ ts, tokens state pos cs = .ok ts ∧ ts.map (·.lexeme) = ls

/-- Tokens that are read in front give their lexemes to those behind them. -/
theorem Yields.behind {state state' : State} {pos pos' : Nat} {cs cs' : List Char}
    {ls : List Lexeme} (h : Yields state' pos' cs' ls) (us : List Token)
    (reads : tokens state pos cs = (do
      let ts ← tokens state' pos' cs'
      return us ++ ts)) : Yields state pos cs (us.map (·.lexeme) ++ ls) := by
  obtain ⟨ts, read, rfl⟩ := h
  refine ⟨us ++ ts, ?_, List.map_append⟩
  rw [reads, read]
  rfl

/-- White space in front of what is read inside a tag. -/
theorem Yields.behind_blanks {opened pos : Nat} {gap cs : List Char} {ls : List Lexeme}
    (blank : ∀ c ∈ gap, Unicode.isBlank c = true)
    (h : Yields (.tag opened) (pos + byteLength gap) cs ls) :
    Yields (.tag opened) pos (gap ++ cs) ls := by
  obtain ⟨ts, read, same⟩ := h
  exact ⟨ts, (tokens_of_blanks blank opened pos cs).trans read, same⟩

/-- A piece with other white space in front of it, and other characters behind it. -/
theorem yields_piece {opened opened' pos pos' : Nat} {a : Lexeme} {rest cs : List Char} {p : Piece}
    {us : List Token} (stands : p.Stands rest) (front : ∃ t more, us = t :: more ∧ Inner t.lexeme)
    (more : ∀ a pos cs, (State.tag opened).After a → Spells a (us.map (·.lexeme)) cs →
      Yields (.tag opened') pos cs (us.map (·.lexeme)))
    (after : (State.tag opened).After a)
    (spelled : Spells a ((p.tokens pos).map (·.lexeme) ++ us.map (·.lexeme)) cs) :
    Yields (.tag opened') pos' cs ((p.tokens pos).map (·.lexeme) ++ us.map (·.lexeme)) := by
  have ends : ∀ {b rest'}, b.isWord = true → Spells b (us.map (·.lexeme)) rest' →
      EndsWord rest' := by
    obtain ⟨t, tail, rfl, inner⟩ := front
    exact fun word behind => endsWord_of_spells behind word inner
  rcases stands.cases with ⟨c, rfl⟩ | ⟨s, rfl⟩ | ⟨l, lexeme⟩
  · exact more a pos' cs after spelled
  · obtain ⟨gap, _, rfl, part, spelled⟩ := spelled.uncons (b := .symbol .hash)
    obtain ⟨gap', rest', rfl, part', behind⟩ := spelled.uncons (b := .symbol s)
    -- Nothing stands between `#` and its word in the other source either.
    cases part'.keyword rfl
    have word : s.isWord = true := stands.1
    have stands' : (Piece.keyword s).Stands rest' := ⟨word, ends (b := .symbol s) word behind⟩
    have read := more (.symbol s) (pos' + byteLength gap + byteLength (Piece.keyword s).chars)
      rest' (State.after_of_isWord (l := .symbol s) word opened) behind
    have read := read.behind _ (tokens_of_piece stands')
    exact .behind_blanks part.blank read
  · rw [lexeme.tokens] at spelled ⊢
    obtain ⟨gap, rest', rfl, part, behind⟩ := spelled.uncons
    have stands' : p.Stands rest' := lexeme.stands rest' fun word => ends word behind
    have read := more l (pos' + byteLength gap + byteLength p.chars) rest' (lexeme.after opened)
      behind
    have read := read.behind _ (tokens_of_piece stands')
    rw [lexeme.tokens, lexeme.chars] at read
    exact .behind_blanks part.blank read

/-- A text in front of other characters that spell the lexemes behind it. -/
theorem yields_text {pos pos' : Nat} {run rest cs : List Char} {us : List Token} (ne : run ≠ [])
    (runs : RunsTo opening run rest) (tail : tokens .text pos rest = .ok us)
    (behind : Spells (.text (String.ofList run)) (us.map (·.lexeme)) cs)
    (more : Yields .text (pos' + byteLength run) cs (us.map (·.lexeme))) :
    Yields .text pos' (run ++ cs)
      (.text (String.ofList run) :: us.map (·.lexeme)) := by
  suffices RunsTo opening run cs from
    more.behind [_] (tokens_of_text ne this)
  -- Behind a text there is the end or a tag, and so it is in the other characters.
  obtain rfl | ⟨after, rfl⟩ := runs.1
  · cases (tokens.eq_1 pos).symm.trans tail
    obtain ⟨_, rfl, done⟩ := behind.outside rfl
    cases done
    exact runs
  · rw [tokens_of_opening] at tail
    obtain ⟨us, -, rfl⟩ := bind_pure_eq_ok.1 tail
    obtain ⟨after', rfl, -⟩ := behind.outside (b := .symbol .openTag) rfl
    exact runs.imp (.inr ⟨after', rfl⟩) fun _ => rfl

/-- Characters that spell the lexemes of what is read are read as well, and their lexemes are the
same. -/
theorem yields_of_spells {state state' : State} {pos pos' : Nat} {cs cs' : List Char}
    {ts : List Token} (h : tokens state pos cs = .ok ts) (same : state'.inTag = state.inTag)
    {a : Lexeme} (after : state.After a) (spelled : Spells a (ts.map (·.lexeme)) cs') :
    Yields state' pos' cs' (ts.map (·.lexeme)) := by
  -- By induction on how the one source is read. The other one is read alongside, in a state that
  -- differs in the place of the opening braces at most.
  induction state, pos, cs using reading_induction generalizing state' pos' cs' ts a with
  | ended pos =>
    obtain _ | opened' := state' <;> cases same
    cases (tokens.eq_1 pos).symm.trans h
    obtain ⟨rest, rfl, done⟩ := spelled.outside after.place
    cases done
    exact ⟨_, tokens.eq_1 pos', rfl⟩
  | literal pos run rest ne runs ih =>
    obtain _ | opened' := state' <;> cases same
    rw [tokens_of_text ne runs] at h
    obtain ⟨us, tail, rfl⟩ := bind_pure_eq_ok.1 h
    obtain ⟨rest', rfl, behind⟩ := spelled.outside after.place
    have text : (Lexeme.text (String.ofList run)).spelling.toList = run := String.toList_ofList
    rw [text]
    exact yields_text ne runs tail behind (ih tail rfl ⟨rfl, by simp⟩ behind)
  | openTag pos rest ih =>
    obtain _ | opened' := state' <;> cases same
    rw [tokens_of_opening] at h
    obtain ⟨us, tail, rfl⟩ := bind_pure_eq_ok.1 h
    obtain ⟨rest', rfl, behind⟩ := spelled.outside (b := .symbol .openTag) after.place
    have read : Yields (.tag pos') (pos' + 2) rest' (us.map (·.lexeme)) :=
      ih tail rfl ⟨rfl, by simp⟩ behind
    exact read.behind [⟨.symbol .openTag, pos'⟩] (tokens_of_opening pos' rest')
  | closeTag opened pos rest ih =>
    obtain _ | opened' := state' <;> cases same
    rw [tokens_of_closing] at h
    obtain ⟨us, tail, rfl⟩ := bind_pure_eq_ok.1 h
    obtain ⟨gap, rest', rfl, part, behind⟩ := spelled.uncons (b := .symbol .closeTag)
    have read : Yields .text (pos' + byteLength gap + 2) rest' (us.map (·.lexeme)) :=
      ih tail rfl ⟨rfl, by simp⟩ behind
    have read := read.behind [⟨.symbol .closeTag, _⟩] (tokens_of_closing opened' _ rest')
    exact .behind_blanks part.blank read
  | piece opened pos p rest stands ih =>
    obtain _ | opened' := state' <;> cases same
    rw [tokens_of_piece stands] at h
    obtain ⟨us, tail, rfl⟩ := bind_pure_eq_ok.1 h
    rw [List.map_append] at spelled ⊢
    have more : ∀ a pos cs, (State.tag opened).After a → Spells a (us.map (·.lexeme)) cs →
        Yields (.tag opened') pos cs (us.map (·.lexeme)) :=
      fun _ _ _ after spelled => ih tail rfl after spelled
    exact yields_piece stands (exists_inner tail) more after spelled
  | blocked opened pos cs e blocked =>
    cases (tokens_of_blocked blocked).symm.trans h

end Lexer

/-! ## Sources that differ in white space -/

/-- The sources that spell the lexemes of the tokens are those whose tokens have the same
lexemes. -/
theorem respells_iff {source : String} {ts : List Token} (h : Token.ofSource? source = .ok ts)
    (source' : String) :
    Respells source' ts ↔
      ∃ ts', Token.ofSource? source' = .ok ts' ∧ ts'.map (·.lexeme) = ts.map (·.lexeme) := by
  have outside : Lexer.State.text.After (.symbol .closeTag) := ⟨rfl, by simp⟩
  constructor
  · intro spelled
    exact Lexer.yields_of_spells h rfl outside spelled
  · rintro ⟨ts', read, same⟩
    have spelled := Lexer.spells_of_tokens read (.behind outside (by rintro ⟨⟩))
    rwa [same] at spelled

/-- What is read in two sources differs in positions only. -/
structure ReadAlike (source source' : String) (ts ts' : List Token) : Prop where
  lexemes : ts'.map (·.lexeme) = ts.map (·.lexeme)
  template : ∀ t, Template.ofSource? source = .ok t → Template.ofSource? source' = .ok t
  program : ∀ names a, Artifact.compile? source names = .ok a →
    ∃ a', Artifact.compile? source' names = .ok a' ∧ a'.program = a.program
  /-- The same error, at the tokens of one index. -/
  error : ∀ e, Template.ofSource? source = .error e →
    ∃ (p : ParseError) (k : Nat) (t t' : Token), e = .parse p ∧ ts[k]? = some t ∧
      ts'[k]? = some t' ∧ p.position = t.position ∧
      Template.ofSource? source' = .error (.parse (p.movedTo t'.position))

theorem ReadAlike.of_lexemes {source source' : String} {ts ts' : List Token}
    (h : Token.ofSource? source = .ok ts) (h' : Token.ofSource? source' = .ok ts')
    (same : ts'.map (·.lexeme) = ts.map (·.lexeme)) : ReadAlike source source' ts ts' := by
  -- The tokens of a source end with the end of the input, so their errors can be placed.
  have ends : Template.HasEnd ts := by
    obtain ⟨us, -, rfl, -⟩ := exists_of_ofSource h
    simp [Template.HasEnd]
  obtain ⟨accepted, refused⟩ := Template.ofTokens?_of_lexemes ends same
  have read := Template.ofSource?_of_tokens h
  have read' := Template.ofSource?_of_tokens h'
  have template : ∀ t, Template.ofSource? source = .ok t → Template.ofSource? source' = .ok t := by
    intro t spelled
    rw [read']
    cases parsed : Template.ofTokens? ts with
    | ok u =>
      rw [read, parsed] at spelled
      rw [accepted u parsed]
      exact spelled
    | error p =>
      rw [read, parsed] at spelled
      cases spelled
  refine ⟨same, template, ?_, ?_⟩
  · intro names a compiled
    obtain ⟨t, spelled, program⟩ := Artifact.program_of_compile? compiled
    obtain ⟨a', compiled', program'⟩ := Artifact.compile?_of_ofSource? (template t spelled) names
    exact ⟨a', compiled', program'.trans program.symm⟩
  · intro e failed
    cases parsed : Template.ofTokens? ts with
    | ok u =>
      rw [read, parsed] at failed
      cases failed
    | error p =>
      rw [read, parsed] at failed
      cases failed
      obtain ⟨k, t, t', here, here', stands, parsed'⟩ := refused p parsed
      refine ⟨p, k, t, t', rfl, here, here', stands, ?_⟩
      rw [read', parsed']
      rfl

/-- **White space inside tags is insignificant.** The sources that differ from one that is read in
the white space between the tokens of its tags are read like it. No other source has tokens with the
same lexemes. -/
theorem Template.ofSource_respelled {source : String} {ts : List Token}
    (h : Token.ofSource? source = .ok ts) (source' : String) :
    Respells source' ts ↔
      ∃ ts', Token.ofSource? source' = .ok ts' ∧ ReadAlike source source' ts ts' := by
  rw [respells_iff h]
  constructor
  · rintro ⟨ts', read, same⟩
    exact ⟨ts', read, .of_lexemes h read same⟩
  · rintro ⟨ts', read, alike⟩
    exact ⟨ts', read, alike.lexemes⟩

/-- A condition that is not closed, without white space where there need not be any, and with an
ideographic space, a tab and an em space in its tag. -/
theorem ofSource_respelled_condition :
    let source := "\x7b\x7b#if a|>b\x7d\x7d"
    let source' := "\x7b\x7b\u3000#if\ta | > b\u2003\x7d\x7d"
    let ts : List Token := [⟨.symbol .openTag, 0⟩, ⟨.symbol .hash, 2⟩, ⟨.symbol .ifWord, 3⟩,
      ⟨.identifier "a", 6⟩, ⟨.symbol .pipe, 7⟩, ⟨.symbol .greaterThan, 8⟩, ⟨.identifier "b", 9⟩,
      ⟨.symbol .closeTag, 10⟩, ⟨.endOfInput, 12⟩]
    Token.ofSource? source = .ok ts ∧ Respells source' ts ∧
      ∃ ts', Token.ofSource? source' = .ok ts' ∧ ReadAlike source source' ts ts' := by
  intro source source' ts
  have read : Token.ofSource? source = .ok ts := by cbv
  let gaps : List (List Char × Lexeme) := [([], .symbol .openTag), (['\u3000'], .symbol .hash),
    ([], .symbol .ifWord), (['\t'], .identifier "a"), ([' '], .symbol .pipe),
    ([' '], .symbol .greaterThan), ([' '], .identifier "b"), (['\u2003'], .symbol .closeTag),
    ([], .endOfInput)]
  have split : source'.toList = gaps.flatMap fun g => g.1 ++ g.2.spelling.toList := by cbv
  have spelled : Respells source' ts := by
    have parts : (([], .symbol .closeTag) :: gaps).IsChain
        fun g g' => MayPart g.2 g'.1 g'.2 := by decide
    rw [Respells, split]
    exact .of_gaps parts
  exact ⟨read, spelled, (Template.ofSource_respelled read source').1 spelled⟩

end TextTemplate
