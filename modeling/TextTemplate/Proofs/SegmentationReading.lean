import TextTemplate.Proofs.Layout

/-!
# Reading tokens is finding the segmentation

`Token.ofSource?` returns the tokens of a source that falls into spans, and refuses any other. Both
directions go span by span and piece by piece: spans are read as they are (`tokens_of_spans`, by
induction on the spans), and what is read has spans (`found_of_tokens`, by induction on what the
reader finds). `reading_induction` is the principle for the latter. Its last case are the characters
that block the reader, which is where a source is refused.
-/

namespace TextTemplate

/-! ## Marks and reserved words -/

/-- A mark is read from its one character. -/
theorem Symbol.ofPunctuation?_eq_some {c : Char} {s : Symbol} :
    Symbol.ofPunctuation? c = some s ↔ s ∈ Lexer.marks ∧ s.spelling.toList = [c] := by
  constructor
  · intro h
    unfold Symbol.ofPunctuation? at h
    split at h
    case h_10 => cases h
    all_goals
      cases h
      decide
  · rintro ⟨hs, hc⟩
    cases s <;> first | exact absurd hs (by decide) | (cases hc; rfl)

/-- A symbol that is a word is read from its spelling. -/
theorem Symbol.ofWord?_eq_some {w : String} {s : Symbol} :
    Symbol.ofWord? w = some s ↔ s.isWord = true ∧ s.spelling = w := by
  constructor
  · intro h
    have hw := List.find?_some h
    have hs := List.mem_of_find?_eq_some h
    refine ⟨?_, eq_of_beq hw⟩
    cases s <;> first | rfl | exact absurd hs (by decide)
  · rintro ⟨hs, rfl⟩
    cases s <;> first | decide | cases hs

theorem Symbol.ofWord?_eq_none {w : String} :
    Symbol.ofWord? w = none ↔ ∀ s : Symbol, s.isWord = true → s.spelling ≠ w := by
  constructor
  · intro h s hs hw
    rw [Symbol.ofWord?_eq_some.mpr ⟨hs, hw⟩] at h
    cases h
  · intro h
    cases hw : Symbol.ofWord? w with
    | none => rfl
    | some s =>
      rcases Symbol.ofWord?_eq_some.mp hw with ⟨hs, he⟩
      exact absurd he (h s hs)

namespace Lexer

/-! ## Words -/

/-- The characters of words lie between the digit nought and the letter z. -/
theorem toNat_of_continuesWord {c : Char} (h : continuesWord c = true) :
    48 ≤ c.toNat ∧ c.toNat ≤ 122 := by
  -- Upper case, lower case, digits and the underscore in turn.
  rcases (Bool.or_eq_true _ _).mp h with ha | hu
  · rcases (Bool.or_eq_true _ _).mp ha with ha | hd
    · rcases (Bool.or_eq_true _ _).mp ha with ha | ha
      · rcases of_decide_eq_true ha with ⟨h₁, h₂⟩
        exact ⟨Nat.le_trans (by decide) (UInt32.le_iff_toNat_le.mp h₁),
          Nat.le_trans (UInt32.le_iff_toNat_le.mp h₂) (by decide)⟩
      · rcases (Bool.and_eq_true _ _).mp ha with ⟨h₁, h₂⟩
        exact ⟨Nat.le_trans (by decide) (UInt32.le_iff_toNat_le.mp (of_decide_eq_true h₁)),
          UInt32.le_iff_toNat_le.mp (of_decide_eq_true h₂)⟩
    · have range : 48 ≤ c.toNat ∧ c.toNat ≤ 57 := Char.isDigit_iff_toNat.mp hd
      omega
  · rw [eq_of_beq hu]
    decide

/-- White space is no part of a word: it lies outside of the codes of letters and digits. -/
theorem isBlank_of_continuesWord {c : Char} (h : continuesWord c = true) :
    Unicode.isBlank c = false := by
  have hr : ∀ r ∈ Unicode.blankRanges, r.2 < 48 ∨ 122 < r.1 := by decide
  have hc := toNat_of_continuesWord h
  rw [Unicode.isBlank, Bool.eq_false_iff, ne_eq, Unicode.covers_iff]
  rintro ⟨r, hm, h₁, h₂⟩
  have := hr r hm
  omega

theorem continuesWord_of_startsWord {c : Char} (h : startsWord c = true) :
    continuesWord c = true := by
  rcases (Bool.or_eq_true _ _).mp h with ha | hu
  · rw [continuesWord, Char.isAlphanum, ha]
    rfl
  · rw [continuesWord, hu, Bool.or_true]

theorem isBlank_of_startsWord {c : Char} (h : startsWord c = true) :
    Unicode.isBlank c = false :=
  isBlank_of_continuesWord (continuesWord_of_startsWord h)

theorem ofPunctuation?_of_startsWord {c : Char} (h : startsWord c = true) :
    Symbol.ofPunctuation? c = none := by
  unfold Symbol.ofPunctuation?
  split <;> first | rfl | cases h

theorem takeWhile_of_endsWord {cs rest : List Char} (h : ∀ d ∈ cs, continuesWord d = true)
    (hr : EndsWord rest) : (cs ++ rest).takeWhile continuesWord = cs := by
  rw [List.takeWhile_append_of_pos h]
  cases rest with
  | nil => rw [List.takeWhile_nil, List.append_nil]
  | cons c more =>
    rw [List.takeWhile_cons_of_neg, List.append_nil]
    exact ne_true_of_eq_false (hr c more rfl)

theorem dropWhile_of_endsWord {cs rest : List Char} (h : ∀ d ∈ cs, continuesWord d = true)
    (hr : EndsWord rest) : (cs ++ rest).dropWhile continuesWord = rest := by
  rw [List.dropWhile_append_of_pos h]
  cases rest with
  | nil => rfl
  | cons c more => exact List.dropWhile_cons_of_neg (ne_true_of_eq_false (hr c more rfl))

/-- A word ends where no further character of it follows. -/
theorem endsWord_dropWhile (cs : List Char) : EndsWord (cs.dropWhile continuesWord) := by
  intro c more h
  have hc := List.head?_dropWhile_not continuesWord cs
  rw [h] at hc
  exact Bool.eq_false_iff.mpr fun ht => by simp [ht] at hc

/-- A word is a character that starts one, and all that go on with it. -/
theorem isWord_of_startsWord {c : Char} (h : startsWord c = true) (cs : List Char) :
    IsWord (c :: cs.takeWhile continuesWord) :=
  ⟨c, _, rfl, h, List.all_eq_true.mp List.all_takeWhile⟩

/-- Keywords are spelled as words. -/
theorem isWord_of_reserved {s : Symbol} (h : s.isWord = true) : IsWord s.spelling.toList := by
  cases s <;> first | exact ⟨_, _, rfl, rfl, List.all_eq_true.mp rfl⟩ | cases h

theorem byteLength_of_mem_marks {s : Symbol} (h : s ∈ marks) :
    byteLength s.spelling.toList = 1 := by
  cases s <;> first | rfl | exact absurd h (by decide)

/-- A word that nothing goes on is the longest at the front of what it stands in. -/
theorem word_of_isWord {w rest : List Char} (hw : IsWord w) (hr : EndsWord rest) :
    word (w ++ rest) = w ∧ afterWord (w ++ rest) = rest := by
  rcases hw with ⟨c, cs, rfl, hc, hcs⟩
  constructor
  · rw [List.cons_append, word, if_pos hc, takeWhile_of_endsWord hcs hr]
  · rw [List.cons_append, afterWord, if_pos hc, dropWhile_of_endsWord hcs hr]

/-- A longest word is a word, and nothing behind it goes on with it. -/
theorem endsWord_afterWord {cs : List Char} (h : word cs ≠ []) : EndsWord (afterWord cs) := by
  cases cs with
  | nil => exact absurd rfl h
  | cons c rest =>
    by_cases hc : startsWord c = true
    · rw [afterWord, if_pos hc]
      exact endsWord_dropWhile rest
    · rw [word, if_neg hc] at h
      exact absurd rfl h

/-! ## Texts -/

/-- A run goes on by a character if the delimiter does not start there. -/
theorem runsTo_cons {delimiter run rest : List Char} {c : Char} :
    RunsTo delimiter (c :: run) rest ↔
      ¬ delimiter <+: c :: (run ++ rest) ∧ RunsTo delimiter run rest := by
  constructor
  · rintro ⟨hr, hfirst⟩
    refine ⟨?_, hr, fun before after h => ?_⟩
    · rintro ⟨after, h⟩
      have hle : (c :: run).length ≤ 0 := hfirst [] after h.symm
      cases hle
    · have hle := hfirst (c :: before) after (by rw [List.cons_append, h]; rfl)
      exact Nat.le_of_succ_le_succ hle
  · rintro ⟨hn, hr, hfirst⟩
    refine ⟨hr, fun before after h => ?_⟩
    -- The delimiter starts right at the character, or later in the run.
    cases before with
    | nil => exact absurd ⟨after, h.symm⟩ hn
    | cons d before => exact Nat.succ_le_succ (hfirst before after (List.cons.inj h).2)

/-- The opening braces at the front of a list. -/
theorem opening_prefix_iff {c : Char} {rest : List Char} :
    opening <+: c :: rest ↔ c = '{' ∧ ∃ more, rest = '{' :: more := by
  constructor
  · rintro ⟨after, h⟩
    rcases List.cons.inj h with ⟨rfl, rfl⟩
    exact ⟨rfl, after, rfl⟩
  · rintro ⟨rfl, more, rfl⟩
    exact ⟨more, rfl⟩

/-- The reader of texts stops at the first opening braces. -/
theorem runsTo_text (cs : List Char) : RunsTo opening (text cs) (afterText cs) := by
  fun_induction text cs with
  | case1 => exact ⟨.inl rfl, fun _ _ _ => Nat.zero_le _⟩
  | case2 rest => exact ⟨.inr ⟨rest, rfl⟩, fun _ _ _ => Nat.zero_le _⟩
  | case3 c rest hn ih =>
    rw [afterText.eq_3 c rest hn]
    refine runsTo_cons.mpr ⟨?_, ih⟩
    rw [text_append_afterText, opening_prefix_iff]
    rintro ⟨hc, more, hr⟩
    exact hn more hc hr

/-- The text that is read is the run up to the opening braces. -/
theorem text_of_runsTo {run rest : List Char} (h : RunsTo opening run rest) :
    text (run ++ rest) = run ∧ afterText (run ++ rest) = rest := by
  induction run with
  | nil =>
    rcases h.1 with rfl | ⟨after, rfl⟩
    · exact ⟨rfl, rfl⟩
    · exact ⟨rfl, rfl⟩
  | cons c run ih =>
    -- No braces open at the front, so the first character belongs to the text.
    rcases runsTo_cons.mp h with ⟨hn, hr⟩
    rcases ih hr with ⟨ht, ha⟩
    have hne : ∀ more, c = '{' → run ++ rest = '{' :: more → False := fun more hc hm =>
      hn (opening_prefix_iff.mpr ⟨hc, more, hm⟩)
    rw [List.cons_append, text.eq_3 _ _ hne, afterText.eq_3 _ _ hne, ht, ha]
    exact ⟨rfl, rfl⟩

/-! ## Spans are read -/

theorem tokens_of_blank {c : Char} (hb : Unicode.isBlank c = true) {opened pos : Nat}
    {rest : List Char} : tokens (.tag opened) pos (c :: rest) =
      tokens (.tag opened) (pos + c.utf8Size) rest := by
  have h₁ : ∀ more, c = '}' → rest = '}' :: more → False := by
    rintro more rfl
    cases hb
  have h₂ : c = '#' → False := by
    rintro rfl
    cases hb
  rw [tokens.eq_7 _ _ _ _ h₁ h₂, if_pos hb]

/-- A mark is one character, and one that the reader takes for nothing else. -/
theorem exists_of_mem_marks {s : Symbol} (h : s ∈ marks) :
    ∃ c, s.spelling.toList = [c] ∧ Unicode.isBlank c = false ∧ c ≠ '}' ∧ c ≠ '#' := by
  cases s <;> first
    | exact absurd h (by decide)
    | exact ⟨_, rfl, by decide, by decide, by decide⟩

theorem tokens_of_mark {s : Symbol} (h : s ∈ marks) {opened pos : Nat} {rest : List Char} :
    tokens (.tag opened) pos (s.spelling.toList ++ rest) = (do
      let ts ← tokens (.tag opened) (pos + 1) rest
      return ⟨.symbol s, pos⟩ :: ts) := by
  rcases exists_of_mem_marks h with ⟨c, hc, hb, h₁, h₂⟩
  have hp : Symbol.ofPunctuation? c = some s := Symbol.ofPunctuation?_eq_some.mpr ⟨h, hc⟩
  rw [hc, List.cons_append, List.nil_append, tokens.eq_7 _ _ _ _ (fun _ h => absurd h h₁) h₂,
    if_neg (ne_true_of_eq_false hb), hp]

theorem tokens_of_word {w rest : List Char} (hw : IsWord w) (hr : EndsWord rest)
    (opened pos : Nat) :
    tokens (.tag opened) pos (w ++ rest) = (do
      let ts ← tokens (.tag opened) (pos + byteLength w) rest
      return ⟨lexemeOfWord (String.ofList w), pos⟩ :: ts) := by
  rcases hw with ⟨c, cs, rfl, hc, hcs⟩
  have h₁ : ∀ more, c = '}' → cs ++ rest = '}' :: more → False := by
    rintro more rfl
    cases hc
  have h₂ : c = '#' → False := by
    rintro rfl
    cases hc
  -- The reader tries white space and marks before words.
  rw [List.cons_append, tokens.eq_7 _ _ _ _ h₁ h₂,
    if_neg (ne_true_of_eq_false (isBlank_of_startsWord hc)), ofPunctuation?_of_startsWord hc]
  simp only [if_pos hc, takeWhile_of_endsWord hcs hr, dropWhile_of_endsWord hcs hr]

/-- A `#` and the keyword behind it are two tokens. -/
theorem tokens_of_keyword {s : Symbol} (hs : s.isWord = true) {rest : List Char}
    (hr : EndsWord rest) {opened pos : Nat} :
    tokens (.tag opened) pos ('#' :: (s.spelling.toList ++ rest)) = (do
      let ts ← tokens (.tag opened) (pos + 1 + byteLength s.spelling.toList) rest
      return ⟨.symbol .hash, pos⟩ :: ⟨.symbol s, pos + 1⟩ :: ts) := by
  rcases word_of_isWord (isWord_of_reserved hs) hr with ⟨hw, ha⟩
  have hk : Symbol.ofWord? s.spelling = some s := Symbol.ofWord?_eq_some.mpr ⟨hs, rfl⟩
  rw [tokens.eq_6, hw, ha, String.ofList_toList, hk]

/-- A piece is read as it is, and the reader goes on behind it. -/
theorem tokens_of_piece {p : Piece} {rest : List Char} (hp : p.Stands rest) {opened pos : Nat} :
    tokens (.tag opened) pos (p.chars ++ rest) = (do
      let ts ← tokens (.tag opened) (pos + byteLength p.chars) rest
      return p.tokens pos ++ ts) := by
  cases p with
  | blank c => exact (tokens_of_blank hp).trans (bind_pure _).symm
  | mark s =>
    rw [Piece.chars, byteLength_of_mem_marks hp]
    exact tokens_of_mark hp
  | reserved s =>
    rcases hp with ⟨hs, hr⟩
    have hk : Symbol.ofWord? s.spelling = some s := Symbol.ofWord?_eq_some.mpr ⟨hs, rfl⟩
    have h := tokens_of_word (isWord_of_reserved hs) hr opened pos
    rwa [String.ofList_toList, lexemeOfWord, hk] at h
  | identifier w =>
    rcases hp with ⟨hw, hr, hn⟩
    -- The word is no keyword, and so it is an identifier.
    have hk : Symbol.ofWord? (String.ofList w) = none :=
      Symbol.ofWord?_eq_none.mpr fun s hs he => hn s hs (by rw [he, String.toList_ofList])
    have h := tokens_of_word hw hr opened pos
    rwa [lexemeOfWord, hk] at h
  | keyword s =>
    rcases hp with ⟨hs, hr⟩
    rw [Piece.chars, byteLength_cons, ← Nat.add_assoc]
    exact tokens_of_keyword hs hr

/-- Pieces that stand one after the other are read to their tokens. -/
theorem tokens_of_pieces {pieces : List Piece} {rest : List Char}
    (hp : Piece.AllStand rest pieces) {opened pos : Nat} :
    tokens (.tag opened) pos (Piece.charsOf pieces ++ rest) = (do
      let ts ← tokens (.tag opened) (pos + byteLength (Piece.charsOf pieces)) rest
      return Piece.tokensOf pos pieces ++ ts) := by
  induction pieces generalizing pos with
  | nil => exact (bind_pure _).symm
  | cons p more ih =>
    rcases hp with ⟨hp, hm⟩
    rw [Piece.charsOf, Piece.tokensOf, byteLength_append, ← Nat.add_assoc, List.append_assoc,
      tokens_of_piece hp, ih hm]
    simp only [bind_assoc, pure_bind, List.append_assoc]

/-- A run up to opening braces is read as one text. -/
theorem tokens_of_text {run rest : List Char} (hne : run ≠ []) (hr : RunsTo opening run rest)
    {pos : Nat} :
    tokens .text pos (run ++ rest) = (do
      let ts ← tokens .text (pos + byteLength run) rest
      return ⟨.text (String.ofList run), pos⟩ :: ts) := by
  cases run with
  | nil => exact absurd rfl hne
  | cons c run =>
    rcases runsTo_cons.mp hr with ⟨hn, hr⟩
    rcases text_of_runsTo hr with ⟨hrun, hrest⟩
    have h : ∀ more, c = '{' → run ++ rest = '{' :: more → False := fun more hc hm =>
      hn (opening_prefix_iff.mpr ⟨hc, more, hm⟩)
    rw [List.cons_append, tokens.eq_3 _ _ _ h, hrun, hrest]

theorem tokens_of_opening (pos : Nat) (rest : List Char) :
    tokens .text pos (opening ++ rest) = (do
      let ts ← tokens (.tag pos) (pos + 2) rest
      return ⟨.symbol .openTag, pos⟩ :: ts) := tokens.eq_2 pos rest

theorem tokens_of_closing (opened pos : Nat) (rest : List Char) :
    tokens (.tag opened) pos (closing ++ rest) = (do
      let ts ← tokens .text (pos + 2) rest
      return ⟨.symbol .closeTag, pos⟩ :: ts) := tokens.eq_5 pos opened rest

/-- The opening of a tag and some of its pieces are read as they are. -/
theorem tokens_of_openTag {pieces : List Piece} {rest : List Char}
    (hp : Piece.AllStand rest pieces) {pos : Nat} :
    tokens .text pos (opening ++ (Piece.charsOf pieces ++ rest)) = (do
      let ts ← tokens (.tag pos) (pos + 2 + byteLength (Piece.charsOf pieces)) rest
      return ⟨.symbol .openTag, pos⟩ :: (Piece.tokensOf (pos + 2) pieces ++ ts)) := by
  rw [tokens_of_opening, tokens_of_pieces hp]
  simp only [bind_assoc, pure_bind]

theorem tokens_of_tag {pieces : List Piece} {rest : List Char}
    (hp : Piece.AllStand (closing ++ rest) pieces) {pos : Nat} :
    tokens .text pos ((Span.tag pieces).chars ++ rest) = (do
      let ts ← tokens .text (pos + byteLength (Span.tag pieces).chars) rest
      return (Span.tag pieces).tokens pos ++ ts) := by
  rw [byteLength_tag, ← Nat.add_assoc, ← Nat.add_assoc, Span.chars, List.append_assoc,
    List.append_assoc, tokens_of_openTag hp, tokens_of_closing]
  simp only [bind_assoc, pure_bind, Span.tokens, List.append_assoc, List.cons_append,
    List.nil_append]

/-- The reader finds the spans that a source consists of. -/
theorem tokens_of_spans {spans : List Span} (hs : Span.AllStand spans) (pos : Nat) :
    tokens .text pos (Span.charsOf spans) = .ok (Span.tokensOf pos spans ++
      [⟨.endOfInput, pos + byteLength (Span.charsOf spans)⟩]) := by
  induction spans generalizing pos with
  | nil => exact tokens.eq_1 pos
  | cons x more ih =>
    rcases hs with ⟨hx, hm⟩
    have hrest := ih hm (pos + byteLength x.chars)
    -- A span is read before those behind it, as it stands in front of them.
    have hread : tokens .text pos (x.chars ++ Span.charsOf more) = (do
        let ts ← tokens .text (pos + byteLength x.chars) (Span.charsOf more)
        return x.tokens pos ++ ts) := by
      cases x with
      | text run => exact tokens_of_text hx.1 hx.2
      | tag pieces => exact tokens_of_tag hx.1
    rw [Span.charsOf, Span.tokensOf, byteLength_append, ← Nat.add_assoc, List.append_assoc, hread,
      hrest]
    rfl

/-! ## By the parts of the grammar -/

/-- A word is a reserved word or an identifier. -/
theorem exists_piece_of_isWord {w rest : List Char} (hw : IsWord w) (hr : EndsWord rest) :
    ∃ p : Piece, p.Stands rest ∧ p.chars = w := by
  cases hs : Symbol.ofWord? (String.ofList w) with
  | some s =>
    rcases Symbol.ofWord?_eq_some.mp hs with ⟨hk, he⟩
    exact ⟨.reserved s, ⟨hk, hr⟩, by rw [Piece.chars, he, String.toList_ofList]⟩
  | none =>
    refine ⟨.identifier w, ⟨hw, hr, fun s hk he => ?_⟩, rfl⟩
    refine Symbol.ofWord?_eq_none.mp hs s hk ?_
    rw [← he, String.ofList_toList]

/-- No piece stands at the front of the characters, which start at byte `pos` in the tag opened at
`opened`, and the tag does not end there: the reader stops with this error. -/
inductive Blocked (opened pos : Nat) : List Char → LexicalError → Prop
  | unclosed : Blocked opened pos [] (.unclosedTag opened)
  | unexpected {c : Char} {rest : List Char} : ¬ closing <+: c :: rest → c ≠ '#' →
    Unicode.isBlank c = false → Symbol.ofPunctuation? c = none → startsWord c = false →
    Blocked opened pos (c :: rest) (.unexpectedCharacter c pos)
  | unknown {w rest : List Char} : word rest = w → Symbol.ofWord? (String.ofList w) = none →
    Blocked opened pos ('#' :: rest) (.unknownKeyword (String.ofList w) pos)

/-- The reader fails where it is blocked. -/
theorem tokens_of_blocked {opened pos : Nat} {cs : List Char} {e : LexicalError}
    (h : Blocked opened pos cs e) : tokens (.tag opened) pos cs = .error e := by
  cases h with
  | unclosed => exact tokens.eq_4 ..
  | @unexpected c rest noClose noHash noBlank noMark noWord =>
    have h₁ : ∀ more, c = '}' → rest = '}' :: more → False := by
      rintro more rfl rfl
      exact noClose ⟨more, rfl⟩
    rw [tokens.eq_7 _ _ _ _ h₁ noHash, if_neg (ne_true_of_eq_false noBlank), noMark]
    exact if_neg (ne_true_of_eq_false noWord)
  | unknown hw hs => rw [tokens.eq_6, hw, hs]

/-- What holds of characters if it holds of those behind their first text, piece or end of a tag,
holds of all: the reader finds one of these, or nothing is left, or it is blocked. -/
theorem reading_induction {motive : State → Nat → List Char → Prop}
    (ended : ∀ pos, motive .text pos [])
    (literal : ∀ pos run rest, run ≠ [] → RunsTo opening run rest →
      motive .text (pos + byteLength run) rest → motive .text pos (run ++ rest))
    (openTag : ∀ pos rest, motive (.tag pos) (pos + 2) rest → motive .text pos (opening ++ rest))
    (closeTag : ∀ opened pos rest, motive .text (pos + 2) rest →
      motive (.tag opened) pos (closing ++ rest))
    (piece : ∀ opened pos (p : Piece) rest, p.Stands rest →
      motive (.tag opened) (pos + byteLength p.chars) rest →
      motive (.tag opened) pos (p.chars ++ rest))
    (blocked : ∀ opened pos cs e, Blocked opened pos cs e → motive (.tag opened) pos cs)
    (state : State) (pos : Nat) (cs : List Char) : motive state pos cs := by
  fun_induction tokens state pos cs with
  | case1 pos => exact ended pos
  | case2 pos rest ih => exact openTag pos rest ih
  | case3 pos c rest hn run ih =>
    have hr : RunsTo opening (c :: text rest) (afterText rest) := by
      have := runsTo_text (c :: rest)
      rwa [text.eq_3 c rest hn, afterText.eq_3 c rest hn] at this
    have hm := literal pos _ _ (List.cons_ne_nil c (text rest)) hr ih
    rwa [List.cons_append, text_append_afterText] at hm
  | case4 opened pos => exact blocked _ pos _ _ .unclosed
  | case5 opened pos rest ih => exact closeTag opened pos rest ih
  | case6 opened pos rest hs => exact blocked _ _ _ _ (.unknown rfl hs)
  | case7 opened pos rest s hs ih =>
    rcases Symbol.ofWord?_eq_some.mp hs with ⟨hk, he⟩
    have hw : s.spelling.toList = word rest := by rw [he, String.toList_ofList]
    have hne : word rest ≠ [] := hw ▸ spelling_toList_ne_nil s
    -- The `#` and its word are one piece.
    have hc : (Piece.keyword s).chars = '#' :: word rest := congrArg _ hw
    have hm := piece opened pos (.keyword s) (afterWord rest) ⟨hk, endsWord_afterWord hne⟩ (by
      rw [hc, byteLength_cons, ← Nat.add_assoc]
      exact ih)
    rwa [hc, List.cons_append, word_append_afterWord] at hm
  | case8 opened pos c rest _ _ hb ih => exact piece opened pos (.blank c) rest hb ih
  | case9 opened pos c rest _ _ _ s hs ih =>
    rcases Symbol.ofPunctuation?_eq_some.mp hs with ⟨hm, hc⟩
    have h := piece opened pos (.mark s) rest hm (by rwa [Piece.chars, byteLength_of_mem_marks hm])
    rwa [Piece.chars, hc] at h
  | case10 opened pos c rest _ _ _ hc w _ ih =>
    rcases exists_piece_of_isWord (isWord_of_startsWord hc rest) (endsWord_dropWhile rest) with
      ⟨p, hp, hw⟩
    have hm := piece opened pos p _ hp (by rwa [hw])
    rwa [hw, List.cons_append, List.takeWhile_append_dropWhile] at hm
  | case11 opened pos c rest noClose noHash noBlank noWord noMark =>
    refine blocked _ _ _ _ (.unexpected ?_ noHash (Bool.eq_false_iff.mpr noBlank)
      (Option.eq_none_iff_forall_ne_some.mpr noMark) (Bool.eq_false_iff.mpr noWord))
    rintro ⟨more, h⟩
    cases h
    exact noClose more rfl rfl

/-! ## What is read has spans -/

theorem not_mem_of_isWord {w : List Char} (h : IsWord w) : '}' ∉ w := by
  rcases h with ⟨c, cs, rfl, hc, hcs⟩
  intro hm
  rcases List.mem_cons.mp hm with rfl | hm
  · cases hc
  · cases hcs '}' hm

theorem not_mem_of_stands {p : Piece} {rest : List Char} (h : p.Stands rest) : '}' ∉ p.chars := by
  -- A closing brace is no white space, no mark and in no word.
  cases p with
  | blank c =>
    intro hm
    cases List.mem_singleton.mp hm
    cases (h : Unicode.isBlank '}' = true)
  | mark s =>
    have hs : s ∈ marks := h
    cases s <;> first | exact absurd hs (by decide) | decide
  | reserved s => exact not_mem_of_isWord (isWord_of_reserved h.1)
  | identifier w => exact not_mem_of_isWord h.1
  | keyword s =>
    intro hm
    rcases List.mem_cons.mp hm with hc | hm
    · cases hc
    · exact not_mem_of_isWord (isWord_of_reserved h.1) hm

/-- No piece of a tag holds a closing brace, and so the first pair ends the tag. -/
theorem not_mem_of_allStand {pieces : List Piece} {rest : List Char}
    (h : Piece.AllStand rest pieces) : '}' ∉ Piece.charsOf pieces := by
  induction pieces with
  | nil => exact List.not_mem_nil
  | cons p more ih =>
    intro hm
    rcases List.mem_append.mp hm with hp | hm
    · exact not_mem_of_stands h.1 hp
    · exact ih h.2 hm

/-- What holds no closing brace runs to the pair behind it. -/
theorem runsTo_of_not_mem {u : List Char} (h : '}' ∉ u) (rest : List Char) :
    RunsTo closing u (closing ++ rest) := by
  induction u with
  | nil => exact ⟨.inr ⟨rest, rfl⟩, fun _ _ _ => Nat.zero_le _⟩
  | cons c u ih =>
    refine runsTo_cons.mpr ⟨?_, ih (List.not_mem_of_not_mem_cons h)⟩
    rintro ⟨after, ha⟩
    exact List.ne_of_not_mem_cons h (List.cons.inj ha).1

/-- The spans that the reader has found in `cs`, and inside a tag the pieces in front of its end. -/
def Found : State → Nat → List Char → List Token → Prop
  | .text, pos, cs, ts => ∃ spans, Span.AllStand spans ∧ cs = Span.charsOf spans ∧
      ts = Span.tokensOf pos spans ++ [⟨.endOfInput, pos + byteLength cs⟩]
  | .tag _, pos, cs, ts => ∃ pieces spans, Piece.AllStand (closing ++ Span.charsOf spans) pieces ∧
      Span.AllStand spans ∧ cs = Piece.charsOf pieces ++ (closing ++ Span.charsOf spans) ∧
      ts = Piece.tokensOf pos pieces ++
        ⟨.symbol .closeTag, pos + byteLength (Piece.charsOf pieces)⟩ ::
        (Span.tokensOf (pos + byteLength (Piece.charsOf pieces) + 2) spans ++
          [⟨.endOfInput, pos + byteLength cs⟩])

theorem found_nil (pos : Nat) : Found .text pos [] [⟨.endOfInput, pos⟩] :=
  ⟨[], trivial, rfl, rfl⟩

/-- A text in front of spans is one more span. -/
theorem found_text {run rest : List Char} (hne : run ≠ []) (hr : RunsTo opening run rest)
    {pos : Nat} {ts : List Token} (h : Found .text (pos + byteLength run) rest ts) :
    Found .text pos (run ++ rest) (⟨.text (String.ofList run), pos⟩ :: ts) := by
  rcases h with ⟨spans, hs, rfl, rfl⟩
  refine ⟨.text run :: spans, ⟨⟨hne, hr⟩, hs⟩, rfl, ?_⟩
  rw [byteLength_append, ← Nat.add_assoc]
  rfl

/-- Opening braces in front of pieces and closing braces make up a tag. -/
theorem found_openTag {opened pos : Nat} {rest : List Char} {ts : List Token}
    (h : Found (.tag opened) (pos + 2) rest ts) :
    Found .text pos (opening ++ rest) (⟨.symbol .openTag, pos⟩ :: ts) := by
  rcases h with ⟨pieces, spans, hp, hs, rfl, rfl⟩
  refine ⟨.tag pieces :: spans, ⟨⟨hp, runsTo_of_not_mem (not_mem_of_allStand hp) _⟩, hs⟩, ?_, ?_⟩
  · simp only [Span.charsOf, Span.chars, List.append_assoc]
  · have ho : byteLength opening = 2 := rfl
    have hc : byteLength closing = 2 := rfl
    simp only [Span.tokensOf, Span.tokens, Span.chars, byteLength_append, ho, hc,
      List.append_assoc, List.cons_append, List.nil_append, Nat.add_assoc]

/-- Behind closing braces the spans go on. -/
theorem found_closeTag {opened pos : Nat} {rest : List Char} {ts : List Token}
    (h : Found .text (pos + 2) rest ts) :
    Found (.tag opened) pos (closing ++ rest) (⟨.symbol .closeTag, pos⟩ :: ts) := by
  rcases h with ⟨spans, hs, rfl, rfl⟩
  refine ⟨[], spans, trivial, hs, rfl, ?_⟩
  rw [byteLength_append, ← Nat.add_assoc]
  rfl

/-- A piece in front of pieces is one more piece of the tag. -/
theorem found_piece {p : Piece} {rest : List Char} (hp : p.Stands rest) {opened pos : Nat}
    {ts : List Token} (h : Found (.tag opened) (pos + byteLength p.chars) rest ts) :
    Found (.tag opened) pos (p.chars ++ rest) (p.tokens pos ++ ts) := by
  rcases h with ⟨pieces, spans, hm, hs, rfl, rfl⟩
  refine ⟨p :: pieces, spans, ⟨hp, hm⟩, hs, ?_, ?_⟩
  · rw [Piece.charsOf, List.append_assoc]
  · simp only [Piece.tokensOf, Piece.charsOf, byteLength_append, List.append_assoc, Nat.add_assoc]

/-- Tokens put in front do not decide whether the rest is read. -/
theorem bind_pure_eq_ok {x : Except LexicalError (List Token)} {f : List Token → List Token}
    {ts : List Token} : (x >>= fun us => pure (f us)) = .ok ts ↔ ∃ us, x = .ok us ∧ f us = ts := by
  cases x <;> simp [bind, Except.bind, pure, Except.pure]

theorem bind_pure_eq_error {x : Except LexicalError (List Token)}
    {f : List Token → List Token} {e : LexicalError} :
    (x >>= fun us => pure (f us)) = .error e ↔ x = .error e := by
  cases x <;> simp [bind, Except.bind, pure, Except.pure]

/-- What the reader returns are the tokens of what it has found. -/
theorem found_of_tokens {state : State} {pos : Nat} {cs : List Char} {ts : List Token}
    (h : tokens state pos cs = .ok ts) : Found state pos cs ts := by
  -- Each step puts a text, a piece or an end of a tag in front of what the steps behind it find.
  induction state, pos, cs using reading_induction generalizing ts with
  | ended pos =>
    cases (tokens.eq_1 pos).symm.trans h
    exact found_nil pos
  | literal pos run rest hne hr ih =>
    rw [tokens_of_text hne hr] at h
    rcases bind_pure_eq_ok.mp h with ⟨us, hu, rfl⟩
    exact found_text hne hr (ih hu)
  | openTag pos rest ih =>
    rw [tokens_of_opening] at h
    rcases bind_pure_eq_ok.mp h with ⟨us, hu, rfl⟩
    exact found_openTag (ih hu)
  | closeTag opened pos rest ih =>
    rw [tokens_of_closing] at h
    rcases bind_pure_eq_ok.mp h with ⟨us, hu, rfl⟩
    exact found_closeTag (ih hu)
  | piece opened pos p rest hp ih =>
    rw [tokens_of_piece hp] at h
    rcases bind_pure_eq_ok.mp h with ⟨us, hu, rfl⟩
    exact found_piece hp (ih hu)
  | blocked opened pos cs e hb =>
    rw [tokens_of_blocked hb] at h
    cases h

end Lexer

/-- A source is read if and only if it has a segmentation, and what is read is that. -/
theorem Token.ofSource_ok_iff_segmentation (source : String) (ts : List Token) :
    Token.ofSource? source = .ok ts ↔ Segmentation source ts := by
  constructor
  · intro h
    rcases Lexer.found_of_tokens h with ⟨spans, hs, hc, rfl⟩
    rw [Nat.zero_add, ← Lexer.utf8ByteSize_eq]
    exact .of_spans hs hc
  · intro h
    rcases h.grammar with ⟨spans, hs, hc, rfl⟩
    rw [Token.ofSource?, Lexer.utf8ByteSize_eq, hc, ← Nat.zero_add (Lexer.byteLength _)]
    exact Lexer.tokens_of_spans hs 0

end TextTemplate
