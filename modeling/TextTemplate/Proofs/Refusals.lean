import Mathlib
import TextTemplate.Proofs.Seam

/-!
# Where a source is refused

A source that falls into no tokens has a readable front, behind which a tag opens and is read up to
the place where the reader is blocked (`Refused`). Each error is exact about that place, and final
(`Token.ofSource_error_exact`): closing the tag there mends all in front of it, and nothing that
follows the blocking characters matters. What follows them plays a part only in two places, which
look one character ahead: a closing brace may be one of a pair, and a word may go on.
-/

namespace TextTemplate

namespace Lexer

/-! ## Texts in front of tags -/

/-- A run that ends at opening braces is not cut short by those behind it. -/
theorem RunsTo.apart {run rest : List Char} (h : RunsTo opening run rest) (ne : rest ≠ []) :
    Apart run opening := by
  rintro ⟨last, -⟩
  obtain ⟨before, rfl⟩ := List.getLast?_eq_some_iff.1 last
  obtain ⟨after, rfl⟩ := h.1.resolve_left ne
  -- A brace at the end of the text would be the first of a pair.
  have first := h.2 before ('{' :: after) (by simp [opening])
  simp at first

/-- A text that runs to a readable front, up to the tag behind it, runs to it on its own. -/
theorem RunsTo.front {run front more : List Char}
    (h : RunsTo opening run (front ++ (opening ++ more))) (apart : Apart front opening) :
    RunsTo opening run front := by
  -- Only the first two characters behind the run matter, so the front may hold both, one or none of
  -- them.
  match front with
  | [] => exact h.imp (.inl rfl) nofun
  | [c] =>
    obtain ends | ⟨after, opens⟩ := h.1
    · cases ends
    · cases opens
      exact absurd ⟨rfl, rfl⟩ apart
  | c :: d :: tail =>
    obtain ends | ⟨after, opens⟩ := h.1
    · cases ends
    · cases opens
      exact h.imp (.inr ⟨tail, rfl⟩) id

theorem Apart.append {u front : List Char} (h : Apart u opening) (h' : Apart front opening) :
    Apart (u ++ front) opening := by
  rintro ⟨last, first⟩
  rw [List.getLast?_append] at last
  cases ends : front.getLast? with
  | none => exact h ⟨by rwa [ends] at last, first⟩
  | some c => exact h' ⟨by rwa [ends] at last ⊢, first⟩

/-! ## Where the reader is blocked -/

/-- Characters from byte `pos` on are a readable front, the opening and some pieces of a tag, and
what blocks the reader there. -/
inductive Refused (pos : Nat) : List Char → LexicalError → Prop
  | intro {front rest : List Char} {ts : List Token} {pieces : List Piece} {e : LexicalError} :
    tokens .text pos front = .ok ts → Apart front opening → Piece.AllStand rest pieces →
    Blocked (pos + byteLength front)
      (pos + byteLength front + 2 + byteLength (Piece.charsOf pieces)) rest e →
    Refused pos (front ++ (opening ++ (Piece.charsOf pieces ++ rest))) e

theorem Refused.ne_nil {pos : Nat} {cs : List Char} {e : LexicalError} (h : Refused pos cs e) :
    cs ≠ [] := by
  cases h
  simp [opening]

/-- What is read in front of refused characters makes their readable front longer. -/
theorem Refused.behind {u cs : List Char} {pos : Nat} {e : LexicalError}
    (h : Refused (pos + byteLength u) cs e) (apart : Apart u opening)
    (reads : ∀ front more ts, cs = front ++ (opening ++ more) → Apart front opening →
      tokens .text (pos + byteLength u) front = .ok ts →
      ∃ ts', tokens .text pos (u ++ front) = .ok ts') :
    Refused pos (u ++ cs) e := by
  obtain @⟨front, rest, ts, pieces, e, readable, apart', stand, blocked⟩ := h
  obtain ⟨ts', readable'⟩ := reads _ _ _ rfl apart' readable
  rw [Nat.add_assoc pos, ← byteLength_append] at blocked
  rw [← List.append_assoc]
  exact .intro readable' (apart.append apart') stand blocked

/-- What is refused behind a run of text is refused with the run in front. -/
theorem refused_run {run cs : List Char} (ne : run ≠ []) (runs : RunsTo opening run cs) {pos : Nat}
    {e : LexicalError} (h : Refused (pos + byteLength run) cs e) : Refused pos (run ++ cs) e := by
  apply h.behind (runs.apart h.ne_nil)
  rintro front more ts rfl apart readable
  exact ⟨_, by rw [tokens_of_text ne (runs.front apart), readable]; rfl⟩

/-- What is refused behind a tag is refused with the tag in front. -/
theorem refused_tag {pieces : List Piece} {cs : List Char}
    (stand : Piece.AllStand (closing ++ cs) pieces) {pos : Nat} {e : LexicalError}
    (h : Refused (pos + byteLength (Span.tag pieces).chars) cs e) :
    Refused pos ((Span.tag pieces).chars ++ cs) e := by
  apply h.behind
  · rintro ⟨last, -⟩
    simp [Span.chars, closing] at last
  · rintro front more ts rfl apart readable
    have stand' : Piece.AllStand (closing ++ front) pieces :=
      stand.imp fun _ => endsWord_closing.of_head rfl
    exact ⟨_, by rw [tokens_of_tag stand', readable]; rfl⟩

/-- Where characters are refused. Inside a tag there are pieces first, up to the place that blocks
the reader or to the end of the tag, behind which the rest is refused. -/
def RefusedIn : State → Nat → List Char → LexicalError → Prop
  | .text, pos, cs, e => Refused pos cs e
  | .tag opened, pos, cs, e => ∃ pieces rest, cs = Piece.charsOf pieces ++ rest ∧
      Piece.AllStand rest pieces ∧
      (Blocked opened (pos + byteLength (Piece.charsOf pieces)) rest e ∨
        ∃ more, rest = closing ++ more ∧
          Refused (pos + byteLength (Piece.charsOf pieces) + 2) more e)

/-- Wherever the reader fails, it fails at a place that blocks it, with a readable front. -/
theorem refusedIn_of_tokens {state : State} {pos : Nat} {cs : List Char} {e : LexicalError}
    (h : tokens state pos cs = .error e) : RefusedIn state pos cs e := by
  induction state, pos, cs using reading_induction with
  | ended pos => cases (tokens.eq_1 pos).symm.trans h
  | literal pos run rest ne runs ih =>
    rw [tokens_of_text ne runs] at h
    exact refused_run ne runs (ih (bind_pure_eq_error.1 h))
  | openTag pos rest ih =>
    rw [tokens_of_opening] at h
    obtain ⟨pieces, rest, rfl, stand, blocked | ⟨more, rfl, later⟩⟩ := ih (bind_pure_eq_error.1 h)
    · -- This tag is the one that is blocked, with nothing in front of it.
      exact .intro (tokens.eq_1 pos) (.nil opening) stand blocked
    · have further : Refused (pos + byteLength (Span.tag pieces).chars) more e := by
        rwa [byteLength_tag, ← Nat.add_assoc, ← Nat.add_assoc]
      have tag := refused_tag stand further
      rwa [Span.chars, List.append_assoc, List.append_assoc] at tag
  | closeTag opened pos rest ih =>
    rw [tokens_of_closing] at h
    have later := ih (bind_pure_eq_error.1 h)
    exact ⟨[], _, rfl, trivial, .inr ⟨rest, rfl, later⟩⟩
  | piece opened pos p rest stands ih =>
    rw [tokens_of_piece stands] at h
    obtain ⟨pieces, rest, rfl, stand, further⟩ := ih (bind_pure_eq_error.1 h)
    rw [Nat.add_assoc pos, ← byteLength_append] at further
    exact ⟨p :: pieces, rest, (List.append_assoc ..).symm, ⟨stands, stand⟩, further⟩
  | blocked opened pos cs e' blocked =>
    cases (tokens_of_blocked blocked).symm.trans h
    exact ⟨[], cs, rfl, trivial, .inl blocked⟩

/-! ## What follows the front of a tag -/

theorem Piece.Stands.ne_closeTag {p : Piece} {rest : List Char} (h : p.Stands rest) (pos : Nat) :
    ∀ t ∈ p.tokens pos, t.lexeme ≠ .symbol .closeTag := by
  intro t mem closes
  -- Marks and words are told from the closing braces by what they are spelled with.
  cases p with
  | blank c => cases mem
  | mark s =>
    cases List.mem_singleton.1 mem
    cases closes
    have mark : Symbol.closeTag ∈ marks := h
    exact absurd mark (by decide)
  | reserved s =>
    cases List.mem_singleton.1 mem
    cases closes
    cases h.1
  | identifier w =>
    cases List.mem_singleton.1 mem
    cases closes
  | keyword s =>
    rcases List.mem_cons.1 mem with rfl | mem
    · cases closes
    · cases List.mem_singleton.1 mem
      cases closes
      cases h.1

/-- No piece of a tag is its closing braces. -/
theorem Piece.AllStand.ne_closeTag {pieces : List Piece} {rest : List Char}
    (h : Piece.AllStand rest pieces) (pos : Nat) :
    ∀ t ∈ Piece.tokensOf pos pieces, t.lexeme ≠ .symbol .closeTag := by
  induction pieces generalizing pos with
  | nil => nofun
  | cons p more ih =>
    intro t mem
    rcases List.mem_append.1 mem with mem | mem
    · exact h.1.ne_closeTag pos t mem
    · exact ih h.2 _ t mem

section
variable {front rest : List Char} {ts : List Token} {pieces : List Piece}

/-- Behind a readable front, the opening and some pieces of a tag are read as they are. -/
theorem tokens_behind (readable : tokens .text 0 front = .ok ts) (apart : Apart front opening) :
    ∃ us, ∀ pieces rest, Piece.AllStand rest pieces →
      tokens .text 0 (front ++ (opening ++ (Piece.charsOf pieces ++ rest))) = (do
        let more ← tokens (.tag (byteLength front))
          (byteLength front + 2 + byteLength (Piece.charsOf pieces)) rest
        return us ++ ⟨.symbol .openTag, byteLength front⟩ ::
          (Piece.tokensOf (byteLength front + 2) pieces ++ more)) := by
  obtain ⟨us, -, -, going⟩ := goesOn_of_tokens readable
  rw [Nat.zero_add] at going
  refine ⟨us, fun pieces rest stand => ?_⟩
  have welds : ∀ more, weld us (⟨.symbol .openTag, byteLength front⟩ :: more) =
      us ++ ⟨.symbol .openTag, byteLength front⟩ :: more := by
    refine fun more => joinWith_apart ?_
    rintro ⟨l, p⟩ - _ ⟨⟩
    cases l <;> rfl
  have opens : Apart front (opening ++ (Piece.charsOf pieces ++ rest)) := apart
  rw [going _ opens, tokens_of_openTag stand]
  simp only [bind_assoc, pure_bind, welds]

/-- The error stays if what follows the pieces blocks the reader likewise. -/
theorem tokens_behind_of_blocked (readable : tokens .text 0 front = .ok ts)
    (apart : Apart front opening) (stand : Piece.AllStand rest pieces) {e : LexicalError}
    (blocked : Blocked (byteLength front)
      (byteLength front + 2 + byteLength (Piece.charsOf pieces)) rest e) :
    tokens .text 0 (front ++ (opening ++ (Piece.charsOf pieces ++ rest))) = .error e := by
  obtain ⟨us, reads⟩ := tokens_behind readable apart
  rw [reads pieces rest stand, tokens_of_blocked blocked]
  rfl

end

end Lexer

open Lexer

/-! ## Exact errors -/

/-- A source that falls into tokens. -/
def Readable (source : String) : Prop := ∃ ts, Token.ofSource? source = .ok ts

/-- A source whose end is inside of a tag, which may end there. -/
def Closable (source : String) : Prop :=
  ∃ ts, Token.ofSource? (source ++ "\x7d\x7d") = .ok ts ∧ InsideTag ts source.utf8ByteSize

/-- `w` is the longest word in front of `rest`, or empty if no word begins there. -/
def LongestWord (w rest : String) : Prop :=
  IsWord w.toList ∧ EndsWord rest.toList ∨
    w = "" ∧ ∀ c more, rest.toList = c :: more → startsWord c = false

/-- The error is about the very place of the source that it names. All in front of it is as it
should be, and nothing behind it matters but the one character that shows whether a brace is one of
a pair, and where a word ends. A tag that is not closed only wants its closing braces. -/
def LexicalError.Exact (source : String) : LexicalError → Prop
  | unclosedTag p => ∃ before after,
    source = before ++ "\x7b\x7b" ++ after ∧ before.utf8ByteSize = p ∧
      Readable before ∧ Readable (source ++ "\x7d\x7d")
  | unexpectedCharacter c p => ∃ before after,
    source = before ++ c.toString ++ after ∧ before.utf8ByteSize = p ∧ Closable before ∧
      ∀ other : String, (c = '}' → other.toList.head? = after.toList.head?) →
        Token.ofSource? (before ++ c.toString ++ other) = .error (.unexpectedCharacter c p)
  | unknownKeyword w p => ∃ before after,
    source = before ++ "#" ++ w ++ after ∧ before.utf8ByteSize = p ∧ Closable before ∧
      LongestWord w after ∧ (∀ s : Symbol, s.isWord → s.spelling ≠ w) ∧
      ∀ other : String, other.toList.head? = after.toList.head? →
        Token.ofSource? (before ++ "#" ++ w ++ other) = .error (.unknownKeyword w p)

/-! ## Words behind a `#` -/

/-- The word that is read is the longest one. -/
theorem longestWord_word (cs : List Char) :
    LongestWord (String.ofList (word cs)) (String.ofList (afterWord cs)) := by
  unfold LongestWord
  rw [String.toList_ofList, String.toList_ofList]
  cases cs with
  | nil => exact .inr ⟨rfl, nofun⟩
  | cons c rest =>
    -- Where no word starts the one that is read is empty.
    by_cases starts : startsWord c = true
    · rw [word, if_pos starts, afterWord, if_pos starts]
      exact .inl ⟨isWord_of_startsWord starts rest, endsWord_dropWhile rest⟩
    · rw [word, if_neg starts, afterWord, if_neg starts]
      refine .inr ⟨rfl, ?_⟩
      rintro _ _ ⟨⟩
      exact Bool.eq_false_iff.2 starts

/-- How long a word is depends on the next character alone. -/
theorem LongestWord.of_head {w rest other : String} (h : LongestWord w rest)
    (same : other.toList.head? = rest.toList.head?) : LongestWord w other := by
  obtain ⟨isWord, ends⟩ | ⟨empty, noWord⟩ := h
  · exact .inl ⟨isWord, ends.of_head same⟩
  · refine .inr ⟨empty, fun c more split => ?_⟩
    rw [split] at same
    obtain ⟨tail, split'⟩ := List.head?_eq_some_iff.1 same.symm
    exact noWord c tail split'

theorem LongestWord.word_append {w rest : String} (h : LongestWord w rest) :
    word (w.toList ++ rest.toList) = w.toList := by
  obtain ⟨isWord, ends⟩ | ⟨rfl, noWord⟩ := h
  · exact (word_of_isWord isWord ends).1
  · cases split : rest.toList with
    | nil => rfl
    | cons c more => exact if_neg (ne_true_of_eq_false (noWord c more split))

/-! ## The three errors -/

section
variable {front rest : List Char} {ts : List Token} {pieces : List Piece} {source : String}

theorem byteLength_openedTag (front : List Char) (pieces : List Piece) :
    byteLength (front ++ (opening ++ Piece.charsOf pieces)) =
      byteLength front + 2 + byteLength (Piece.charsOf pieces) := by
  rw [byteLength_append, byteLength_append, ← Nat.add_assoc]
  rfl

/-- A readable front, opening braces and pieces of a tag can be closed. -/
theorem closable_of_tokens (readable : tokens .text 0 front = .ok ts)
    (apart : Apart front opening) (stand : Piece.AllStand rest pieces) :
    Closable (String.ofList (front ++ (opening ++ Piece.charsOf pieces))) := by
  obtain ⟨us, reads⟩ := tokens_behind readable apart
  have spelled : (String.ofList (front ++ (opening ++ Piece.charsOf pieces)) ++ "\x7d\x7d").toList =
      front ++ (opening ++ (Piece.charsOf pieces ++ closing)) := by
    simp [closing]
  have stand' := stand.imp fun _ => endsWord_closing
  unfold Closable
  rw [Token.ofSource?, spelled, reads pieces closing stand', closing, tokens.eq_5, tokens.eq_1,
    utf8ByteSize_ofList, byteLength_openedTag]
  refine ⟨_, rfl, us, _, _, rfl, rfl, ?_, ?_⟩
  · dsimp only
    omega
  · intro t mem before
    rcases List.mem_append.1 mem with mem | mem
    · exact stand.ne_closeTag _ t mem
    · -- The end of the tag and of the source are no tokens in front of this place.
      exfalso
      rcases List.mem_cons.1 mem with rfl | mem
      · exact Nat.lt_irrefl _ before
      · cases List.mem_singleton.1 mem
        exact Nat.not_lt_of_le (Nat.le_add_right _ 2) before

/-- A tag that has only pieces up to the end of the source wants its closing braces, and nothing
else is wrong. -/
theorem exact_of_unclosed (readable : tokens .text 0 front = .ok ts) (apart : Apart front opening)
    (stand : Piece.AllStand [] pieces)
    (spelled : source.toList = front ++ (opening ++ Piece.charsOf pieces)) :
    LexicalError.Exact source (.unclosedTag (byteLength front)) := by
  obtain ⟨us, closed, -⟩ := closable_of_tokens readable apart stand
  rw [← spelled, String.ofList_toList] at closed
  refine ⟨String.ofList front, String.ofList (Piece.charsOf pieces), ?_, utf8ByteSize_ofList front,
    ⟨ts, ?_⟩, us, closed⟩
  · apply String.toList_inj.1
    simp [spelled, opening]
  · rw [Token.ofSource?, String.toList_ofList]
    exact readable

/-- A character that begins no piece and no closing braces is refused whatever follows, a brace if
it is not doubled. -/
theorem exact_of_unexpected (readable : tokens .text 0 front = .ok ts)
    (apart : Apart front opening) {c : Char} (stand : Piece.AllStand (c :: rest) pieces)
    (spelled : source.toList = front ++ (opening ++ (Piece.charsOf pieces ++ c :: rest)))
    (noClose : ¬ closing <+: c :: rest) (noHash : c ≠ '#') (noBlank : Unicode.isBlank c = false)
    (noMark : Symbol.ofPunctuation? c = none) (noWord : startsWord c = false) :
    LexicalError.Exact source (.unexpectedCharacter c
      (byteLength front + 2 + byteLength (Piece.charsOf pieces))) := by
  refine ⟨String.ofList (front ++ (opening ++ Piece.charsOf pieces)), String.ofList rest, ?_, ?_,
    closable_of_tokens readable apart stand, fun other same => ?_⟩
  · apply String.toList_inj.1
    simp [spelled]
  · rw [utf8ByteSize_ofList, byteLength_openedTag]
  · -- A brace is one of a pair or not by the character behind it.
    have noClose' : ¬ closing <+: c :: other.toList := by
      rintro ⟨tail, pair⟩
      obtain ⟨rfl, behind⟩ := List.cons.inj pair
      have same := same rfl
      rw [← behind, String.toList_ofList] at same
      obtain ⟨more, rfl⟩ := List.head?_eq_some_iff.1 same.symm
      exact noClose ⟨more, rfl⟩
    have stand' : Piece.AllStand (c :: other.toList) pieces :=
      stand.imp fun ends => ends.of_head rfl
    rw [← tokens_behind_of_blocked readable apart stand'
      (.unexpected noClose' noHash noBlank noMark noWord), Token.ofSource?]
    simp

/-- A word that is no keyword is refused behind `#` whatever follows its end. -/
theorem exact_of_unknown (readable : tokens .text 0 front = .ok ts) (apart : Apart front opening)
    (stand : Piece.AllStand ('#' :: rest) pieces)
    (spelled : source.toList = front ++ (opening ++ (Piece.charsOf pieces ++ '#' :: rest)))
    (unknown : Symbol.ofWord? (String.ofList (word rest)) = none) :
    LexicalError.Exact source (.unknownKeyword (String.ofList (word rest))
      (byteLength front + 2 + byteLength (Piece.charsOf pieces))) := by
  have longest := longestWord_word rest
  refine ⟨String.ofList (front ++ (opening ++ Piece.charsOf pieces)),
    String.ofList (afterWord rest), ?_, ?_, closable_of_tokens readable apart stand, longest,
    Symbol.ofWord?_eq_none.1 unknown, fun other same => ?_⟩
  · apply String.toList_inj.1
    simp [spelled, word_append_afterWord]
  · rw [utf8ByteSize_ofList, byteLength_openedTag]
  · -- The character behind the word ends it there.
    have same := (longest.of_head same).word_append
    rw [String.toList_ofList] at same
    have stand' : Piece.AllStand ('#' :: (word rest ++ other.toList)) pieces :=
      stand.imp fun ends => ends.of_head rfl
    rw [← tokens_behind_of_blocked readable apart stand' (.unknown same unknown), Token.ofSource?]
    simp

end

/-- An exact error is at a boundary between characters, since what is in front of it is a text. -/
theorem LexicalError.Exact.isValid {source : String} {e : LexicalError} (h : e.Exact source) :
    String.Pos.Raw.IsValid source ⟨e.position⟩ := by
  rw [String.Pos.Raw.isValid_iff_exists_append]
  cases e with
  | unclosedTag p =>
    obtain ⟨before, after, rfl, rfl, -⟩ := h
    exact ⟨before, _, String.append_assoc .., rfl⟩
  | unexpectedCharacter c p =>
    obtain ⟨before, after, rfl, rfl, -⟩ := h
    exact ⟨before, _, String.append_assoc .., rfl⟩
  | unknownKeyword w p =>
    obtain ⟨before, after, rfl, rfl, -⟩ := h
    exact ⟨before, _, by rw [String.append_assoc, String.append_assoc], rfl⟩

/-- **Errors are exact and final.** The position of an error is a boundary between characters of the
source. What the error says of that place is so, all in front of it is read if the tag is closed
there, and every other source with these characters up to there is refused with the same error. -/
theorem Token.ofSource_error_exact (source : String) (e : LexicalError)
    (refused : Token.ofSource? source = .error e) :
    e.position ≤ source.utf8ByteSize ∧ String.Pos.Raw.IsValid source ⟨e.position⟩ ∧
      e.Exact source := by
  have found : Refused 0 source.toList e := refusedIn_of_tokens refused
  have exact : e.Exact source := by
    generalize spelled : source.toList = cs at found
    obtain ⟨readable, apart, stand, blocked⟩ := found
    rw [Nat.zero_add] at blocked
    -- Each way to be blocked is one kind of error.
    cases blocked with
    | unclosed => exact exact_of_unclosed readable apart stand (by rw [spelled, List.append_nil])
    | unexpected noClose noHash noBlank noMark noWord =>
      exact exact_of_unexpected readable apart stand spelled noClose noHash noBlank noMark noWord
    | unknown longest unknown =>
      subst longest
      exact exact_of_unknown readable apart stand spelled unknown
  exact ⟨exact.isValid.le_rawEndPos, exact.isValid, exact⟩

/-- Behind a text of two bytes and a tag, a brace that is no pair is refused where it stands. -/
theorem Token.ofSource_error_exact_lone_brace :
    let source := "é\x7b\x7bx\x7d\x7d\x7b\x7b y\x7dz"
    let e := LexicalError.unexpectedCharacter '\x7d' 11
    Token.ofSource? source = .error e ∧ e.position ≤ source.utf8ByteSize ∧
      String.Pos.Raw.IsValid source ⟨e.position⟩ ∧ e.Exact source := by
  intro source e
  have refused : Token.ofSource? source = .error e := by cbv
  exact ⟨refused, Token.ofSource_error_exact source e refused⟩

end TextTemplate
