import TextTemplate.Proofs.Continuation
import TextTemplate.Proofs.ErrorPosition

/-!
# Positions play no part

Tokens are read for their lexemes: tokens with the same lexemes spell the same template, or they are
refused with the same error, which stands at corresponding tokens (`Template.ofTokens?_of_lexemes`).
Both lists are the tokens of one list that are numbered in order, with their positions moved, and
readers move errors along.
-/

namespace TextTemplate

/-- The error at another position. -/
def ParseError.movedTo (p : Nat) (e : ParseError) : ParseError := e.moved fun _ => p

theorem ParseError.moved_eq (move : Nat → Nat) (e : ParseError) :
    e.moved move = e.movedTo (move e.position) := by
  cases e <;> rfl

theorem ParseError.position_moved (move : Nat → Nat) (e : ParseError) :
    (e.moved move).position = move e.position := by
  cases e <;> rfl

/-- Where an error is moved to a place, it does not matter where it was. -/
theorem ParseError.movedTo_moved (p : Nat) (move : Nat → Nat) (e : ParseError) :
    (e.moved move).movedTo p = e.movedTo p := by
  cases e <;> rfl

/-! ## Moved tokens -/

namespace Template

variable {ts ts' : List Token}

/-- The input ends at a token of its own. -/
def HasEnd (ts : List Token) : Prop := .endOfInput ∈ ts.map (·.lexeme)

theorem HasEnd.find? (h : HasEnd ts) : ∃ t, ts.find? (·.lexeme = .endOfInput) = some t := by
  obtain ⟨t, among, ends⟩ := List.mem_map.1 h
  apply Option.isSome_iff_exists.1
  exact List.find?_isSome.2 ⟨t, among, decide_eq_true ends⟩

theorem exists_endOf (h : HasEnd ts) : ∃ t ∈ ts, endOf ts = t.position := by
  obtain ⟨t, found⟩ := h.find?
  refine ⟨t, List.mem_of_find?_eq_some found, ?_⟩
  rw [endOf, found]

/-- The end moves with its token. -/
theorem endOf_moved (h : HasEnd ts) (move : Nat → Nat) :
    endOf (ts.map (·.moved move)) = move (endOf ts) := by
  have same : (fun t : Token => decide (t.lexeme = .endOfInput)) ∘ (·.moved move) =
      fun t : Token => decide (t.lexeme = .endOfInput) := rfl
  obtain ⟨t, found⟩ := h.find?
  rw [endOf, endOf, List.find?_map, same, found]
  rfl

/-- Tokens at other places are read to the same nodes, and the error is at the place that its token
has moved to. -/
theorem ofTokens?_moved (h : HasEnd ts) (move : Nat → Nat) :
    ofTokens? (ts.map (·.moved move)) = (ofTokens? ts).mapError (·.moved move) := by
  have same : (fun t : Token => decide (t.lexeme ≠ .endOfInput)) ∘ (·.moved move) =
      fun t : Token => decide (t.lexeme ≠ .endOfInput) := rfl
  unfold ofTokens?
  rw [endOf_moved h, List.takeWhile_map, same]
  exact Parser.template_moved move (endOf ts) ([], []) _

/-- An error stands where one of the tokens does. -/
theorem exists_position (h : HasEnd ts) {e : ParseError} (refused : ofTokens? ts = .error e) :
    ∃ t ∈ ts, e.position = t.position := by
  obtain ⟨u, rest, split, -, -, reason⟩ :=
    Parser.template_refuses (s := ([], [])) Grammar.Segments.nil refused
  -- A refused token is behind what was read; a missing closing tag is reported at the end.
  have position : e.position = (Parser.next (endOf ts) rest).2 := by
    rcases reason with about | ⟨rfl, block, outer, _, rfl⟩
    · exact about.position_eq
    · rfl
  cases rest with
  | nil =>
    obtain ⟨t, among, same⟩ := exists_endOf h
    exact ⟨t, among, position.trans same⟩
  | cons t rest =>
    refine ⟨t, ?_, position⟩
    apply (List.takeWhile_prefix _).subset
    rw [split]
    exact List.mem_append_right u (List.mem_cons_self ..)

/-! ## Tokens with the same lexemes -/

/-- The lexemes as tokens that are numbered in order. -/
def numbered (ls : List Lexeme) : List Token := ls.mapIdx fun k l => ⟨l, k⟩

/-- Tokens are their lexemes, numbered one after the other and moved to their places. -/
theorem map_moved_numbered (ts : List Token) :
    (numbered (ts.map (·.lexeme))).map (·.moved fun k => (Token.nth ts k).position) = ts := by
  apply List.ext_getElem
  · simp [numbered]
  · intro k inside inside'
    simp [numbered, Token.moved, Token.nth, inside']

theorem hasEnd_numbered (h : HasEnd ts) : HasEnd (numbered (ts.map (·.lexeme))) := by
  have same : (numbered (ts.map (·.lexeme))).map (·.lexeme) = ts.map (·.lexeme) := by
    apply List.ext_getElem <;> simp [numbered]
  rw [HasEnd, same]
  exact h

theorem position_lt_of_mem_numbered {ls : List Lexeme} {t : Token} (h : t ∈ numbered ls) :
    t.position < ls.length := by
  obtain ⟨k, inside, rfl⟩ := List.mem_mapIdx.1 h
  exact inside

/-- Tokens with the same lexemes spell the same template, or they are refused with the same error at
corresponding tokens. -/
theorem ofTokens?_of_lexemes (h : HasEnd ts) (same : ts'.map (·.lexeme) = ts.map (·.lexeme)) :
    (∀ t, ofTokens? ts = .ok t → ofTokens? ts' = .ok t) ∧
    ∀ e, ofTokens? ts = .error e → ∃ (k : Nat) (t t' : Token), ts[k]? = some t ∧
      ts'[k]? = some t' ∧ e.position = t.position ∧
      ofTokens? ts' = .error (e.movedTo t'.position) := by
  have ends := hasEnd_numbered h
  -- Both lists are the same numbered lexemes, moved to different places.
  have left := ofTokens?_moved ends fun k => (Token.nth ts k).position
  have right := ofTokens?_moved ends fun k => (Token.nth ts' k).position
  rw [map_moved_numbered] at left
  rw [← same, map_moved_numbered, same] at right
  cases read : ofTokens? (numbered (ts.map (·.lexeme))) with
  | ok t =>
    rw [read] at left right
    rw [left, right]
    exact ⟨fun _ => id, by rintro _ ⟨⟩⟩
  | error e =>
    rw [read] at left right
    obtain ⟨t, among, stands⟩ := exists_position ends read
    have inside := position_lt_of_mem_numbered among
    rw [← stands, List.length_map] at inside
    have inside' : e.position < ts'.length := by
      have lengths := congrArg List.length same
      rw [List.length_map, List.length_map] at lengths
      omega
    rw [left, right]
    refine ⟨by rintro _ ⟨⟩, ?_⟩
    rintro _ ⟨⟩
    refine ⟨e.position, _, _, List.getElem?_eq_getElem inside, List.getElem?_eq_getElem inside',
      ?_, ?_⟩
    · rw [ParseError.position_moved]
      simp [Token.nth, inside]
    · rw [ParseError.movedTo_moved]
      simp [Except.mapError, ParseError.moved_eq, Token.nth, inside']

end Template

end TextTemplate
