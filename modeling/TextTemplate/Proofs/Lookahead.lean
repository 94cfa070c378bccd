import TextTemplate.Proofs.TagReading

/-!
# Readers look one token ahead

What a reader of a part of a tag does depends on the tokens that it takes and on the first lexeme
that it leaves, and on nothing behind that one. `Reads` is this law of a reader at a list of tokens:

* what it takes derives what it returns, and it would take and return the same in front of any other
  rest with the same first lexeme;
* an error names the first token that it does not take, what it takes could go on to a derivation,
  and no other rest with the same first lexeme would be read;
* tokens that stand elsewhere are read alike, and the error stands where its token does.

The law holds of readers in a row if it holds of each (`Reads.bind`), and of a choice by the first
token (`Reads.choice`); so each reader has it by the way it is put together.
-/

namespace TextTemplate

/-- The token with its position moved. -/
def Token.moved (move : Nat → Nat) (t : Token) : Token := ⟨t.lexeme, move t.position⟩

/-- The token `d` bytes further on. -/
def Token.shift (d : Nat) (t : Token) : Token := ⟨t.lexeme, t.position + d⟩

namespace ParseError

/-- The error with its position moved. -/
def moved (move : Nat → Nat) : ParseError → ParseError
  | expectedToken expected found p => expectedToken expected found (move p)
  | unknownBlockKeyword found p => unknownBlockKeyword found (move p)
  | missingClosingTag block p => missingClosingTag block (move p)

/-- The error `d` bytes further on. -/
def shift (d : Nat) : ParseError → ParseError
  | expectedToken expected found p => expectedToken expected found (p + d)
  | unknownBlockKeyword found p => unknownBlockKeyword found (p + d)
  | missingClosingTag block p => missingClosingTag block (p + d)

theorem shift_eq_moved (d : Nat) : shift d = moved (· + d) := by
  funext e
  cases e <;> rfl

/-- The error refuses a token of this kind at this position. -/
def IsAbout (found : TokenKind × Nat) : ParseError → Prop
  | expectedToken _ kind p => (kind, p) = found
  | unknownBlockKeyword kind p => (kind, p) = found
  | missingClosingTag _ _ => False

end ParseError

namespace Parser

open Grammar

variable {α β : Type}

/-- A reader, which is told where the input ends. -/
abbrev Reader (α : Type) := Nat → List Token → Except ParseError (α × List Token)

/-- What a reader comes to where positions are moved. -/
def movedRead (move : Nat → Nat) :
    Except ParseError (α × List Token) → Except ParseError (α × List Token)
  | .error e => .error (e.moved move)
  | .ok (x, rest) => .ok (x, rest.map (·.moved move))

/-- The first lexeme. -/
def front (ts : List Token) : Option Lexeme := ts.head?.map (·.lexeme)

/-- The law of a reader at a list of tokens, where `L` says what lexemes derive. -/
structure Reads (L : List Lexeme → α → Prop) (read : Reader α) (finish : Nat) (ts : List Token) :
    Prop where
  takes : ∀ x rest, read finish ts = .ok (x, rest) → ∃ u, ts = u ++ rest ∧ L (spelled u) x ∧
    ∀ finish' rest', front rest' = front rest → read finish' (u ++ rest') = .ok (x, rest')
  refuses : ∀ e, read finish ts = .error e → ∃ u rest, ts = u ++ rest ∧
    e.IsAbout (next finish rest) ∧ (∃ c x, L (spelled u ++ c) x) ∧
    ∀ finish' rest', front rest' = front rest → ∃ e', read finish' (u ++ rest') = .error e'
  moves : ∀ move, read (move finish) (ts.map (·.moved move)) = movedRead move (read finish ts)

@[simp] theorem spelled_append (u v : List Token) : spelled (u ++ v) = spelled u ++ spelled v :=
  List.map_append

variable {finish : Nat} {ts : List Token}

/-- A token that has been moved is met where it was moved to. -/
theorem next_moved (move : Nat → Nat) (ts : List Token) :
    next (move finish) (ts.map (·.moved move)) =
      ((next finish ts).1, move (next finish ts).2) := by
  cases ts <;> rfl

@[simp] theorem front_cons (t : Token) (ts : List Token) : front (t :: ts) = some t.lexeme := rfl

/-- What stands in front does not depend on where. -/
theorem front_moved (move : Nat → Nat) (ts : List Token) :
    front (ts.map (·.moved move)) = front ts := by
  cases ts <;> rfl

theorem front_eq_some {l : Lexeme} (h : front ts = some l) :
    ∃ p rest, ts = ⟨l, p⟩ :: rest := by
  cases ts with
  | nil => cases h
  | cons t rest =>
    cases h
    exact ⟨t.position, rest, rfl⟩

/-- A list starts as before if its rest does. -/
theorem front_append_congr {u rest rest' : List Token} (same : front rest' = front rest) :
    front (u ++ rest') = front (u ++ rest) := by
  cases u with
  | nil => exact same
  | cons t u => rfl

/-! ## Readers put together -/

/-- Lexemes of the one language, and behind them lexemes of the other. -/
def Followed (L : List Lexeme → α → Prop) (M : α → List Lexeme → β → Prop) (w : List Lexeme)
    (y : β) : Prop := ∃ u v x, w = u ++ v ∧ L u x ∧ M x v y

/-- The symbol, and behind it lexemes of the language. -/
def Behind (s : Symbol) (L : List Lexeme → α → Prop) (w : List Lexeme) (x : α) : Prop :=
  ∃ v, w = .symbol s :: v ∧ L v x

/-- No lexemes, for one result. -/
def Nothing (x : α) (w : List Lexeme) (y : α) : Prop := w = [] ∧ y = x

/-- An identifier. -/
def Identifier (w : List Lexeme) (x : String) : Prop := w = [.identifier x]

/-- A language that has lexemes for some result. -/
class Derivable (L : List Lexeme → α → Prop) : Prop where
  derives : ∃ w x, L w x

section
variable {L L' : List Lexeme → α → Prop} {M : α → List Lexeme → β → Prop}

instance [Derivable L] [∀ x, Derivable (M x)] : Derivable (Followed L M) where
  derives := by
    obtain ⟨u, x, first⟩ := Derivable.derives (L := L)
    obtain ⟨v, y, second⟩ := Derivable.derives (L := M x)
    exact ⟨u ++ v, y, u, v, x, rfl, first, second⟩

instance {s : Symbol} [Derivable L] : Derivable (Behind s L) where
  derives := by
    obtain ⟨v, x, more⟩ := Derivable.derives (L := L)
    exact ⟨.symbol s :: v, x, v, rfl, more⟩

instance [Derivable L] : Derivable fun w x => L' w x ∨ L w x where
  derives := by
    obtain ⟨w, x, derived⟩ := Derivable.derives (L := L)
    exact ⟨w, x, .inr derived⟩

instance {x : α} : Derivable (Nothing x) := ⟨[], x, rfl, rfl⟩

instance : Derivable Identifier := ⟨[.identifier ""], "", rfl⟩

instance : Derivable Dotted := ⟨[], [], .nil⟩

instance : Derivable Piped := ⟨[], [], .nil⟩

instance : Derivable IsAccessor := ⟨_, _, .intro "" .nil .nil⟩

instance : Derivable Name := ⟨_, _, .intro "" .nil⟩

instance : Derivable Param := ⟨_, _, .intro "" (.intro "" .nil .nil)⟩

instance : Derivable Params := ⟨_, _, .one (.intro "" (.intro "" .nil .nil))⟩

instance : Derivable Index := ⟨[], none, .none⟩

end

namespace Reads

variable {L L' M : List Lexeme → α → Prop} {read q r : Reader α}

/-- A reader of some lexemes is one of more. -/
theorem mono (h : Reads L read finish ts) (sub : ∀ w x, L w x → L' w x) :
    Reads L' read finish ts where
  takes := by
    intro x rest ok
    obtain ⟨u, split, derived, again⟩ := h.takes x rest ok
    exact ⟨u, split, sub _ _ derived, again⟩
  refuses := by
    intro e error
    obtain ⟨u, rest, split, about, ⟨c, x, viable⟩, again⟩ := h.refuses e error
    exact ⟨u, rest, split, about, ⟨c, x, sub _ _ viable⟩, again⟩
  moves := h.moves

theorem pure (x : α) : Reads (Nothing x) (fun _ ts => .ok (x, ts)) finish ts where
  takes := by
    intro y rest ok
    cases ok
    exact ⟨[], rfl, ⟨rfl, rfl⟩, fun _ _ _ => rfl⟩
  refuses := nofun
  moves := fun _ => rfl

/-- A reader that refuses every list. -/
theorem error {f : TokenKind × Nat → ParseError} (about : ∀ k, (f k).IsAbout k)
    (moved : ∀ move kind p, f (kind, move p) = (f (kind, p)).moved move) [Derivable L] :
    Reads L (fun finish ts => .error (f (next finish ts))) finish ts where
  takes := nofun
  refuses := by
    intro e error
    cases error
    exact ⟨[], ts, rfl, about _, Derivable.derives (L := L), fun _ _ _ => ⟨_, rfl⟩⟩
  moves := by
    intro move
    rw [next_moved, moved]
    rfl

/-- One reader after the other. -/
theorem bind {p : Reader α} {q : α → Reader β} {M : α → List Lexeme → β → Prop}
    (hp : Reads L p finish ts)
    (hq : ∀ x rest, p finish ts = .ok (x, rest) → Reads (M x) (q x) finish rest)
    [∀ x, Derivable (M x)] :
    Reads (Followed L M) (fun finish ts => do let (x, ts) ← p finish ts; q x finish ts)
      finish ts where
  takes := by
    intro y rest ok
    obtain ⟨⟨x, middle⟩, first, second⟩ := bind_eq_ok.1 ok
    obtain ⟨u, rfl, derived, again⟩ := hp.takes x middle first
    obtain ⟨v, rfl, derived', again'⟩ := (hq x middle first).takes y rest second
    refine ⟨u ++ v, (List.append_assoc ..).symm, ?_, ?_⟩
    · exact ⟨_, _, x, spelled_append u v, derived, derived'⟩
    · intro finish' rest' same
      rw [List.append_assoc]
      exact bind_eq_ok.2 ⟨_, again _ _ (front_append_congr same), again' _ _ same⟩
  refuses := by
    intro e error
    cases first : p finish ts with
    | error e' =>
      -- What is missing of the first part is followed by anything that the second one reads.
      rw [first] at error
      cases error
      obtain ⟨u, rest, split, about, ⟨c, x, viable⟩, again⟩ := hp.refuses e first
      obtain ⟨v, y, more⟩ := Derivable.derives (L := M x)
      refine ⟨u, rest, split, about, ⟨c ++ v, y, _, v, x, ?_, viable, more⟩, ?_⟩
      · rw [List.append_assoc]
      · intro finish' rest' same
        obtain ⟨e', failed⟩ := again finish' rest' same
        exact ⟨e', by simp only [failed]; rfl⟩
    | ok result =>
      -- The first part reads the same as long as the tokens of the second one start alike.
      obtain ⟨x, middle⟩ := result
      rw [first] at error
      obtain ⟨u, rfl, derived, again⟩ := hp.takes x middle first
      obtain ⟨v, rest, rfl, about, ⟨c, y, viable⟩, again'⟩ :=
        (hq x middle first).refuses e error
      refine ⟨u ++ v, rest, (List.append_assoc ..).symm, about, ?_, ?_⟩
      · refine ⟨c, y, spelled u, spelled v ++ c, x, ?_, derived, viable⟩
        rw [spelled_append, List.append_assoc]
      · intro finish' rest' same
        obtain ⟨e', failed⟩ := again' finish' rest' same
        rw [List.append_assoc]
        exact ⟨e', by simp only [again _ _ (front_append_congr same)]; exact failed⟩
  moves := by
    intro move
    dsimp only
    rw [hp.moves move]
    cases first : p finish ts with
    | error e => rfl
    | ok result => exact (hq result.1 result.2 first).moves move

/-- A reader that does the same wherever the same lexeme stands in front. -/
theorem congr (h : Reads L r finish ts)
    (same : ∀ finish ts', front ts' = front ts → read finish ts' = r finish ts') :
    Reads L read finish ts where
  takes := by
    intro x rest ok
    rw [same finish ts rfl] at ok
    obtain ⟨u, rfl, derived, again⟩ := h.takes x rest ok
    refine ⟨u, rfl, derived, ?_⟩
    intro finish' rest' alike
    -- What is read again has the same first token, so both readers agree there too.
    rw [same finish' _ (front_append_congr alike)]
    exact again finish' rest' alike
  refuses := by
    intro e error
    rw [same finish ts rfl] at error
    obtain ⟨u, rest, rfl, about, viable, again⟩ := h.refuses e error
    refine ⟨u, rest, rfl, about, viable, ?_⟩
    intro finish' rest' alike
    rw [same finish' _ (front_append_congr alike)]
    exact again finish' rest' alike
  moves := by
    intro move
    rw [same _ _ (front_moved move ts), same finish ts rfl]
    exact h.moves move

/-- A reader that drops the symbol in front. -/
theorem tail {s : Symbol} (p : Nat) {rest : List Token} (h : Reads M q finish rest) :
    Reads (Behind s M) (fun finish ts => q finish ts.tail) finish (⟨.symbol s, p⟩ :: rest) where
  takes := by
    intro x rest' ok
    obtain ⟨u, split, derived, again⟩ := h.takes x rest' ok
    refine ⟨⟨.symbol s, p⟩ :: u, congrArg _ split, ⟨spelled u, rfl, derived⟩, ?_⟩
    exact fun finish' rest'' same => again finish' rest'' same
  refuses := by
    intro e error
    obtain ⟨u, rest', split, about, ⟨c, x, viable⟩, again⟩ := h.refuses e error
    refine ⟨⟨.symbol s, p⟩ :: u, rest', congrArg _ split, about, ⟨c, x, _, rfl, viable⟩, ?_⟩
    exact fun finish' rest'' same => again finish' rest'' same
  moves := fun move => h.moves move

/-- A reader that drops a symbol and goes on with another reader, where the symbol stands. -/
theorem found {s : Symbol} (starts : front ts = some (.symbol s))
    (drops : ∀ finish p ts, read finish (⟨.symbol s, p⟩ :: ts) = q finish ts)
    (hq : ∀ p rest, ts = ⟨.symbol s, p⟩ :: rest → Reads M q finish rest) :
    Reads (Behind s M) read finish ts := by
  obtain ⟨p, rest, rfl⟩ := front_eq_some starts
  apply ((hq p rest rfl).tail p).congr
  intro finish ts' same
  obtain ⟨p', rest', rfl⟩ := front_eq_some same
  exact drops finish p' rest'

/-- A choice by the first token: behind the symbol goes on the one reader, and where the symbol does
not stand the other one. -/
theorem choice {s : Symbol}
    (drops : ∀ finish p ts, read finish (⟨.symbol s, p⟩ :: ts) = q finish ts)
    (other : ∀ finish ts, front ts ≠ some (.symbol s) → read finish ts = r finish ts)
    (hq : ∀ p rest, ts = ⟨.symbol s, p⟩ :: rest → Reads M q finish rest)
    (hr : front ts ≠ some (.symbol s) → Reads L r finish ts) :
    Reads (fun w x => Behind s M w x ∨ L w x) read finish ts := by
  by_cases starts : front ts = some (.symbol s)
  · exact (found starts drops hq).mono fun w x derived => .inl derived
  · have h : Reads L read finish ts := by
      apply (hr starts).congr
      intro finish ts' same
      exact other finish ts' (same ▸ starts)
    exact h.mono fun w x derived => .inr derived

/-- A reader behind a symbol that has to be there. -/
theorem behind {e : Expectation} {s : Symbol} (kind : e.kind = .symbol s)
    (hq : ∀ p rest, ts = ⟨.symbol s, p⟩ :: rest → Reads L q finish rest) [Derivable L] :
    Reads (Behind s L) (fun finish ts => do let ts ← expect finish e ts; q finish ts)
      finish ts := by
  -- Without the symbol the reader refuses the token that is there.
  have missing : Reads (Behind s L) (fun finish ts => .error (unexpected finish e ts)) finish ts :=
    error (f := fun k => .expectedToken e k.1 k.2) (fun _ => rfl) fun _ _ _ => rfl
  have h : Reads _ (fun finish ts => do let ts ← expect finish e ts; q finish ts) finish ts :=
    choice (s := s) (M := L) (q := q) ?_ ?_ hq fun _ => missing
  · exact h.mono fun w x derived => derived.elim id id
  · intro finish p ts
    simp only [expect, if_pos (show Token.kind ⟨.symbol s, p⟩ = e.kind from kind.symm)]
    rfl
  · intro finish ts other
    cases ts with
    | nil => rfl
    | cons t rest =>
      have differs : t.kind ≠ e.kind := by
        intro same
        exact other (congrArg some (eq_symbol_of_kind (same.trans kind)))
      simp only [expect, if_neg differs]
      rfl

end Reads

end Parser

end TextTemplate
