import TextTemplate.Template
import TextTemplate.Template.ParseError

/-!
# Reading one tag

A reader takes the tokens in front of it and returns what they say with the tokens that are left:

    Tag       := '&'? Accessor closeTag
               | '#' if Accessor closeTag
               | '#' each Accessor as '|' name (',' name)? '|' closeTag
               | '>' (Path | '(' Accessor ')') closeTag
               | '#' partial Path (with Param (',' Param)*)? closeTag
    Param     := name '=' Accessor
    Path      := name ('.' name)*
    Accessor  := Path ('|' '>' name)*

Each reader but the optional ones leaves a shorter list (`length_of_tag` and its parts), so reading
tag after tag ends.
-/

namespace TextTemplate

/-- One step after the other has a result if both have. -/
theorem bind_eq_ok {ε α β : Type} {x : Except ε α} {f : α → Except ε β} {b : β} :
    (x >>= f) = .ok b ↔ ∃ a, x = .ok a ∧ f a = .ok b := by
  cases x <;> simp [bind, Except.bind]

namespace Parser

/-- A block whose closing tag has not been read. -/
inductive OpenBlock where
  | ifThen (condition : Accessor)
  | ifElse (condition : Accessor) (body : Template)
  | each (items : Accessor) (item : String) (index : Option String)

namespace OpenBlock

def kind : OpenBlock → BlockKind
  | ifThen _ => .ifBlock
  | ifElse _ _ => .ifBlock
  | each _ _ _ => .eachBlock

/-- The node of a block that is closed, where `last` are the nodes read since it was opened or
since its `else`. -/
def close (last : Template) : OpenBlock → Node
  | ifThen condition => .ifThen condition last
  | ifElse condition body => .ifThenElse condition body last
  | each items item index => .each items item index last

end OpenBlock

/-- What a tag other than `else` and the closing tags says. -/
inductive Tag where
  | node (n : Node)
  | block (b : OpenBlock)

/-- An open block and the nodes in front of it, last first. -/
structure Frame where
  block : OpenBlock
  before : Template

variable (finish : Nat)

/-- The kind and position of the next token; past the list, the end of input at `finish`. -/
def next : List Token → TokenKind × Nat
  | [] => (.endOfInput, finish)
  | t :: _ => (t.kind, t.position)

/-- The error of a list whose next token does not belong where it stands. -/
def unexpected (expected : Expectation) (ts : List Token) : ParseError :=
  .expectedToken expected (next finish ts).1 (next finish ts).2

/-- Drops the expected token, which carries no text. -/
def expect (expected : Expectation) : List Token → Except ParseError (List Token)
  | t :: rest =>
    if t.kind = expected.kind then .ok rest else .error (unexpected finish expected (t :: rest))
  | [] => .error (unexpected finish expected [])

/-- Reads the expected identifier. -/
def name (expected : Expectation) : List Token → Except ParseError (String × List Token)
  | ⟨.identifier s, _⟩ :: rest => .ok (s, rest)
  | ts => .error (unexpected finish expected ts)

/-- Reads `('.' name)*`. -/
def segments : List Token → Except ParseError (List String × List Token)
  | ⟨.symbol .dot, _⟩ :: ⟨.identifier s, _⟩ :: rest => do
    let (more, rest) ← segments rest
    return (s :: more, rest)
  | ⟨.symbol .dot, _⟩ :: rest => .error (unexpected finish .pathSegment rest)
  | ts => .ok ([], ts)

/-- Reads `('|' '>' name)*`. -/
def pipes : List Token → Except ParseError (List String × List Token)
  | ⟨.symbol .pipe, _⟩ :: ⟨.symbol .greaterThan, _⟩ :: ⟨.identifier s, _⟩ :: rest => do
    let (more, rest) ← pipes rest
    return (s :: more, rest)
  | ⟨.symbol .pipe, _⟩ :: ⟨.symbol .greaterThan, _⟩ :: rest =>
    .error (unexpected finish .pipeName rest)
  | ⟨.symbol .pipe, _⟩ :: rest => .error (unexpected finish .pipeEnd rest)
  | ts => .ok ([], ts)

/-- Reads an accessor. -/
def accessor (ts : List Token) : Except ParseError (Accessor × List Token) := do
  let (head, ts) ← name finish .pathSegment ts
  let (tail, ts) ← segments finish ts
  let (pipes, ts) ← pipes finish ts
  return (⟨head, tail, pipes⟩, ts)

/-- Reads the dotted name of a partial; `expected` is what its first segment counts as. -/
def partialName (expected : Expectation) (ts : List Token) :
    Except ParseError (String × List Token) := do
  let (head, ts) ← name finish expected ts
  let (tail, ts) ← segments finish ts
  return (".".intercalate (head :: tail), ts)

/-- Reads `name '=' Accessor`. -/
def param (ts : List Token) : Except ParseError ((String × Accessor) × List Token) := do
  let (key, ts) ← name finish .parameterName ts
  let ts ← expect finish .parameterEquals ts
  let (value, ts) ← accessor finish ts
  return ((key, value), ts)

/-! ## Every reader shortens the list

The readers below repeat others until a token is missing; they end because each step consumes. -/

variable {finish}

theorem length_of_expect {e : Expectation} {ts rest : List Token}
    (h : expect finish e ts = .ok rest) : rest.length < ts.length := by
  cases ts with
  | nil => simp [expect] at h
  | cons t ts =>
    simp only [expect] at h
    split at h
    · cases h
      simp
    · cases h

theorem length_of_name {e : Expectation} {ts rest : List Token} {s : String}
    (h : name finish e ts = .ok (s, rest)) : rest.length < ts.length := by
  unfold name at h
  split at h
  · cases h
    simp
  · cases h

theorem length_of_segments {ts rest : List Token} {more : List String}
    (h : segments finish ts = .ok (more, rest)) : rest.length ≤ ts.length := by
  fun_induction segments finish ts generalizing more with
  | case1 _ s _ tail ih =>
    cases hs : segments finish tail with
    | error e => simp [hs, bind, Except.bind] at h
    | ok r =>
      simp only [hs, bind, Except.bind, pure, Except.pure, Except.ok.injEq, Prod.mk.injEq] at h
      have := @ih r.1 (by rw [hs, ← h.2])
      simp only [List.length_cons]
      omega
  | case2 => cases h
  | case3 => cases h; exact Nat.le_refl _

theorem length_of_pipes {ts rest : List Token} {more : List String}
    (h : pipes finish ts = .ok (more, rest)) : rest.length ≤ ts.length := by
  fun_induction pipes finish ts generalizing more with
  | case1 _ _ s _ tail ih =>
    cases hs : pipes finish tail with
    | error e => simp [hs, bind, Except.bind] at h
    | ok r =>
      simp only [hs, bind, Except.bind, pure, Except.pure, Except.ok.injEq, Prod.mk.injEq] at h
      have := @ih r.1 (by rw [hs, ← h.2])
      simp only [List.length_cons]
      omega
  | case2 => cases h
  | case3 => cases h
  | case4 => cases h; exact Nat.le_refl _

theorem length_of_accessor {ts rest : List Token} {a : Accessor}
    (h : accessor finish ts = .ok (a, rest)) : rest.length < ts.length := by
  simp only [accessor, bind_eq_ok, Prod.exists] at h
  obtain ⟨_, _, h₁, _, _, h₂, _, _, h₃, h₄⟩ := h
  have := length_of_name h₁
  have := length_of_segments h₂
  have := length_of_pipes h₃
  cases h₄
  omega

theorem length_of_partialName {e : Expectation} {ts rest : List Token} {s : String}
    (h : partialName finish e ts = .ok (s, rest)) : rest.length < ts.length := by
  simp only [partialName, bind_eq_ok, Prod.exists] at h
  obtain ⟨_, _, h₁, _, _, h₂, h₃⟩ := h
  have := length_of_name h₁
  have := length_of_segments h₂
  cases h₃
  omega

theorem length_of_param {ts rest : List Token} {p : String × Accessor}
    (h : param finish ts = .ok (p, rest)) : rest.length < ts.length := by
  simp only [param, bind_eq_ok, Prod.exists] at h
  obtain ⟨_, _, h₁, _, h₂, _, _, h₃, h₄⟩ := h
  have := length_of_name h₁
  have := length_of_expect h₂
  have := length_of_accessor h₃
  cases h₄
  omega

variable (finish)

/-! ## Tags -/

/-- Reads `Param (',' Param)*`. -/
def params (ts : List Token) : Except ParseError (List (String × Accessor) × List Token) :=
  match _h : param finish ts with
  | .error e => .error e
  | .ok (p, ⟨.symbol .comma, _⟩ :: rest) => do
    let (more, rest) ← params rest
    return (p :: more, rest)
  | .ok (p, rest) => .ok ([p], rest)
termination_by ts.length
decreasing_by
  have := length_of_param _h
  simp only [List.length_cons] at this
  omega

/-- Reads a value up to the end of its tag. -/
def interpolation (escaped : Bool) (ts : List Token) : Except ParseError (Tag × List Token) := do
  let (value, ts) ← accessor finish ts
  let ts ← expect finish .expressionEnd ts
  return (.node (.interpolation value escaped), ts)

/-- Reads the tag of a condition after its `if`. -/
def condition (ts : List Token) : Except ParseError (Tag × List Token) := do
  let (value, ts) ← accessor finish ts
  let ts ← expect finish .conditionEnd ts
  return (.block (.ifThen value), ts)

/-- Reads `(',' name)?`. -/
def indexName : List Token → Except ParseError (Option String × List Token)
  | ⟨.symbol .comma, _⟩ :: ts => do
    let (index, ts) ← name finish .indexName ts
    return (some index, ts)
  | ts => .ok (none, ts)

/-- Reads the tag of a loop after its `each`. -/
def loop (ts : List Token) : Except ParseError (Tag × List Token) := do
  let (items, ts) ← accessor finish ts
  let ts ← expect finish .itemsEnd ts
  let ts ← expect finish .bindingStart ts
  let (item, ts) ← name finish .itemName ts
  let (index, ts) ← indexName finish ts
  let ts ← expect finish .bindingEnd ts
  let ts ← expect finish .eachEnd ts
  return (.block (.each items item index), ts)

/-- Reads an inclusion after its `>`. -/
def inclusion : List Token → Except ParseError (Tag × List Token)
  | ⟨.symbol .openParen, _⟩ :: ts => do
    let (value, ts) ← accessor finish ts
    let ts ← expect finish .computedNameEnd ts
    let ts ← expect finish .tagEnd ts
    return (.node (.inclusion (.computed value) none), ts)
  | ts => do
    let (included, ts) ← partialName finish .includedName ts
    let ts ← expect finish .tagEnd ts
    return (.node (.inclusion (.fixed included) none), ts)

/-- Reads `(with Param (',' Param)*)?`. -/
def withParams : List Token → Except ParseError (Option (List (String × Accessor)) × List Token)
  | ⟨.symbol .withWord, _⟩ :: ts => do
    let (list, ts) ← params finish ts
    return (some list, ts)
  | ts => .ok (none, ts)

/-- Reads an inclusion after its `partial`. -/
def partialBlock (ts : List Token) : Except ParseError (Tag × List Token) := do
  let (included, ts) ← partialName finish .partialName ts
  let (list, ts) ← withParams finish ts
  let ts ← expect finish .tagEnd ts
  return (.node (.inclusion (.fixed included) list), ts)

/-- Reads a tag after its opening braces. -/
def tag : List Token → Except ParseError (Tag × List Token)
  | ⟨.symbol .greaterThan, _⟩ :: ts => inclusion finish ts
  | ⟨.symbol .hash, _⟩ :: ts =>
    match ts with
    | ⟨.symbol .ifWord, _⟩ :: ts => condition finish ts
    | ⟨.symbol .eachWord, _⟩ :: ts => loop finish ts
    | ⟨.symbol .partialWord, _⟩ :: ts => partialBlock finish ts
    | ts => .error (.unknownBlockKeyword (next finish ts).1 (next finish ts).2)
  | ⟨.symbol .ampersand, _⟩ :: ts => interpolation finish false ts
  | ts => interpolation finish true ts

/-- Reads the rest of a closing tag after its `/`. -/
def closing (block : BlockKind) (ts : List Token) : Except ParseError (List Token) := do
  let ts ← expect finish (.closingWord block) ts
  expect finish .tagEnd ts

variable {finish}

theorem length_of_params {ts rest : List Token} {list : List (String × Accessor)}
    (h : params finish ts = .ok (list, rest)) : rest.length < ts.length := by
  fun_induction params finish ts generalizing list with
  | case1 => cases h
  | case2 ts p _ tail hp ih =>
    simp only [bind_eq_ok, Prod.exists] at h
    obtain ⟨_, _, h₁, h₂⟩ := h
    have := length_of_param hp
    cases h₂
    have := ih h₁
    simp only [List.length_cons] at *
    omega
  | case3 ts p tail _ hp =>
    cases h
    exact length_of_param hp

theorem length_of_interpolation {escaped : Bool} {ts rest : List Token} {t : Tag}
    (h : interpolation finish escaped ts = .ok (t, rest)) : rest.length < ts.length := by
  simp only [interpolation, bind_eq_ok, Prod.exists] at h
  obtain ⟨_, _, h₁, _, h₂, h₃⟩ := h
  have := length_of_accessor h₁
  have := length_of_expect h₂
  cases h₃
  omega

theorem length_of_condition {ts rest : List Token} {t : Tag}
    (h : condition finish ts = .ok (t, rest)) : rest.length < ts.length := by
  simp only [condition, bind_eq_ok, Prod.exists] at h
  obtain ⟨_, _, h₁, _, h₂, h₃⟩ := h
  have := length_of_accessor h₁
  have := length_of_expect h₂
  cases h₃
  omega

theorem length_of_indexName {ts rest : List Token} {index : Option String}
    (h : indexName finish ts = .ok (index, rest)) : rest.length ≤ ts.length := by
  unfold indexName at h
  split at h
  · simp only [bind_eq_ok, Prod.exists] at h
    obtain ⟨_, _, h₁, h₂⟩ := h
    have := length_of_name h₁
    cases h₂
    simp only [List.length_cons]
    omega
  · cases h
    exact Nat.le_refl _

theorem length_of_loop {ts rest : List Token} {t : Tag}
    (h : loop finish ts = .ok (t, rest)) : rest.length < ts.length := by
  simp only [loop, bind_eq_ok, Prod.exists] at h
  obtain ⟨_, _, h₁, _, h₂, _, h₃, _, _, h₄, _, _, h₅, _, h₆, _, h₇, h₈⟩ := h
  have := length_of_accessor h₁
  have := length_of_expect h₂
  have := length_of_expect h₃
  have := length_of_name h₄
  have := length_of_indexName h₅
  have := length_of_expect h₆
  have := length_of_expect h₇
  cases h₈
  omega

theorem length_of_inclusion {ts rest : List Token} {t : Tag}
    (h : inclusion finish ts = .ok (t, rest)) : rest.length < ts.length := by
  unfold inclusion at h
  split at h
  · simp only [bind_eq_ok, Prod.exists] at h
    obtain ⟨_, _, h₁, _, h₂, _, h₃, h₄⟩ := h
    have := length_of_accessor h₁
    have := length_of_expect h₂
    have := length_of_expect h₃
    cases h₄
    simp only [List.length_cons]
    omega
  · simp only [bind_eq_ok, Prod.exists] at h
    obtain ⟨_, _, h₁, _, h₂, h₃⟩ := h
    have := length_of_partialName h₁
    have := length_of_expect h₂
    cases h₃
    omega

theorem length_of_withParams {ts rest : List Token} {list : Option (List (String × Accessor))}
    (h : withParams finish ts = .ok (list, rest)) : rest.length ≤ ts.length := by
  unfold withParams at h
  split at h
  · simp only [bind_eq_ok, Prod.exists] at h
    obtain ⟨_, _, h₁, h₂⟩ := h
    have := length_of_params h₁
    cases h₂
    simp only [List.length_cons]
    omega
  · cases h
    exact Nat.le_refl _

theorem length_of_partialBlock {ts rest : List Token} {t : Tag}
    (h : partialBlock finish ts = .ok (t, rest)) : rest.length < ts.length := by
  simp only [partialBlock, bind_eq_ok, Prod.exists] at h
  obtain ⟨_, _, h₁, _, _, h₂, _, h₃, h₄⟩ := h
  have := length_of_partialName h₁
  have := length_of_withParams h₂
  have := length_of_expect h₃
  cases h₄
  omega

theorem length_of_tag {ts rest : List Token} {t : Tag}
    (h : tag finish ts = .ok (t, rest)) : rest.length < ts.length := by
  unfold tag at h
  split at h
  · have := length_of_inclusion h
    simp only [List.length_cons]
    omega
  · split at h
    · have := length_of_condition h
      simp only [List.length_cons]
      omega
    · have := length_of_loop h
      simp only [List.length_cons]
      omega
    · have := length_of_partialBlock h
      simp only [List.length_cons]
      omega
    · cases h
  · have := length_of_interpolation h
    simp only [List.length_cons]
    omega
  · exact length_of_interpolation h

theorem length_of_closing {block : BlockKind} {ts rest : List Token}
    (h : closing finish block ts = .ok rest) : rest.length < ts.length := by
  simp only [closing, bind_eq_ok] at h
  obtain ⟨_, h₁, h₂⟩ := h
  have := length_of_expect h₁
  have := length_of_expect h₂
  omega

end Parser

end TextTemplate
