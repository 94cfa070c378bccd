import TextTemplate.Proofs.Lookahead

/-!
# Tags are read one token ahead

Each reader of a part of a tag, and so the reader of tags (`Parser.reads_tag`), has the law of
`Parser.Reads` at every list of tokens, with the grammar of its part as the language. The readers
that call themselves have it by induction on the tokens that are left.
-/

namespace TextTemplate

namespace Parser

open Grammar

variable {finish : Nat} {ts : List Token}

/-! ## The parts of a tag -/

theorem reads_name (e : Expectation) :
    Reads Identifier (fun finish => name finish e) finish ts := by
  -- Either the first token is a name, and it is taken, or it is refused.
  by_cases named : ∃ s, front ts = some (.identifier s)
  · obtain ⟨s, named⟩ := named
    obtain ⟨p, rest, rfl⟩ := front_eq_some named
    constructor
    · intro x rest' ok
      cases ok
      exact ⟨[⟨.identifier s, p⟩], rfl, rfl, fun _ _ _ => rfl⟩
    · exact nofun
    · exact fun move => rfl
  · have failing : Reads Identifier (fun finish ts => .error (unexpected finish e ts)) finish ts :=
      Reads.error (f := fun k => .expectedToken e k.1 k.2) (fun _ => rfl) fun _ _ _ => rfl
    apply failing.congr
    intro finish' ts' same
    unfold name
    split
    · next s _ _ => exact absurd ⟨s, same.symm⟩ named
    · rfl

/-- Reads the rest of a path behind a dot. -/
def behindDot : Reader (List String) := fun finish ts => do
  let (s, ts) ← name finish .pathSegment ts
  let (more, ts) ← segments finish ts
  return (s :: more, ts)

/-- A path goes on with a segment, or it ends. -/
theorem segments_choice (more : ∀ p rest, ts = ⟨.symbol .dot, p⟩ :: rest →
      ∀ s rest', name finish .pathSegment rest = .ok (s, rest') →
        Reads Dotted segments finish rest') :
    Reads Dotted segments finish ts := by
  -- The reader decides by the dot; with it, it reads a name and starts over.
  have h : Reads _ segments finish ts := Reads.choice (s := .dot) (q := behindDot)
    (r := fun _ ts => .ok ([], ts)) ?_ ?_
    (fun p rest split => (reads_name _).bind fun s rest' ok =>
      (more p rest split s rest' ok).bind fun tail _ _ => Reads.pure (s :: tail))
    fun _ => Reads.pure []
  · apply h.mono
    rintro w x (⟨_, rfl, _, _, s, rfl, rfl, _, _, tail, rfl, dotted, rfl, rfl⟩ | ⟨rfl, rfl⟩)
    · rw [List.append_nil]
      exact .cons s dotted
    · exact .nil
  · intro finish p rest
    cases rest with
    | nil => rfl
    | cons t rest =>
      obtain ⟨l, p⟩ := t
      cases l <;> rfl
  · intro finish ts other
    unfold segments
    split
    · exact absurd rfl other
    · exact absurd rfl other
    · rfl

/-- The rest of a path is read as long as a dot is ahead. -/
theorem reads_segments (finish : Nat) (ts : List Token) : Reads Dotted segments finish ts := by
  apply segments_choice
  intro p rest split s rest' ok
  have shorter := length_of_name ok
  have longer := congrArg List.length split
  exact reads_segments finish rest'
termination_by ts.length
decreasing_by
  rw [List.length_cons] at longer
  omega

/-- Reads the rest of the pipes behind a bar. -/
def behindBar : Reader (List String) := fun finish ts => do
  let ts ← expect finish .pipeEnd ts
  let (s, ts) ← name finish .pipeName ts
  let (more, ts) ← pipes finish ts
  return (s :: more, ts)

/-- Pipes go on with a pipe, or they end. -/
theorem pipes_choice (more : ∀ p rest, ts = ⟨.symbol .pipe, p⟩ :: rest →
      ∀ p' rest', rest = ⟨.symbol .greaterThan, p'⟩ :: rest' →
        ∀ s rest'', name finish .pipeName rest' = .ok (s, rest'') →
          Reads Piped pipes finish rest'') :
    Reads Piped pipes finish ts := by
  have h : Reads _ pipes finish ts := Reads.choice (s := .pipe) (q := behindBar)
    (r := fun _ ts => .ok ([], ts)) ?_ ?_
    (fun p rest split => Reads.behind (s := .greaterThan) rfl fun p' rest' split' =>
      (reads_name _).bind fun s rest'' ok =>
        (more p rest split p' rest' split' s rest'' ok).bind fun tail _ _ =>
          Reads.pure (s :: tail))
    fun _ => Reads.pure []
  · apply h.mono
    rintro w x (⟨_, rfl, _, rfl, _, _, s, rfl, rfl, _, _, tail, rfl, piped, rfl, rfl⟩ | ⟨rfl, rfl⟩)
    · rw [List.append_nil]
      exact .cons s piped
    · exact .nil
  · intro finish p rest
    rcases rest with _ | ⟨⟨l, p⟩, rest⟩
    · rfl
    · cases l with
      | symbol s =>
        cases s <;> try rfl
        rcases rest with _ | ⟨⟨l, p⟩, rest⟩
        · rfl
        · cases l <;> rfl
      | _ => rfl
  · -- A bar without the `>` behind it is refused by the reader behind the bar.
    intro finish ts other
    unfold pipes
    split
    · exact absurd rfl other
    · exact absurd rfl other
    · exact absurd rfl other
    · rfl

/-- The rest of the pipes is read as long as a bar is ahead. -/
theorem reads_pipes (finish : Nat) (ts : List Token) : Reads Piped pipes finish ts := by
  apply pipes_choice
  intro p rest split p' rest' split' s rest'' ok
  have shorter := length_of_name ok
  have longer := congrArg List.length split
  have longer' := congrArg List.length split'
  exact reads_pipes finish rest''
termination_by ts.length
decreasing_by
  rw [List.length_cons] at longer longer'
  omega

/-- An accessor is a name, a path behind it, and pipes. -/
theorem reads_accessor : Reads IsAccessor accessor finish ts := by
  have h : Reads _ accessor finish ts := (reads_name _).bind fun head _ _ =>
    (reads_segments _ _).bind fun tail _ _ => (reads_pipes _ _).bind fun pipes _ _ =>
      Reads.pure (Accessor.mk head tail pipes)
  apply h.mono
  rintro w a ⟨_, _, head, rfl, rfl, _, _, tail, rfl, dotted, _, _, pipes, rfl, piped, rfl, rfl⟩
  rw [List.append_nil, List.singleton_append]
  exact .intro head dotted piped

theorem reads_partialName (e : Expectation) :
    Reads Name (fun finish => partialName finish e) finish ts := by
  have h : Reads _ (fun finish => partialName finish e) finish ts :=
    (reads_name _).bind fun head _ _ => (reads_segments _ _).bind fun tail _ _ =>
      Reads.pure (".".intercalate (head :: tail))
  apply h.mono
  rintro w x ⟨_, _, head, rfl, rfl, _, _, tail, rfl, dotted, rfl, rfl⟩
  rw [List.append_nil]
  exact .intro head dotted

theorem reads_param : Reads Param param finish ts := by
  have h : Reads _ param finish ts := (reads_name _).bind fun key _ _ =>
    Reads.behind (s := .equals) rfl fun _ _ _ => reads_accessor.bind fun value _ _ =>
      Reads.pure (key, value)
  apply h.mono
  rintro w x ⟨_, _, key, rfl, rfl, _, rfl, _, _, value, rfl, derived, rfl, rfl⟩
  rw [List.append_nil]
  exact .intro key derived

/-- Reads `(',' Param)*` behind a parameter. -/
def moreParams (p : String × Accessor) : Reader (List (String × Accessor))
  | finish, ⟨.symbol .comma, _⟩ :: rest => do
    let (more, rest) ← params finish rest
    return (p :: more, rest)
  | _, ts => .ok ([p], ts)

/-- Parameters are read one by one, as long as a comma is ahead. -/
theorem params_eq : params finish ts = (do
    let (p, ts) ← param finish ts
    moreParams p finish ts) := by
  rw [params]
  cases param finish ts with
  | error e => rfl
  | ok result =>
    obtain ⟨p, rest⟩ := result
    rcases rest with _ | ⟨⟨l, q⟩, rest⟩
    · rfl
    · cases l with
      | symbol s => cases s <;> rfl
      | _ => rfl

/-- Parameters are one parameter, and behind a comma others. -/
theorem params_choice (more : ∀ x rest, param finish ts = .ok (x, rest) →
      ∀ p rest', rest = ⟨.symbol .comma, p⟩ :: rest' → Reads Params params finish rest') :
    Reads Params params finish ts := by
  -- After a parameter the reader decides by the comma, behind which it starts over.
  have h : Reads _ (fun finish ts => do
      let (x, ts) ← param finish ts
      moreParams x finish ts) finish ts :=
    reads_param.bind fun x rest ok => Reads.choice (s := .comma)
      (q := fun finish ts => do
        let (more, ts) ← params finish ts
        return (x :: more, ts))
      (r := fun _ ts => .ok ([x], ts)) (fun _ _ _ => rfl) ?_
      (fun p rest' split => (more x rest ok p rest' split).bind fun xs _ _ => Reads.pure (x :: xs))
      fun _ => Reads.pure [x]
  · apply (h.mono ?_).congr fun _ _ _ => params_eq
    rintro w xs ⟨u, _, x, rfl, head, ⟨_, rfl, _, _, xs, rfl, derived, rfl, rfl⟩ | ⟨rfl, rfl⟩⟩
    · rw [List.append_nil]
      exact .cons head derived
    · rw [List.append_nil]
      exact .one head
  · intro finish ts other
    unfold moreParams
    split
    · exact absurd rfl other
    · rfl

/-- Parameters are one parameter, and others behind commas. -/
theorem reads_params (finish : Nat) (ts : List Token) : Reads Params params finish ts := by
  apply params_choice
  intro x rest ok p rest' split
  -- The parameter and the comma have been read, so the other parameters are fewer tokens.
  have shorter := length_of_param ok
  have longer := congrArg List.length split
  exact reads_params finish rest'
termination_by ts.length
decreasing_by
  rw [List.length_cons] at longer
  omega

/-! ## Tags -/

theorem reads_interpolation (escaped : Bool) :
    Reads (fun w t => ∃ u a, w = u ++ [.symbol .closeTag] ∧ IsAccessor u a ∧
      t = .node (.interpolation a escaped)) (fun finish => interpolation finish escaped)
      finish ts := by
  have h : Reads _ (fun finish => interpolation finish escaped) finish ts :=
    reads_accessor.bind fun value _ _ => Reads.behind (s := .closeTag) rfl fun _ _ _ =>
      Reads.pure (Tag.node (.interpolation value escaped))
  apply h.mono
  rintro w t ⟨u, _, a, rfl, derived, _, rfl, rfl, rfl⟩
  exact ⟨u, a, rfl, derived, rfl⟩

theorem reads_condition :
    Reads (fun w => IsTag (.symbol .hash :: .symbol .ifWord :: w)) condition finish ts := by
  have h : Reads _ condition finish ts := reads_accessor.bind fun value _ _ =>
    Reads.behind (s := .closeTag) rfl fun _ _ _ => Reads.pure (Tag.block (.ifThen value))
  apply h.mono
  rintro w t ⟨u, _, a, rfl, derived, _, rfl, rfl, rfl⟩
  exact IfHead.intro derived

/-- Reads the name of an index behind its comma. -/
def behindComma : Reader (Option String) := fun finish ts => do
  let (index, ts) ← name finish .indexName ts
  return (some index, ts)

/-- An index has a name behind a comma; without the comma there is none. -/
theorem reads_indexName : Reads Index indexName finish ts := by
  have h : Reads _ indexName finish ts := Reads.choice (s := .comma)
    (q := behindComma) (r := fun _ ts => .ok (none, ts)) (fun _ _ _ => rfl) ?_
    (fun _ _ _ => (reads_name _).bind fun index _ _ => Reads.pure (some index))
    fun _ => Reads.pure none
  · apply h.mono
    rintro w x (⟨_, rfl, _, _, index, rfl, rfl, rfl, rfl⟩ | ⟨rfl, rfl⟩)
    · exact .some index
    · exact .none
  · intro finish ts other
    unfold indexName
    split
    · exact absurd rfl other
    · rfl

/-- The head of a loop names the items, the item, and perhaps the index. -/
theorem reads_loop :
    Reads (fun w => IsTag (.symbol .hash :: .symbol .eachWord :: w)) loop finish ts := by
  have h : Reads _ loop finish ts := reads_accessor.bind fun items _ _ =>
    Reads.behind (s := .asWord) rfl fun _ _ _ => Reads.behind (s := .pipe) rfl fun _ _ _ =>
      (reads_name _).bind fun item _ _ => reads_indexName.bind fun index _ _ =>
        Reads.behind (s := .pipe) rfl fun _ _ _ =>
          Reads.behind (s := .closeTag) rfl fun _ _ _ =>
            Reads.pure (Tag.block (.each items item index))
  apply h.mono
  rintro w t ⟨u, _, items, rfl, derived, _, rfl, _, rfl, _, _, item, rfl, rfl, v, _, index, rfl,
    indexed, _, rfl, _, rfl, rfl, rfl⟩
  exact EachHead.intro item derived indexed

/-- Reads an inclusion of a computed name behind the parenthesis. -/
def computedInclusion : Reader Tag := fun finish ts => do
  let (value, ts) ← accessor finish ts
  let ts ← expect finish .computedNameEnd ts
  let ts ← expect finish .tagEnd ts
  return (.node (.inclusion (.computed value) none), ts)

/-- Reads an inclusion of a fixed name. -/
def fixedInclusion : Reader Tag := fun finish ts => do
  let (included, ts) ← partialName finish .includedName ts
  let ts ← expect finish .tagEnd ts
  return (.node (.inclusion (.fixed included) none), ts)

/-- An inclusion has a computed name in parentheses, or a fixed one. -/
theorem reads_inclusion :
    Reads (fun w => IsTag (.symbol .greaterThan :: w)) inclusion finish ts := by
  -- The reader decides by the parenthesis.
  have h : Reads _ inclusion finish ts := Reads.choice (s := .openParen)
    (q := computedInclusion) (r := fixedInclusion) (fun _ _ _ => rfl) ?_
    (fun _ _ _ => reads_accessor.bind fun value _ _ =>
      Reads.behind (s := .closeParen) rfl fun _ _ _ =>
        Reads.behind (s := .closeTag) rfl fun _ _ _ =>
          Reads.pure (Tag.node (.inclusion (.computed value) none)))
    fun _ => (reads_partialName _).bind fun included _ _ =>
      Reads.behind (s := .closeTag) rfl fun _ _ _ =>
        Reads.pure (Tag.node (.inclusion (.fixed included) none))
  · apply h.mono
    rintro w t (⟨_, rfl, u, _, a, rfl, derived, _, rfl, _, rfl, rfl, rfl⟩ |
      ⟨u, _, included, rfl, derived, _, rfl, rfl, rfl⟩)
    · exact Simple.computed derived
    · exact Simple.fixed derived
  · intro finish ts other
    unfold inclusion
    split
    · exact absurd rfl other
    · rfl

/-- The parameters of an inclusion, if it has a list of them. -/
theorem reads_withParams :
    Reads (fun w x => Behind .withWord (Followed Params fun list => Nothing (some list)) w x ∨
      Nothing none w x) withParams finish ts := by
  refine Reads.choice (s := .withWord)
    (q := fun finish ts => do
      let (list, ts) ← params finish ts
      return (some list, ts))
    (r := fun _ ts => .ok (none, ts)) (fun _ _ _ => rfl) ?_
    (fun _ _ _ => (reads_params _ _).bind fun list _ _ => Reads.pure (some list))
    fun _ => Reads.pure none
  intro finish ts other
  unfold withParams
  split
  · exact absurd rfl other
  · rfl

/-- A partial with parameters is told from one without by the `with` ahead. -/
theorem reads_partialBlock :
    Reads (fun w => IsTag (.symbol .hash :: .symbol .partialWord :: w)) partialBlock finish ts := by
  have h : Reads _ partialBlock finish ts := (reads_partialName _).bind fun included _ _ =>
    reads_withParams.bind fun list _ _ => Reads.behind (s := .closeTag) rfl fun _ _ _ =>
      Reads.pure (Tag.node (.inclusion (.fixed included) list))
  apply h.mono
  rintro w t ⟨u, _, included, rfl, named, _, _, list,
    rfl, ⟨_, rfl, v, _, xs, rfl, derived, rfl, rfl⟩ | ⟨rfl, rfl⟩, _, rfl, rfl, rfl⟩
  · rw [List.append_nil]
    exact Simple.withParams named derived
  · exact Simple.bare named

/-- Reads a tag behind its `#`. -/
def hashTag : Reader Tag
  | finish, ⟨.symbol .ifWord, _⟩ :: ts => condition finish ts
  | finish, ⟨.symbol .eachWord, _⟩ :: ts => loop finish ts
  | finish, ⟨.symbol .partialWord, _⟩ :: ts => partialBlock finish ts
  | finish, ts => .error (.unknownBlockKeyword (next finish ts).1 (next finish ts).2)

/-- Reads a tag that is no inclusion and does not start with `#`. -/
def valueTag : Reader Tag
  | finish, ⟨.symbol .ampersand, _⟩ :: ts => interpolation finish false ts
  | finish, ts => interpolation finish true ts

instance : Derivable fun w => IsTag (.symbol .hash :: w) :=
  ⟨_, .node _, Simple.bare (.intro "" .nil)⟩

/-- The keyword behind `#` decides which tag is read. -/
theorem reads_hashTag : Reads (fun w => IsTag (.symbol .hash :: w)) hashTag finish ts := by
  by_cases ifs : front ts = some (.symbol .ifWord)
  · have h : Reads _ hashTag finish ts :=
      Reads.found (q := condition) ifs (fun _ _ _ => rfl) fun _ _ _ => reads_condition
    apply h.mono
    rintro _ t ⟨w, rfl, derived⟩
    exact derived
  by_cases eachs : front ts = some (.symbol .eachWord)
  · have h : Reads _ hashTag finish ts :=
      Reads.found (q := loop) eachs (fun _ _ _ => rfl) fun _ _ _ => reads_loop
    apply h.mono
    rintro _ t ⟨w, rfl, derived⟩
    exact derived
  by_cases partials : front ts = some (.symbol .partialWord)
  · have h : Reads _ hashTag finish ts :=
      Reads.found (q := partialBlock) partials (fun _ _ _ => rfl) fun _ _ _ => reads_partialBlock
    apply h.mono
    rintro _ t ⟨w, rfl, derived⟩
    exact derived
  have unknown : Reads (fun w => IsTag (.symbol .hash :: w)) (fun finish ts =>
      .error (.unknownBlockKeyword (next finish ts).1 (next finish ts).2)) finish ts :=
    Reads.error (f := fun k => .unknownBlockKeyword k.1 k.2) (fun _ => rfl) fun _ _ _ => rfl
  -- None of the words stands behind the `#`, and the error shows what does.
  apply unknown.congr
  intro finish' ts' same
  unfold hashTag
  split
  · exact absurd same.symm ifs
  · exact absurd same.symm eachs
  · exact absurd same.symm partials
  · rfl

theorem reads_valueTag : Reads IsTag valueTag finish ts := by
  have h : Reads _ valueTag finish ts := Reads.choice (s := .ampersand) (fun _ _ _ => rfl) ?_
    (fun _ _ _ => reads_interpolation false) fun _ => reads_interpolation true
  · apply h.mono
    rintro w t (⟨_, rfl, u, a, rfl, derived, rfl⟩ | ⟨u, a, rfl, derived, rfl⟩)
    · exact Simple.raw derived
    · exact Simple.escaped derived
  · intro finish ts other
    unfold valueTag
    split
    · exact absurd rfl other
    · rfl

theorem tag_hash (p : Nat) (ts : List Token) :
    tag finish (⟨.symbol .hash, p⟩ :: ts) = hashTag finish ts := by
  rcases ts with _ | ⟨⟨l, q⟩, rest⟩
  · rfl
  · cases l with
    | symbol s => cases s <;> rfl
    | _ => rfl

/-- A tag that begins with neither `>` nor `#` writes a value. -/
theorem tag_eq_valueTag (noInclusion : front ts ≠ some (.symbol .greaterThan))
    (noHash : front ts ≠ some (.symbol .hash)) : tag finish ts = valueTag finish ts := by
  rcases ts with _ | ⟨⟨l, q⟩, rest⟩
  · rfl
  · cases l with
    | symbol s =>
      cases s with
      | greaterThan => exact absurd rfl noInclusion
      | hash => exact absurd rfl noHash
      | _ => rfl
    | _ => rfl

/-- The first token decides which tag is read. -/
theorem reads_tag : Reads IsTag tag finish ts := by
  -- What is neither an inclusion nor begins with `#` is left to the tags that write a value.
  by_cases includes : front ts = some (.symbol .greaterThan)
  · have h : Reads _ tag finish ts :=
      Reads.found (q := inclusion) includes (fun _ _ _ => rfl) fun _ _ _ => reads_inclusion
    apply h.mono
    rintro _ t ⟨w, rfl, derived⟩
    exact derived
  by_cases hash : front ts = some (.symbol .hash)
  · have h : Reads _ tag finish ts :=
      Reads.found (q := hashTag) hash (fun _ => tag_hash) fun _ _ _ => reads_hashTag
    apply h.mono
    rintro _ t ⟨w, rfl, derived⟩
    exact derived
  · have h : Reads IsTag valueTag finish ts := reads_valueTag
    apply h.congr
    intro finish' ts' same
    exact tag_eq_valueTag (same ▸ includes) (same ▸ hash)

end Parser

end TextTemplate
