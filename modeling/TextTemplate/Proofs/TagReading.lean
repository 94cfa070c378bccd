import TextTemplate.Proofs.Grammar

/-!
# Reading one tag is deriving it

For each reader of a part of a tag there are two facts about the lexemes of its tokens, whose
offsets play no part. What it reads derives what it returns, and the lexemes it leaves are those
behind the derivation (`sound_*`). And where a derivation is followed by a symbol that cannot go on
it, the reader takes the whole derivation and nothing of what follows (`complete_*`).

They end in `sound_tag` and `complete_tag`, which the reader of templates is proved with.
-/

namespace TextTemplate

namespace Parser

open Grammar

/-- What the tokens say, without where they stand. -/
def spelled (ts : List Token) : List Lexeme := ts.map (·.lexeme)

@[simp] theorem spelled_nil : spelled [] = [] := rfl

@[simp] theorem spelled_cons (l : Lexeme) (p : Nat) (ts : List Token) :
    spelled (⟨l, p⟩ :: ts) = l :: spelled ts := rfl

/-- Lexemes are spelled by tokens that stand anywhere. -/
theorem spelled_map_zero (w : List Lexeme) : spelled (w.map (⟨·, 0⟩)) = w := by
  rw [spelled, List.map_map]
  exact List.map_id w

/-- A list of tokens starts with the first of its lexemes. -/
theorem exists_of_spelled {ts : List Token} {l : Lexeme} {w : List Lexeme}
    (h : spelled ts = l :: w) : ∃ p rest, ts = ⟨l, p⟩ :: rest ∧ spelled rest = w := by
  cases ts with
  | nil => cases h
  | cons t rest =>
    rcases List.cons.inj h with ⟨rfl, rfl⟩
    exact ⟨t.position, rest, rfl, rfl⟩

/-- Only a symbol has the kind of that symbol. -/
theorem eq_symbol_of_kind {l : Lexeme} {s : Symbol} (h : l.kind = .symbol s) : l = .symbol s := by
  cases l <;> cases h
  rfl

variable {finish : Nat}

/-! ## Single tokens -/

theorem sound_expect {e : Expectation} {s : Symbol} {ts rest : List Token}
    (he : e.kind = .symbol s) (h : expect finish e ts = .ok rest) :
    spelled ts = .symbol s :: spelled rest := by
  cases ts with
  | nil => cases h
  | cons t ts =>
    simp only [expect] at h
    split at h
    · next hk =>
      cases h
      have hl : t.lexeme = .symbol s := eq_symbol_of_kind (hk.trans he)
      exact congrArg (· :: spelled rest) hl
    · cases h

theorem complete_expect (finish : Nat) {e : Expectation} {s : Symbol} {ts : List Token}
    {w : List Lexeme} (he : e.kind = .symbol s) (h : spelled ts = .symbol s :: w) :
    ∃ rest, expect finish e ts = .ok rest ∧ spelled rest = w := by
  rcases exists_of_spelled h with ⟨p, rest, rfl, hw⟩
  have hk : Token.kind ⟨.symbol s, p⟩ = e.kind := he.symm
  exact ⟨rest, by simp only [expect, if_pos hk], hw⟩

theorem sound_name {e : Expectation} {ts rest : List Token} {s : String}
    (h : name finish e ts = .ok (s, rest)) : spelled ts = .identifier s :: spelled rest := by
  unfold name at h
  split at h
  · cases h
    rfl
  · cases h

theorem complete_name (finish : Nat) {e : Expectation} {ts : List Token} {s : String}
    {w : List Lexeme} (h : spelled ts = .identifier s :: w) :
    ∃ rest, name finish e ts = .ok (s, rest) ∧ spelled rest = w := by
  rcases exists_of_spelled h with ⟨p, rest, rfl, hw⟩
  exact ⟨rest, rfl, hw⟩

/-! ## Paths and pipes -/

theorem sound_segments {ts rest : List Token} {more : List String}
    (h : segments finish ts = .ok (more, rest)) :
    ∃ u, spelled ts = u ++ spelled rest ∧ Dotted u more := by
  -- By the recursion of the reader, which goes on behind each name.
  fun_induction segments finish ts generalizing more with
  | case1 _ s _ tail ih =>
    simp only [bind_eq_ok, Prod.exists] at h
    rcases h with ⟨_, _, h₁, h₂⟩
    cases h₂
    rcases ih h₁ with ⟨u, hu, hd⟩
    exact ⟨.symbol .dot :: .identifier s :: u, by simp [hu], .cons s hd⟩
  | case2 => cases h
  | case3 =>
    cases h
    exact ⟨[], rfl, .nil⟩

/-- Names behind dots are read up to a symbol that is no dot. -/
theorem complete_segments (finish : Nat) {u : List Lexeme} {more : List String} (hd : Dotted u more)
    {s : Symbol} (hs : s ≠ .dot) {ts : List Token} {w : List Lexeme}
    (h : spelled ts = u ++ .symbol s :: w) :
    ∃ rest, segments finish ts = .ok (more, rest) ∧ spelled rest = .symbol s :: w := by
  induction hd generalizing ts with
  | nil =>
    rcases exists_of_spelled h with ⟨p, rest, rfl, hw⟩
    refine ⟨⟨.symbol s, p⟩ :: rest, ?_, h⟩
    -- Any symbol but a dot ends the path.
    cases s <;> first | rfl | exact absurd rfl hs
  | cons name _ ih =>
    rcases exists_of_spelled h with ⟨_, _, rfl, h₁⟩
    rcases exists_of_spelled h₁ with ⟨_, tail, rfl, h₂⟩
    rcases ih h₂ with ⟨rest, hr, hw⟩
    exact ⟨rest, by simp [segments, hr, bind, Except.bind, pure, Except.pure], hw⟩

theorem sound_pipes {ts rest : List Token} {more : List String}
    (h : pipes finish ts = .ok (more, rest)) :
    ∃ u, spelled ts = u ++ spelled rest ∧ Piped u more := by
  fun_induction pipes finish ts generalizing more with
  | case1 _ _ s _ tail ih =>
    simp only [bind_eq_ok, Prod.exists] at h
    rcases h with ⟨_, _, h₁, h₂⟩
    cases h₂
    rcases ih h₁ with ⟨u, hu, hp⟩
    exact ⟨.symbol .pipe :: .symbol .greaterThan :: .identifier s :: u, by simp [hu], .cons s hp⟩
  | case2 => cases h
  | case3 => cases h
  | case4 =>
    cases h
    exact ⟨[], rfl, .nil⟩

/-- Pipes are read up to a symbol that is no bar. -/
theorem complete_pipes (finish : Nat) {u : List Lexeme} {more : List String} (hp : Piped u more)
    {s : Symbol} (hs : s ≠ .pipe) {ts : List Token} {w : List Lexeme}
    (h : spelled ts = u ++ .symbol s :: w) :
    ∃ rest, pipes finish ts = .ok (more, rest) ∧ spelled rest = .symbol s :: w := by
  induction hp generalizing ts with
  | nil =>
    rcases exists_of_spelled h with ⟨p, rest, rfl, hw⟩
    refine ⟨⟨.symbol s, p⟩ :: rest, ?_, h⟩
    -- Any symbol but a bar ends the pipes.
    cases s <;> first | rfl | exact absurd rfl hs
  | cons name _ ih =>
    rcases exists_of_spelled h with ⟨_, _, rfl, h₁⟩
    rcases exists_of_spelled h₁ with ⟨_, _, rfl, h₂⟩
    rcases exists_of_spelled h₂ with ⟨_, tail, rfl, h₃⟩
    rcases ih h₃ with ⟨rest, hr, hw⟩
    exact ⟨rest, by simp [pipes, hr, bind, Except.bind, pure, Except.pure], hw⟩

/-- What stands behind a path does not go on with it. -/
theorem exists_of_piped {v : List Lexeme} {more : List String} (hp : Piped v more) {s : Symbol}
    (hs : s ≠ .dot) (w : List Lexeme) :
    ∃ s' w', v ++ .symbol s :: w = .symbol s' :: w' ∧ s' ≠ .dot := by
  cases hp with
  | nil => exact ⟨s, w, rfl, hs⟩
  | cons name _ => exact ⟨.pipe, _, rfl, by decide⟩

/-- What is read as an accessor derives it. -/
theorem sound_accessor {ts rest : List Token} {a : Accessor}
    (h : accessor finish ts = .ok (a, rest)) :
    ∃ u, spelled ts = u ++ spelled rest ∧ IsAccessor u a := by
  simp only [accessor, bind_eq_ok, Prod.exists] at h
  rcases h with ⟨head, _, h₁, _, _, h₂, _, _, h₃, h₄⟩
  cases h₄
  rcases sound_segments h₂ with ⟨u, hu, hd⟩
  rcases sound_pipes h₃ with ⟨v, hv, hp⟩
  refine ⟨.identifier head :: (u ++ v), ?_, .intro head hd hp⟩
  rw [sound_name h₁, hu, hv, List.cons_append, List.append_assoc]

/-- An accessor is read up to a symbol that neither goes on with its path nor with its pipes. -/
theorem complete_accessor (finish : Nat) {u : List Lexeme} {a : Accessor} (ha : IsAccessor u a)
    {s : Symbol} (hdot : s ≠ .dot) (hpipe : s ≠ .pipe) {ts : List Token} {w : List Lexeme}
    (h : spelled ts = u ++ .symbol s :: w) :
    ∃ rest, accessor finish ts = .ok (a, rest) ∧ spelled rest = .symbol s :: w := by
  rcases ha with ⟨head, hd, hp⟩
  -- The path is followed by its pipes or, without any, by what follows the accessor.
  rcases exists_of_piped hp hdot w with ⟨s', w', hs', hne⟩
  rw [List.cons_append, List.append_assoc, hs'] at h
  rcases complete_name finish h with ⟨ts₁, h₁, w₁⟩
  rcases complete_segments finish hd hne w₁ with ⟨ts₂, h₂, w₂⟩
  rcases complete_pipes finish hp hpipe (w₂.trans hs'.symm) with ⟨rest, h₃, hw⟩
  refine ⟨rest, ?_, hw⟩
  simp only [accessor, bind_eq_ok, Prod.exists]
  exact ⟨_, _, h₁, _, _, h₂, _, _, h₃, rfl⟩

theorem sound_partialName {e : Expectation} {ts rest : List Token} {x : String}
    (h : partialName finish e ts = .ok (x, rest)) :
    ∃ u, spelled ts = u ++ spelled rest ∧ Name u x := by
  simp only [partialName, bind_eq_ok, Prod.exists] at h
  rcases h with ⟨head, _, h₁, _, _, h₂, h₃⟩
  cases h₃
  rcases sound_segments h₂ with ⟨u, hu, hd⟩
  refine ⟨.identifier head :: u, ?_, .intro head hd⟩
  rw [sound_name h₁, hu, List.cons_append]

/-- A dotted name is read up to a symbol that is no dot. -/
theorem complete_partialName (finish : Nat) {e : Expectation} {u : List Lexeme} {x : String}
    (hx : Name u x) {s : Symbol} (hs : s ≠ .dot) {ts : List Token} {w : List Lexeme}
    (h : spelled ts = u ++ .symbol s :: w) :
    ∃ rest, partialName finish e ts = .ok (x, rest) ∧ spelled rest = .symbol s :: w := by
  rcases hx with ⟨head, hd⟩
  rw [List.cons_append] at h
  rcases complete_name finish h with ⟨ts₁, h₁, w₁⟩
  rcases complete_segments finish hd hs w₁ with ⟨rest, h₂, hw⟩
  refine ⟨rest, ?_, hw⟩
  simp only [partialName, bind_eq_ok, Prod.exists]
  exact ⟨_, _, h₁, _, _, h₂, rfl⟩

/-! ## Parameters -/

theorem sound_param {ts rest : List Token} {x : String × Accessor}
    (h : param finish ts = .ok (x, rest)) :
    ∃ u, spelled ts = u ++ spelled rest ∧ Param u x := by
  simp only [param, bind_eq_ok, Prod.exists] at h
  rcases h with ⟨key, _, h₁, _, h₂, _, _, h₃, h₄⟩
  cases h₄
  rcases sound_accessor h₃ with ⟨u, hu, ha⟩
  refine ⟨.identifier key :: .symbol .equals :: u, ?_, .intro key ha⟩
  rw [sound_name h₁, sound_expect rfl h₂, hu]
  rfl

theorem complete_param (finish : Nat) {u : List Lexeme} {x : String × Accessor} (hx : Param u x)
    {s : Symbol} (hdot : s ≠ .dot) (hpipe : s ≠ .pipe) {ts : List Token} {w : List Lexeme}
    (h : spelled ts = u ++ .symbol s :: w) :
    ∃ rest, param finish ts = .ok (x, rest) ∧ spelled rest = .symbol s :: w := by
  rcases hx with ⟨key, ha⟩
  rw [List.cons_append, List.cons_append] at h
  rcases complete_name finish h with ⟨ts₁, h₁, w₁⟩
  rcases complete_expect finish (e := .parameterEquals) rfl w₁ with ⟨ts₂, h₂, w₂⟩
  rcases complete_accessor finish ha hdot hpipe w₂ with ⟨rest, h₃, hw⟩
  refine ⟨rest, ?_, hw⟩
  simp only [param, bind_eq_ok, Prod.exists]
  exact ⟨_, _, h₁, _, h₂, _, _, h₃, rfl⟩

theorem sound_params {ts rest : List Token} {xs : List (String × Accessor)}
    (h : params finish ts = .ok (xs, rest)) :
    ∃ u, spelled ts = u ++ spelled rest ∧ Params u xs := by
  fun_induction params finish ts generalizing xs with
  | case1 => cases h
  | case2 ts x _ tail hx ih =>
    simp only [bind_eq_ok, Prod.exists] at h
    rcases h with ⟨_, _, h₁, h₂⟩
    cases h₂
    rcases sound_param hx with ⟨u, hu, hp⟩
    rcases ih h₁ with ⟨v, hv, hps⟩
    refine ⟨u ++ .symbol .comma :: v, ?_, .cons hp hps⟩
    rw [hu, spelled_cons, hv, List.append_assoc, List.cons_append]
  | case3 ts x tail _ hx =>
    cases h
    rcases sound_param hx with ⟨u, hu, hp⟩
    exact ⟨u, hu, .one hp⟩

/-- A list of parameters is followed by the end of its tag. -/
theorem complete_params (finish : Nat) {u : List Lexeme} {xs : List (String × Accessor)}
    (hxs : Params u xs) {ts : List Token} {w : List Lexeme}
    (h : spelled ts = u ++ .symbol .closeTag :: w) :
    ∃ rest, params finish ts = .ok (xs, rest) ∧ spelled rest = .symbol .closeTag :: w := by
  induction hxs generalizing ts with
  | one hx =>
    -- The tag ends behind the last parameter, so no comma is found.
    rcases complete_param finish hx (by decide) (by decide) h with ⟨rest, hr, hw⟩
    rcases exists_of_spelled hw with ⟨_, _, rfl, _⟩
    exact ⟨_, by rw [params, hr], hw⟩
  | cons hx _ ih =>
    rw [List.append_assoc, List.cons_append] at h
    rcases complete_param finish hx (by decide) (by decide) h with ⟨ts₁, h₁, w₁⟩
    rcases exists_of_spelled w₁ with ⟨_, ts₂, rfl, w₂⟩
    rcases ih w₂ with ⟨rest, h₂, hw⟩
    refine ⟨rest, ?_, hw⟩
    rw [params, h₁]
    exact bind_eq_ok.mpr ⟨_, h₂, rfl⟩

/-! ## Tags -/

/-- What a tag derives, without the body of the block that it may open. -/
def IsTag (u : List Lexeme) : Tag → Prop
  | .node n => Simple u n
  | .block (.ifThen condition) => IfHead u condition
  | .block (.each items item index) => EachHead u items item index
  | .block (.ifElse _ _) => False

theorem sound_indexName {ts rest : List Token} {index : Option String}
    (h : indexName finish ts = .ok (index, rest)) :
    ∃ u, spelled ts = u ++ spelled rest ∧ Index u index := by
  unfold indexName at h
  split at h
  · simp only [bind_eq_ok, Prod.exists] at h
    rcases h with ⟨s, _, h₁, h₂⟩
    cases h₂
    refine ⟨[.symbol .comma, .identifier s], ?_, .some s⟩
    rw [spelled_cons, sound_name h₁]
    rfl
  · cases h
    exact ⟨[], rfl, .none⟩

/-- The names of a loop are followed by the second of its bars. -/
theorem complete_indexName (finish : Nat) {u : List Lexeme} {index : Option String}
    (hi : Index u index) {ts : List Token} {w : List Lexeme}
    (h : spelled ts = u ++ .symbol .pipe :: w) :
    ∃ rest, indexName finish ts = .ok (index, rest) ∧ spelled rest = .symbol .pipe :: w := by
  cases hi with
  | none =>
    rcases exists_of_spelled h with ⟨p, rest, rfl, hw⟩
    exact ⟨⟨.symbol .pipe, p⟩ :: rest, rfl, h⟩
  | some s =>
    rcases exists_of_spelled h with ⟨_, ts₁, rfl, w₁⟩
    rcases complete_name finish w₁ with ⟨rest, h₂, hw⟩
    exact ⟨rest, bind_eq_ok.mpr ⟨_, h₂, rfl⟩, hw⟩

theorem sound_interpolation {escaped : Bool} {ts rest : List Token} {t : Tag}
    (h : interpolation finish escaped ts = .ok (t, rest)) :
    ∃ u a, spelled ts = u ++ .symbol .closeTag :: spelled rest ∧ IsAccessor u a ∧
      t = .node (.interpolation a escaped) := by
  simp only [interpolation, bind_eq_ok, Prod.exists] at h
  rcases h with ⟨a, _, h₁, _, h₂, h₃⟩
  cases h₃
  rcases sound_accessor h₁ with ⟨u, hu, ha⟩
  exact ⟨u, a, by rw [hu, sound_expect rfl h₂], ha, rfl⟩

theorem complete_interpolation (finish : Nat) {u : List Lexeme} {a : Accessor} (ha : IsAccessor u a)
    (escaped : Bool) {ts : List Token} {w : List Lexeme}
    (h : spelled ts = u ++ .symbol .closeTag :: w) :
    ∃ rest, interpolation finish escaped ts = .ok (.node (.interpolation a escaped), rest) ∧
      spelled rest = w := by
  rcases complete_accessor finish ha (by decide) (by decide) h with ⟨ts₁, h₁, w₁⟩
  rcases complete_expect finish (e := .expressionEnd) rfl w₁ with ⟨rest, h₂, hw⟩
  refine ⟨rest, ?_, hw⟩
  simp only [interpolation, bind_eq_ok, Prod.exists]
  exact ⟨_, _, h₁, _, h₂, rfl⟩

theorem sound_condition {ts rest : List Token} {t : Tag}
    (h : condition finish ts = .ok (t, rest)) :
    ∃ u a, spelled ts = u ++ .symbol .closeTag :: spelled rest ∧ IsAccessor u a ∧
      t = .block (.ifThen a) := by
  simp only [condition, bind_eq_ok, Prod.exists] at h
  rcases h with ⟨a, _, h₁, _, h₂, h₃⟩
  cases h₃
  rcases sound_accessor h₁ with ⟨u, hu, ha⟩
  exact ⟨u, a, by rw [hu, sound_expect rfl h₂], ha, rfl⟩

theorem complete_condition (finish : Nat) {u : List Lexeme} {a : Accessor} (ha : IsAccessor u a)
    {ts : List Token} {w : List Lexeme} (h : spelled ts = u ++ .symbol .closeTag :: w) :
    ∃ rest, condition finish ts = .ok (.block (.ifThen a), rest) ∧ spelled rest = w := by
  rcases complete_accessor finish ha (by decide) (by decide) h with ⟨ts₁, h₁, w₁⟩
  rcases complete_expect finish (e := .conditionEnd) rfl w₁ with ⟨rest, h₂, hw⟩
  refine ⟨rest, ?_, hw⟩
  simp only [condition, bind_eq_ok, Prod.exists]
  exact ⟨_, _, h₁, _, h₂, rfl⟩

theorem sound_loop {ts rest : List Token} {t : Tag} (h : loop finish ts = .ok (t, rest)) :
    ∃ u, .symbol .hash :: .symbol .eachWord :: spelled ts = u ++ spelled rest ∧ IsTag u t := by
  simp only [loop, bind_eq_ok, Prod.exists] at h
  rcases h with ⟨items, _, h₁, _, h₂, _, h₃, item, _, h₄, index, _, h₅, _, h₆, _, h₇, h₈⟩
  cases h₈
  rcases sound_accessor h₁ with ⟨u, hu, ha⟩
  rcases sound_indexName h₅ with ⟨v, hv, hi⟩
  refine ⟨_, ?_, EachHead.intro item ha hi⟩
  rw [hu, sound_expect rfl h₂, sound_expect rfl h₃, sound_name h₄, hv, sound_expect rfl h₆,
    sound_expect rfl h₇]
  simp only [List.cons_append, List.append_assoc, List.nil_append]

theorem complete_loop (finish : Nat) {u v : List Lexeme} {items : Accessor} {item : String}
    {index : Option String} (ha : IsAccessor u items) (hi : Index v index)
    {ts : List Token} {w : List Lexeme}
    (h : spelled ts = u ++ .symbol .asWord :: .symbol .pipe :: .identifier item ::
      (v ++ .symbol .pipe :: .symbol .closeTag :: w)) :
    ∃ rest, loop finish ts = .ok (.block (.each items item index), rest) ∧ spelled rest = w := by
  rcases complete_accessor finish ha (by decide) (by decide) h with ⟨ts₁, h₁, w₁⟩
  rcases complete_expect finish (e := .itemsEnd) rfl w₁ with ⟨ts₂, h₂, w₂⟩
  rcases complete_expect finish (e := .bindingStart) rfl w₂ with ⟨ts₃, h₃, w₃⟩
  rcases complete_name finish w₃ with ⟨ts₄, h₄, w₄⟩
  rcases complete_indexName finish hi w₄ with ⟨ts₅, h₅, w₅⟩
  rcases complete_expect finish (e := .bindingEnd) rfl w₅ with ⟨ts₆, h₆, w₆⟩
  rcases complete_expect finish (e := .eachEnd) rfl w₆ with ⟨rest, h₇, hw⟩
  refine ⟨rest, ?_, hw⟩
  simp only [loop, bind_eq_ok, Prod.exists]
  exact ⟨_, _, h₁, _, h₂, _, h₃, _, _, h₄, _, _, h₅, _, h₆, _, h₇, rfl⟩

theorem sound_inclusion {ts rest : List Token} {t : Tag}
    (h : inclusion finish ts = .ok (t, rest)) :
    ∃ u, .symbol .greaterThan :: spelled ts = u ++ spelled rest ∧ IsTag u t := by
  unfold inclusion at h
  -- With a parenthesis the name is computed, without it is fixed.
  split at h
  · simp only [bind_eq_ok, Prod.exists] at h
    rcases h with ⟨a, _, h₁, _, h₂, _, h₃, h₄⟩
    cases h₄
    rcases sound_accessor h₁ with ⟨u, hu, ha⟩
    refine ⟨_, ?_, Simple.computed ha⟩
    rw [spelled_cons, hu, sound_expect rfl h₂, sound_expect rfl h₃]
    simp only [List.cons_append, List.append_assoc, List.nil_append]
  · simp only [bind_eq_ok, Prod.exists] at h
    rcases h with ⟨x, _, h₁, _, h₂, h₃⟩
    cases h₃
    rcases sound_partialName h₁ with ⟨u, hu, hx⟩
    refine ⟨_, ?_, Simple.fixed hx⟩
    rw [hu, sound_expect rfl h₂]
    simp only [List.cons_append, List.append_assoc, List.nil_append]

theorem complete_inclusion_fixed (finish : Nat) {u : List Lexeme} {x : String} (hx : Name u x)
    {ts : List Token} {w : List Lexeme} (h : spelled ts = u ++ .symbol .closeTag :: w) :
    ∃ rest, inclusion finish ts = .ok (.node (.inclusion (.fixed x) none), rest) ∧
      spelled rest = w := by
  rcases complete_partialName finish (e := .includedName) hx (by decide) h with ⟨ts₁, h₁, w₁⟩
  rcases complete_expect finish (e := .tagEnd) rfl w₁ with ⟨rest, h₂, hw⟩
  -- A name starts with an identifier, which is no parenthesis.
  rcases hx with ⟨head, _⟩
  rcases exists_of_spelled h with ⟨_, _, rfl, _⟩
  refine ⟨rest, ?_, hw⟩
  simp only [inclusion, bind_eq_ok, Prod.exists]
  exact ⟨_, _, h₁, _, h₂, rfl⟩

/-- An inclusion of a computed name is read with its parentheses. -/
theorem complete_inclusion_computed (finish : Nat) {u : List Lexeme} {a : Accessor}
    (ha : IsAccessor u a) {ts : List Token} {w : List Lexeme}
    (h : spelled ts = .symbol .openParen :: (u ++ .symbol .closeParen :: .symbol .closeTag :: w)) :
    ∃ rest, inclusion finish ts = .ok (.node (.inclusion (.computed a) none), rest) ∧
      spelled rest = w := by
  rcases exists_of_spelled h with ⟨_, ts₁, rfl, w₁⟩
  rcases complete_accessor finish ha (by decide) (by decide) w₁ with ⟨ts₂, h₂, w₂⟩
  rcases complete_expect finish (e := .computedNameEnd) rfl w₂ with ⟨ts₃, h₃, w₃⟩
  rcases complete_expect finish (e := .tagEnd) rfl w₃ with ⟨rest, h₄, hw⟩
  refine ⟨rest, ?_, hw⟩
  simp only [inclusion, bind_eq_ok, Prod.exists]
  exact ⟨_, _, h₂, _, h₃, _, h₄, rfl⟩

theorem sound_partialBlock {ts rest : List Token} {t : Tag}
    (h : partialBlock finish ts = .ok (t, rest)) :
    ∃ u, .symbol .hash :: .symbol .partialWord :: spelled ts = u ++ spelled rest ∧
      IsTag u t := by
  simp only [partialBlock, bind_eq_ok, Prod.exists] at h
  rcases h with ⟨x, ts₁, h₁, list, ts₂, h₂, ts₃, h₃, h₄⟩
  cases h₄
  rcases sound_partialName h₁ with ⟨u, hu, hx⟩
  unfold withParams at h₂
  -- The parameters are there if `with` is.
  split at h₂
  · simp only [bind_eq_ok, Prod.exists] at h₂
    rcases h₂ with ⟨xs, _, h₅, h₆⟩
    cases h₆
    rcases sound_params h₅ with ⟨v, hv, hxs⟩
    refine ⟨_, ?_, Simple.withParams hx hxs⟩
    rw [hu, spelled_cons, hv, sound_expect rfl h₃]
    simp only [List.cons_append, List.append_assoc, List.nil_append]
  · cases h₂
    refine ⟨_, ?_, Simple.bare hx⟩
    rw [hu, sound_expect rfl h₃]
    simp only [List.cons_append, List.append_assoc, List.nil_append]

theorem complete_partialBlock_bare (finish : Nat) {u : List Lexeme} {x : String} (hx : Name u x)
    {ts : List Token} {w : List Lexeme} (h : spelled ts = u ++ .symbol .closeTag :: w) :
    ∃ rest, partialBlock finish ts = .ok (.node (.inclusion (.fixed x) none), rest) ∧
      spelled rest = w := by
  rcases complete_partialName finish (e := .partialName) hx (by decide) h with ⟨ts₁, h₁, w₁⟩
  rcases complete_expect finish (e := .tagEnd) rfl w₁ with ⟨rest, h₂, hw⟩
  rcases exists_of_spelled w₁ with ⟨_, _, rfl, _⟩
  refine ⟨rest, ?_, hw⟩
  simp only [partialBlock, bind_eq_ok, Prod.exists]
  exact ⟨_, _, h₁, _, _, rfl, _, h₂, rfl⟩

/-- A partial is read with the parameters behind its `with`. -/
theorem complete_partialBlock_params (finish : Nat) {u v : List Lexeme} {x : String}
    {xs : List (String × Accessor)} (hx : Name u x) (hxs : Params v xs)
    {ts : List Token} {w : List Lexeme}
    (h : spelled ts = u ++ .symbol .withWord :: (v ++ .symbol .closeTag :: w)) :
    ∃ rest, partialBlock finish ts = .ok (.node (.inclusion (.fixed x) (some xs)), rest) ∧
      spelled rest = w := by
  rcases complete_partialName finish (e := .partialName) hx (by decide) h with ⟨ts₁, h₁, w₁⟩
  rcases exists_of_spelled w₁ with ⟨_, ts₂, rfl, w₂⟩
  rcases complete_params finish hxs w₂ with ⟨ts₃, h₃, w₃⟩
  rcases complete_expect finish (e := .tagEnd) rfl w₃ with ⟨rest, h₄, hw⟩
  refine ⟨rest, ?_, hw⟩
  simp only [partialBlock, bind_eq_ok, Prod.exists]
  exact ⟨_, _, h₁, _, _, bind_eq_ok.mpr ⟨_, h₃, rfl⟩, _, h₄, rfl⟩

/-- What the reader of tags reads is a tag. -/
theorem sound_tag {ts rest : List Token} {t : Tag} (h : tag finish ts = .ok (t, rest)) :
    ∃ u, spelled ts = u ++ spelled rest ∧ IsTag u t := by
  unfold tag at h
  -- The tags in the order of the reader, and the escaped interpolation last, which begins with its
  -- accessor.
  split at h
  · exact sound_inclusion h
  · split at h
    · rcases sound_condition h with ⟨u, a, hu, ha, rfl⟩
      refine ⟨_, ?_, IfHead.intro ha⟩
      rw [spelled_cons, spelled_cons, hu]
      simp only [List.cons_append, List.append_assoc, List.nil_append]
    · exact sound_loop h
    · exact sound_partialBlock h
    · cases h
  · rcases sound_interpolation h with ⟨u, a, hu, ha, rfl⟩
    refine ⟨_, ?_, Simple.raw ha⟩
    rw [spelled_cons, hu]
    simp only [List.cons_append, List.append_assoc, List.nil_append]
  · rcases sound_interpolation h with ⟨u, a, hu, ha, rfl⟩
    refine ⟨_, ?_, Simple.escaped ha⟩
    rw [hu]
    simp only [List.append_assoc, List.cons_append, List.nil_append]

/-- Every tag that is a node of its own is read to its end, and no further. -/
theorem complete_tag_simple (finish : Nat) {u : List Lexeme} {n : Node} (hn : Simple u n)
    {ts : List Token} {w : List Lexeme} (h : spelled ts = u ++ w) :
    ∃ rest, tag finish ts = .ok (.node n, rest) ∧ spelled rest = w := by
  cases hn with
  | escaped ha =>
    rw [List.append_assoc] at h
    rcases complete_interpolation finish ha true h with ⟨rest, hr, hw⟩
    -- An accessor starts with an identifier, so the reader tries nothing else.
    rcases ha with ⟨head, _⟩
    rcases exists_of_spelled h with ⟨_, _, rfl, _⟩
    exact ⟨rest, hr, hw⟩
  | raw ha =>
    simp only [List.cons_append, List.append_assoc, List.nil_append] at h
    rcases exists_of_spelled h with ⟨_, _, rfl, h₁⟩
    exact complete_interpolation finish ha false h₁
  | fixed hx =>
    simp only [List.cons_append, List.append_assoc, List.nil_append] at h
    rcases exists_of_spelled h with ⟨_, _, rfl, h₁⟩
    exact complete_inclusion_fixed finish hx h₁
  | computed ha =>
    simp only [List.cons_append, List.append_assoc, List.nil_append] at h
    rcases exists_of_spelled h with ⟨_, _, rfl, h₁⟩
    exact complete_inclusion_computed finish ha h₁
  | bare hx =>
    simp only [List.cons_append, List.append_assoc, List.nil_append] at h
    rcases exists_of_spelled h with ⟨_, _, rfl, h₁⟩
    rcases exists_of_spelled h₁ with ⟨_, _, rfl, h₂⟩
    exact complete_partialBlock_bare finish hx h₂
  | withParams hx hxs =>
    simp only [List.cons_append, List.append_assoc, List.nil_append] at h
    rcases exists_of_spelled h with ⟨_, _, rfl, h₁⟩
    rcases exists_of_spelled h₁ with ⟨_, _, rfl, h₂⟩
    exact complete_partialBlock_params finish hx hxs h₂

/-- The tag of a condition is read to its end, and no further. -/
theorem complete_tag_ifThen (finish : Nat) {u : List Lexeme} {a : Accessor} (ha : IfHead u a)
    {ts : List Token} {w : List Lexeme} (h : spelled ts = u ++ w) :
    ∃ rest, tag finish ts = .ok (.block (.ifThen a), rest) ∧ spelled rest = w := by
  rcases ha with ⟨ha⟩
  simp only [List.cons_append, List.append_assoc, List.nil_append] at h
  rcases exists_of_spelled h with ⟨_, _, rfl, h₁⟩
  rcases exists_of_spelled h₁ with ⟨_, _, rfl, h₂⟩
  exact complete_condition finish ha h₂

/-- The tag of a loop is read to its end, and no further. -/
theorem complete_tag_each (finish : Nat) {u : List Lexeme} {items : Accessor} {item : String}
    {index : Option String} (he : EachHead u items item index) {ts : List Token}
    {w : List Lexeme} (h : spelled ts = u ++ w) :
    ∃ rest, tag finish ts = .ok (.block (.each items item index), rest) ∧ spelled rest = w := by
  rcases he with ⟨item, ha, hi⟩
  simp only [List.cons_append, List.append_assoc, List.nil_append] at h
  rcases exists_of_spelled h with ⟨_, _, rfl, h₁⟩
  rcases exists_of_spelled h₁ with ⟨_, _, rfl, h₂⟩
  exact complete_loop finish ha hi h₂

/-- Whatever a tag derives is read as that, and no further. -/
theorem complete_tag (finish : Nat) {u : List Lexeme} {t : Tag} (ht : IsTag u t) {ts : List Token}
    {w : List Lexeme} (h : spelled ts = u ++ w) :
    ∃ rest, tag finish ts = .ok (t, rest) ∧ spelled rest = w :=
  match t with
  | .node _ => complete_tag_simple finish ht h
  | .block (.ifThen _) => complete_tag_ifThen finish ht h
  | .block (.each _ _ _) => complete_tag_each finish ht h
  | .block (.ifElse _ _) => ht.elim

end Parser

end TextTemplate
