import TextTemplate.Proofs.Segmentation

/-!
# Where tokens stand

What the lexical grammar makes of the offsets of tokens. `Layout` follows the tokens from the left:
a place says whether the next token stands outside of a tag, behind a text or inside a tag, and in
front of a token inside a tag there may be blanks. The spans of a source are laid out so
(`layout_of_spans`), and by induction on the layout its tokens start behind each other, are spelled
where they stand and leave out nothing but white space inside tags. `Segmentation.of_spans` puts
this together.
-/

namespace TextTemplate

namespace Lexer

/-! ## Layouts -/

/-- Where the next token stands. -/
inductive Place where
  | outside
  | behindText
  | inside
deriving DecidableEq

/-- Where the token behind a lexeme stands, if the lexeme may stand at the place. -/
def Place.after : Place → Lexeme → Option Place
  | .outside, .text _ => some .behindText
  | .outside, .symbol .openTag => some .inside
  | .behindText, .symbol .openTag => some .inside
  | .inside, .symbol .openTag => none
  | .inside, .symbol .closeTag => some .outside
  | .inside, .symbol _ => some .inside
  | .inside, .identifier _ => some .inside
  | _, _ => none

/-- The tokens `ts` of `cs`, which starts at byte `pos` in a place. -/
inductive Layout : Place → Nat → List Char → List Token → Prop
  | done {place : Place} (pos : Nat) : place ≠ .inside → Layout place pos [] [⟨.endOfInput, pos⟩]
  | blank {pos : Nat} {c : Char} {cs : List Char} {ts : List Token} :
    Unicode.isBlank c → Layout .inside (pos + c.utf8Size) cs ts → Layout .inside pos (c :: cs) ts
  | token {place next : Place} {pos : Nat} {l : Lexeme} {cs : List Char} {ts : List Token} :
    place.after l = some next → l.spelling ≠ "" →
    (∀ s, l = .text s → ¬ opening <:+: s.toList) →
    Layout next (pos + byteLength l.spelling.toList) cs ts →
    Layout place pos (l.spelling.toList ++ cs) (⟨l, pos⟩ :: ts)

namespace Layout

theorem toList_ne_nil {l : Lexeme} (h : l.spelling ≠ "") : l.spelling.toList ≠ [] := by
  intro hl
  exact h (String.toList_eq_nil_iff.mp hl)

/-- No token stands before the place where the layout begins. -/
theorem le_position {place : Place} {pos : Nat} {cs : List Char} {ts : List Token}
    (h : Layout place pos cs ts) : ∀ t ∈ ts, pos ≤ t.position := by
  induction h with
  | done pos _ =>
    intro t ht
    cases List.mem_singleton.mp ht
    exact Nat.le_refl _
  | blank _ _ ih =>
    intro t ht
    have := ih t ht
    omega
  | token _ _ _ _ ih =>
    intro t ht
    rcases List.mem_cons.mp ht with rfl | ht
    · exact Nat.le_refl _
    · have := ih t ht
      omega

/-- Tokens stand at increasing positions. -/
theorem increasing {place : Place} {pos : Nat} {cs : List Char} {ts : List Token}
    (h : Layout place pos cs ts) : ts.Pairwise (·.position < ·.position) := by
  induction h with
  | done => exact List.pairwise_singleton ..
  | blank _ _ ih => exact ih
  | @token _ _ pos l _ _ _ hl _ hr ih =>
    refine List.pairwise_cons.mpr ⟨fun t ht => ?_, ih⟩
    have hp := hr.le_position t ht
    have hs := byteLength_pos (toList_ne_nil hl)
    show pos < t.position
    omega

theorem spelled {place : Place} {pos : Nat} {cs : List Char} {ts : List Token}
    (h : Layout place pos cs ts) :
    ∀ t ∈ ts, ∃ before after, cs = before ++ t.lexeme.spelling.toList ++ after ∧
      pos + byteLength before = t.position := by
  induction h with
  | done pos _ =>
    intro t ht
    cases List.mem_singleton.mp ht
    exact ⟨[], [], rfl, rfl⟩
  | @blank pos c cs ts _ _ ih =>
    intro t ht
    rcases ih t ht with ⟨before, after, rfl, hp⟩
    exact ⟨c :: before, after, rfl, by rw [byteLength_cons, ← hp, Nat.add_assoc]⟩
  | @token _ _ pos l cs ts _ _ _ _ ih =>
    intro t ht
    rcases List.mem_cons.mp ht with rfl | ht
    · exact ⟨[], cs, rfl, rfl⟩
    · rcases ih t ht with ⟨before, after, rfl, hp⟩
      -- The place lies further on by the spelling of the first token.
      refine ⟨l.spelling.toList ++ before, after, ?_, ?_⟩
      · simp only [List.append_assoc]
      · rw [byteLength_append, ← hp, Nat.add_assoc]

/-- A text is not empty, and holds no opening braces. -/
theorem texts {place : Place} {pos : Nat} {cs : List Char} {ts : List Token}
    (h : Layout place pos cs ts) :
    ∀ t ∈ ts, ∀ s, t.lexeme = .text s → s ≠ "" ∧ ¬ opening <:+: s.toList := by
  induction h with
  | done pos _ =>
    intro t ht s hs
    cases List.mem_singleton.mp ht
    cases hs
  | blank _ _ ih => exact ih
  | token _ hl ho _ ih =>
    intro t ht s hs
    rcases List.mem_cons.mp ht with rfl | ht
    · cases hs
      exact ⟨hl, ho s rfl⟩
    · exact ih t ht s hs

/-- The end of the input is always there. -/
theorem ne_nil {place : Place} {pos : Nat} {cs : List Char} {ts : List Token}
    (h : Layout place pos cs ts) : ts ≠ [] := by
  induction h with
  | done => exact List.cons_ne_nil _ _
  | blank _ _ ih => exact ih
  | token => exact List.cons_ne_nil _ _

/-- The source is the spellings of its tokens with white space in front of them. -/
theorem rebuilt {place : Place} {pos : Nat} {cs : List Char} {ts : List Token}
    (h : Layout place pos cs ts) :
    ∃ gaps : List (List Char × Token), gaps.map (·.2) = ts ∧
      (∀ g ∈ gaps, ∀ c ∈ g.1, Unicode.isBlank c) ∧
      cs = gaps.flatMap fun g => g.1 ++ g.2.lexeme.spelling.toList := by
  induction h with
  | done pos _ =>
    refine ⟨[([], ⟨.endOfInput, pos⟩)], rfl, fun g hg c hc => ?_, rfl⟩
    cases List.mem_singleton.mp hg
    cases hc
  | @blank _ c _ _ hc hr ih =>
    -- The blank joins the gap in front of the next token, which there always is.
    rcases ih with ⟨gaps, hts, hb, rfl⟩
    cases gaps with
    | nil => exact absurd hts.symm hr.ne_nil
    | cons g gaps =>
      refine ⟨(c :: g.1, g.2) :: gaps, hts, fun x hx d hd => ?_, rfl⟩
      rcases List.mem_cons.mp hx with rfl | hx
      · rcases List.mem_cons.mp hd with rfl | hd
        · exact hc
        · exact hb g List.mem_cons_self d hd
      · exact hb x (List.mem_cons_of_mem g hx) d hd
  | @token _ _ pos l _ _ _ _ _ _ ih =>
    rcases ih with ⟨gaps, hts, hb, rfl⟩
    refine ⟨([], ⟨l, pos⟩) :: gaps, congrArg _ hts, fun x hx d hd => ?_, rfl⟩
    rcases List.mem_cons.mp hx with rfl | hx
    · cases hd
    · exact hb x hx d hd

/-- What stands behind a text is no text. -/
theorem kind_of_behindText {pos : Nat} {cs : List Char} {t : Token} {ts : List Token}
    (h : Layout .behindText pos cs (t :: ts)) : t.kind ≠ .text := by
  cases h with
  | done => exact nofun
  | @token _ _ _ l _ _ hn =>
    intro hk
    cases l with
    | text => cases hn
    | _ => cases hk

/-- A text ends only where something else begins, and so two of them never stand side by side. -/
theorem separated {place : Place} {pos : Nat} {cs : List Char} {ts : List Token}
    (h : Layout place pos cs ts) : ∀ before a b after, ts = before ++ a :: b :: after →
      a.kind = .text → b.kind ≠ .text := by
  induction h with
  | done =>
    intro before a b after ht
    have := congrArg List.length ht
    simp only [List.length_append, List.length_cons, List.length_nil] at this
    omega
  | blank _ _ ih => exact ih
  | @token place next pos l cs ts hn _ _ hr ih =>
    intro before a b after ht hk
    -- Two neighbours are the first two tokens, or both are behind the first one.
    cases before with
    | nil =>
      rcases List.cons.inj ht with ⟨rfl, rfl⟩
      cases l with
      | text =>
        cases place <;> cases hn
        exact hr.kind_of_behindText
      | _ => cases hk
    | cons x before => exact ih before a b after (List.cons.inj ht).2 hk

/-- White space stands further on by what is put in front. -/
theorem blankAt_append {pos p : Nat} {u cs : List Char} (h : BlankAt (pos + byteLength u) cs p) :
    BlankAt pos (u ++ cs) p := by
  rcases h with ⟨before, c, after, rfl, hc, h₁, h₂⟩
  refine ⟨u ++ before, c, after, (List.append_assoc ..).symm, hc, ?_, ?_⟩
  all_goals
    rw [byteLength_append]
    omega

/-- The token in front of one inside a tag opens the tag or is inside it, too. -/
theorem eq_or_of_after {place : Place} {l : Lexeme} (h : place.after l = some .inside) :
    l = .symbol .openTag ∨ place = .inside ∧ l ≠ .symbol .closeTag := by
  cases place with
  | inside =>
    refine .inr ⟨rfl, ?_⟩
    rintro rfl
    cases h
  | outside | behindText =>
    cases l with
    | symbol s => cases s <;> first | exact .inl rfl | cases h
    | _ => cases h

/-- Whether byte `p` stands inside a tag: one that `ts` opens, or the one that is open at the
place. -/
def Within (place : Place) (ts : List Token) (p : Nat) : Prop :=
  InsideTag ts p ∨ place = .inside ∧ ∀ t ∈ ts, t.position < p → t.lexeme ≠ .symbol .closeTag

theorem within_cons {place next : Place} {l : Lexeme} {pos p : Nat} {ts : List Token}
    (hn : place.after l = some next) (hp : pos < p) (h : Within next ts p) :
    Within place (⟨l, pos⟩ :: ts) p := by
  rcases h with ⟨before, o, after, rfl, ho⟩ | ⟨rfl, hno⟩
  · exact .inl ⟨⟨l, pos⟩ :: before, o, after, rfl, ho⟩
  · -- The tag is the one that the token opens, or it was open in front of the token.
    rcases eq_or_of_after hn with rfl | ⟨rfl, hl⟩
    · exact .inl ⟨[], ⟨.symbol .openTag, pos⟩, ts, rfl, rfl, hp, hno⟩
    · refine .inr ⟨rfl, fun t ht hlt => ?_⟩
      rcases List.mem_cons.mp ht with rfl | ht
      · exact hl
      · exact hno t ht hlt

/-- A byte of no token is blank and inside a tag. -/
theorem covered {place : Place} {pos : Nat} {cs : List Char} {ts : List Token}
    (h : Layout place pos cs ts) : ∀ p, pos ≤ p → p < pos + byteLength cs →
      (∃ t ∈ ts, t.Covers p) ∨ BlankAt pos cs p ∧ Within place ts p := by
  induction h with
  | done pos _ =>
    intro p h₁ h₂
    rw [byteLength_nil] at h₂
    omega
  | @blank pos c cs ts hc hr ih =>
    -- The bytes of the blank lie in front of all tokens, so no tag is closed in front of them.
    intro p h₁ h₂
    rw [byteLength_cons] at h₂
    by_cases hp : p < pos + c.utf8Size
    · refine .inr ⟨⟨[], c, cs, rfl, hc, h₁, hp⟩, .inr ⟨rfl, fun t ht hlt => ?_⟩⟩
      have := hr.le_position t ht
      omega
    · rcases ih p (by omega) (by omega) with ht | ⟨hb, hi⟩
      · exact .inl ht
      · exact .inr ⟨blankAt_append (u := [c]) hb, hi⟩
  | @token place next pos l cs ts hn hl _ hr ih =>
    intro p h₁ h₂
    rw [byteLength_append] at h₂
    by_cases hp : p < pos + byteLength l.spelling.toList
    · exact .inl ⟨⟨l, pos⟩, List.mem_cons_self, h₁, hp⟩
    · rcases ih p (by omega) (by omega) with ⟨t, ht, hc⟩ | ⟨hb, hi⟩
      · exact .inl ⟨t, List.mem_cons_of_mem _ ht, hc⟩
      · have hs := byteLength_pos (toList_ne_nil hl)
        exact .inr ⟨blankAt_append hb, within_cons hn (by omega) hi⟩

end Layout

/-! ## Spans are laid out -/

/-- A token in front of a layout, with its characters given. -/
theorem layout_of_token (l : Lexeme) {u : List Char} (hl : l.spelling.toList = u) (hu : u ≠ [])
    {place next : Place} (hn : place.after l = some next)
    (ht : ∀ s, l = .text s → ¬ opening <:+: u) {pos : Nat} {cs : List Char} {ts : List Token}
    (h : Layout next (pos + byteLength u) cs ts) : Layout place pos (u ++ cs) (⟨l, pos⟩ :: ts) := by
  subst hl
  refine .token hn ?_ ?_ h
  · intro hs
    exact hu (String.toList_eq_nil_iff.mpr hs)
  · rintro s rfl
    exact ht s rfl

/-- A mark keeps the lexer inside of a tag. -/
theorem after_of_mem_marks {s : Symbol} (h : s ∈ marks) :
    Place.inside.after (.symbol s) = some .inside := by
  cases s <;> first | rfl | exact absurd h (by decide)

theorem after_of_isWord {s : Symbol} (h : s.isWord = true) :
    Place.inside.after (.symbol s) = some .inside := by
  cases s <;> first | rfl | cases h

theorem spelling_toList_ne_nil (s : Symbol) : s.spelling.toList ≠ [] := by
  cases s <;> decide

/-- A piece of a tag lays its token out in front of the others. -/
theorem layout_of_piece {p : Piece} {rest : List Char} (hp : p.Stands rest) {pos : Nat}
    {cs : List Char} {ts : List Token} (h : Layout .inside (pos + byteLength p.chars) cs ts) :
    Layout .inside pos (p.chars ++ cs) (p.tokens pos ++ ts) := by
  cases p with
  | blank c => exact .blank hp h
  | mark s =>
    exact layout_of_token (.symbol s) rfl (spelling_toList_ne_nil s) (after_of_mem_marks hp) nofun h
  | reserved s =>
    exact layout_of_token (.symbol s) rfl (spelling_toList_ne_nil s) (after_of_isWord hp.1) nofun h
  | identifier w =>
    rcases hp with ⟨⟨c, more, rfl, -⟩, -⟩
    exact layout_of_token (.identifier _) String.toList_ofList (List.cons_ne_nil c more) rfl nofun h
  -- The one piece of two tokens: `#` and, a byte further on, its word.
  | keyword s =>
    have hs : Layout .inside (pos + 1) (s.spelling.toList ++ cs) (⟨.symbol s, pos + 1⟩ :: ts) := by
      refine layout_of_token (.symbol s) rfl (spelling_toList_ne_nil s) (after_of_isWord hp.1)
        nofun ?_
      rw [Nat.add_assoc]
      exact h
    exact layout_of_token (.symbol .hash) rfl (List.cons_ne_nil '#' []) rfl nofun hs

/-- Pieces lay their tokens out one after the other. -/
theorem layout_of_pieces {pieces : List Piece} {rest : List Char}
    (hp : Piece.AllStand rest pieces) {pos : Nat} {cs : List Char} {ts : List Token}
    (h : Layout .inside (pos + byteLength (Piece.charsOf pieces)) cs ts) :
    Layout .inside pos (Piece.charsOf pieces ++ cs) (Piece.tokensOf pos pieces ++ ts) := by
  induction pieces generalizing pos with
  | nil => exact h
  | cons p more ih =>
    rcases hp with ⟨hp, hm⟩
    rw [Piece.charsOf, Piece.tokensOf, List.append_assoc, List.append_assoc]
    rw [Piece.charsOf, byteLength_append, ← Nat.add_assoc] at h
    exact layout_of_piece hp (ih hm h)

theorem byteLength_tag (pieces : List Piece) :
    byteLength (Span.tag pieces).chars = 2 + byteLength (Piece.charsOf pieces) + 2 := by
  rw [Span.chars, byteLength_append, byteLength_append]
  rfl

/-- A tag lays out its opening braces, its pieces and its closing braces. -/
theorem layout_of_tag {pieces : List Piece} {rest : List Char}
    (hp : Piece.AllStand rest pieces) {place : Place} (hi : place ≠ .inside) {pos : Nat}
    {cs : List Char} {ts : List Token}
    (h : Layout .outside (pos + byteLength (Span.tag pieces).chars) cs ts) :
    Layout place pos ((Span.tag pieces).chars ++ cs) ((Span.tag pieces).tokens pos ++ ts) := by
  have hn : place.after (.symbol .openTag) = some .inside := by
    cases place with
    | outside | behindText => rfl
    | inside => exact absurd rfl hi
  rw [byteLength_tag, ← Nat.add_assoc, ← Nat.add_assoc] at h
  -- From the back: the closing braces, the pieces, and the opening braces.
  have hclose : Layout .inside (pos + 2 + byteLength (Piece.charsOf pieces)) (closing ++ cs)
      (⟨.symbol .closeTag, _⟩ :: ts) :=
    layout_of_token (.symbol .closeTag) rfl (List.cons_ne_nil '}' ['}']) rfl nofun h
  have hpieces := layout_of_pieces hp hclose
  have hopen : Layout place pos (opening ++ _) (⟨.symbol .openTag, pos⟩ :: _) :=
    layout_of_token (.symbol .openTag) rfl (List.cons_ne_nil '{' ['{']) hn nofun hpieces
  simpa only [Span.chars, Span.tokens, List.append_assoc, List.cons_append, List.nil_append]
    using hopen

/-- Behind a text stands a tag or nothing. -/
theorem not_text_of_runsTo {run : List Char} {x : Span} {more : List Span}
    (h : RunsTo opening run (Span.charsOf (x :: more))) (hx : x.Stands (Span.charsOf more)) :
    ∃ pieces, x = .tag pieces := by
  cases x with
  | tag pieces => exact ⟨pieces, rfl⟩
  | text run' =>
    exfalso
    rcases hx with ⟨hne, -, hfirst⟩
    rcases h.1 with hnil | ⟨after, hafter⟩
    · exact hne (List.append_eq_nil_iff.mp hnil).1
    · have hle : run'.length ≤ 0 := hfirst [] after hafter.symm
      exact hne (List.length_eq_zero_iff.mp (Nat.le_zero.mp hle))

/-- Text that runs to the opening braces does not hold them. -/
theorem not_infix_of_runsTo {run rest : List Char} (h : RunsTo opening run rest) :
    ¬ opening <:+: run := by
  rintro ⟨before, after, hr⟩
  -- The braces in `run` would start at least two characters in front of its end.
  have hle := h.2 before (after ++ rest) (by rw [← hr, List.append_assoc])
  have hlen := congrArg List.length hr
  simp only [List.length_append, opening, List.length_cons, List.length_nil] at hlen
  omega

/-- The spans of a source are laid out. Where they stand behind a text, the first is a tag. -/
theorem layout_of_spans {spans : List Span} (hs : Span.AllStand spans) (place : Place)
    (hi : place ≠ .inside) (hb : ∀ x more, spans = x :: more → place = .behindText →
      ∃ pieces, x = .tag pieces) (pos : Nat) :
    Layout place pos (Span.charsOf spans) (Span.tokensOf pos spans ++
      [⟨.endOfInput, pos + byteLength (Span.charsOf spans)⟩]) := by
  induction spans generalizing place pos with
  | nil => exact .done pos hi
  | cons x more ih =>
    rcases hs with ⟨hx, hm⟩
    rw [Span.charsOf, Span.tokensOf, byteLength_append, ← Nat.add_assoc, List.append_assoc]
    cases x with
    | tag pieces => exact layout_of_tag hx.1 hi (ih hm .outside nofun nofun _)
    | text run =>
      rcases hx with ⟨hne, hrun⟩
      have hn : place.after (.text (String.ofList run)) = some .behindText := by
        cases place with
        | outside => rfl
        | inside => exact absurd rfl hi
        | behindText =>
          -- The first span would be a tag.
          rcases hb _ _ rfl rfl with ⟨_, h⟩
          cases h
      have hrest := ih hm .behindText nofun (fun y rest hy _ => by
        subst hy
        exact not_text_of_runsTo hrun hm.1) (pos + byteLength run)
      exact layout_of_token (.text _) String.toList_ofList hne hn
        (fun _ _ => not_infix_of_runsTo hrun) hrest

end Lexer

open Lexer

/-- The lexical grammar alone settles where tokens stand. -/
theorem Segmentation.of_spans {source : String} {spans : List Span} (hs : Span.AllStand spans)
    (hc : source.toList = Span.charsOf spans) :
    Segmentation source (Span.tokensOf 0 spans ++ [⟨.endOfInput, source.utf8ByteSize⟩]) := by
  -- Everything but the spans themselves is a property of the layout.
  have hl : Layout .outside 0 source.toList
      (Span.tokensOf 0 spans ++ [⟨.endOfInput, source.utf8ByteSize⟩]) := by
    rw [utf8ByteSize_eq, hc, ← Nat.zero_add (byteLength _)]
    exact layout_of_spans hs .outside nofun nofun 0
  refine ⟨⟨spans, hs, hc, rfl⟩, hl.increasing, ?_, hl.texts, hl.separated, ?_, hl.rebuilt⟩
  · intro t ht
    rcases hl.spelled t ht with ⟨before, after, h, hp⟩
    exact ⟨before, after, h, (Nat.zero_add _).symm.trans hp⟩
  · intro p hp
    rw [utf8ByteSize_eq] at hp
    rcases hl.covered p (Nat.zero_le p) (by omega) with ht | ⟨hb, hi | ⟨hi, -⟩⟩
    · exact .inl ht
    · exact .inr ⟨hb, hi⟩
    · cases hi

end TextTemplate
