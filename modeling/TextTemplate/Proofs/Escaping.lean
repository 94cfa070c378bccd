import TextTemplate.Html

/-!
# Escaped text is inert

Escaped text holds no markup: each of its characters is ASCII, none is a markup character, none is a
control character but tab, newline and carriage return, and each `&` begins a reference
(`Html.inert_escape`). A text with these properties is `Html.Inert`; such texts may be put side by
side, so it is enough to look at what becomes of one character.
-/

namespace TextTemplate.Html

/-- The characters that markup is made of, the `&` apart. -/
def isMarkup (c : Char) : Bool := c = '<' || c = '>' || c = '"' || c = '\''

/-- The markup characters of a text, in order. -/
def markup (s : String) : List Char := s.toList.filter isMarkup

/-- The markup of a text is that of its parts, one after the other. -/
theorem markup_append (s t : String) : markup (s ++ t) = markup s ++ markup t := by
  rw [markup, String.toList_append, List.filter_append, markup, markup]

/-- The references that escaping may write. -/
inductive IsReference : List Char → Prop
  | amp : IsReference ['&', 'a', 'm', 'p', ';']
  | lt : IsReference ['&', 'l', 't', ';']
  | gt : IsReference ['&', 'g', 't', ';']
  | quot : IsReference ['&', 'q', 'u', 'o', 't', ';']
  | decimal {digits : List Char} (nonempty : digits ≠ []) (all : ∀ d ∈ digits, d.isDigit = true) :
    IsReference ('&' :: '#' :: (digits ++ [';']))

/-- A character that may stand in escaped text. -/
structure InertChar (c : Char) : Prop where
  ascii : c.toNat < 128
  noMarkup : isMarkup c = false
  blank : Unicode.isControl c = true → c = '\t' ∨ c = '\n' ∨ c = '\r'

instance (c : Char) : Decidable (InertChar c) :=
  decidable_of_iff (c.toNat < 128 ∧ isMarkup c = false ∧
      (Unicode.isControl c = true → c = '\t' ∨ c = '\n' ∨ c = '\r'))
    ⟨fun h => ⟨h.1, h.2.1, h.2.2⟩, fun h => ⟨h.ascii, h.noMarkup, h.blank⟩⟩

/-- Text that cannot be taken for markup. -/
structure Inert (cs : List Char) : Prop where
  chars : ∀ c ∈ cs, InertChar c
  references : ∀ before after, cs = before ++ '&' :: after →
    ∃ reference, IsReference reference ∧ reference <+: '&' :: after

/-- Inert characters have no markup among them. -/
theorem Inert.markup {s : String} (h : Inert s.toList) : markup s = [] := by
  rw [Html.markup, List.filter_eq_nil_iff]
  intro c held
  rw [(h.chars c held).noMarkup]
  exact Bool.false_ne_true

theorem inert_nil : Inert [] where
  chars := nofun
  references := by
    intro before after split
    cases before <;> cases split

/-- Inert characters stay inert behind each other: a reference that is begun is ended in its own
part. -/
theorem Inert.append {cs ds : List Char} (h : Inert cs) (h' : Inert ds) : Inert (cs ++ ds) where
  chars := by
    intro c held
    rcases List.mem_append.1 held with held | held
    · exact h.chars c held
    · exact h'.chars c held
  references := by
    intro before after split
    rcases List.append_eq_append_iff.1 split with ⟨rest, rfl, inSecond⟩ | ⟨rest, inFirst, follows⟩
    · exact h'.references rest after inSecond
    · cases rest with
      | nil =>
        exact h'.references [] after follows.symm
      | cons d rest =>
        -- The `&` stands in the first text, and what follows it there is only continued.
        obtain ⟨rfl, rfl⟩ : '&' = d ∧ after = rest ++ ds := by simpa using follows
        obtain ⟨reference, written, begins⟩ := h.references before rest inFirst
        exact ⟨reference, written, begins.trans ⟨ds, rfl⟩⟩

/-- A character other than `&` that may stand in escaped text. -/
theorem inert_single {c : Char} (inert : InertChar c) (plain : c ≠ '&') : Inert [c] where
  chars := by
    intro d held
    rw [List.mem_singleton.1 held]
    exact inert
  references := by
    intro before after split
    have held : '&' ∈ [c] := split ▸ List.mem_append_right before (List.mem_cons_self ..)
    exact absurd (List.mem_singleton.1 held).symm plain

/-- Inside a reference: a character of escaped text that begins no other reference. -/
def isInner (c : Char) : Bool := decide (InertChar c) && c != '&'

/-- What stands inside of a reference is inert and begins no other. -/
theorem isInner_iff {c : Char} : isInner c = true ↔ InertChar c ∧ c ≠ '&' := by
  simp [isInner]

/-- A reference has its only `&` in front. -/
theorem inert_of_isReference {name : List Char} (reference : IsReference ('&' :: name))
    (inner : name.all isInner = true) : Inert ('&' :: name) where
  chars := by
    intro c held
    rcases List.mem_cons.1 held with rfl | held
    · decide
    · exact (isInner_iff.1 (List.all_eq_true.1 inner c held)).1
  references := by
    intro before after split
    -- The only ampersand is the first character, which begins the reference.
    cases before with
    | nil => exact ⟨'&' :: name, reference, split ▸ List.prefix_refl _⟩
    | cons d before =>
      have held : '&' ∈ name := by
        rw [(List.cons.inj split).2]
        exact List.mem_append_right before (List.mem_cons_self ..)
      exact absurd rfl (isInner_iff.1 (List.all_eq_true.1 inner '&' held)).2

theorem isInner_of_isDigit {d : Char} (digit : d.isDigit = true) : isInner d = true := by
  have range : 48 ≤ d.toNat ∧ d.toNat ≤ 57 := Char.isDigit_iff_toNat.1 digit
  have differs : ∀ c : Char, c.toNat < 48 ∨ 57 < c.toNat → d ≠ c := by
    rintro c outside rfl
    omega
  refine isInner_iff.2 ⟨⟨by omega, ?_, ?_⟩, differs '&' (by decide)⟩
  · simp [isMarkup, differs '<' (by decide), differs '>' (by decide), differs '"' (by decide),
      differs '\'' (by decide)]
  · intro control
    simp only [Unicode.isControl, Bool.or_eq_true, Bool.and_eq_true, decide_eq_true_eq] at control
    omega

/-- A numeric reference is inert, though it begins with an ampersand. -/
theorem inert_reference (c : Char) : Inert (reference c) := by
  have digits : (toString c.toNat).toList = Nat.toDigits 10 c.toNat := Nat.toList_repr
  have all : ∀ d ∈ Nat.toDigits 10 c.toNat, d.isDigit = true :=
    fun d held => Nat.isDigit_of_mem_toDigits (by omega) (by omega) held
  have written : reference c = '&' :: '#' :: (Nat.toDigits 10 c.toNat ++ [';']) := by
    rw [reference, digits]
    rfl
  rw [written]
  have inner : (Nat.toDigits 10 c.toNat).all isInner = true :=
    List.all_eq_true.2 fun d held => isInner_of_isDigit (all d held)
  apply inert_of_isReference (.decimal Nat.toDigits_ne_nil all)
  rw [List.all_cons, List.all_append, inner]
  rfl

/-- Each character is written as a reference, or it is kept and may stand in escaped text. -/
theorem inert_escapeChar (c : Char) : Inert (escapeChar c) := by
  -- The five characters with references of their own come first, in the order of the function.
  by_cases amp : c = '&'
  · subst amp
    exact inert_of_isReference .amp rfl
  by_cases lt : c = '<'
  · subst lt
    exact inert_of_isReference .lt rfl
  by_cases gt : c = '>'
  · subst gt
    exact inert_of_isReference .gt rfl
  by_cases quot : c = '"'
  · subst quot
    exact inert_of_isReference .quot rfl
  by_cases apostrophe : c = '\''
  · subst apostrophe
    exact inert_of_isReference
      (@IsReference.decimal ['3', '9'] (List.cons_ne_nil _ _) (List.all_eq_true.1 rfl)) rfl
  have noMarkup : isMarkup c = false := by simp [isMarkup, lt, gt, quot, apostrophe]
  rw [escapeChar, if_neg amp, if_neg lt, if_neg gt, if_neg quot, if_neg apostrophe]
  split
  · next blank =>
    have ascii : c.toNat < 128 := by rcases blank with rfl | rfl | rfl <;> decide
    exact inert_single ⟨ascii, noMarkup, fun _ => blank⟩ amp
  · split
    · exact inert_reference c
    · next kept =>
      rw [not_or] at kept
      exact inert_single ⟨by omega, noMarkup, fun control => absurd control kept.1⟩ amp

/-- Escaped text cannot be taken for markup. -/
theorem inert_escape (s : String) : Inert (escape s).toList := by
  rw [escape, String.toList_ofList]
  induction s.toList with
  | nil => exact inert_nil
  | cons c rest ih => exact (inert_escapeChar c).append ih

end TextTemplate.Html
