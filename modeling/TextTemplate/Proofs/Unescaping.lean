import Mathlib.Tactic.SplitIfs
import TextTemplate.Proofs.Escaping

/-!
# Escaped text is read back

`Html.unescape` replaces the references of a text by their characters, in one pass from left to
right. It undoes `Html.escape` (`Html.escape_invertible`), also where a text holds something that
looks like a reference: what is written for a character is read back as that character, whatever
follows it (`Html.unescapeChars_escapeChar`).
-/

namespace TextTemplate.Html

/-! ## Reading references -/

/-- The character whose reference goes on behind its `&` in front of the characters, and what
follows the reference. -/
def reference? : List Char → Option (Char × List Char)
  | 'a' :: 'm' :: 'p' :: ';' :: rest => some ('&', rest)
  | 'l' :: 't' :: ';' :: rest => some ('<', rest)
  | 'g' :: 't' :: ';' :: rest => some ('>', rest)
  | 'q' :: 'u' :: 'o' :: 't' :: ';' :: rest => some ('"', rest)
  | '#' :: cs =>
    let digits := cs.takeWhile (·.isDigit)
    let code := Nat.ofDigitChars 10 digits 0
    match cs.dropWhile (·.isDigit) with
    | ';' :: rest => if digits ≠ [] ∧ code.isValidChar then some (Char.ofNat code, rest) else none
    | _ => none
  | _ => none

theorem length_of_reference? {cs rest : List Char} {c : Char}
    (h : reference? cs = some (c, rest)) : rest.length < cs.length := by
  unfold reference? at h
  split at h
  -- Only a decimal reference has a length that depends on its digits.
  case h_5 cs =>
    have shorter := (List.dropWhile_suffix (l := cs) (·.isDigit)).length_le
    dsimp only at h
    split at h
    · next behind =>
      split at h
      · cases h
        rw [behind] at shorter
        simp only [List.length_cons] at shorter ⊢
        omega
      · cases h
    · cases h
  case h_6 => cases h
  all_goals
    cases h
    simp only [List.length_cons]
    omega

/-- The characters with their references replaced. An `&` that begins none is kept. -/
def unescapeChars : List Char → List Char
  | [] => []
  | c :: cs =>
    match _h : if c = '&' then reference? cs else none with
    | some (d, rest) => d :: unescapeChars rest
    | none => c :: unescapeChars cs
termination_by cs => cs.length
decreasing_by
  · split at _h
    · have := length_of_reference? _h
      simp only [List.length_cons]
      omega
    · cases _h
  · simp

/-- The text with its references replaced, from left to right. -/
def unescape (s : String) : String := String.ofList (unescapeChars s.toList)

theorem unescapeChars_of_reference {c : Char} {cs rest : List Char}
    (h : reference? cs = some (c, rest)) : unescapeChars ('&' :: cs) = c :: unescapeChars rest := by
  rw [unescapeChars]
  split
  · next found =>
    rw [if_pos rfl, h] at found
    cases found
    rfl
  · next missing =>
    rw [if_pos rfl, h] at missing
    cases missing

theorem unescapeChars_of_ne {c : Char} (h : c ≠ '&') (rest : List Char) :
    unescapeChars (c :: rest) = c :: unescapeChars rest := by
  rw [unescapeChars]
  split
  · next found =>
    rw [if_neg h] at found
    cases found
  · rfl

/-! ## What escaping writes is read back -/

/-- The decimal reference of a character stands for it. -/
theorem unescapeChars_reference (c : Char) (rest : List Char) :
    unescapeChars (reference c ++ rest) = c :: unescapeChars rest := by
  have written : reference c ++ rest = '&' :: '#' :: (Nat.toDigits 10 c.toNat ++ ';' :: rest) := by
    have digits : (toString c.toNat).toList = Nat.toDigits 10 c.toNat := Nat.toList_repr
    rw [reference, digits, List.append_assoc, List.append_assoc]
    rfl
  have all : ∀ d ∈ Nat.toDigits 10 c.toNat, d.isDigit = true :=
    fun d held => Nat.isDigit_of_mem_toDigits (by omega) (by omega) held
  -- The digits end at the semicolon, and they are those of the character.
  have digits : (Nat.toDigits 10 c.toNat ++ ';' :: rest).takeWhile (·.isDigit) =
      Nat.toDigits 10 c.toNat := by
    rw [List.takeWhile_append_of_pos all]
    simp
  have behind : (Nat.toDigits 10 c.toNat ++ ';' :: rest).dropWhile (·.isDigit) = ';' :: rest := by
    rw [List.dropWhile_append_of_pos all]
    rfl
  have code : Nat.ofDigitChars 10 (Nat.toDigits 10 c.toNat) 0 = c.toNat :=
    Nat.ofDigitChars_ten_toDigits
  have valid : c.toNat.isValidChar := c.valid
  rw [written]
  apply unescapeChars_of_reference
  simp only [reference?, digits, behind, code]
  rw [if_pos ⟨Nat.toDigits_ne_nil, valid⟩, Char.ofNat_toNat]

/-- What is written for a character is read back, whatever follows. -/
theorem unescapeChars_escapeChar (c : Char) (rest : List Char) :
    unescapeChars (escapeChar c ++ rest) = c :: unescapeChars rest := by
  unfold escapeChar
  -- Escaped or not, the character is read back first, case by case.
  split_ifs with amp lt gt quot apostrophe blank coded
  · subst amp
    exact unescapeChars_of_reference rfl
  · subst lt
    exact unescapeChars_of_reference rfl
  · subst gt
    exact unescapeChars_of_reference rfl
  · subst quot
    exact unescapeChars_of_reference rfl
  · subst apostrophe
    exact unescapeChars_reference '\'' rest
  · exact unescapeChars_of_ne amp rest
  · exact unescapeChars_reference c rest
  · exact unescapeChars_of_ne amp rest

/-- Replacing the references undoes the escaping. -/
theorem unescape_escape (s : String) : unescape (escape s) = s := by
  have chars : unescapeChars (s.toList.flatMap escapeChar) = s.toList := by
    induction s.toList with
    | nil => rw [List.flatMap_nil, unescapeChars]
    | cons c cs ih => rw [List.flatMap_cons, unescapeChars_escapeChar, ih]
  rw [unescape, escape, String.toList_ofList, chars, String.ofList_toList]

/-! ## What escaping keeps -/

/-- The characters that are kept are those that may stand in escaped text, without the `&`. -/
theorem escapeChar_eq_self_iff {c : Char} : escapeChar c = [c] ↔ InertChar c ∧ c ≠ '&' := by
  constructor
  · intro kept
    have inert := (inert_escapeChar c).chars
    rw [kept] at inert
    refine ⟨inert c (List.mem_singleton_self c), ?_⟩
    rintro rfl
    exact absurd kept (by decide)
  · rintro ⟨inert, amp⟩
    have noMarkup := inert.noMarkup
    simp only [isMarkup, Bool.or_eq_false_iff, decide_eq_false_iff_not] at noMarkup
    obtain ⟨⟨⟨lt, gt⟩, quot⟩, apostrophe⟩ := noMarkup
    unfold escapeChar
    rw [if_neg amp, if_neg lt, if_neg gt, if_neg quot, if_neg apostrophe]
    split_ifs with blank coded
    · rfl
    -- An inert character is neither a control character other than white space nor beyond ASCII.
    · rcases coded with control | far
      · exact absurd (inert.blank control) blank
      · exact absurd inert.ascii (Nat.not_lt.2 far)
    · rfl

/-- No character is dropped. -/
theorem escapeChar_length_pos (c : Char) : 0 < (escapeChar c).length := by
  rw [List.length_pos_iff]
  intro dropped
  have read := unescapeChars_escapeChar c []
  rw [dropped, List.nil_append, unescapeChars] at read
  cases read

/-- Escaping makes no text shorter, since each character becomes at least one. -/
theorem length_le_escaped (cs : List Char) : cs.length ≤ (cs.flatMap escapeChar).length := by
  induction cs with
  | nil => exact Nat.zero_le _
  | cons c cs ih =>
    have := escapeChar_length_pos c
    rw [List.flatMap_cons, List.length_append, List.length_cons]
    omega

/-- Escaping leaves exactly those characters alone that are neither markup nor `&`. -/
theorem escaped_eq_self_iff (cs : List Char) :
    cs.flatMap escapeChar = cs ↔ ∀ c ∈ cs, InertChar c ∧ c ≠ '&' := by
  induction cs with
  | nil => simp
  | cons c cs ih =>
    rw [List.forall_mem_cons, ← ih, ← escapeChar_eq_self_iff, List.flatMap_cons]
    constructor
    · intro kept
      -- What follows `c` is not shorter than it was, so nothing is written for `c` but itself.
      have single : (escapeChar c).length = [c].length := by
        have lengths := congrArg List.length kept
        have written := escapeChar_length_pos c
        have longer := length_le_escaped cs
        rw [List.length_append, List.length_cons] at lengths
        rw [List.length_singleton]
        omega
      exact List.append_inj kept single
    · rintro ⟨first, rest⟩
      rw [first, rest]
      rfl

/-- **Escaping is invertible.** Escaped text is read back as the text, so no other text is escaped
to the same; it holds ASCII only, no markup character but the `&` and no control character but tab,
newline and carriage return; and it is the text itself if and only if that holds such characters
only, and no `&`. -/
theorem escape_invertible (s : String) :
    unescape (escape s) = s ∧
    (∀ t, escape t = escape s → t = s) ∧
    (∀ c ∈ (escape s).toList, InertChar c) ∧
    (escape s = s ↔ ∀ c ∈ s.toList, InertChar c ∧ c ≠ '&') := by
  refine ⟨unescape_escape s, ?_, (inert_escape s).chars, ?_⟩
  · intro t same
    rw [← unescape_escape t, same, unescape_escape]
  · rw [← escaped_eq_self_iff, ← String.toList_inj, escape, String.toList_ofList]

end TextTemplate.Html
