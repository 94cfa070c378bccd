import Mathlib.Tactic.SplitIfs
import TextTemplate.Calendar.Format
import TextTemplate.Calendar.Reader
import TextTemplate.Proofs.Legible

/-!
# Numbers of dates are read back

A number with zeros in front is its value again (`ofDigits_padZeros`). The readers of dates read
such numbers and leave what is behind them: numbers of a fixed width
(`DateReader.digits?_padZeros`), years with their signs (`DateReader.year?_yearText`), and fractions
of a second (`DateReader.optionalFraction?_fractionText`).
-/

namespace TextTemplate

/-! ## Padded numbers -/

theorem ofDigits_eq (cs : List Char) : Decimal.ofDigits cs = Nat.ofDigitChars 10 cs 0 := rfl

/-- A padded number is zeros and its own digits. -/
theorem toList_padZeros (width n : Nat) :
    (padZeros width n).toList =
      List.replicate (width - (Nat.toDigits 10 n).length) '0' ++ Nat.toDigits 10 n := by
  simp only [padZeros, String.toList_append, String.toList_ofList, Nat.toString_eq_repr,
    Nat.toList_repr, ← String.length_toList]

theorem isDigit_of_mem_padZeros {width n : Nat} {c : Char} (h : c ∈ (padZeros width n).toList) :
    c.isDigit = true := by
  rw [toList_padZeros, List.mem_append] at h
  rcases h with zero | digit
  · rw [List.eq_of_mem_replicate zero]
    rfl
  · exact Nat.isDigit_of_mem_toDigits (by decide) (by decide) digit

/-- Zeros in front do not change the number that digits spell. -/
theorem ofDigits_padZeros (width n : Nat) : Decimal.ofDigits (padZeros width n).toList = n := by
  rw [ofDigits_eq, toList_padZeros, Nat.ofDigitChars_append, Nat.ofDigitChars_replicate_zero,
    Nat.mul_zero, Nat.ofDigitChars_ten_toDigits]

/-- A number that fits is padded to exactly the width. -/
theorem length_padZeros {width n : Nat} (positive : 0 < width) (fits : n < Nat.pow 10 width) :
    (padZeros width n).toList.length = width := by
  have digits := (Nat.length_toDigits_le_iff (by decide) positive).2 fits
  rw [toList_padZeros, List.length_append, List.length_replicate]
  omega

/-- What is written with zeros in front begins with a digit. -/
theorem exists_padZeros (width n : Nat) :
    ∃ c cs, (padZeros width n).toList = c :: cs ∧ c.isDigit = true := by
  have digits : 0 < (Nat.toDigits 10 n).length := Nat.length_toDigits_pos
  have nonempty : (padZeros width n).toList ≠ [] := by
    rw [toList_padZeros]
    exact List.append_ne_nil_of_right_ne_nil _ (List.ne_nil_of_length_pos digits)
  obtain ⟨c, cs, text⟩ := List.exists_cons_of_ne_nil nonempty
  exact ⟨c, cs, text, isDigit_of_mem_padZeros (text ▸ List.mem_cons_self)⟩

/-- A year is its digits, behind a sign where four digits do not hold it. -/
theorem toList_yearText (year : Int) :
    (Pattern.yearText year .zero).toList =
      (if year < 0 then ['-'] else if 10000 ≤ year then ['+'] else []) ++
        (padZeros 4 year.natAbs).toList := by
  have signs : ("-" : String).length = 1 ∧ ("+" : String).length = 1 := by decide
  unfold Pattern.yearText Pattern.signed padZeros
  by_cases negative : year < 0
  · simp [negative, signs.1]
  · by_cases long : 10000 ≤ year
    · simp [negative, long, signs.2]
    · simp [negative, long]

/-! ## Characters of dates -/

/-- The character is visible, and one of ASCII. -/
def IsVisible (c : Char) : Prop := 33 ≤ c.toNat ∧ c.toNat ≤ 126

instance : DecidablePred IsVisible := fun c =>
  inferInstanceAs (Decidable (33 ≤ c.toNat ∧ c.toNat ≤ 126))

/-- Visible characters are not skipped as white space. -/
theorem IsVisible.isBlank {c : Char} (h : IsVisible c) : Unicode.isBlank c = false := by
  have apart : ∀ r ∈ Unicode.blankRanges, r.2 < 33 ∨ 126 < r.1 := by decide
  rw [Unicode.isBlank, Bool.eq_false_iff, ne_eq, Unicode.covers_iff]
  rintro ⟨r, among, first, last⟩
  have outside := apart r among
  unfold IsVisible at h
  omega

theorem isVisible_of_isDigit {c : Char} (h : c.isDigit = true) : IsVisible c := by
  have range : 48 ≤ c.toNat ∧ c.toNat ≤ 57 := Char.isDigit_iff_toNat.1 h
  unfold IsVisible
  omega

/-- Nothing is skipped in front of a visible character. -/
theorem trimFront_cons {c : Char} (h : IsVisible c) (r : List Char) :
    Unicode.trimFront (c :: r) = c :: r := by
  rw [Unicode.trimFront, List.dropWhile_cons, h.isBlank, if_neg Bool.false_ne_true]

namespace DateReader

/-! ## Numbers -/

/-- Digits at the front are read, where no other goes on with them or no other is asked for. -/
theorem digits?_append {least most : Nat} {cs r : List Char} (all : ∀ c ∈ cs, c.isDigit = true)
    (atLeast : least ≤ cs.length) (atMost : cs.length ≤ most)
    (ends : cs.length = most ∨ Ends Char.isDigit r) :
    digits? least most (cs ++ r) = some (Decimal.ofDigits cs, r) := by
  have found : ((cs ++ r).takeWhile Char.isDigit).take most = cs := by
    rw [List.takeWhile_append_of_pos all]
    rcases ends with full | ends
    · exact List.take_left' full
    · rw [takeWhile_of_ends ends, List.append_nil, List.take_of_length_le atMost]
  rw [digits?, found, if_neg (by omega), List.drop_left]

/-- A number that fills its width is read by a reader of that width. -/
theorem digits?_padZeros (least width : Nat) {n : Nat} (positive : 0 < width)
    (atLeast : least ≤ width) (fits : n < Nat.pow 10 width) (r : List Char) :
    digits? least width ((padZeros width n).toList ++ r) = some (n, r) := by
  have length := length_padZeros positive fits
  rw [digits?_append (fun _ => isDigit_of_mem_padZeros) (by omega) (by omega) (.inl length),
    ofDigits_padZeros]

/-- A number of two places is read back, whatever follows. -/
theorem number?_padZeros {n : Nat} (fits : n < 100) (r : List Char) :
    number? ((padZeros 2 n).toList ++ r) = some (n, r) := by
  have read := digits?_padZeros 1 2 (by decide) (by decide) fits r
  obtain ⟨c, cs, text, digit⟩ := exists_padZeros 2 n
  rw [text, List.cons_append] at read ⊢
  rw [number?, trimFront_cons (isVisible_of_isDigit digit), read]

theorem year?_minus (rest : List Char) :
    year? ('-' :: rest) =
      (digits? 1 rest.length rest).map fun (n, rest) => (-(n : Int), rest) := rfl

theorem year?_plus (rest : List Char) :
    year? ('+' :: rest) = (digits? 1 rest.length rest).map fun (n, rest) => ((n : Int), rest) := rfl

/-- A year without a sign has four digits at most. -/
theorem year?_of_isDigit {c : Char} (h : c.isDigit = true) (rest : List Char) :
    year? (c :: rest) = (digits? 1 4 (c :: rest)).map fun (n, rest) => ((n : Int), rest) := by
  rw [year?, trimFront_cons (isVisible_of_isDigit h)]
  split
  · next same =>
    rw [(List.cons.inj same).1] at h
    cases h
  · next same =>
    rw [(List.cons.inj same).1] at h
    cases h
  · rfl

/-- A year is read back: with a sign up to the last digit, without one by its four digits. -/
theorem year?_yearText (year : Int) {r : List Char} (ends : Ends Char.isDigit r) :
    year? ((Pattern.yearText year .zero).toList ++ r) = some (year, r) := by
  obtain ⟨c, cs, text, digit⟩ := exists_padZeros 4 year.natAbs
  -- Behind a sign all digits count, however many they are.
  have behindSign : digits? 1 ((padZeros 4 year.natAbs).toList ++ r).length
      ((padZeros 4 year.natAbs).toList ++ r) = some (year.natAbs, r) := by
    rw [digits?_append (fun _ => isDigit_of_mem_padZeros) (by simp [text]) (by simp) (.inr ends),
      ofDigits_padZeros]
  rw [toList_yearText]
  split_ifs with negative long
  · have value : -(year.natAbs : Int) = year := by omega
    rw [List.cons_append, List.nil_append, List.cons_append, year?_minus, behindSign]
    simp only [Option.map_some, value]
  · have value : (year.natAbs : Int) = year := by omega
    rw [List.cons_append, List.nil_append, List.cons_append, year?_plus, behindSign]
    simp only [Option.map_some, value]
  · have value : (year.natAbs : Int) = year := by omega
    have fits : year.natAbs < 10000 := by omega
    have read := digits?_padZeros 1 4 (by decide) (by decide) fits r
    rw [List.nil_append]
    rw [text, List.cons_append] at read ⊢
    rw [year?_of_isDigit digit, read]
    simp only [Option.map_some, value]

/-! ## Fractions -/

/-- A fraction of so many digits is the number of its nanoseconds. -/
theorem fraction?_padZeros (width : Nat) {n : Nat} (positive : 0 < width) (most : width ≤ 9)
    (fits : n < Nat.pow 10 width) {r : List Char} (ends : Ends Char.isDigit r) :
    fraction? ((padZeros width n).toList ++ r) = some (n * Nat.pow 10 (9 - width), r) := by
  have all : ∀ c ∈ (padZeros width n).toList, c.isDigit = true := fun _ => isDigit_of_mem_padZeros
  have length := length_padZeros positive fits
  have nonempty : (padZeros width n).toList ≠ [] := List.ne_nil_of_length_pos (by omega)
  have found : ((padZeros width n).toList ++ r).takeWhile Char.isDigit =
      (padZeros width n).toList := by
    rw [List.takeWhile_append_of_pos all, takeWhile_of_ends ends, List.append_nil]
  have behind : ((padZeros width n).toList ++ r).dropWhile Char.isDigit = r := by
    rw [List.dropWhile_append_of_pos all, dropWhile_of_ends ends]
  simp only [fraction?, found, behind, if_neg nonempty]
  rw [List.take_of_length_le (by omega), ofDigits_padZeros, length]

/-- The characters that go on with a fraction. -/
def marksFraction (c : Char) : Bool := c.isDigit || c == '.'

/-- A fraction of three, six or nine digits is read back, and no fraction at all as zero. -/
theorem optionalFraction?_fractionText {nano : Nat} (fits : nano < 1000000000) {r : List Char}
    (ends : Ends marksFraction r) :
    optionalFraction? ((Pattern.fractionText "." nano).toList ++ r) = some (nano, r) := by
  have digitEnds : Ends Char.isDigit r := by
    intro c more same
    exact (Bool.or_eq_false_iff.1 (ends c more same)).1
  -- In each case the fraction is cut to a number of digits that holds it.
  have read : ∀ width n, 0 < width → width ≤ 9 → n < Nat.pow 10 width →
      n * Nat.pow 10 (9 - width) = nano →
      optionalFraction? (("." ++ padZeros width n).toList ++ r) = some (nano, r) := by
    intro width n positive most fits whole
    have point : ("." : String).toList = ['.'] := rfl
    rw [String.toList_append, point, List.append_assoc, List.singleton_append, optionalFraction?,
      fraction?_padZeros width positive most fits digitEnds, whole]
  unfold Pattern.fractionText
  split
  · next zero =>
    rw [zero, String.toList_empty, List.nil_append, optionalFraction?.eq_def]
    split
    · next rest => exact absurd (ends '.' rest rfl) (by decide)
    · rfl
  · split
    · have whole : nano / 1000000 * 1000000 = nano := by omega
      have fits : nano / 1000000 < 1000 := by omega
      exact read 3 _ (by decide) (by decide) fits whole
    · split
      · have whole : nano / 1000 * 1000 = nano := by omega
        have fits : nano / 1000 < 1000000 := by omega
        exact read 6 _ (by decide) (by decide) fits whole
      · exact read 9 _ (by decide) (by decide) fits (Nat.mul_one nano)

end DateReader

end TextTemplate
