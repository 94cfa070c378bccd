import Mathlib.Data.List.TakeDrop
import TextTemplate.Helper.Truncate

/-!
# Repeated truncation

A truncated text is the text itself, if that fits, or the characters in front of the cut with three
points after them. In the second case it is longer than it was asked to be, so that a truncation to
the same length, or to a smaller one, cuts it again. That cut never is behind the first one, and the
three points are lost with what is behind it (`truncateText_truncateText`). So only the smallest of
several truncations counts (`truncate_absorbs`).
-/

namespace TextTemplate.Helper

variable {m n : Nat} {s : String}

/-! ## Texts -/

/-- A text of at most `n` characters is kept. -/
theorem truncateText_of_le (fits : s.length ≤ n) : truncateText n s = s := by
  rw [truncateText, String.length_toList, if_pos fits]

/-- A longer text is cut behind its first `n` characters, and three dots are put there. -/
theorem toList_truncateText_of_lt (long : n < s.length) :
    (truncateText n s).toList = s.toList.take n ++ "...".toList := by
  rw [truncateText, String.length_toList, if_neg (Nat.not_le.2 long), String.toList_ofList]
  rfl

theorem length_truncateText_of_lt (long : n < s.length) : (truncateText n s).length = n + 3 := by
  have front : (s.toList.take n).length = n := by
    rw [List.length_take, String.length_toList]
    omega
  rw [← String.length_toList, toList_truncateText_of_lt long, List.length_append, front]
  rfl

/-- The dots add three characters at most. -/
theorem length_truncateText_le (n : Nat) (s : String) : (truncateText n s).length ≤ n + 3 := by
  rcases Nat.lt_or_ge n s.length with long | fits
  · exact Nat.le_of_eq (length_truncateText_of_lt long)
  · rw [truncateText_of_le fits]
    omega

/-- Only a text that fits is shown in a length that fits. -/
theorem length_truncateText_le_iff : (truncateText n s).length ≤ n ↔ s.length ≤ n := by
  constructor
  · intro short
    by_contra long
    rw [length_truncateText_of_lt (Nat.not_le.1 long)] at short
    omega
  · intro fits
    rwa [truncateText_of_le fits]

/-- A text that does not fit comes back only if it already ends with three points at the cut. -/
theorem truncateText_eq_self_iff :
    truncateText n s = s ↔ s.length ≤ n ∨ s.toList = s.toList.take n ++ "...".toList := by
  rcases Nat.lt_or_ge n s.length with long | fits
  · rw [← String.toList_inj, toList_truncateText_of_lt long, eq_comm]
    exact (or_iff_right (Nat.not_le.2 long)).symm
  · exact iff_of_true (truncateText_of_le fits) (.inl fits)

/-- A truncation to a smaller length does not see that the text was cut behind it. -/
theorem truncateText_truncateText (le : m ≤ n) (s : String) :
    truncateText m (truncateText n s) = truncateText m s := by
  rcases Nat.lt_or_ge n s.length with long | fits
  · -- Both texts are too long, and they have the same characters in front of the cut.
    have longer : m < (truncateText n s).length := by
      rw [length_truncateText_of_lt long]
      omega
    have kept : m ≤ (s.toList.take n).length := by
      rw [List.length_take, String.length_toList]
      omega
    have front : (truncateText n s).toList.take m = s.toList.take m := by
      rw [toList_truncateText_of_lt long, List.take_append_of_le_length kept, List.take_take,
        Nat.min_eq_left le]
    apply String.toList_inj.1
    rw [toList_truncateText_of_lt longer, toList_truncateText_of_lt (Nat.lt_of_le_of_lt le long),
      front]
  · rw [truncateText_of_le fits]

/-! ## Values -/

/-- With a length that is accepted the displayed text is truncated. -/
theorem truncate_of_lengthOf {asked : Value} (accepted : lengthOf asked = .ok n) (v : Value) :
    truncate [v, asked] = .ok (.text (truncateText n v.display)) := by
  show (lengthOf asked >>= fun n => .ok (Value.text (truncateText n v.display))) = _
  rw [accepted]
  rfl

/-- An integer that is not negative is a length. -/
theorem lengthOf_integer {n : Int64} (nonneg : 0 ≤ n) :
    lengthOf (.integer n) = .ok n.toInt.toNat := by
  have toInt : 0 ≤ n.toInt := Int64.le_iff_toInt_le.1 nonneg
  simp only [lengthOf, if_pos toInt]

theorem truncate_integer {n : Int64} (nonneg : 0 ≤ n) (v : Value) :
    truncate [v, .integer n] = .ok (.text (truncateText n.toInt.toNat v.display)) :=
  truncate_of_lengthOf (lengthOf_integer nonneg) v

/-- **Truncations absorb each other.** What is truncated to `n` characters and then to at most as
many is as if it had been truncated once, to the smaller length; a second truncation to the same
length changes nothing. The displayed text is left as it is if it has at most `n` characters. Any
longer one is its first `n` characters with three points after them, so that it is never longer than
`n + 3`, and longer than `n` exactly if the displayed text is. So a longer text does not change only
if it is a text with three points behind its first `n` characters, as every truncated text is. -/
theorem truncate_absorbs (v : Value) {m n : Int64} (nonneg : 0 ≤ m) (le : m ≤ n) :
    let shown := v.display
    let most := n.toInt.toNat
    ∃ s, truncate [v, .integer n] = .ok (.text s) ∧
      truncate [.text s, .integer m] = truncate [v, .integer m] ∧
      truncate [.text s, .integer n] = .ok (.text s) ∧
      (shown.length ≤ most ∧ s = shown ∨
        most < shown.length ∧ s.toList = shown.toList.take most ++ "...".toList) ∧
      (s = shown ↔ shown.length ≤ most ∨ shown.toList = shown.toList.take most ++ "...".toList) ∧
      (s.length ≤ most ↔ shown.length ≤ most) ∧
      s.length ≤ most + 3 := by
  intro shown most
  have nonneg' : 0 ≤ n := Int64.le_trans nonneg le
  have fewer : m.toInt.toNat ≤ most := Int.toNat_le_toNat (Int64.le_iff_toInt_le.1 le)
  refine ⟨truncateText most shown, truncate_integer nonneg' v, ?_, ?_, ?_, truncateText_eq_self_iff,
    length_truncateText_le_iff, length_truncateText_le most shown⟩
  · rw [truncate_integer nonneg, truncate_integer nonneg]
    -- A text displays as itself, so cutting twice is cutting the text twice.
    show Except.ok (Value.text (truncateText m.toInt.toNat (truncateText most shown))) = _
    rw [truncateText_truncateText fewer]
  · rw [truncate_integer nonneg']
    show Except.ok (Value.text (truncateText most (truncateText most shown))) = _
    rw [truncateText_truncateText (Nat.le_refl most)]
  · rcases Nat.lt_or_ge most shown.length with long | fits
    · exact .inr ⟨long, toList_truncateText_of_lt long⟩
    · exact .inl ⟨fits, truncateText_of_le fits⟩

/-- A character counts as one, however many bytes it has. -/
theorem truncate_absorbs_accented :
    truncate [.text "héllo wörld", .integer 5] = .ok (.text "héllo...") ∧
      truncate [.text "héllo...", .integer 2] = truncate [.text "héllo wörld", .integer 2] ∧
      truncate [.text "héllo...", .integer 5] = .ok (.text "héllo...") := by
  obtain ⟨s, truncated, smaller, same, -⟩ :=
    truncate_absorbs (.text "héllo wörld") (show (0 : Int64) ≤ 2 by decide)
      (show (2 : Int64) ≤ 5 by decide)
  have cut : truncate [.text "héllo wörld", .integer 5] = .ok (.text "héllo...") := by rfl
  have result : s = "héllo..." := Value.text.inj (Except.ok.inj (truncated.symm.trans cut))
  rw [result] at smaller same
  exact ⟨cut, smaller, same⟩

end TextTemplate.Helper
