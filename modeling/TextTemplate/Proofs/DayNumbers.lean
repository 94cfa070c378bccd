import TextTemplate.Calendar.Date

/-!
# The day of a number

A day is found again by its number (`Date.ofDayNumber?_dayNumber`). The years before it are cycles
of four hundred, then centuries, groups of four and single years (`exists_yearParts`); its number is
made of as many days of each, and of those before it in its own year, of which it is the
`ordinal`-th.
-/

namespace TextTemplate

namespace Calendar

/-- A year is leap if it is the last of a group of four, and if that group is not the last of its
century or the century is the last of its cycle. -/
theorem isLeap_iff_parts {year a : Int} {b c e : Nat}
    (parts : year = 400 * a + 100 * b + 4 * c + e + 1) (hb : b < 4) (hc : c < 25) (he : e < 4) :
    isLeap year = true ↔ e = 3 ∧ (c ≠ 24 ∨ b = 3) := by
  simp only [isLeap, Bool.and_eq_true, Bool.or_eq_true, beq_iff_eq, bne_iff_ne, ne_eq]
  omega

/-- The years before a year, as cycles, centuries, groups of four and single years. -/
theorem exists_yearParts (year : Int) :
    ∃ (a : Int) (b c e : Nat), year = 400 * a + 100 * b + 4 * c + e + 1 ∧ b < 4 ∧ c < 25 ∧ e < 4 :=
  ⟨(year - 1) / 400, ((year - 1) % 400 / 100).toNat, ((year - 1) % 100 / 4).toNat,
    ((year - 1) % 4).toNat, by omega, by omega, by omega, by omega⟩

/-- The days before a year, counted by cycles of four hundred years, centuries, groups of four years
and single years. -/
theorem daysBeforeYear_of_parts {year a : Int} {b c e : Nat}
    (parts : year = 400 * a + 100 * b + 4 * c + e + 1) (hb : b < 4) (hc : c < 25) (he : e < 4) :
    daysBeforeYear year = 146097 * a + 36524 * b + 1461 * c + 365 * e := by
  unfold daysBeforeYear
  omega

end Calendar

namespace Date

open Calendar

/-! ## Months -/

/-- The day after the first `n` of a month has been reached when the months before are over. -/
theorem inMonth_take {lengths : List Nat} {k n : Nat} (inside : n < lengths.getD k 0)
    (month : Nat) :
    inMonth month ((lengths.take k).foldl (· + ·) 0 + n) lengths = (month + k, n + 1) := by
  -- By induction on the months, where each step takes one month off the count in front.
  induction lengths generalizing k month with
  | nil => simp at inside
  | cons length rest ih =>
    cases k with
    | zero =>
      rw [List.getD_cons_zero] at inside
      rw [List.take_zero, List.foldl_nil, Nat.zero_add, inMonth, if_pos inside]
      rfl
    | succ k =>
      rw [List.getD_cons_succ] at inside
      have total : ((length :: rest).take (k + 1)).foldl (· + ·) 0 + n =
          length + ((rest.take k).foldl (· + ·) 0 + n) := by
        rw [List.take_succ_cons, List.foldl_cons, Nat.add_comm 0 length, List.foldl_assoc,
          Nat.add_assoc]
      rw [total, inMonth, if_neg (by omega), Nat.add_sub_cancel_left, ih inside]
      simp only [Nat.add_assoc, Nat.add_comm 1]

/-- A month and those before it are no longer than all months. -/
theorem foldl_take_add_le (lengths : List Nat) (k : Nat) :
    (lengths.take k).foldl (· + ·) 0 + lengths.getD k 0 ≤ lengths.foldl (· + ·) 0 := by
  induction lengths generalizing k with
  | nil => simp
  | cons length rest ih =>
    rw [List.foldl_cons, Nat.add_comm 0 length, List.foldl_assoc]
    cases k with
    | zero => simp
    | succ k =>
      rw [List.take_succ_cons, List.foldl_cons, Nat.add_comm 0 length, List.foldl_assoc,
        List.getD_cons_succ, Nat.add_assoc]
      exact Nat.add_le_add_left (ih k) length

theorem daysInMonth_eq {year : Int} {month : Nat} (h : 1 ≤ month) :
    daysInMonth year month = (monthLengths year).getD (month - 1) 0 := by
  rw [daysInMonth, if_neg (by omega)]

theorem month_le (d : Date) : d.month ≤ 12 := by
  obtain ⟨-, month, day, inside⟩ := d.valid
  rw [daysInMonth_eq month, List.getD_eq_getElem?_getD] at inside
  have months : (monthLengths d.year).length = 12 := rfl
  refine Nat.not_lt.1 fun after => ?_
  rw [List.getElem?_eq_none (by omega)] at inside
  exact absurd (Nat.le_trans day inside) (by decide)

theorem day_le (d : Date) : d.day ≤ 31 := by
  obtain ⟨-, month, -, inside⟩ := d.valid
  rw [daysInMonth_eq month, List.getD_eq_getElem?_getD] at inside
  have longest : ∀ length ∈ monthLengths d.year, length ≤ 31 := by
    unfold monthLengths
    split <;> decide
  cases found : (monthLengths d.year)[d.month - 1]? with
  | none =>
    rw [found] at inside
    exact Nat.le_trans inside (by decide)
  | some length =>
    rw [found] at inside
    exact Nat.le_trans inside (longest length (List.mem_of_getElem? found))

theorem one_le_ordinal (d : Date) : 1 ≤ d.ordinal := by
  have day := d.valid.2.2.1
  unfold ordinal
  omega

/-- No day comes after the last one of its year. -/
theorem ordinal_le (d : Date) : d.ordinal ≤ if isLeap d.year then 366 else 365 := by
  obtain ⟨-, month, -, day⟩ := d.valid
  rw [daysInMonth_eq month] at day
  have year := foldl_take_add_le (monthLengths d.year) (d.month - 1)
  have total : (monthLengths d.year).foldl (· + ·) 0 = if isLeap d.year then 366 else 365 := by
    unfold monthLengths
    split <;> rfl
  unfold ordinal
  omega

/-- The month and the day of the month are found again from the number of the day in its year. -/
theorem inMonth_ordinal (d : Date) :
    inMonth 1 (d.ordinal - 1) (monthLengths d.year) = (d.month, d.day) := by
  obtain ⟨-, month, day, inside⟩ := d.valid
  rw [daysInMonth_eq month] at inside
  have before : d.ordinal - 1 =
      ((monthLengths d.year).take (d.month - 1)).foldl (· + ·) 0 + (d.day - 1) := by
    unfold ordinal
    omega
  rw [before, inMonth_take (by omega)]
  congr 1 <;> omega

/-- A day is found by its own numbers. -/
theorem of?_self (d : Date) : of? d.year d.month d.day = some d := dif_pos d.valid

/-! ## Years -/

/-- A day is found again by its number. -/
theorem ofDayNumber?_dayNumber (d : Date) : ofDayNumber? d.dayNumber = some d := by
  obtain ⟨a, b, c, e, parts, hb, hc, he⟩ := exists_yearParts d.year
  have leap := isLeap_iff_parts parts hb hc he
  have first := d.one_le_ordinal
  have last : d.ordinal ≤ 365 ∨ (d.ordinal = 366 ∧ e = 3 ∧ (c ≠ 24 ∨ b = 3)) := by
    have bound := d.ordinal_le
    split at bound
    · next longer =>
      have lastOfGroup := leap.1 longer
      omega
    · exact .inl bound
  -- The parts are read off the number by division, from cycles down to years. The last century of a
  -- cycle and the last year of a group may be a day longer, which is why two of the quotients are
  -- cut.
  have number : d.dayNumber + daysBefore1970 =
      146097 * a + (36524 * b + 1461 * c + 365 * e + (d.ordinal - 1) : Nat) := by
    rw [dayNumber, daysBeforeYear_of_parts parts hb hc he]
    omega
  have cycle : (d.dayNumber + daysBefore1970) / 146097 = a := by omega
  have inCycle : ((d.dayNumber + daysBefore1970) % 146097).toNat =
      36524 * b + 1461 * c + 365 * e + (d.ordinal - 1) := by omega
  have century : min ((36524 * b + 1461 * c + 365 * e + (d.ordinal - 1)) / 36524) 3 = b := by omega
  have inCentury : 36524 * b + 1461 * c + 365 * e + (d.ordinal - 1) - b * 36524 =
      1461 * c + 365 * e + (d.ordinal - 1) := by omega
  have group : (1461 * c + 365 * e + (d.ordinal - 1)) / 1461 = c := by omega
  have inGroup : 1461 * c + 365 * e + (d.ordinal - 1) - c * 1461 = 365 * e + (d.ordinal - 1) := by
    omega
  have single : min ((365 * e + (d.ordinal - 1)) / 365) 3 = e := by omega
  have inYear : 365 * e + (d.ordinal - 1) - e * 365 = d.ordinal - 1 := by omega
  simp only [ofDayNumber?, cycle, inCycle, century, inCentury, group, inGroup, single, inYear,
    ← parts, inMonth_ordinal, of?_self]

end Date

end TextTemplate
