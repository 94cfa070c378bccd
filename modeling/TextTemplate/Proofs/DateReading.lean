import Mathlib
import TextTemplate.Calendar.CommonLocales
import TextTemplate.Helper.Date
import TextTemplate.Proofs.DayNumbers
import TextTemplate.Proofs.NumberReading
import TextTemplate.Value.Datum

/-!
# Dates are read back

The displayed text of a day, of an instant and of an instant in UTC is read as what it shows
(`DateTime.ofText?_dayText`, `DateTime.ofText?_instantText`, `DateTime.ofText?_utcText`). A text is
tried in several forms, so for each of them there are two parts: the form that fits reads it back,
and the forms before it refuse it. A timestamp holds years of four digits only, and so an instant in
UTC must have one.

What a time shows is the time itself if only the last second of a minute has a leap second behind it
(`TimeOfDay.asShown_eq_self_iff`). A leap second behind another one is shown like the second that
comes next, and is read as that. So the `date` helper makes the same of a date and of its displayed
text if its time is a usual one (`Helper.date_of_display`).
-/

namespace TextTemplate

/-! ## Times as they are shown -/

/-- The time that is shown for a time: a leap second behind a second that is not the last of its
minute counts as the second that comes next. -/
def TimeOfDay.asShown (t : TimeOfDay) : TimeOfDay :=
  if usual : t.IsUsual then t
  else
    { t with
      second := t.second + 1
      nano := t.nano - 1000000000
      valid := by
        have valid := t.valid
        unfold IsUsual at usual
        omega }

namespace TimeOfDay

variable {t : TimeOfDay}

theorem asShown_of_isUsual (usual : t.IsUsual) : t.asShown = t := dif_pos usual

/-- Of a leap second in the middle of a minute another time is shown. -/
theorem asShown_eq_self_iff : t.asShown = t ↔ t.IsUsual := by
  refine ⟨?_, asShown_of_isUsual⟩
  intro same
  by_contra unusual
  have second : t.asShown.second = t.second + 1 := by rw [asShown, dif_neg unusual]
  rw [same] at second
  omega

/-- A usual time is found by its own numbers. -/
theorem of?_self (usual : t.IsUsual) : of? t.hour t.minute t.second t.nano = some t :=
  (dif_pos t.valid).trans (if_pos usual)

end TimeOfDay

/-- The instant that is shown for an instant. -/
def DateTime.asShown (t : DateTime) : DateTime := ⟨t.date, t.time.asShown⟩

/-- Of an instant the day is always shown as it is. -/
theorem DateTime.asShown_eq_self_iff {t : DateTime} : t.asShown = t ↔ t.time.IsUsual := by
  rw [← TimeOfDay.asShown_eq_self_iff]
  constructor
  · exact congrArg DateTime.time
  · intro same
    rw [asShown, same]

namespace DateReader

/-! ## Days and times -/

@[simp] theorem char?_cons_self (c : Char) (rest : List Char) : char? c (c :: rest) = some rest :=
  if_pos rfl

/-- The text of a day, with its dashes as single characters that a reader meets one by one. -/
theorem toList_dayText_append (d : Date) (r : List Char) :
    (Pattern.dayText d).toList ++ r =
      (Pattern.yearText d.year .zero).toList ++ '-' ::
        ((padZeros 2 d.month).toList ++ '-' :: ((padZeros 2 d.day).toList ++ r)) := by
  have dash : ("-" : String).toList = ['-'] := rfl
  simp only [Pattern.dayText, String.toList_append, dash, List.append_assoc, List.cons_append,
    List.nil_append]

theorem toList_clockText_append (t : TimeOfDay) (r : List Char) :
    (Pattern.clockText t).toList ++ r =
      (padZeros 2 t.hour).toList ++ ':' ::
        ((padZeros 2 t.minute).toList ++ ':' :: ((padZeros 2 t.shownSecond).toList ++ r)) := by
  have colon : (":" : String).toList = [':'] := rfl
  simp only [Pattern.clockText, String.toList_append, colon, List.append_assoc, List.cons_append,
    List.nil_append]

/-- The text of an instant: the day, a mark, the clock, and the fraction if there is one. -/
theorem toList_instantText_append (t : DateTime) (r : List Char) :
    (Pattern.instantText t).toList ++ r =
      (Pattern.dayText t.date).toList ++ 'T' ::
        ((Pattern.clockText t.time).toList ++
          ((Pattern.fractionText "." t.time.fraction).toList ++ r)) := by
  have mark : ("T" : String).toList = ['T'] := rfl
  simp only [Pattern.instantText, String.toList_append, mark, List.append_assoc, List.cons_append,
    List.nil_append]

/-- The numbers of a day have two places. -/
theorem day_places (d : Date) : d.month < 100 ∧ d.day < 100 := by
  have month := d.month_le
  have day := d.day_le
  omega

/-- The numbers of a time that are shown have two places, and nine the fraction. -/
theorem time_places (t : TimeOfDay) :
    t.hour < 100 ∧ t.minute < 100 ∧ t.shownSecond < 100 ∧ t.fraction < 1000000000 := by
  have valid := t.valid
  unfold TimeOfDay.shownSecond TimeOfDay.fraction
  omega

/-- A time of seconds below sixty is found by them. -/
theorem timeOf?_of_second_lt {hour minute second nano : Nat} (below : second < 60) :
    timeOf? hour minute second nano = TimeOfDay.of? hour minute second nano :=
  if_neg (Nat.ne_of_lt below)

/-- What is shown of a time is read as the time that is shown for it. -/
theorem timeOf?_shown (t : TimeOfDay) :
    timeOf? t.hour t.minute t.shownSecond t.fraction = some t.asShown := by
  obtain ⟨-, -, below, nano⟩ := t.valid
  by_cases within : t.nano < 1000000000
  · have second : t.shownSecond = t.second := by
      unfold TimeOfDay.shownSecond
      omega
    have fraction : t.fraction = t.nano := Nat.mod_eq_of_lt within
    have usual : t.IsUsual := fun leap => absurd within (Nat.not_lt.2 leap)
    rw [second, fraction, timeOf?_of_second_lt below, TimeOfDay.asShown_of_isUsual usual,
      TimeOfDay.of?_self usual]
  · have second : t.shownSecond = t.second + 1 := by
      unfold TimeOfDay.shownSecond
      omega
    have fraction : t.fraction = t.nano - 1000000000 := by
      unfold TimeOfDay.fraction
      omega
    by_cases last : t.second = 59
    · -- The leap second of the minute is shown as its sixtieth, and read as that.
      have usual : t.IsUsual := fun _ => last
      have sixty : t.second + 1 = 60 := by omega
      have whole : 1000000000 + (t.nano - 1000000000) = t.nano := by omega
      rw [second, fraction, timeOf?, sixty, if_pos rfl, whole, ← last,
        TimeOfDay.asShown_of_isUsual usual, TimeOfDay.of?_self usual]
    · -- Any other leap second cannot be told from the second that comes next.
      have unusual : ¬t.IsUsual := fun usual => last (usual (Nat.not_lt.1 within))
      have shown : t.asShown.IsUsual := by
        unfold TimeOfDay.IsUsual
        rw [TimeOfDay.asShown, dif_neg unusual]
        dsimp only
        omega
      have read := TimeOfDay.of?_self shown
      rw [second, fraction, timeOf?_of_second_lt (by omega), ← read, TimeOfDay.asShown,
        dif_neg unusual]

/-- A day of any year is read back, whatever stands behind it. -/
theorem date?_dayText (d : Date) (r : List Char) :
    date? ((Pattern.dayText d).toList ++ r) = some (d, r) := by
  obtain ⟨month, day⟩ := day_places d
  rw [toList_dayText_append, date?, year?_yearText d.year (ends_cons rfl _)]
  simp only [Option.bind_eq_bind, Option.bind_some, char?_cons_self, number?_padZeros month,
    number?_padZeros day, d.of?_self, Option.pure_def]

/-- A time is read as it is shown, if what stands behind it does not go on with the fraction. -/
theorem time?_clockText (t : TimeOfDay) {r : List Char} (ends : Ends marksFraction r) :
    time? ((Pattern.clockText t).toList ++ ((Pattern.fractionText "." t.fraction).toList ++ r)) =
      some (t.asShown, r) := by
  obtain ⟨hour, minute, second, fraction⟩ := time_places t
  rw [toList_clockText_append, time?]
  simp only [Option.bind_eq_bind, Option.bind_some, char?_cons_self, number?_padZeros hour,
    number?_padZeros minute, number?_padZeros second, optionalFraction?_fractionText fraction ends,
    timeOf?_shown, Option.pure_def]

theorem dateOnly?_dayText (d : Date) :
    dateOnly? (Pattern.dayText d).toList = some (.ofDate d) := by
  rw [← List.append_nil (Pattern.dayText d).toList, dateOnly?, date?_dayText]
  rfl

/-- An instant without a zone is read by the form with a `T`. -/
theorem dateTime?_instantText (t : DateTime) :
    dateTime? (char? 'T') (Pattern.instantText t).toList = some t.asShown := by
  rw [← List.append_nil (Pattern.instantText t).toList, toList_instantText_append, dateTime?,
    date?_dayText]
  simp only [Option.bind_eq_bind, Option.bind_some, char?_cons_self,
    time?_clockText t.time ends_nil, if_true, DateTime.asShown]

/-- Nothing behind a day is no time. -/
theorem dateTime?_dayText {between : List Char → Option (List Char)} (d : Date)
    (nothing : ∀ rest, between [] = some rest → rest = []) :
    dateTime? between (Pattern.dayText d).toList = none := by
  rw [← List.append_nil (Pattern.dayText d).toList, dateTime?, date?_dayText]
  simp only [Option.bind_eq_bind, Option.bind_some]
  cases found : between [] with
  | none => rfl
  | some rest =>
    rw [nothing rest found]
    rfl

/-! ## Timestamps -/

/-- Four digits hold the year. -/
def HasShortYear (d : Date) : Prop := 0 ≤ d.year ∧ d.year ≤ 9999

instance : DecidablePred HasShortYear := fun d =>
  inferInstanceAs (Decidable (0 ≤ d.year ∧ d.year ≤ 9999))

/-- A timestamp does not begin with a sign. -/
theorem timestamp?_of_long {d : Date} (h : ¬ HasShortYear d) (r : List Char) :
    timestamp? ((Pattern.dayText d).toList ++ r) = none := by
  rw [toList_dayText_append, toList_yearText]
  unfold HasShortYear at h
  split_ifs with negative long
  · rfl
  · rfl
  · omega

/-- A timestamp takes the year as four digits without a sign. -/
theorem digits?_year {d : Date} (h : HasShortYear d) (r : List Char) :
    digits? 4 4 ((Pattern.yearText d.year .zero).toList ++ r) = some (d.year.natAbs, r) := by
  unfold HasShortYear at h
  have fits : d.year.natAbs < 10000 := by omega
  rw [toList_yearText, if_neg (by omega), if_neg (by omega), List.nil_append]
  exact digits?_padZeros 4 4 (by decide) (by decide) fits r

theorem digits?_two {n : Nat} (fits : n < 100) (r : List Char) :
    digits? 2 2 ((padZeros 2 n).toList ++ r) = some (n, r) :=
  digits?_padZeros 2 2 (by decide) (by decide) fits r

/-- A reader goes on with what its first part has read. -/
theorem bind_of_eq_some {α β : Type} {read : Option α} {a : α} (h : read = some a)
    (next : α → Option β) : (read >>= next) = next a := by
  rw [h]
  rfl

/-- A day alone is no timestamp: there is no time behind it, or its year has a sign. -/
theorem timestamp?_dayText (d : Date) : timestamp? (Pattern.dayText d).toList = none := by
  rw [← List.append_nil (Pattern.dayText d).toList]
  by_cases h : HasShortYear d
  · obtain ⟨month, day⟩ := day_places d
    rw [toList_dayText_append]
    refine (bind_of_eq_some (digits?_year h _) _).trans ?_
    refine (bind_of_eq_some (char?_cons_self ..) _).trans ?_
    refine (bind_of_eq_some (digits?_two month _) _).trans ?_
    refine (bind_of_eq_some (char?_cons_self ..) _).trans ?_
    exact bind_of_eq_some (digits?_two day _) _
  · exact timestamp?_of_long h []

/-- Behind an instant a timestamp has its offset, and nothing more. -/
theorem timestamp?_instantText_append {t : DateTime} (h : HasShortYear t.date) {r : List Char}
    (ends : Ends marksFraction r) :
    timestamp? ((Pattern.instantText t).toList ++ r) =
      (offset? r).bind fun (minutes, rest) =>
        if rest = [] then t.asShown.minusMinutes? minutes else none := by
  obtain ⟨month, day⟩ := day_places t.date
  obtain ⟨hour, minute, second, fraction⟩ := time_places t.time
  have year : (t.date.year.natAbs : Int) = t.date.year := Int.natAbs_of_nonneg h.1
  -- Field by field, each reader takes the digits of its own field and leaves the mark behind them.
  rw [toList_instantText_append, toList_dayText_append, toList_clockText_append]
  refine (bind_of_eq_some (digits?_year h _) _).trans ?_
  refine (bind_of_eq_some (char?_cons_self ..) _).trans ?_
  refine (bind_of_eq_some (digits?_two month _) _).trans ?_
  refine (bind_of_eq_some (char?_cons_self ..) _).trans ?_
  refine (bind_of_eq_some (digits?_two day _) _).trans ?_
  refine (if_pos (.inl rfl)).trans ?_
  refine (Option.bind_some ..).trans ?_
  refine (bind_of_eq_some (digits?_two hour _) _).trans ?_
  refine (bind_of_eq_some (char?_cons_self ..) _).trans ?_
  refine (bind_of_eq_some (digits?_two minute _) _).trans ?_
  refine (bind_of_eq_some (char?_cons_self ..) _).trans ?_
  refine (bind_of_eq_some (digits?_two second _) _).trans ?_
  refine (bind_of_eq_some (optionalFraction?_fractionText fraction ends) _).trans ?_
  -- What follows the seconds is read as the offset, which is applied to the time that is shown.
  dsimp only
  cases offset? r with
  | none => rfl
  | some read =>
    obtain ⟨minutes, rest⟩ := read
    by_cases last : rest = []
    · refine (if_neg (not_not.2 last)).trans ?_
      refine (bind_of_eq_some (year ▸ t.date.of?_self) _).trans ?_
      refine (bind_of_eq_some (timeOf?_shown t.time) _).trans ?_
      exact (if_pos last).symm
    · exact (if_pos last).trans (if_neg last).symm

/-- An instant in UTC is itself. -/
theorem minusMinutes?_zero (t : DateTime) : t.minusMinutes? 0 = some t := by
  have valid := t.time.valid
  have days : ((t.time.hour * 60 + t.time.minute : Int) - 0) / 1440 = 0 := by omega
  have inDay : (((t.time.hour * 60 + t.time.minute : Int) - 0) % 1440).toNat =
      t.time.hour * 60 + t.time.minute := by omega
  have hour : (t.time.hour * 60 + t.time.minute) / 60 = t.time.hour := by omega
  have minute : (t.time.hour * 60 + t.time.minute) % 60 = t.time.minute := by omega
  simp only [DateTime.minusMinutes?, days, inDay, TimeOfDay.atMinute, hour, minute, Int.add_zero,
    Date.ofDayNumber?_dayNumber, Option.bind_eq_bind, Option.bind_some, Option.pure_def]

/-- A timestamp does not end without an offset. -/
theorem timestamp?_instantText (t : DateTime) :
    timestamp? (Pattern.instantText t).toList = none := by
  rw [← List.append_nil (Pattern.instantText t).toList]
  by_cases h : HasShortYear t.date
  · exact timestamp?_instantText_append h ends_nil
  · rw [toList_instantText_append]
    exact timestamp?_of_long h _

/-- An instant in UTC is read by the form of a timestamp, and its offset is zero. -/
theorem timestamp?_utcText {t : DateTime} (h : HasShortYear t.date) :
    timestamp? t.utcText.toList = some t.asShown := by
  have zone : offset? "+00:00".toList = some (0, []) := rfl
  have ends : Ends marksFraction "+00:00".toList := ends_cons rfl _
  rw [DateTime.utcText, String.toList_append, timestamp?_instantText_append h ends, zone]
  exact minusMinutes?_zero t.asShown

end DateReader

/-! ## Texts -/

namespace DateTime

open DateReader

/-- The displayed text of a day is read as its beginning. -/
theorem ofText?_dayText (d : Date) : ofText? (Pattern.dayText d) = some (.ofDate d) := by
  have behindMark : dateTime? (char? 'T') (Pattern.dayText d).toList = none := by
    refine dateTime?_dayText d ?_
    rintro rest ⟨⟩
  have behindBlanks : dateTime? (fun rest => some (Unicode.trimFront rest))
      (Pattern.dayText d).toList = none := by
    refine dateTime?_dayText d ?_
    rintro rest ⟨⟩
    rfl
  simp only [ofText?, timestamp?_dayText, behindMark, behindBlanks, dateOnly?_dayText]
  rfl

/-- The displayed text of an instant is read as what it shows. -/
theorem ofText?_instantText (t : DateTime) :
    ofText? (Pattern.instantText t) = some t.asShown := by
  simp only [ofText?, timestamp?_instantText, dateTime?_instantText]
  rfl

/-- The displayed text of an instant in UTC is read as what it shows, if its year has four digits.
-/
theorem ofText?_utcText {t : DateTime} (h : HasShortYear t.date) :
    ofText? t.utcText = some t.asShown := by
  simp only [ofText?, timestamp?_utcText h]
  rfl

end DateTime

/-! ## Blanks -/

/-- All characters are visible. -/
def Visible (cs : List Char) : Prop := ∀ c ∈ cs, IsVisible c

@[simp] theorem visible_nil : Visible [] := fun _ held => absurd held List.not_mem_nil

@[simp] theorem visible_cons {c : Char} {cs : List Char} :
    Visible (c :: cs) ↔ IsVisible c ∧ Visible cs := List.forall_mem_cons

@[simp] theorem visible_append {cs ds : List Char} :
    Visible (cs ++ ds) ↔ Visible cs ∧ Visible ds := List.forall_mem_append

@[simp] theorem visible_padZeros (width n : Nat) : Visible (padZeros width n).toList :=
  fun _ held => isVisible_of_isDigit (isDigit_of_mem_padZeros held)

/-- The marks between the numbers of a date are no blanks. -/
theorem isVisible_marks :
    IsVisible '-' ∧ IsVisible '+' ∧ IsVisible ':' ∧ IsVisible '.' ∧ IsVisible 'T' := by decide

theorem visible_zone : Visible "+00:00".toList := by
  have chars : "+00:00".toList = ['+', '0', '0', ':', '0', '0'] := rfl
  simp only [chars, visible_cons, visible_nil, and_true]
  decide

theorem visible_dayText (d : Date) : Visible (Pattern.dayText d).toList := by
  rw [← List.append_nil (Pattern.dayText d).toList, DateReader.toList_dayText_append,
    toList_yearText]
  split_ifs <;> simp [isVisible_marks]

theorem visible_instantText (t : DateTime) : Visible (Pattern.instantText t).toList := by
  have fraction : Visible (Pattern.fractionText "." t.time.fraction).toList := by
    unfold Pattern.fractionText
    split_ifs <;> simp [isVisible_marks]
  rw [← List.append_nil (Pattern.instantText t).toList, DateReader.toList_instantText_append,
    DateReader.toList_clockText_append]
  simp [isVisible_marks, visible_dayText, fraction]

/-- Nothing is cut from a text of visible characters. -/
theorem trim_of_visible {s : String} (h : Visible s.toList) : Unicode.trim s = s := by
  have front : ∀ cs, Visible cs → Unicode.trimFront cs = cs := by
    intro cs visible
    cases cs with
    | nil => rfl
    | cons c cs => exact trimFront_cons (visible_cons.1 visible).1 cs
  have back : Visible s.toList.reverse := fun c held => h c (List.mem_reverse.1 held)
  rw [Unicode.trim, front _ h, front _ back, List.reverse_reverse, String.ofList_toList]

/-! ## The date helper -/

namespace Value

/-- A date, and if it is an instant in UTC one whose year a timestamp holds. -/
def IsReadableDate : Value → Prop
  | .date _ | .dateTime _ => True
  | .dateTimeUtc t => DateReader.HasShortYear t.date
  | _ => False

/-- If there is a time of day in it, only the last second of a minute has a leap second behind it.
-/
def HasUsualTime : Value → Prop
  | .dateTime t | .dateTimeUtc t => t.time.IsUsual
  | _ => True

end Value

namespace Helper

/-- The displayed text of a date stands for the instant that is shown for the date. -/
theorem exists_instantOf {v : Value} (h : v.IsReadableDate) :
    ∃ t, instantOf v = .ok t ∧ instantOf (.text v.display) = .ok t.asShown ∧
      (t.asShown = t ↔ v.HasUsualTime) := by
  have text : ∀ {s t}, Visible s.toList → DateTime.ofText? s = some t →
      instantOf (.text s) = .ok t := by
    intro s t visible read
    simp only [instantOf, instantOf?, trim_of_visible visible, read]
  -- A date stands for its midnight; the two kinds of instants differ only in the zone they show.
  cases v with
  | date d =>
    have midnight : (DateTime.ofDate d).asShown = .ofDate d :=
      DateTime.asShown_eq_self_iff.2 fun (leap : 1000000000 ≤ 0) => absurd leap (by decide)
    refine ⟨_, rfl, ?_, iff_of_true midnight trivial⟩
    rw [midnight]
    exact text (visible_dayText d) (DateTime.ofText?_dayText d)
  | dateTime t =>
    exact ⟨_, rfl, text (visible_instantText t) (DateTime.ofText?_instantText t),
      DateTime.asShown_eq_self_iff⟩
  | dateTimeUtc t =>
    have visible : Visible t.utcText.toList := by
      rw [DateTime.utcText, String.toList_append, visible_append]
      exact ⟨visible_instantText t, visible_zone⟩
    exact ⟨_, rfl, text visible (DateTime.ofText?_utcText h), DateTime.asShown_eq_self_iff⟩
  | _ => exact h.elim

/-- Values that stand for one instant are set out alike. -/
theorem date_congr {v w : Value} {t : DateTime} (hv : instantOf v = .ok t)
    (hw : instantOf w = .ok t) (locales : LocaleTable) (more : List Value) :
    date locales (v :: more) = date locales (w :: more) := by
  simp only [date, firstArgument, bind, Except.bind, hv, hw, List.getElem?_cons_succ]

/-- **The `date` helper reads back what dates print.** The displayed text of a date always stands
for the instant that it shows: of a day or an instant of any year, and of an instant in UTC whose
year has four digits, with any fraction of a second. That is the instant of the date exactly if a
leap second is one behind the last second of a minute. Then the helper makes the same of the date
and of its text, which is also what the date becomes when it is handed over as data, whatever
locales there are and whatever locale and pattern follow. -/
theorem date_of_display {v : Value} (h : v.IsReadableDate) :
    (∃ t, instantOf v = .ok t ∧ instantOf (.text v.display) = .ok t.asShown ∧
      (t.asShown = t ↔ v.HasUsualTime)) ∧
    v.toDatum.toValue? = .ok (.text v.display) ∧
    (v.HasUsualTime → ∀ locales more,
      date locales (v :: more) = date locales (.text v.display :: more)) := by
  obtain ⟨t, instant, read, same⟩ := exists_instantOf h
  refine ⟨⟨t, instant, read, same⟩, ?_, ?_⟩
  · cases v with
    | date _ | dateTime _ | dateTimeUtc _ => rfl
    | _ => exact h.elim
  · intro usual locales more
    rw [same.2 usual] at read
    exact date_congr instant read locales more

/-- The last instant of the year 9999, in a leap second. -/
theorem date_of_display_leap_second :
    let v := Value.dateTimeUtc ⟨⟨9999, 12, 31, by decide⟩, ⟨23, 59, 59, 1999999999, by decide⟩⟩
    let more := [Value.text "de-DE", .text "%H.%M.%S%.f"]
    v.IsReadableDate ∧ v.HasUsualTime ∧ v.display = "9999-12-31T23:59:60.999999999+00:00" ∧
      date .common (v :: more) =
        date .common (.text "9999-12-31T23:59:60.999999999+00:00" :: more) := by
  intro v more
  have readable : v.IsReadableDate := by
    unfold v Value.IsReadableDate
    decide
  have usual : v.HasUsualTime := fun _ => rfl
  have shown : v.display = "9999-12-31T23:59:60.999999999+00:00" := by cbv
  obtain ⟨-, -, same⟩ := date_of_display readable
  exact ⟨readable, usual, shown, shown ▸ same usual .common more⟩

/-- In a leap second behind the fourth second of a minute the displayed text is that of an instant
in the fifth, and the seconds since 1970 that the helper counts for the text are one more. -/
theorem date_of_display_leap_elsewhere :
    let v := Value.dateTime ⟨⟨2015, 6, 30, by decide⟩, ⟨23, 56, 4, 1333333333, by decide⟩⟩
    v.IsReadableDate ∧ v.display = "2015-06-30T23:56:05.333333333" ∧
      instantOf (.text v.display) ≠ instantOf v ∧
      date .common [v, .null, .text "%s"] = .ok (.text "1435708564") ∧
      date .common [.text v.display, .null, .text "%s"] = .ok (.text "1435708565") := by
  intro v
  have shown : v.display = "2015-06-30T23:56:05.333333333" := by cbv
  have counted : date .common [v, .null, .text "%s"] = .ok (.text "1435708564") := by
    dsimp only [v]
    cbv
  have read : date .common [.text v.display, .null, .text "%s"] = .ok (.text "1435708565") := by
    rw [shown]
    cbv
  refine ⟨trivial, shown, ?_, counted, read⟩
  -- From one instant the helper would count the same seconds.
  intro same
  obtain ⟨t, instant, -⟩ := exists_instantOf (show v.IsReadableDate from trivial)
  have alike := date_congr instant (same.trans instant) .common [.null, .text "%s"]
  rw [counted, read] at alike
  exact absurd (Value.text.inj (Except.ok.inj alike)) (by decide)

end Helper

end TextTemplate
