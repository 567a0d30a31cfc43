import Mathlib.Algebra.Order.Ring.Nat
import Sift.Date

/-!
# Dates and day numbers

Valid dates and day numbers determine each other (`dayNumber_ofDayNumber`, `ofDayNumber_dayNumber`),
and a move by months keeps a date valid and moves its month by exactly so many (`addMonths`).
A day number counts the days from the start of 1970 (`IsValid.dayNumber_eq_sub`), so dates follow
one another as their day numbers do (`IsValid.dayNumber_lt_iff`).

Both rest on one view of the calendar: a year covers the days from `daysBeforeYear year` up to
`daysBeforeYear (year + 1)`, and within a year the months cover stretches of the lengths that
`monthLengths` lists.
-/

namespace Sift.Date

/-! ## Stretches of days -/

/-- A day below the sum of some lengths lies in one of the stretches of these lengths. -/
private theorem exists_stretch {lengths : List Nat} {days : Nat} (h : days < lengths.sum) :
    ∃ index rest, index < lengths.length ∧ rest < lengths.getD index 0 ∧
      days = (lengths.take index).sum + rest := by
  -- induction on the lengths: a day in the first stretch is found there, and any other lies in the
  -- rest, counted from the end of the first
  induction lengths generalizing days with
  | nil => simp at h
  | cons length lengths ih =>
    by_cases hday : days < length
    · exact ⟨0, days, by simp, by simpa using hday, by simp⟩
    · -- the day lies behind the first stretch
      have hrest : days - length < lengths.sum := by
        simp only [List.sum_cons] at h
        omega
      obtain ⟨index, rest, hindex, hlt, heq⟩ := ih hrest
      refine ⟨index + 1, rest, by simpa using hindex, by simpa using hlt, ?_⟩
      simp only [List.take_succ_cons, List.sum_cons]
      omega

/-- A day in a stretch is found there. -/
private theorem monthDay_stretch {lengths : List Nat} {index rest : Nat} (month : Nat)
    (hindex : index < lengths.length) (hrest : rest < lengths.getD index 0) :
    monthDay month lengths ((lengths.take index).sum + rest) = (month + index, rest + 1) := by
  induction lengths generalizing month index with
  | nil => simp at hindex
  | cons length lengths ih =>
    cases index with
    | zero =>
      have hfirst : rest < length := by simpa using hrest
      simp [monthDay, hfirst]
    | succ index =>
      -- the first stretch is passed
      have hbehind : ¬ length + ((lengths.take index).sum + rest) < length := by omega
      have htail := ih (month + 1) (by simpa using hindex) (by simpa using hrest)
      simp only [List.take_succ_cons, List.sum_cons, Nat.add_assoc, monthDay, if_neg hbehind,
        Nat.add_sub_cancel_left, htail]
      congr 1
      omega

/-- A day in a stretch lies before the end of all of them. -/
private theorem sum_take_add_lt {lengths : List Nat} {index rest : Nat}
    (hindex : index < lengths.length) (hrest : rest < lengths.getD index 0) :
    (lengths.take index).sum + rest < lengths.sum := by
  -- on the months before the one in question
  induction lengths generalizing index with
  | nil => simp at hindex
  | cons length lengths ih =>
    cases index with
    | zero =>
      have hfirst : rest < length := by simpa using hrest
      simp only [List.take_zero, List.sum_nil, List.sum_cons]
      omega
    | succ index =>
      have htail := ih (by simpa using hindex) (by simpa using hrest)
      simp only [List.take_succ_cons, List.sum_cons]
      omega

/-! ## Years -/

/-- The days of a year. -/
def yearLength (year : Int) : Nat := (monthLengths (isLeap year)).sum

/-- A year has twelve months. -/
private theorem monthLengths_length (leap : Bool) : (monthLengths leap).length = 12 := rfl

/-- A leap year is one day longer. -/
private theorem yearLength_eq (year : Int) :
    yearLength year = if isLeap year then 366 else 365 := by
  unfold yearLength
  cases isLeap year <;> rfl

/-- Every fourth year is a leap year, but of the full centuries only every fourth. -/
private theorem isLeap_iff (year : Int) :
    isLeap year = true ↔ year % 4 = 0 ∧ (year % 100 ≠ 0 ∨ year % 400 = 0) := by
  simp [isLeap]

/-- One year begins where the year before it ends. -/
theorem daysBeforeYear_succ (year : Int) :
    daysBeforeYear (year + 1) = daysBeforeYear year + yearLength year := by
  have hrule := isLeap_iff year
  rw [yearLength_eq]
  unfold daysBeforeYear
  -- each of the three quotients grows by one in the years that it counts
  split
  · rename_i hleap
    have hquotients := hrule.mp hleap
    omega
  · rename_i hleap
    have hcommon := mt hrule.mpr hleap
    omega

/-- Later years begin later. -/
theorem daysBeforeYear_mono {year later : Int} (h : year ≤ later) :
    daysBeforeYear year ≤ daysBeforeYear later := by
  unfold daysBeforeYear
  omega

/-- A day lies in the year that is computed for it. -/
private theorem yearOf_spec (n : Int) :
    daysBeforeYear (yearOf n) ≤ n ∧ n < daysBeforeYear (yearOf n + 1) := by
  -- the guess divides by the mean length of a year
  have hguess : 146097 * (400 * n / 146097) ≤ 400 * n ∧
      400 * n < 146097 * (400 * n / 146097) + 146097 := by omega
  unfold yearOf
  generalize 400 * n / 146097 = guess at hguess
  dsimp only
  split
  · -- the day lies in the year before the guess
    rename_i hbefore
    refine ⟨?_, by simpa using hbefore⟩
    unfold daysBeforeYear at *
    omega
  · split
    · -- the day lies in the year after the guess
      rename_i hafter
      refine ⟨hafter, ?_⟩
      unfold daysBeforeYear at *
      omega
    · omega

/-- A day lies in one year only. -/
private theorem eq_yearOf {year n : Int} (hle : daysBeforeYear year ≤ n)
    (hlt : n < daysBeforeYear (year + 1)) : yearOf n = year := by
  obtain ⟨hle', hlt'⟩ := yearOf_spec n
  -- two years that both contain the day cannot lie apart: the earlier one ends before the later one
  -- begins
  rcases Int.lt_trichotomy (yearOf n) year with h | h | h
  · have hends := daysBeforeYear_mono (show yearOf n + 1 ≤ year by omega)
    omega
  · exact h
  · have hbegins := daysBeforeYear_mono (show year + 1 ≤ yearOf n by omega)
    omega

/-! ## Valid dates -/

/-- The days of a year before a date, which is the place of the date in the stretches of the
    months. -/
def dayOfYear (date : Date) : Nat := daysBeforeMonth date.year date.month + (date.day - 1)

/-- The day of a valid date lies in the stretch of its month. -/
private theorem IsValid.stretch {date : Date} (h : date.IsValid) :
    date.month - 1 < (monthLengths (isLeap date.year)).length ∧
      date.day - 1 < (monthLengths (isLeap date.year)).getD (date.month - 1) 0 := by
  obtain ⟨hmonth, hmonth', hday, hday'⟩ := h
  unfold monthLength at hday'
  rw [monthLengths_length]
  omega

/-- A valid date lies in its year. -/
private theorem IsValid.dayOfYear_lt {date : Date} (h : date.IsValid) :
    date.dayOfYear < yearLength date.year :=
  sum_take_add_lt h.stretch.1 h.stretch.2

/-- A day number is the place of the date's year and the place of the date in it, counted from the
    start of 1970. -/
theorem IsValid.dayNumber_eq {date : Date} (h : date.IsValid) :
    date.dayNumber = daysBeforeYear date.year + date.dayOfYear - epochOffset := by
  have hday := h.2.2.1
  unfold dayNumber dayOfYear
  omega

/-- A valid date is found in its year by its place in the stretches of the months. -/
private theorem IsValid.monthDay_dayOfYear {date : Date} (h : date.IsValid) :
    monthDay 1 (monthLengths (isLeap date.year)) date.dayOfYear = (date.month, date.day) := by
  have hfound := monthDay_stretch 1 h.stretch.1 h.stretch.2
  obtain ⟨hmonth, -, hday, -⟩ := h
  -- months and days are counted from 1
  rw [show 1 + (date.month - 1) = date.month by omega,
    show date.day - 1 + 1 = date.day by omega] at hfound
  exact hfound

/-- The day number of a valid date leads back to the date. -/
theorem ofDayNumber_dayNumber {date : Date} (h : date.IsValid) :
    ofDayNumber date.dayNumber = date := by
  have hplace : date.dayNumber + epochOffset = daysBeforeYear date.year + date.dayOfYear := by
    rw [h.dayNumber_eq]
    omega
  have hlt := h.dayOfYear_lt
  -- the year is found since the date's place lies within it, and then the month and the day by the
  -- place in the year
  have hyear : yearOf (date.dayNumber + epochOffset) = date.year := by
    have hsucc := daysBeforeYear_succ date.year
    exact eq_yearOf (by omega) (by omega)
  have hrest : (date.dayNumber + epochOffset - daysBeforeYear date.year).toNat =
      date.dayOfYear := by omega
  simp only [ofDayNumber, hyear, hrest, h.monthDay_dayOfYear]

/-- Every day number is that of a valid date. -/
private theorem exists_valid_dayNumber (n : Int) :
    ∃ date : Date, date.IsValid ∧ date.dayNumber = n := by
  obtain ⟨hle, hlt⟩ := yearOf_spec (n + epochOffset)
  generalize yearOf (n + epochOffset) = year at hle hlt
  rw [daysBeforeYear_succ] at hlt
  -- the day lies in its year, and there in the stretch of a month
  have hplace : (n + epochOffset - daysBeforeYear year).toNat < yearLength year := by omega
  obtain ⟨index, rest, hindex, hrest, heq⟩ := exists_stretch hplace
  rw [monthLengths_length] at hindex
  have hvalid : IsValid ⟨year, index + 1, rest + 1⟩ :=
    ⟨by simp, Nat.succ_le_of_lt hindex, by simp, hrest⟩
  refine ⟨_, hvalid, ?_⟩
  rw [hvalid.dayNumber_eq]
  -- the place of the new date is the place that the stretches gave
  show daysBeforeYear year + ((((monthLengths (isLeap year)).take index).sum + rest : Nat) : Int) -
    epochOffset = n
  omega

/-- The date of a day number is valid. -/
theorem isValid_ofDayNumber (n : Int) : (ofDayNumber n).IsValid := by
  obtain ⟨date, hvalid, rfl⟩ := exists_valid_dayNumber n
  rwa [ofDayNumber_dayNumber hvalid]

/-- The date of a day number leads back to the number. -/
@[simp] theorem dayNumber_ofDayNumber (n : Int) : (ofDayNumber n).dayNumber = n := by
  obtain ⟨date, hvalid, rfl⟩ := exists_valid_dayNumber n
  rw [ofDayNumber_dayNumber hvalid]

/-- A valid date lies in a range of years exactly if its day number lies between the first day of
    the first and the first day after the last. -/
theorem IsValid.year_mem_iff {date : Date} (h : date.IsValid) (first last : Int) :
    (first ≤ date.year ∧ date.year ≤ last) ↔
      daysBeforeYear first - epochOffset ≤ date.dayNumber ∧
        date.dayNumber < daysBeforeYear (last + 1) - epochOffset := by
  have hlt := h.dayOfYear_lt
  have hsucc := daysBeforeYear_succ date.year
  have hnumber := h.dayNumber_eq
  constructor
  · rintro ⟨hfirst, hlast⟩
    have hlow := daysBeforeYear_mono hfirst
    have hhigh := daysBeforeYear_mono (show date.year + 1 ≤ last + 1 by omega)
    omega
  · rintro ⟨hfirst, hlast⟩
    -- a year outside the range begins too late or ends too early
    refine ⟨Int.not_lt.mp fun hyear => ?_, Int.not_lt.mp fun hyear => ?_⟩
    · have hends := daysBeforeYear_mono (show date.year + 1 ≤ first by omega)
      omega
    · have hbegins := daysBeforeYear_mono (show last + 1 ≤ date.year by omega)
      omega

/-! ## Counting days -/

/-- The days of the years from year 0 on, up to a year that is not counted. -/
def daysOfYears : Nat → Nat
  | 0 => 0
  | year + 1 => daysOfYears year + yearLength year

/-- The days from 1 January of year 0 to a date, counted year by year and month by month. -/
def daysFromYearZero (date : Date) : Nat := daysOfYears date.year.toNat + date.dayOfYear

/-- The days before a year are those of the years before it. -/
private theorem daysBeforeYear_eq (year : Nat) : daysBeforeYear year = daysOfYears year := by
  induction year with
  | zero => rfl
  | succ year ih =>
    have hsucc := daysBeforeYear_succ year
    rw [ih] at hsucc
    exact hsucc

/-- Counted year by year, the days before a date are those that the closed formula gives. -/
private theorem cast_daysFromYearZero {date : Date} (hyear : 0 ≤ date.year) :
    (daysFromYearZero date : Int) = daysBeforeYear date.year + date.dayOfYear := by
  have hdays := daysBeforeYear_eq date.year.toNat
  rw [Int.toNat_of_nonneg hyear] at hdays
  rw [daysFromYearZero, Int.natCast_add, hdays]

/-- The day number of a date counts the days from the start of 1970. -/
theorem IsValid.dayNumber_eq_sub {date : Date} (h : date.IsValid) (hyear : 0 ≤ date.year) :
    date.dayNumber = daysFromYearZero date - daysFromYearZero ⟨1970, 1, 1⟩ := by
  have hepoch : daysBeforeYear 1970 + dayOfYear ⟨1970, 1, 1⟩ = epochOffset := by decide
  rw [h.dayNumber_eq, cast_daysFromYearZero hyear, cast_daysFromYearZero (by decide), hepoch]

/-! ## Order -/

/-- A date comes before another in the calendar: by year, then by month, then by day. -/
def Before (date later : Date) : Prop :=
  date.year < later.year ∨ date.year = later.year ∧
    (date.month < later.month ∨ date.month = later.month ∧ date.day < later.day)

/-- The stretches up to a later one begin with those up to an earlier one and that one itself. -/
private theorem sum_take_add_le {lengths : List Nat} {index later : Nat} (h : index < later)
    (hlater : later ≤ lengths.length) :
    (lengths.take index).sum + lengths.getD index 0 ≤ (lengths.take later).sum := by
  -- along the months that both have before them
  induction lengths generalizing index later with
  | nil =>
    simp at hlater
    omega
  | cons length lengths ih =>
    obtain ⟨later, rfl⟩ := Nat.exists_eq_succ_of_ne_zero (Nat.ne_zero_of_lt h)
    cases index with
    | zero =>
      simp only [List.take_zero, List.sum_nil, List.getD_cons_zero, List.take_succ_cons,
        List.sum_cons]
      omega
    | succ index =>
      have htail := ih (Nat.lt_of_succ_lt_succ h) (by simpa using hlater)
      simp only [List.take_succ_cons, List.sum_cons, List.getD_cons_succ]
      omega

/-- A day of an earlier month lies before all days of a later one. -/
private theorem IsValid.dayOfYear_lt_of_month {date later : Date} (h : date.IsValid)
    (h' : later.IsValid) (hyear : date.year = later.year) (hmonth : date.month < later.month) :
    date.dayOfYear < later.dayOfYear := by
  -- the days up to the end of one month are no more than those before a later one
  have hle : ((monthLengths (isLeap date.year)).take (date.month - 1)).sum +
      (monthLengths (isLeap date.year)).getD (date.month - 1) 0 ≤
        ((monthLengths (isLeap date.year)).take (later.month - 1)).sum := by
    refine sum_take_add_le ?_ (Nat.le_of_lt ?_)
    · have hpos := h.1
      omega
    · rw [hyear]
      exact h'.stretch.1
  have hday := h.stretch.2
  unfold dayOfYear daysBeforeMonth
  rw [← hyear, ← List.sum_eq_foldr, ← List.sum_eq_foldr]
  omega

/-- An earlier date has a smaller day number. -/
private theorem IsValid.dayNumber_lt {date later : Date} (h : date.IsValid) (h' : later.IsValid)
    (hbefore : date.Before later) : date.dayNumber < later.dayNumber := by
  rw [h.dayNumber_eq, h'.dayNumber_eq]
  rcases hbefore with hyear | ⟨hyear, hmonth | ⟨hmonth, hday⟩⟩
  · -- the earlier year ends before the later one begins
    have hlt := h.dayOfYear_lt
    have hsucc := daysBeforeYear_succ date.year
    have hmono := daysBeforeYear_mono (show date.year + 1 ≤ later.year by omega)
    omega
  -- in one year, months follow one another as their stretches do
  · have hlt := h.dayOfYear_lt_of_month h' hyear hmonth
    rw [hyear]
    omega
  -- in one month, only the days count
  · have hpos := h.2.2.1
    have hlt : date.dayOfYear < later.dayOfYear := by
      unfold dayOfYear
      rw [hyear, hmonth]
      omega
    rw [hyear]
    omega

/-- Of two dates one comes before the other, unless they are the same. -/
private theorem before_trichotomy (date later : Date) :
    date.Before later ∨ date = later ∨ later.Before date := by
  obtain ⟨year, month, day⟩ := date
  obtain ⟨year', month', day'⟩ := later
  simp only [Before, mk.injEq]
  omega

/-- Valid dates follow one another as their day numbers do. -/
theorem IsValid.dayNumber_lt_iff {date later : Date} (h : date.IsValid) (h' : later.IsValid) :
    date.dayNumber < later.dayNumber ↔ date.Before later := by
  constructor
  · intro hlt
    rcases before_trichotomy date later with hbefore | rfl | hafter
    · exact hbefore
    · omega
    · have hgt := h'.dayNumber_lt h hafter
      omega
  · exact h.dayNumber_lt h'

/-! ## Months -/

/-- No month is empty. -/
private theorem monthLength_pos {month : Nat} (year : Int) (h : 1 ≤ month) (h' : month ≤ 12) :
    1 ≤ monthLength year month := by
  -- twelve months in two kinds of years can be looked at one by one
  have hall : ∀ leap : Bool, ∀ index < 12, 1 ≤ (monthLengths leap).getD index 0 := by decide
  exact hall (isLeap year) (month - 1) (by omega)

/-- A date some months later is valid. -/
theorem IsValid.addMonths {date : Date} (h : date.IsValid) (months : Int) :
    (date.addMonths months).IsValid := by
  have hrange : 0 ≤ (date.monthIndex + months) % 12 ∧ (date.monthIndex + months) % 12 < 12 := by
    omega
  have hmonth : ((date.monthIndex + months) % 12).toNat + 1 ≤ 12 := by omega
  have hlength := monthLength_pos ((date.monthIndex + months) / 12)
    (show 1 ≤ ((date.monthIndex + months) % 12).toNat + 1 by omega) hmonth
  have hday := h.2.2.1
  -- the month is reduced to the twelve, and the day to the length of that month
  refine ⟨?_, hmonth, ?_, ?_⟩
  · simp [Date.addMonths]
  · simp only [Date.addMonths]
    omega
  · simp only [Date.addMonths]
    omega

/-- A move by months moves the index of the month by as many. -/
@[simp] theorem monthIndex_addMonths (date : Date) (months : Int) :
    (date.addMonths months).monthIndex = date.monthIndex + months := by
  simp only [addMonths, monthIndex]
  omega

/-- Among valid dates, the date some months later is the one in the month so many months later, on
    the same day or the last one. -/
theorem eq_addMonths_iff {date later : Date} (hlater : later.IsValid) (months : Int) :
    later = date.addMonths months ↔
      later.monthIndex = date.monthIndex + months ∧
        later.day = min date.day (monthLength later.year later.month) := by
  constructor
  · rintro rfl
    exact ⟨monthIndex_addMonths date months, rfl⟩
  · rintro ⟨hindex, hday⟩
    obtain ⟨hmonth, hmonth', -, -⟩ := hlater
    -- the index of a month determines the year and the month
    have hyear : later.year = (date.monthIndex + months) / 12 := by
      rw [← hindex]
      unfold monthIndex
      omega
    have hnumber : later.month = ((date.monthIndex + months) % 12).toNat + 1 := by
      rw [← hindex]
      unfold monthIndex
      omega
    obtain ⟨year, month, day⟩ := later
    simp only at hyear hnumber hday
    subst hyear hnumber hday
    rfl

end Sift.Date
