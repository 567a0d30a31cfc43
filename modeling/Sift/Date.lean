/-! # Calendar dates

Dates of the Gregorian calendar, extended to all years before and after; year 0 is the year
before year 1.  A date and its *day number*, the count of days from 1 January 1970, determine each
other. -/

namespace Sift

/-- A day of the calendar. -/
structure Date where
  year : Int
  month : Nat
  day : Nat
  deriving DecidableEq

namespace Date

/-- Whether a year has a 29 February. -/
def isLeap (year : Int) : Bool := year % 4 == 0 && (year % 100 != 0 || year % 400 == 0)

/-- The lengths of the twelve months of a year. -/
def monthLengths (leap : Bool) : List Nat :=
  [31, if leap then 29 else 28, 31, 30, 31, 30, 31, 31, 30, 31, 30, 31]

/-- The length of a month. -/
def monthLength (year : Int) (month : Nat) : Nat :=
  (monthLengths (isLeap year)).getD (month - 1) 0

/-- A date that the calendar has. -/
def IsValid (date : Date) : Prop :=
  1 ≤ date.month ∧ date.month ≤ 12 ∧ 1 ≤ date.day ∧ date.day ≤ monthLength date.year date.month

instance (date : Date) : Decidable date.IsValid := inferInstanceAs (Decidable (_ ∧ _ ∧ _ ∧ _))

/-! ## Day numbers -/

/-- The days from 1 January of year 0 to 1 January of a year: 365 for each year between them and
    one for each leap year. -/
def daysBeforeYear (year : Int) : Int :=
  365 * year + (year + 3) / 4 - (year + 99) / 100 + (year + 399) / 400

/-- The days of a year before one of its months. -/
def daysBeforeMonth (year : Int) (month : Nat) : Nat :=
  ((monthLengths (isLeap year)).take (month - 1)).foldr (· + ·) 0

/-- The day number of 1 January of year 0, with its sign turned. -/
def epochOffset : Int := 719528

/-- The days from 1 January 1970 to a date. -/
def dayNumber (date : Date) : Int :=
  daysBeforeYear date.year + daysBeforeMonth date.year date.month + date.day - 1 - epochOffset

/-- The year in which a day lies that is `n` days after 1 January of year 0.  The mean length of
    a year is 146097 / 400 days, and a guess from it is off by at most one year. -/
def yearOf (n : Int) : Int :=
  let guess := 400 * n / 146097
  if n < daysBeforeYear guess then guess - 1
  else if daysBeforeYear (guess + 1) ≤ n then guess + 1
  else guess

/-- The month and the day of the month of a day of a year, both counted from 1, given the lengths
    of the months from `month` on. -/
def monthDay (month : Nat) : List Nat → Nat → Nat × Nat
  | [], rest => (month, rest + 1)
  | length :: lengths, rest =>
    if rest < length then (month, rest + 1) else monthDay (month + 1) lengths (rest - length)

/-- The date of a day number. -/
def ofDayNumber (n : Int) : Date :=
  let days := n + epochOffset
  let year := yearOf days
  let (month, day) := monthDay 1 (monthLengths (isLeap year)) (days - daysBeforeYear year).toNat
  ⟨year, month, day⟩

/-! ## Months -/

/-- The months from year 0 to the month of a date. -/
def monthIndex (date : Date) : Int := 12 * date.year + (date.month - 1 : Nat)

/-- The date some months later, in the same place of its month or, where that month is shorter,
    on its last day. -/
def addMonths (date : Date) (months : Int) : Date :=
  let index := date.monthIndex + months
  let year := index / 12
  let month := (index % 12).toNat + 1
  ⟨year, month, min date.day (monthLength year month)⟩

end Date

end Sift
