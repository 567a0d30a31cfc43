import Sift.Instant.Shift
import Sift.Proofs.Date

/-!
# Where a moved instant lies

An amount of a unit is a `Span`: a number of calendar months, or a length of time.  `Span.Leads t d`
says which instant `d` lies a span after `t`, in terms of the calendar and of nanoseconds alone, and
`Span.yearFrom t` says in which year it would lie if instants had no bounds.  `Instant.add?` gives
that instant, and it gives none exactly where the year is not among those that instants have: the
bounds on the size of a step never refuse an instant that is in range.

A time may also begin in a leap second.  `Span.yearAfter t` is the year in which it ends then, and
`add?_eq_none_iff_ends` says of all instants where nothing is found.
-/

namespace Sift

/-- What an amount of a unit stands for. -/
inductive Span where
  /-- Calendar months. -/
  | months (count : Int)
  /-- Nanoseconds. -/
  | nanos (count : Int)

namespace TimeUnit

/-- The words for a unit. -/
def words : TimeUnit → List String
  | .years => ["y", "year", "years"]
  | .quarters => ["Q", "quarter", "quarters"]
  | .months => ["M", "month", "months"]
  | .weeks => ["w", "week", "weeks"]
  | .days => ["d", "day", "days"]
  | .hours => ["h", "hour", "hours"]
  | .minutes => ["m", "minute", "minutes"]
  | .seconds => ["s", "second", "seconds"]
  | .milliseconds => ["ms", "millisecond", "milliseconds"]

/-- The words for units are the ones that are read, each for its own unit. -/
theorem ofWord?_eq_some_iff {word : String} {unit : TimeUnit} :
    ofWord? word = some unit ↔ word ∈ unit.words := by
  constructor
  · intro h
    unfold ofWord? at h
    split at h <;> cases h <;> simp [words]
  · intro h
    cases unit <;> simp only [words, List.mem_cons, List.not_mem_nil, or_false] at h <;>
      rcases h with rfl | rfl | rfl <;> rfl

/-- The span of an amount of a unit. -/
def span (amount : Int) : TimeUnit → Span
  | .years => .months (12 * amount)
  | .quarters => .months (3 * amount)
  | .months => .months amount
  | .weeks => .nanos (7 * 24 * 60 * 60 * nanosPerSecond * amount)
  | .days => .nanos (24 * 60 * 60 * nanosPerSecond * amount)
  | .hours => .nanos (60 * 60 * nanosPerSecond * amount)
  | .minutes => .nanos (60 * nanosPerSecond * amount)
  | .seconds => .nanos (nanosPerSecond * amount)
  | .milliseconds => .nanos (1000000 * amount)

end TimeUnit

namespace Instant

/-! ## The range of instants -/

/-- The first year of the range of instants. -/
def firstYear : Int := -262143

/-- The last year of the range of instants. -/
def lastYear : Int := 262142

/-- A count of seconds is in the range of instants exactly if its day lies in one of their years. -/
private theorem inRange_iff (seconds : Int) :
    (-8334601228800 ≤ seconds ∧ seconds ≤ 8210266876799) ↔
      firstYear ≤ (Date.ofDayNumber (seconds / secondsPerDay)).year ∧
        (Date.ofDayNumber (seconds / secondsPerDay)).year ≤ lastYear := by
  rw [(Date.isValid_ofDayNumber _).year_mem_iff, Date.dayNumber_ofDayNumber]
  -- the first day of the range and the first day after it
  have hlow : Date.daysBeforeYear firstYear - Date.epochOffset = -96465292 := by decide
  have hhigh : Date.daysBeforeYear (lastYear + 1) - Date.epochOffset = 95026237 := by decide
  rw [hlow, hhigh]
  unfold secondsPerDay
  omega

/-- An instant is made of the seconds and the nanoseconds that it has. -/
theorem ofParts?_eq_some_iff {seconds : Int} {nanos : Nat} {d : Instant} :
    ofParts? seconds nanos = some d ↔ d.seconds = seconds ∧ d.nanos = nanos := by
  unfold ofParts?
  constructor
  · intro h
    split at h
    · cases h
      exact ⟨rfl, rfl⟩
    · cases h
  · rintro ⟨rfl, rfl⟩
    rw [dif_pos ⟨d.nanos_lt, d.lowest_le, d.le_highest⟩]

/-- There is no instant exactly if the year is out of range, as long as the nanoseconds are those of
    a second and a leap second at most. -/
private theorem ofParts?_eq_none_iff {seconds : Int} {nanos : Nat}
    (h : nanos < 2 * nanosPerSecond) :
    ofParts? seconds nanos = none ↔
      ¬ (firstYear ≤ (Date.ofDayNumber (seconds / secondsPerDay)).year ∧
        (Date.ofDayNumber (seconds / secondsPerDay)).year ≤ lastYear) := by
  rw [← inRange_iff]
  unfold ofParts?
  split
  · rename_i hparts
    -- in range the parts are those of an instant, and out of range they are not
    simp [hparts.2]
  · rename_i hparts
    simp only [true_iff]
    exact fun hrange => hparts ⟨h, hrange⟩

/-- The nanoseconds from the start of 1970 to an instant outside leap seconds. -/
def sinceEpoch (t : Instant) : Int := t.seconds * nanosPerSecond + t.nanos

/-- Noon of 1 June 2024, the present time of the examples. -/
def noon : Instant := ⟨1717243200, 0, by decide, by decide, by decide⟩

/-- The calendar has the day of an instant. -/
theorem isValid_date (t : Instant) : t.date.IsValid := Date.isValid_ofDayNumber _

/-- The seconds of an instant are given by its day and the time of that day. -/
theorem seconds_eq_iff {t : Instant} {date : Date} {second : Nat} (hdate : date.IsValid)
    (hsecond : second < 86400) :
    t.seconds = date.dayNumber * secondsPerDay + second ↔
      t.date = date ∧ t.secondOfDay = second := by
  have hday : t.date.dayNumber = t.seconds / secondsPerDay := Date.dayNumber_ofDayNumber _
  unfold secondOfDay secondsPerDay at *
  constructor
  · intro h
    -- a second of the day is less than a day, so the quotients by a day agree
    have hnumber : t.date.dayNumber = date.dayNumber := by omega
    refine ⟨?_, by omega⟩
    rw [← Date.ofDayNumber_dayNumber t.isValid_date, hnumber, Date.ofDayNumber_dayNumber hdate]
  · rintro ⟨rfl, hrest⟩
    omega

end Instant

/-! ## Spans -/

namespace Span

open Instant

/-- An instant lies a span after another.  Months lead to the same time of day in the month so many
    months later, on the same day or on the last day of a shorter month. -/
def Leads (t : Instant) : Span → Instant → Prop
  | .months count, d =>
    12 * d.date.year + d.date.month = 12 * t.date.year + t.date.month + count ∧
      d.date.day = min t.date.day (Date.monthLength d.date.year d.date.month) ∧
      d.secondOfDay = t.secondOfDay ∧ d.nanos = t.nanos
  | .nanos count, d => d.nanos < nanosPerSecond ∧ d.sinceEpoch = t.sinceEpoch + count

/-- The year in which a span from an instant ends, where instants may go beyond their range. -/
def yearFrom (t : Instant) : Span → Int
  | .months count => (12 * t.date.year + t.date.month - 1 + count) / 12
  | .nanos count =>
    (Date.ofDayNumber ((t.sinceEpoch + count) / (24 * 60 * 60 * nanosPerSecond))).year

/-- A span from an instant ends within the range of instants. -/
def InRange (t : Instant) (span : Span) : Prop :=
  firstYear ≤ span.yearFrom t ∧ span.yearFrom t ≤ lastYear

instance (t : Instant) (span : Span) : Decidable (span.InRange t) :=
  inferInstanceAs (Decidable (_ ∧ _))

/-- The second in which a time from an instant ends, where instants may go beyond their range.  A
    leap second in which the time begins has nanoseconds of its own, so all seconds behind it are
    counted one too high. -/
def secondAfter (t : Instant) (count : Int) : Int :=
  let second := (t.sinceEpoch + count) / nanosPerSecond
  if nanosPerSecond ≤ t.nanos ∧ t.seconds < second then second - 1 else second

/-- The year in which a span from an instant ends, also if it begins in a leap second. -/
def yearAfter (t : Instant) : Span → Int
  | .months count => (Span.months count).yearFrom t
  | .nanos count => (Date.ofDayNumber (secondAfter t count / secondsPerDay)).year

/-- A span from an instant, which may lie in a leap second, ends within the range of instants. -/
def EndsInRange (t : Instant) (span : Span) : Prop :=
  firstYear ≤ span.yearAfter t ∧ span.yearAfter t ≤ lastYear

instance (t : Instant) (span : Span) : Decidable (span.EndsInRange t) :=
  inferInstanceAs (Decidable (_ ∧ _))

/-- Outside leap seconds the year in which a span ends is that of the nanoseconds. -/
private theorem endsInRange_iff {t : Instant} (ht : t.nanos < nanosPerSecond) (span : Span) :
    span.EndsInRange t ↔ span.InRange t := by
  have hyear : span.yearAfter t = span.yearFrom t := by
    cases span with
    | months count => rfl
    | nanos count =>
      -- without a leap second no second is counted one too high
      have hday : secondAfter t count / secondsPerDay =
          (t.sinceEpoch + count) / (24 * 60 * 60 * nanosPerSecond) := by
        simp only [secondAfter, nanosPerSecond, secondsPerDay] at *
        omega
      simp only [yearAfter, yearFrom, hday]
  rw [EndsInRange, InRange, hyear]

end Span

/-! ## Moving by a span -/

namespace Instant

variable {t d : Instant} {count : Int}

/-- A day has fewer than 86400 seconds before each of its seconds. -/
theorem secondOfDay_lt (t : Instant) : t.secondOfDay < 86400 := by
  unfold secondOfDay secondsPerDay
  omega

/-- Months are counted from the first one of the year 0. -/
private theorem monthIndex_date (t : Instant) :
    t.date.monthIndex = 12 * t.date.year + t.date.month - 1 := by
  have hmonth := t.isValid_date.1
  unfold Date.monthIndex
  omega

/-- Moving by months leads where the span of the months does. -/
private theorem addMonths?_eq_some_iff :
    t.addMonths? count = some d ↔ (Span.months count).Leads t d := by
  -- the parts of the new instant are its date, its time of day and its nanoseconds
  have hvalid := t.isValid_date.addMonths count
  rw [addMonths?, ofParts?_eq_some_iff, seconds_eq_iff hvalid t.secondOfDay_lt,
    Date.eq_addMonths_iff d.isValid_date, monthIndex_date, monthIndex_date]
  unfold Span.Leads
  constructor
  · rintro ⟨⟨⟨hindex, hday⟩, hsecond⟩, hnanos⟩
    exact ⟨by omega, hday, hsecond, hnanos⟩
  · rintro ⟨hindex, hday, hsecond, hnanos⟩
    exact ⟨⟨⟨by omega, hday⟩, hsecond⟩, hnanos⟩

/-- Moving by months finds nothing exactly if the months end out of range. -/
private theorem addMonths?_eq_none_iff :
    t.addMonths? count = none ↔ ¬ (Span.months count).EndsInRange t := by
  have hvalid := t.isValid_date.addMonths count
  have hsecond := t.secondOfDay_lt
  -- the day of the new instant is the date that the months lead to
  have hday : ((t.date.addMonths count).dayNumber * secondsPerDay + t.secondOfDay) / secondsPerDay =
      (t.date.addMonths count).dayNumber := by
    unfold secondsPerDay
    omega
  have hyear : (t.date.addMonths count).year = (Span.months count).yearAfter t := by
    show (t.date.monthIndex + count) / 12 = _
    rw [monthIndex_date]
    rfl
  rw [addMonths?, ofParts?_eq_none_iff t.nanos_lt, hday, Date.ofDayNumber_dayNumber hvalid, hyear]
  rfl

/-- Outside leap seconds, moving by milliseconds leads where their span does. -/
private theorem addMillis?_eq_some_iff (ht : t.nanos < nanosPerSecond) :
    t.addMillis? count = some d ↔ (Span.nanos (1000000 * count)).Leads t d := by
  rw [addMillis?, if_pos ht, addNanos?, ofParts?_eq_some_iff]
  unfold Span.Leads sinceEpoch nanosPerSecond
  omega

/-- The second that nanoseconds lead to, with less than two seconds of them left. -/
private theorem addNanos?_eq {seconds nanos delta second : Int}
    (h : seconds + (nanos + delta) / nanosPerSecond = second) :
    ∃ rest, addNanos? seconds nanos delta = ofParts? second rest ∧ rest < 2 * nanosPerSecond := by
  refine ⟨((nanos + delta) % nanosPerSecond).toNat, by rw [addNanos?, h], ?_⟩
  unfold nanosPerSecond
  omega

/-- A time of some milliseconds ends in the second that it should, whether it begins in a leap
    second or not. -/
private theorem addMillis?_eq (t : Instant) (count : Int) :
    ∃ rest, t.addMillis? count = ofParts? (Span.secondAfter t (1000000 * count)) rest ∧
      rest < 2 * nanosPerSecond := by
  have hleap := t.nanos_lt
  unfold Span.secondAfter sinceEpoch addMillis?
  dsimp only
  -- of the four ways to count only the last stays within the leap second
  split
  · refine addNanos?_eq ?_
    unfold nanosPerSecond at *
    omega
  · split
    · refine addNanos?_eq ?_
      unfold nanosPerSecond at *
      omega
    · split
      · refine addNanos?_eq ?_
        unfold nanosPerSecond at *
        omega
      · unfold nanosPerSecond at *
        refine ⟨(t.nanos + count * 1000000).toNat, ?_, ?_⟩
        · congr 1
          omega
        · omega

/-- Moving by milliseconds finds nothing exactly if they end out of range. -/
private theorem addMillis?_eq_none_iff :
    t.addMillis? count = none ↔ ¬ (Span.nanos (1000000 * count)).EndsInRange t := by
  obtain ⟨nanos, heq, hnanos⟩ := addMillis?_eq t count
  rw [heq, ofParts?_eq_none_iff hnanos]
  rfl

/-! ## Bounds on a step -/

/-- The years of instants are those of their range. -/
private theorem date_year_range (t : Instant) : firstYear ≤ t.date.year ∧ t.date.year ≤ lastYear :=
  (inRange_iff t.seconds).mp ⟨t.lowest_le, t.le_highest⟩

/-- Months that end in range are fewer than 32 bits can count. -/
private theorem natAbs_lt_of_months_inRange (h : (Span.months count).EndsInRange t) :
    count.natAbs < Nat.pow 2 32 := by
  have ht := t.date_year_range
  have hmonth := t.isValid_date.2.1
  unfold Span.EndsInRange at h
  simp only [Span.yearAfter, Span.yearFrom] at h
  unfold firstYear lastYear at *
  show count.natAbs < 4294967296
  omega

/-- A time that ends in range has fewer milliseconds than 63 bits can count. -/
private theorem natAbs_lt_of_nanos_inRange (h : (Span.nanos (1000000 * count)).EndsInRange t) :
    count.natAbs < Nat.pow 2 63 := by
  -- the second in which the time ends is in range, as the second in which it begins is
  have hrange := (inRange_iff _).mpr h
  have hlow := t.lowest_le
  have hhigh := t.le_highest
  have hnanos := t.nanos_lt
  unfold Span.secondAfter sinceEpoch nanosPerSecond at *
  show count.natAbs < 9223372036854775808
  dsimp only at hrange
  omega

/-- A condition that holds wherever there is a result can be left out. -/
private theorem ite_none_eq {bound inRange : Prop} [Decidable bound] {result : Option Instant}
    (hbound : inRange → bound) (hresult : result = none ↔ ¬ inRange) :
    (if bound then result else none) = result := by
  split
  · rfl
  · rename_i hlong
    exact (hresult.mpr fun hrange => hlong (hbound hrange)).symm

/-- The bounds on the size of a step refuse no instant. -/
private theorem add?_eq (t : Instant) (amount : Int) (unit : TimeUnit) :
    t.add? amount unit = match unit.length with
      | .inl months => t.addMonths? (amount * months)
      | .inr millis => t.addMillis? (amount * millis) := by
  unfold add?
  cases unit.length with
  | inl months => exact ite_none_eq natAbs_lt_of_months_inRange addMonths?_eq_none_iff
  | inr millis => exact ite_none_eq natAbs_lt_of_nanos_inRange addMillis?_eq_none_iff

/-! ## Amounts of units -/

/-- The units that are counted in months. -/
private theorem span_of_months {unit : TimeUnit} {months : Int} (h : unit.length = .inl months)
    (amount : Int) : unit.span amount = .months (amount * months) := by
  cases unit <;> cases h <;> simp only [TimeUnit.span, Span.months.injEq] <;> omega

/-- The units that are counted in milliseconds. -/
private theorem span_of_millis {unit : TimeUnit} {millis : Int} (h : unit.length = .inr millis)
    (amount : Int) : unit.span amount = .nanos (1000000 * (amount * millis)) := by
  cases unit <;> cases h <;>
    simp only [TimeUnit.span, Span.nanos.injEq, nanosPerSecond] <;> omega

/-- The instant an amount of a unit later is the one that the span of the amount leads to. -/
theorem add?_eq_some_iff (ht : t.nanos < nanosPerSecond) (amount : Int) (unit : TimeUnit) :
    t.add? amount unit = some d ↔ (unit.span amount).Leads t d := by
  rw [add?_eq]
  cases hlength : unit.length with
  | inl months =>
    rw [span_of_months hlength]
    exact addMonths?_eq_some_iff
  | inr millis =>
    rw [span_of_millis hlength]
    exact addMillis?_eq_some_iff ht

/-- There is no instant an amount of a unit later exactly where that is out of range. -/
theorem add?_eq_none_iff_ends (t : Instant) (amount : Int) (unit : TimeUnit) :
    t.add? amount unit = none ↔ ¬ (unit.span amount).EndsInRange t := by
  rw [add?_eq]
  cases hlength : unit.length with
  | inl months =>
    rw [span_of_months hlength]
    exact addMonths?_eq_none_iff
  | inr millis =>
    rw [span_of_millis hlength]
    exact addMillis?_eq_none_iff

/-- Outside leap seconds this is where the nanoseconds lead out of range. -/
theorem add?_eq_none_iff (ht : t.nanos < nanosPerSecond) (amount : Int) (unit : TimeUnit) :
    t.add? amount unit = none ↔ ¬ (unit.span amount).InRange t := by
  rw [add?_eq_none_iff_ends, Span.endsInRange_iff ht]

end Instant

end Sift
