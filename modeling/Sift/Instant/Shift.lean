import Sift.Instant.Basic

/-! # Moving instants

An instant moves by calendar months, which keep its day of the month and time of day, or by a
fixed length of time. -/

namespace Sift

/-- A unit of a relative date. -/
inductive TimeUnit where
  | years | quarters | months | weeks | days | hours | minutes | seconds | milliseconds
  deriving DecidableEq

/-- The unit of a word.  Case matters: `M` is months and `m` is minutes. -/
def TimeUnit.ofWord? : String → Option TimeUnit
  | "y" | "year" | "years" => some .years
  | "Q" | "quarter" | "quarters" => some .quarters
  | "M" | "month" | "months" => some .months
  | "w" | "week" | "weeks" => some .weeks
  | "d" | "day" | "days" => some .days
  | "h" | "hour" | "hours" => some .hours
  | "m" | "minute" | "minutes" => some .minutes
  | "s" | "second" | "seconds" => some .seconds
  | "ms" | "millisecond" | "milliseconds" => some .milliseconds
  | _ => none

/-- The length of a unit: calendar months, or milliseconds. -/
def TimeUnit.length : TimeUnit → Int ⊕ Int
  | .years => .inl 12
  | .quarters => .inl 3
  | .months => .inl 1
  | .weeks => .inr 604800000
  | .days => .inr 86400000
  | .hours => .inr 3600000
  | .minutes => .inr 60000
  | .seconds => .inr 1000
  | .milliseconds => .inr 1

namespace Instant

/-- The same time of day some months later. -/
def addMonths? (t : Instant) (months : Int) : Option Instant :=
  ofParts? ((t.date.addMonths months).dayNumber * secondsPerDay + t.secondOfDay) t.nanos

/-- The instant some nanoseconds after a count of seconds and nanoseconds. -/
def addNanos? (seconds : Int) (nanos delta : Int) : Option Instant :=
  let total := nanos + delta
  ofParts? (seconds + total / nanosPerSecond) (total % nanosPerSecond).toNat

/-- The instant some milliseconds later.  Inside a leap second a step of less than a second that
    does not reach the next minute only changes the nanoseconds; a longer step forward counts from
    the second that the leap second follows, and a longer step back from the second after it. -/
def addMillis? (t : Instant) (millis : Int) : Option Instant :=
  let delta := millis * 1000000
  -- outside of a leap second every second has the same length
  if t.nanos < nanosPerSecond then addNanos? t.seconds t.nanos delta
  else
    let inside : Int := t.nanos - nanosPerSecond
    -- the step leaves the leap second forward
    if 1000 ≤ millis ∨ 0 < delta ∧ nanosPerSecond ≤ inside + delta then
      addNanos? t.seconds inside delta
    -- the step leaves it backward
    else if millis ≤ -1000 then addNanos? (t.seconds + 1) inside delta
    else ofParts? t.seconds (t.nanos + delta).toNat

/-- The instant some units later.  Either way a step has 32 bits of months or 63 bits of
    milliseconds; there are no longer ones. -/
def add? (t : Instant) (amount : Int) (unit : TimeUnit) : Option Instant :=
  match unit.length with
  | .inl months =>
    let step := amount * months
    if step.natAbs < Nat.pow 2 32 then t.addMonths? step else none
  | .inr millis =>
    let step := amount * millis
    if step.natAbs < Nat.pow 2 63 then t.addMillis? step else none

end Instant

end Sift
