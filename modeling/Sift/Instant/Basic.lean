import Sift.Date

/-! # Instants

An instant is a count of seconds from the start of 1970 and of nanoseconds after that second, in
universal time.  A second may be followed by a leap second: that is a count of nanoseconds beyond a
whole second.  Texts have leap seconds only behind the last second of a minute, and so have clocks;
an instant may have one behind any second. -/

namespace Sift

/-- The nanoseconds of a second. -/
def nanosPerSecond : Nat := 1000000000

/-- The seconds of a day. -/
def secondsPerDay : Int := 86400

/-- An instant between the years -262143 and 262142, both included. -/
structure Instant where
  /-- Seconds from the start of 1970. -/
  seconds : Int
  /-- Nanoseconds after the second; a whole second or more inside a leap second. -/
  nanos : Nat
  /-- A leap second is no longer than another one. -/
  nanos_lt : nanos < 2 * nanosPerSecond
  lowest_le : -8334601228800 ≤ seconds
  le_highest : seconds ≤ 8210266876799
  deriving DecidableEq

namespace Instant

/-- The instant of a count of seconds and nanoseconds, if it is in the range of instants. -/
def ofParts? (seconds : Int) (nanos : Nat) : Option Instant :=
  if h : nanos < 2 * nanosPerSecond ∧ -8334601228800 ≤ seconds ∧ seconds ≤ 8210266876799 then
    some ⟨seconds, nanos, h.1, h.2.1, h.2.2⟩
  else none

/-- The day of an instant. -/
def date (t : Instant) : Date := Date.ofDayNumber (t.seconds / secondsPerDay)

/-- The seconds of an instant since the start of its day. -/
def secondOfDay (t : Instant) : Nat := (t.seconds % secondsPerDay).toNat

/-- How two instants follow one another. -/
def compare (s t : Instant) : Ordering :=
  (Ord.compare s.seconds t.seconds).then (Ord.compare s.nanos t.nanos)

end Instant

end Sift
