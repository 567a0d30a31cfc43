import Sift.Instant.Basic

/-! # The text of an instant

Instants are written as a date and a time of day in universal time, to the millisecond:
`2024-06-01T12:00:00.000Z`. -/

namespace Sift

/-- A number in at least `width` decimal digits. -/
def padded (width n : Nat) : List Char :=
  let digits := Nat.toDigits 10 n
  List.replicate (width - digits.length) '0' ++ digits

/-- A year: four digits, with a sign if there are more of them or the year is before year 0. -/
def yearChars (year : Int) : List Char :=
  if 0 ≤ year ∧ year ≤ 9999 then padded 4 year.natAbs
  else (if year < 0 then '-' else '+') :: padded 4 year.natAbs

def Date.chars (date : Date) : List Char :=
  yearChars date.year ++ '-' :: padded 2 date.month ++ '-' :: padded 2 date.day

namespace Instant

/-- The text of an instant.  A leap second has the number of the second after the one it follows,
    so it is the sixtieth of its minute behind the last one, and what is shorter than a millisecond
    is cut off. -/
def chars (t : Instant) : List Char :=
  let second := t.secondOfDay % 60 + t.nanos / nanosPerSecond
  let millis := t.nanos % nanosPerSecond / 1000000
  t.date.chars ++ 'T' :: padded 2 (t.secondOfDay / 3600) ++
    ':' :: padded 2 (t.secondOfDay / 60 % 60) ++ ':' :: padded 2 second ++
    '.' :: padded 3 millis ++ ['Z']

def text (t : Instant) : String := String.ofList t.chars

end Instant

end Sift
