import Sift.Instant.Reader
import Sift.Proofs.Instant.Printer

/-!
# Texts that are instants

A `Day` is a date that is written in four, two and two digits, and a `Timestamp` is a day, a time of
day and an offset from universal time, with the spellings that a text may choose.  Reading the text
of either gives the instant that it denotes (`read?_day`, `read?_timestamp`): the seconds of the
calendar up to the local time, less the offset.

The text of an instant is the text of a timestamp, so reading it gives the instant back that a clock
shows, up to what is shorter than a millisecond (`read_text_truncates`).  An instant that no clock
shows is not had back (`read_text_stray_leap_second`).
-/

namespace Sift

open Char (isDigit)
open Text (decimalValue)

/-! ## Reading numbers -/

namespace Instant

variable {digits : List Char} {width n : Nat}

/-- A number of fixed width is read from as many digits. -/
private theorem exactly_append (hlength : digits.length = width)
    (hdigits : ∀ c ∈ digits, isDigit c = true)
    (rest : List Char) : exactly width (digits ++ rest) = some (decimalValue digits, rest) := by
  subst hlength
  have hall : digits.all isDigit = true := List.all_eq_true.mpr hdigits
  simp only [exactly, List.take_left', List.drop_left', hall, and_self, if_true]

/-- What a number is padded to is read back. -/
private theorem exactly_padded (width : Nat) (hwidth : 0 < width) (h : n < Nat.pow 10 width)
    (rest : List Char) :
    exactly width (padded width n ++ rest) = some (n, rest) := by
  rw [exactly_append (length_padded hwidth h) (fun _ => isDigit_of_mem_padded),
    decimalValue_padded]

/-- A number ends where its digits do, or where it has the greatest width. -/
theorem upTo_append {most : Nat} {rest : List Char} (hnonempty : digits ≠ [])
    (hdigits : ∀ c ∈ digits, isDigit c = true) (hlength : digits.length ≤ most)
    (hrest : digits.length = most ∨ rest.head?.all (!isDigit ·) = true) :
    upTo most (digits ++ rest) = some (decimalValue digits, rest) := by
  have hrun : ((digits ++ rest).take most).takeWhile isDigit = digits := by
    rw [List.take_append, List.take_of_length_le hlength]
    refine Text.takeWhile_run_append hdigits ?_
    rcases hrest with rfl | hhead
    · rw [Nat.sub_self]
      rfl
    · -- what is taken of the rest has the same head or none
      rw [List.head?_take]
      split
      · rfl
      · exact hhead
  unfold upTo
  rw [hrun]
  split
  · exact absurd rfl hnonempty
  · rw [List.drop_left' rfl]

/-- What a number is padded to is read back, where fewer digits would do too. -/
private theorem upTo_padded (width : Nat) (hwidth : 0 < width) (h : n < Nat.pow 10 width)
    (rest : List Char) :
    upTo width (padded width n ++ rest) = some (n, rest) := by
  have hlength := length_padded hwidth h
  obtain ⟨c, tail, hcons, -⟩ := exists_padded_cons width n
  have hnonempty : padded width n ≠ [] := by simp [hcons]
  rw [upTo_append hnonempty (fun _ => isDigit_of_mem_padded) (Nat.le_of_eq hlength) (.inl hlength),
    decimalValue_padded]

/-- Digits are no blanks. -/
theorem isWhiteSpace_of_isDigit {c : Char} (h : isDigit c = true) :
    Unicode.isWhiteSpace c = false := by
  simp only [Char.isDigit_iff_toNat, Text.digit_codes] at h
  exact Text.isWhiteSpace_of_visible (by omega) (by omega)

/-- Numbers do not begin with a blank. -/
@[simp] private theorem skipBlank_padded (width n : Nat) (rest : List Char) :
    skipBlank (padded width n ++ rest) = padded width n ++ rest := by
  obtain ⟨c, tail, hcons, hdigit⟩ := exists_padded_cons width n
  rw [hcons]
  exact List.dropWhile_cons_of_neg (by simp [isWhiteSpace_of_isDigit hdigit])

/-- A year of four digits has no sign. -/
private theorem year_padded (h : n < 10000) (rest : List Char) :
    year (padded 4 n ++ rest) = some ((n : Int), rest) := by
  obtain ⟨c, tail, hcons, hdigit⟩ := exists_padded_cons 4 n
  unfold year
  -- a sign would be the first digit
  split
  · rename_i heq
    rw [hcons] at heq
    cases heq
    cases hdigit
  · rename_i heq
    rw [hcons] at heq
    cases heq
    cases hdigit
  · rw [upTo_padded 4 (by decide) h]
    rfl

/-- A step that reads something goes on with it. -/
theorem bind_of_eq_some {α β : Type} {x : Option α} {a : α} {f : α → Option β} (h : x = some a) :
    (x >>= f) = f a := by
  rw [h]
  rfl

/-- A mark that stands first is taken. -/
@[simp] theorem mark_cons (c : Char) (rest : List Char) : mark c (c :: rest) = some rest :=
  if_pos rfl

end Instant

/-! ## Days -/

/-- A date that is written in four, two and two digits. -/
structure Day where
  date : Date
  isValid : date.IsValid
  year_nonneg : 0 ≤ date.year
  year_le : date.year ≤ 9999

namespace Day

def chars (day : Day) : List Char :=
  padded 4 day.date.year.toNat ++ '-' :: padded 2 day.date.month ++ '-' :: padded 2 day.date.day

def text (day : Day) : String := String.ofList day.chars

/-- The year of a day has four digits. -/
theorem year_lt (day : Day) : day.date.year.toNat < 10000 := by
  have hle := day.year_le
  omega

/-- The year of a day is not negative. -/
theorem cast_year (day : Day) : (day.date.year.toNat : Int) = day.date.year :=
  Int.toNat_of_nonneg day.year_nonneg

/-- The seconds of the calendar from the start of 1970 to the start of a day. -/
def seconds (day : Day) : Int :=
  (day.date.daysFromYearZero - Date.daysFromYearZero ⟨1970, 1, 1⟩) * secondsPerDay

/-- The calendar counts the days up to a date as the number of the date does. -/
theorem seconds_eq (day : Day) : day.seconds = day.date.dayNumber * secondsPerDay := by
  rw [seconds, day.isValid.dayNumber_eq_sub day.year_nonneg]

/-- All days are within the range of instants, with more than a day on either side. -/
private theorem seconds_mem (day : Day) :
    -8000000000000 ≤ day.seconds ∧ day.seconds ≤ 8000000000000 := by
  have hlow : Date.daysBeforeYear 0 - Date.epochOffset = -719528 := by decide
  have hhigh : Date.daysBeforeYear (9999 + 1) - Date.epochOffset = 2932897 := by decide
  have hdays := (day.isValid.year_mem_iff 0 9999).mp ⟨day.year_nonneg, day.year_le⟩
  -- the numbers of the first and of the last day, in seconds
  rw [hlow, hhigh] at hdays
  rw [seconds_eq, secondsPerDay]
  omega

end Day

namespace Instant

/-- The seconds of a day and some more are an instant, also where they go beyond the day. -/
theorem exists_at? (day : Day) (second : Int) (nanos : Nat) (hlow : -86400 ≤ second)
    (hhigh : second ≤ 2 * 86400) (hnanos : nanos < 2 * nanosPerSecond) :
    ∃ t, at? day.date second nanos = some t ∧ t.seconds = day.seconds + second ∧
      t.nanos = nanos := by
  have hmem := day.seconds_mem
  rw [at?, if_pos day.isValid, ← day.seconds_eq]
  exact ⟨⟨day.seconds + second, nanos, hnanos, by omega, by omega⟩,
    ofParts?_eq_some_iff.mpr ⟨rfl, rfl⟩, rfl, rfl⟩

/-- The number of a day, read up to what follows it. -/
theorem day?_append (day : Day) (rest : List Char) :
    day? (day.chars ++ rest) = if rest.isEmpty then at? day.date 0 0 else none := by
  have hmonth := day.isValid.lt_hundred.1
  have hday := day.isValid.lt_hundred.2
  simp only [day?, Day.chars, List.append_assoc, List.cons_append, skipBlank_padded,
    year_padded day.year_lt, Option.bind_eq_bind, Option.bind_some, mark_cons,
    upTo_padded 2 (by decide) hmonth, upTo_padded 2 (by decide) hday, day.cast_year]

end Instant

/-! ## Timestamps -/

/-- An offset from universal time. -/
inductive Zone where
  | utc (lowerCase : Bool)
  | east (hours : Fin 24) (minutes : Fin 60)
  | west (hours : Fin 24) (minutes : Fin 60)

namespace Zone

/-- Hours and minutes. -/
def clockChars (hours : Fin 24) (minutes : Fin 60) : List Char :=
  padded 2 hours ++ ':' :: padded 2 minutes

def chars : Zone → List Char
  | .utc lowerCase => [if lowerCase then 'z' else 'Z']
  | .east hours minutes => '+' :: clockChars hours minutes
  | .west hours minutes => '-' :: clockChars hours minutes

/-- The seconds by which local time is ahead of universal time. -/
def seconds : Zone → Int
  | .utc _ => 0
  | .east hours minutes => ((hours * 60 + minutes) * 60 : Nat)
  | .west hours minutes => -((hours * 60 + minutes) * 60 : Nat)

/-- Offsets are whole minutes and shorter than a day. -/
private theorem seconds_mem (zone : Zone) :
    -86400 < zone.seconds ∧ zone.seconds < 86400 ∧ zone.seconds % 60 = 0 := by
  cases zone with
  | utc lowerCase =>
    simp only [seconds]
    omega
  | east hours minutes =>
    simp only [seconds]
    omega
  | west hours minutes =>
    simp only [seconds]
    omega

end Zone

/-- A date, a time of day and an offset from universal time.  The sixtieth second of a minute is a
    leap second. -/
structure Timestamp where
  day : Day
  /-- What stands between the date and the time. -/
  separator : Char
  separator_mem : separator ∈ ['T', 't', ' ']
  hour : Nat
  hour_le : hour ≤ 23
  minute : Nat
  minute_le : minute ≤ 59
  second : Nat
  second_le : second ≤ 60
  /-- The digits of the fraction of the second; none if no fraction is written. -/
  fraction : List Char
  fraction_digits : ∀ c ∈ fraction, isDigit c = true
  fraction_length : fraction.length ≤ 9
  zone : Zone

namespace Timestamp

def fractionChars : List Char → List Char
  | [] => []
  | digits => '.' :: digits

def chars (stamp : Timestamp) : List Char :=
  stamp.day.chars ++ stamp.separator :: padded 2 stamp.hour ++ ':' :: padded 2 stamp.minute ++
    ':' :: padded 2 stamp.second ++ fractionChars stamp.fraction ++ stamp.zone.chars

/-- The text of a timestamp up to its seconds, and what follows them. -/
def frontThen (stamp : Timestamp) (rest : List Char) : List Char :=
  padded 4 stamp.day.date.year.toNat ++ '-' :: (padded 2 stamp.day.date.month ++
    '-' :: (padded 2 stamp.day.date.day ++ stamp.separator :: (padded 2 stamp.hour ++
      ':' :: (padded 2 stamp.minute ++ ':' :: (padded 2 stamp.second ++ rest)))))

/-- The text of a timestamp, nested as the readers take it apart. -/
private theorem chars_eq (stamp : Timestamp) :
    stamp.chars = stamp.frontThen (fractionChars stamp.fraction ++ stamp.zone.chars) := by
  simp only [chars, frontThen, Day.chars, List.append_assoc, List.cons_append]

def text (stamp : Timestamp) : String := String.ofList stamp.chars

/-- The seconds of the local calendar and clock from the start of 1970. -/
def localSeconds (stamp : Timestamp) : Int :=
  stamp.day.seconds + ((stamp.hour * 60 + stamp.minute) * 60 + stamp.second : Nat)

/-- The fraction in nanoseconds is that of a second. -/
private theorem scale_fraction (stamp : Timestamp) :
    Nat.pow 10 (9 - stamp.fraction.length) * Nat.pow 10 stamp.fraction.length =
      nanosPerSecond := by
  have hlength := stamp.fraction_length
  simp only [Nat.pow_eq]
  rw [← Nat.pow_add, Nat.sub_add_cancel hlength]
  rfl

/-- The fraction of a second is less than a second. -/
theorem nanos_lt (stamp : Timestamp) :
    decimalValue stamp.fraction * Nat.pow 10 (9 - stamp.fraction.length) < nanosPerSecond := by
  rw [← stamp.scale_fraction, Nat.mul_comm]
  exact Nat.mul_lt_mul_of_pos_left (Text.decimalValue_lt stamp.fraction_digits)
    (Nat.pow_pos (by decide))

end Timestamp

/-- The timestamp of the start of a day in universal time. -/
def Day.midnight (day : Day) : Timestamp :=
  { day, separator := 'T', separator_mem := by decide, hour := 0, hour_le := by decide, minute := 0,
    minute_le := by decide, second := 0, second_le := by decide, fraction := [],
    fraction_digits := fun _ h => absurd h List.not_mem_nil, fraction_length := by decide,
    zone := .utc false }

/-- The midnight of a day, with the time written behind the day. -/
private theorem Day.text_midnight (day : Day) : day.midnight.text = day.text ++ "T00:00:00Z" := by
  have hzeros : padded 2 0 = ['0', '0'] := rfl
  apply String.toList_injective
  simp only [Timestamp.text, Timestamp.chars, midnight, text, String.toList_append,
    String.toList_ofList, List.append_assoc, List.cons_append, hzeros]
  rfl

namespace Instant

/-- The offset that is written is read back. -/
theorem offset_zone (zone : Zone) : offset zone.chars = some (zone.seconds, []) := by
  -- in both directions hours and minutes are read in the same way
  have hclock : ∀ (hours : Fin 24) (minutes : Fin 60),
      offset.clock (Zone.clockChars hours minutes) =
        some ((((hours * 60 + minutes) * 60 : Nat) : Int), []) := by
    intro hours minutes
    have hhours := exactly_padded 2 (by decide) (show hours.val < 100 by omega)
    have hminutes := exactly_padded 2 (by decide) (show minutes.val < 100 by omega) []
    rw [List.append_nil] at hminutes
    have hle : hours.val ≤ 23 ∧ minutes.val ≤ 59 := by omega
    simp only [offset.clock, Zone.clockChars, hhours, hminutes, mark_cons, Option.bind_eq_bind,
      Option.bind_some, if_pos hle]
  cases zone with
  | utc lowerCase => cases lowerCase <;> rfl
  | east hours minutes => exact hclock hours minutes
  | west hours minutes =>
    show (offset.clock (Zone.clockChars hours minutes)).map _ = _
    rw [hclock]
    rfl

/-- An offset begins neither with a digit nor with a point. -/
theorem head_zone (zone : Zone) :
    ∃ c tail, zone.chars = c :: tail ∧ isDigit c = false ∧ c ≠ '.' := by
  cases zone with
  | utc lowerCase => cases lowerCase <;> exact ⟨_, _, rfl, by decide, by decide⟩
  | east hours minutes => exact ⟨_, _, rfl, by decide, by decide⟩
  | west hours minutes => exact ⟨_, _, rfl, by decide, by decide⟩

/-- A fraction is read to its last digit, and what stands behind the ninth is dropped. -/
theorem fraction_append {kept rest tail : List Char} {c : Char} (dropped : List Char)
    (hkept : ∀ c ∈ kept, isDigit c = true) (hlength : kept.length ≤ 9)
    (hdropped : ∀ c ∈ dropped, isDigit c = true) (hfull : dropped ≠ [] → kept.length = 9)
    (hrest : rest = c :: tail) (hdigit : isDigit c = false) (hpoint : c ≠ '.') :
    fraction (Timestamp.fractionChars kept ++ (dropped ++ rest)) =
      some (decimalValue kept * Nat.pow 10 (9 - kept.length), rest) := by
  cases kept with
  | nil =>
    -- without a fraction the offset follows at once
    have hnone : dropped = [] := by
      cases dropped with
      | nil => rfl
      | cons c' dropped => exact absurd (hfull (List.cons_ne_nil _ _)) (by decide)
    subst hnone hrest
    unfold fraction
    split
    · rename_i heq
      exact absurd (List.cons.inj heq).1 hpoint
    · rw [show decimalValue [] = 0 from rfl, Nat.zero_mul]
      rfl
  | cons digit kept =>
    -- the digits end where the offset begins, and the ninth is the last that counts
    have hall : ∀ c ∈ digit :: kept ++ dropped, isDigit c = true := by
      intro c hc
      rcases List.mem_append.mp hc with h | h
      · exact hkept c h
      · exact hdropped c h
    have hrun : (digit :: kept ++ (dropped ++ rest)).takeWhile isDigit =
        digit :: kept ++ dropped := by
      rw [← List.append_assoc]
      exact Text.takeWhile_run_append hall (by rw [hrest]; simpa using hdigit)
    have hread : (digit :: kept ++ (dropped ++ rest)).drop (digit :: kept ++ dropped).length =
        rest := by
      rw [← List.append_assoc]
      exact List.drop_left' rfl
    have htake : (digit :: kept ++ dropped).take 9 = digit :: kept := by
      cases dropped with
      | nil => rw [List.append_nil, List.take_of_length_le hlength]
      | cons c' dropped => exact List.take_left' (hfull (List.cons_ne_nil _ _))
    simp only [fraction, Timestamp.fractionChars, List.cons_append] at *
    rw [hrun]
    simp only [htake, hread]

/-- Any of the separators may stand before the time. -/
private theorem mark_separator (stamp : Timestamp) (rest : List Char) :
    (mark 'T' (stamp.separator :: rest) <|> mark 't' (stamp.separator :: rest) <|>
      mark ' ' (stamp.separator :: rest)) = some rest := by
  have hmem := stamp.separator_mem
  simp only [List.mem_cons, List.not_mem_nil, or_false] at hmem
  rcases hmem with h | h | h <;> rw [h] <;> rfl

/-- The numbers of a clock have two digits. -/
private theorem exactly_two (h : n < 100) (rest : List Char) :
    exactly 2 (padded 2 n ++ rest) = some (n, rest) :=
  exactly_padded 2 (by decide) h rest

/-- A timestamp with this front is read as its fraction and its offset say. -/
theorem timestamp?_frontThen (stamp : Timestamp) {rest back : List Char} {nanos : Nat} {east : Int}
    (hfraction : fraction rest = some (nanos, back)) (hoffset : offset back = some (east, [])) :
    timestamp? (stamp.frontThen rest) =
      at? stamp.day.date
        (((stamp.hour * 60 + stamp.minute) * 60 + min stamp.second 59 : Nat) - east)
        (nanos + (stamp.second - 59) * nanosPerSecond) := by
  obtain ⟨hmonth, hday⟩ := stamp.day.isValid.lt_hundred
  have hhour := stamp.hour_le
  have hminute := stamp.minute_le
  have hsecond := stamp.second_le
  -- what is left behind the offset is empty, and the clock is in its bounds
  have hwithin : ([] : List Char).isEmpty = true ∧ stamp.hour ≤ 23 ∧ stamp.minute ≤ 59 ∧
      stamp.second ≤ 60 := ⟨rfl, hhour, hminute, hsecond⟩
  -- each reader takes what it reads from the front and leaves the rest to the next one
  rw [Timestamp.frontThen, timestamp?,
    bind_of_eq_some (exactly_padded 4 (by decide) stamp.day.year_lt _)]
  dsimp only
  rw [bind_of_eq_some (mark_cons _ _), bind_of_eq_some (exactly_two hmonth _)]
  dsimp only
  rw [bind_of_eq_some (mark_cons _ _), bind_of_eq_some (exactly_two hday _)]
  dsimp only
  rw [bind_of_eq_some (mark_separator stamp _), bind_of_eq_some (exactly_two (by omega) _)]
  dsimp only
  rw [bind_of_eq_some (mark_cons _ _), bind_of_eq_some (exactly_two (by omega) _)]
  dsimp only
  rw [bind_of_eq_some (mark_cons _ _), bind_of_eq_some (exactly_two (by omega) _)]
  dsimp only
  rw [bind_of_eq_some hfraction]
  dsimp only
  rw [bind_of_eq_some hoffset]
  dsimp only
  rw [if_pos hwithin, stamp.day.cast_year]

/-- A timestamp is read as the instant at its second of its day. -/
private theorem timestamp?_chars (stamp : Timestamp) :
    timestamp? stamp.chars =
      at? stamp.day.date (((stamp.hour * 60 + stamp.minute) * 60 + min stamp.second 59 : Nat) -
        stamp.zone.seconds)
        (decimalValue stamp.fraction * Nat.pow 10 (9 - stamp.fraction.length) +
          (stamp.second - 59) * nanosPerSecond) := by
  obtain ⟨c, tail, hzone, hdigit, hpoint⟩ := head_zone stamp.zone
  have hfraction := fraction_append [] stamp.fraction_digits stamp.fraction_length
    (fun _ h => absurd h List.not_mem_nil) (absurd rfl) hzone hdigit hpoint
  rw [List.nil_append] at hfraction
  rw [stamp.chars_eq, timestamp?_frontThen stamp hfraction (offset_zone stamp.zone)]

/-! ## Reading texts -/

/-- Reading a day gives its midnight. -/
theorem read?_day (day : Day) :
    ∃ t, read? day.text = some t ∧ t.seconds = day.seconds ∧ t.nanos = 0 := by
  obtain ⟨t, hat, hseconds, hnanos⟩ :=
    exists_at? day 0 0 (by decide) (by decide) (by decide)
  refine ⟨t, ?_, by omega, hnanos⟩
  have hday := day?_append day []
  rw [List.append_nil, hat] at hday
  rw [read?, Day.text, String.toList_ofList, hday]
  rfl

/-- The text of a timestamp goes on behind its day, so it is not read as a day. -/
theorem day?_frontThen (stamp : Timestamp) (rest : List Char) :
    day? (stamp.frontThen rest) = none := by
  have hchars : ∃ c back, stamp.frontThen rest = stamp.day.chars ++ c :: back := by
    simp only [Timestamp.frontThen, Day.chars, List.append_assoc, List.cons_append]
    exact ⟨_, _, rfl⟩
  obtain ⟨c, back, hchars⟩ := hchars
  rw [hchars, day?_append]
  rfl

/-- Reading a timestamp gives the instant that it denotes. -/
theorem read?_timestamp (stamp : Timestamp) :
    ∃ t, read? stamp.text = some t ∧
      t.seconds = stamp.localSeconds - (stamp.second - 59 : Nat) - stamp.zone.seconds ∧
      t.nanos = decimalValue stamp.fraction * Nat.pow 10 (9 - stamp.fraction.length) +
        (stamp.second - 59) * nanosPerSecond := by
  have hzone := stamp.zone.seconds_mem
  have hhour := stamp.hour_le
  have hminute := stamp.minute_le
  have hsecond := stamp.second_le
  have hfraction := stamp.nanos_lt
  have hread := timestamp?_chars stamp
  -- the fraction is less than a second, whatever its digits are
  generalize decimalValue stamp.fraction * Nat.pow 10 (9 - stamp.fraction.length) = nanos at *
  obtain ⟨t, hat, hseconds, hnanos⟩ := exists_at? stamp.day
    (((stamp.hour * 60 + stamp.minute) * 60 + min stamp.second 59 : Nat) - stamp.zone.seconds)
    (nanos + (stamp.second - 59) * nanosPerSecond)
    (by omega) (by omega) (by unfold nanosPerSecond at *; omega)
  have hday : day? stamp.chars = none := by rw [stamp.chars_eq, day?_frontThen]
  refine ⟨t, ?_, ?_, hnanos⟩
  · rw [read?, Timestamp.text, String.toList_ofList, hday, hread, hat]
    rfl
  · rw [hseconds, Timestamp.localSeconds]
    omega

/-- Midnight, with its time written, is read as the day is. -/
private theorem read?_midnight (day : Day) :
    ∃ t, read? (day.text ++ "T00:00:00Z") = some t ∧ t.seconds = day.seconds ∧ t.nanos = 0 := by
  obtain ⟨t, hread, hseconds, hnanos⟩ := read?_timestamp day.midnight
  rw [day.text_midnight] at hread
  have hlocal : day.midnight.localSeconds = day.seconds := Int.add_zero _
  have hsecond : (day.midnight.second - 59 : Nat) = 0 := rfl
  have hzone : day.midnight.zone.seconds = 0 := rfl
  have hfraction : decimalValue day.midnight.fraction = 0 := rfl
  rw [hlocal, hsecond, hzone] at hseconds
  rw [hfraction, hsecond] at hnanos
  exact ⟨t, hread, by omega, by omega⟩

/-- A timestamp denotes the instant that lies so many seconds from the start of 1970 as the local
    calendar and clock count, less the offset, and so many nanoseconds as its fraction has; and a
    day denotes its midnight in universal time. -/
theorem read_timestamp_denotes (stamp : Timestamp) (hsecond : stamp.second ≤ 59) (day : Day) :
    (∃ t, read? stamp.text = some t ∧
      t.seconds = stamp.localSeconds - stamp.zone.seconds ∧
      t.nanos * Nat.pow 10 stamp.fraction.length =
        decimalValue stamp.fraction * nanosPerSecond) ∧
    ∃ t, read? day.text = some t ∧ read? (day.text ++ "T00:00:00Z") = some t ∧
      t.seconds = day.seconds ∧ t.nanos = 0 := by
  constructor
  · obtain ⟨t, hread, hseconds, hnanos⟩ := read?_timestamp stamp
    rw [Nat.sub_eq_zero_of_le hsecond] at hseconds hnanos
    refine ⟨t, hread, by omega, ?_⟩
    rw [hnanos, Nat.zero_mul, Nat.add_zero, Nat.mul_assoc, stamp.scale_fraction]
  · obtain ⟨t, hread, hseconds, hnanos⟩ := read?_day day
    obtain ⟨u, hread', hseconds', hnanos'⟩ := read?_midnight day
    -- both are the instant at the start of the day
    have heq : u = t := eq_of_parts (hseconds'.trans hseconds.symm) (hnanos'.trans hnanos.symm)
    exact ⟨t, hread, heq ▸ hread', hseconds, hnanos⟩

/-- The last second of the years of four digits, in a place where it is not over yet. -/
def yearsEnd : Timestamp :=
  { day := ⟨⟨9999, 12, 31⟩, by decide, by decide, by decide⟩, separator := 't',
    separator_mem := by decide, hour := 23, hour_le := by decide, minute := 59,
    minute_le := by decide, second := 59, second_le := by decide, fraction := ['2', '5'],
    fraction_digits := List.all_eq_true.mp rfl, fraction_length := by decide, zone := .west 0 1 }

/-- An offset may lead out of the years of four digits. -/
theorem read_timestamp_denotes_years_end :
    yearsEnd.second ≤ 59 ∧
      (∃ t, read? "9999-12-31t23:59:59.25-00:01" = some t ∧ t.seconds = 253402300859 ∧
        t.nanos = 250000000) ∧
      ∃ t, read? "0000-02-29" = some t ∧ read? "0000-02-29T00:00:00Z" = some t := by
  have hsecond : yearsEnd.second ≤ 59 := by decide
  obtain ⟨⟨t, hread, hseconds, hnanos⟩, u, hday, hmidnight, -⟩ :=
    read_timestamp_denotes yearsEnd hsecond ⟨⟨0, 2, 29⟩, by decide, by decide, by decide⟩
  have hdistance : yearsEnd.localSeconds - yearsEnd.zone.seconds = 253402300859 := by
    rw [Timestamp.localSeconds, Day.seconds_eq]
    rfl
  have hvalue : t.nanos * 100 = 25 * 1000000000 := hnanos
  exact ⟨hsecond, ⟨t, hread, hseconds.trans hdistance, by omega⟩, u, hday, hmidnight⟩

/-! ## Instants -/

/-- The milliseconds of an instant have three digits. -/
private theorem millis_lt (t : Instant) : t.nanos % nanosPerSecond / 1000000 < Nat.pow 10 3 := by
  rw [nanosPerSecond, show Nat.pow 10 3 = 1000 from rfl]
  omega

/-- The timestamp that is written for an instant. -/
def timestamp (t : Instant) (hyear : 0 ≤ t.date.year) (hyear' : t.date.year ≤ 9999) :
    Timestamp where
  day := ⟨t.date, t.isValid_date, hyear, hyear'⟩
  separator := 'T'
  separator_mem := by decide
  hour := t.secondOfDay / 3600
  hour_le := by
    have hlt := t.secondOfDay_lt
    omega
  minute := t.secondOfDay / 60 % 60
  minute_le := by omega
  second := t.secondOfDay % 60 + t.nanos / nanosPerSecond
  second_le := by
    have hnanos := t.nanos_lt
    unfold nanosPerSecond at *
    omega
  fraction := padded 3 (t.nanos % nanosPerSecond / 1000000)
  fraction_digits := fun _ => isDigit_of_mem_padded
  fraction_length := by
    rw [length_padded (by decide) (millis_lt t)]
    decide
  zone := .utc false

/-- The text of an instant is that of its timestamp. -/
private theorem chars_timestamp (t : Instant) (hyear : 0 ≤ t.date.year)
    (hyear' : t.date.year ≤ 9999) : (t.timestamp hyear hyear').chars = t.chars := by
  -- years of four digits have no sign
  have hyears : yearChars t.date.year = padded 4 t.date.year.toNat := by
    rw [yearChars, if_pos ⟨hyear, hyear'⟩, show t.date.year.natAbs = t.date.year.toNat by omega]
  have hfraction : ∀ n, Timestamp.fractionChars (padded 3 n) = '.' :: padded 3 n := by
    intro n
    obtain ⟨c, rest, hcons, -⟩ := exists_padded_cons 3 n
    rw [hcons]
    rfl
  simp only [Timestamp.chars, timestamp, Day.chars, chars, Date.chars, hyears, hfraction,
    List.append_assoc, List.cons_append]
  rfl

/-- An instant without what is shorter than a millisecond. -/
def truncated (t : Instant) : Instant :=
  ⟨t.seconds, t.nanos / 1000000 * 1000000,
    by
      have hnanos := t.nanos_lt
      omega,
    t.lowest_le, t.le_highest⟩

/-- What is shorter than a millisecond does not show in the text. -/
private theorem chars_truncated (t : Instant) : t.truncated.chars = t.chars := by
  have hleap : t.truncated.nanos / nanosPerSecond = t.nanos / nanosPerSecond := by
    simp only [truncated, nanosPerSecond]
    omega
  have hmillis : t.truncated.nanos % nanosPerSecond / 1000000 =
      t.nanos % nanosPerSecond / 1000000 := by
    simp only [truncated, nanosPerSecond]
    omega
  simp only [chars, hleap, hmillis]
  rfl

/-- The seconds that are read from the text of an instant are those on a clock: a leap second is
    written as the next second of its minute, and only the sixtieth is read as a leap second. -/
private theorem seconds_onClock (t : Instant) :
    t.onClock.seconds =
      t.seconds + (t.nanos / nanosPerSecond : Nat) -
        (t.secondOfDay % 60 + t.nanos / nanosPerSecond - 59 : Nat) := by
  have hnanos := t.nanos_lt
  -- the second of the minute is that of the day, since days have whole minutes
  have hsecond : (t.secondOfDay : Int) % 60 = t.seconds % 60 := by
    unfold secondOfDay secondsPerDay
    omega
  by_cases h : t.IsOnClock
  · rw [onClock_of_isOnClock h]
    unfold IsOnClock nanosPerSecond at *
    omega
  · rw [(onClock_parts h).1]
    unfold IsOnClock nanosPerSecond at *
    omega

/-- The nanoseconds on a clock are more than those of a second only in the sixtieth second. -/
private theorem nanos_onClock (t : Instant) :
    t.onClock.nanos = t.nanos % nanosPerSecond +
      (t.secondOfDay % 60 + t.nanos / nanosPerSecond - 59) * nanosPerSecond := by
  have hnanos := t.nanos_lt
  -- a day is a whole number of minutes
  have hsecond : (t.secondOfDay : Int) % 60 = t.seconds % 60 := by
    unfold secondOfDay secondsPerDay
    omega
  by_cases h : t.IsOnClock
  · rw [onClock_of_isOnClock h]
    unfold IsOnClock nanosPerSecond at *
    omega
  · have hparts := (onClock_parts h).2
    unfold IsOnClock nanosPerSecond at *
    omega

/-- Reading the text of an instant gives the instant on a clock, with its fraction of a second cut
    off behind the milliseconds, so that its text is the same.  An instant that a clock shows is had
    back itself. -/
theorem read_text_truncates (t : Instant) (hyear : 0 ≤ t.date.year) (hyear' : t.date.year ≤ 9999) :
    read? t.text = some t.onClock.truncated ∧ t.onClock.truncated.text = t.text ∧
      (t.IsOnClock → read? t.text = some t.truncated) := by
  have hread : read? t.text = some t.onClock.truncated := by
    -- the text is that of the timestamp, which is read as the instant on a clock
    obtain ⟨u, hread, hseconds, hnanos⟩ := read?_timestamp (t.timestamp hyear hyear')
    have htext : (t.timestamp hyear hyear').text = t.text := by
      rw [Timestamp.text, chars_timestamp, text]
    have hclock := t.seconds_eq
    have hlt := t.secondOfDay_lt
    have hsame : u.seconds = t.onClock.seconds := by
      rw [hseconds, seconds_onClock, Timestamp.localSeconds, Day.seconds_eq]
      simp only [timestamp, Zone.seconds]
      omega
    have hmillis : u.nanos = t.onClock.nanos / 1000000 * 1000000 := by
      rw [hnanos, nanos_onClock]
      simp only [timestamp, decimalValue_padded, length_padded (by decide) (millis_lt t)]
      rw [show Nat.pow 10 (9 - 3) = 1000000 from rfl]
      unfold nanosPerSecond
      omega
    rw [← htext, hread, eq_of_parts (u := t.onClock.truncated) hsame hmillis]
  refine ⟨hread, ?_, fun hclock => ?_⟩
  · rw [text, chars_truncated, chars_onClock, text]
  · rw [hread, onClock_of_isOnClock hclock]

/-- An instant in the leap second before the start of 2017. -/
def leapSecond : Instant := ⟨1483228799, 1500123456, by decide, by decide, by decide⟩

/-- A leap second is read back up to the milliseconds. -/
theorem read_text_truncates_leap_second :
    (0 ≤ leapSecond.date.year ∧ leapSecond.date.year ≤ 9999) ∧ leapSecond.IsOnClock ∧
      leapSecond.text = "2016-12-31T23:59:60.500Z" ∧
      read? "2016-12-31T23:59:60.500Z" = some leapSecond.truncated ∧
      (leapSecond.truncated.seconds, leapSecond.truncated.nanos) = (1483228799, 1500000000) := by
  have hyear : 0 ≤ leapSecond.date.year ∧ leapSecond.date.year ≤ 9999 := by decide
  have hclock : leapSecond.IsOnClock := by decide
  have htext : leapSecond.text = "2016-12-31T23:59:60.500Z" := rfl
  refine ⟨hyear, hclock, htext, ?_, rfl⟩
  rw [← htext]
  exact (read_text_truncates leapSecond hyear.1 hyear.2).2.2 hclock

/-- A leap second in the middle of a minute is written as the second that follows it, and that is
    what is read. -/
theorem read_text_stray_leap_second :
    (0 ≤ strayLeapSecond.date.year ∧ strayLeapSecond.date.year ≤ 9999) ∧
      strayLeapSecond.text = "2024-01-01T00:00:31.500Z" ∧
      read? strayLeapSecond.text = some nextSecond ∧
      read? strayLeapSecond.text ≠ some strayLeapSecond.truncated := by
  have hread : read? strayLeapSecond.text = some nextSecond := by decide +kernel
  refine ⟨by decide, rfl, hread, ?_⟩
  rw [hread]
  decide

end Instant

end Sift
