import Sift.Instant.Printer
import Sift.Proofs.Instant.Shift
import Sift.Proofs.Text.Digits

/-!
# Texts of instants

The text of an instant determines the instant on a clock (`Instant.onClock`), up to what is shorter
than a millisecond (`Instant.chars_eq_iff`).  A clock has leap seconds only behind the last second
of a minute; a leap second behind any other second is written as the second that follows it, so its
text is that of another instant.

Numbers in the text are padded to a fixed width, so each of them can be split off where it ends;
only the year, which may have more digits and a sign, is a run of digits that ends at the hyphen
behind it.
-/

namespace Sift

open Char (isDigit)
open Text (decimalValue)

/-! ## Padded numbers -/

/-- Padding does not change the value of a number. -/
@[simp] theorem decimalValue_padded (width n : Nat) : decimalValue (padded width n) = n := by
  unfold padded
  rw [Text.decimalValue_zeros_append, Text.decimalValue_toDigits]

/-- A padded number is written in digits. -/
theorem isDigit_of_mem_padded {width n : Nat} {c : Char} (h : c ∈ padded width n) :
    isDigit c = true := by
  unfold padded at h
  rcases List.mem_append.mp h with hzero | hdigit
  · rw [(List.mem_replicate.mp hzero).2]
    rfl
  · exact Text.isDigit_of_mem_toDigits hdigit

/-- A padded number has a first digit. -/
theorem exists_padded_cons (width n : Nat) :
    ∃ c rest, padded width n = c :: rest ∧ isDigit c = true := by
  have hne : padded width n ≠ [] := by simp [padded, Nat.toDigits_ne_nil]
  obtain ⟨c, rest, hcons⟩ := List.exists_cons_of_ne_nil hne
  exact ⟨c, rest, hcons, isDigit_of_mem_padded (hcons ▸ List.mem_cons_self)⟩

/-- A number that is small enough is written in exactly the given width. -/
theorem length_padded {width n : Nat} (hwidth : 0 < width) (h : n < Nat.pow 10 width) :
    (padded width n).length = width := by
  have hle : (Nat.toDigits 10 n).length ≤ width :=
    (Nat.length_toDigits_le_iff (by decide) hwidth).mpr h
  unfold padded
  rw [List.length_append, List.length_replicate]
  omega

/-- Different numbers are padded to different digits. -/
theorem padded_injective {width m n : Nat} (h : padded width m = padded width n) : m = n := by
  rw [← decimalValue_padded width m, h, decimalValue_padded]

/-- Padded numbers are split off by their width. -/
private theorem padded_append_inj {width m n : Nat} {r s : List Char} (hwidth : 0 < width)
    (hm : m < Nat.pow 10 width) (hn : n < Nat.pow 10 width)
    (h : padded width m ++ r = padded width n ++ s) : m = n ∧ r = s := by
  have hlength : (padded width m).length = (padded width n).length := by
    rw [length_padded hwidth hm, length_padded hwidth hn]
  obtain ⟨hnumber, hrest⟩ := List.append_inj h hlength
  exact ⟨padded_injective hnumber, hrest⟩

/-! ## Years -/

/-- The sign of a year, where one is written. -/
def yearSign (year : Int) : List Char :=
  if 0 ≤ year ∧ year ≤ 9999 then [] else [if year < 0 then '-' else '+']

/-- A year is written in its sign and at least four digits. -/
private theorem yearChars_eq (year : Int) :
    yearChars year = yearSign year ++ padded 4 year.natAbs := by
  unfold yearChars yearSign
  split
  · rfl
  · rfl

/-- The sign tells years of the same magnitude apart. -/
private theorem year_eq_of_sign {y y' : Int} (hsign : yearSign y = yearSign y')
    (habs : y.natAbs = y'.natAbs) : y = y' := by
  unfold yearSign at hsign
  -- years of four digits have no sign, and all others have one
  by_cases hy : 0 ≤ y ∧ y ≤ 9999
  · by_cases hy' : 0 ≤ y' ∧ y' ≤ 9999
    · omega
    · rw [if_pos hy, if_neg hy'] at hsign
      cases hsign
  · by_cases hy' : 0 ≤ y' ∧ y' ≤ 9999
    · rw [if_neg hy, if_pos hy'] at hsign
      cases hsign
    · -- both years have a sign, and the same one
      rw [if_neg hy, if_neg hy'] at hsign
      have hchar := (List.cons.inj hsign).1
      split at hchar <;> split at hchar
      · omega
      · cases hchar
      · cases hchar
      · omega

/-- A year is told from what follows the hyphen behind it. -/
private theorem yearChars_append_inj {y y' : Int} {r s : List Char}
    (h : yearChars y ++ '-' :: r = yearChars y' ++ '-' :: s) : y = y' ∧ r = s := by
  have hsign : ∀ year : Int, ∀ c ∈ yearSign year, (!isDigit c) = true := by
    intro year c hc
    unfold yearSign at hc
    split at hc
    · cases hc
    · rw [List.mem_singleton.mp hc]
      split <;> rfl
  have hdigits : ∀ (n : Nat) (rest : List Char),
      (padded 4 n ++ rest).head?.all (!!isDigit ·) = true := by
    intro n rest
    obtain ⟨c, tail, hcons, hdigit⟩ := exists_padded_cons 4 n
    simp [hcons, hdigit]
  rw [yearChars_eq, yearChars_eq, List.append_assoc, List.append_assoc] at h
  -- the sign ends at the first digit, and the digits end at the hyphen
  obtain ⟨hsigns, hnumbers⟩ :=
    Text.run_append_inj (hsign y) (hsign y') (hdigits _ _) (hdigits _ _) h
  obtain ⟨habs, hrest⟩ := Text.run_append_inj (fun _ => isDigit_of_mem_padded)
    (fun _ => isDigit_of_mem_padded) rfl rfl hnumbers
  exact ⟨year_eq_of_sign hsigns (padded_injective habs), (List.cons.inj hrest).2⟩

/-! ## Instants -/

/-- The months and the days of valid dates have two digits. -/
theorem Date.IsValid.lt_hundred {date : Date} (h : date.IsValid) :
    date.month < 100 ∧ date.day < 100 := by
  -- the lengths of the months, in leap years and in others
  have hlength : ∀ leap : Bool, ∀ index < 12, (monthLengths leap).getD index 0 < 100 := by decide
  obtain ⟨hmonth, hmonth', -, hday⟩ := h
  have hmonthLength := hlength (isLeap date.year) (date.month - 1) (by omega)
  unfold monthLength at hday
  omega

/-- A date is told from what follows it. -/
theorem Date.chars_append_inj {d d' : Date} (h : d.IsValid) (h' : d'.IsValid) {r s : List Char}
    (heq : d.chars ++ r = d'.chars ++ s) : d = d' ∧ r = s := by
  simp only [Date.chars, List.append_assoc, List.cons_append] at heq
  obtain ⟨hyear, hmonths⟩ := yearChars_append_inj heq
  obtain ⟨hmonth, hdays⟩ :=
    padded_append_inj (by decide) h.lt_hundred.1 h'.lt_hundred.1 hmonths
  obtain ⟨hday, hrest⟩ :=
    padded_append_inj (by decide) h.lt_hundred.2 h'.lt_hundred.2 (List.cons.inj hdays).2
  refine ⟨?_, hrest⟩
  obtain ⟨year, month, day⟩ := d
  obtain ⟨year', month', day'⟩ := d'
  rw [show year = year' from hyear, show month = month' from hmonth, show day = day' from hday]

namespace Instant

/-- The seconds of an instant are those of its day and of the time of day. -/
theorem seconds_eq (t : Instant) :
    t.seconds = t.date.dayNumber * secondsPerDay + t.secondOfDay :=
  (seconds_eq_iff t.isValid_date t.secondOfDay_lt).mpr ⟨rfl, rfl⟩

/-- An instant is given by its seconds and its nanoseconds. -/
theorem eq_of_parts {t u : Instant} (hseconds : t.seconds = u.seconds)
    (hnanos : t.nanos = u.nanos) : t = u := by
  obtain ⟨seconds, nanos, _, _, _⟩ := t
  obtain ⟨seconds', nanos', _, _, _⟩ := u
  cases hseconds
  cases hnanos
  rfl

/-! ## Instants on a clock -/

/-- An instant that a clock shows: only the last second of a minute is followed by a leap second. -/
def IsOnClock (t : Instant) : Prop := t.nanos < nanosPerSecond ∨ t.seconds % 60 = 59

instance (t : Instant) : Decidable t.IsOnClock := inferInstanceAs (Decidable (_ ∨ _))

/-- The instant that a clock shows.  A leap second behind a second that is not the last of its
    minute is the second that follows. -/
def onClock (t : Instant) : Instant :=
  if h : t.IsOnClock then t
  else ⟨t.seconds + 1, t.nanos - nanosPerSecond,
    by
      have hnanos := t.nanos_lt
      omega,
    by
      have hlow := t.lowest_le
      omega,
    by
      -- the last second of the range ends a minute, so another one comes after this
      have hhigh := t.le_highest
      unfold IsOnClock at h
      omega⟩

/-- An instant that a clock shows is shown as it is. -/
theorem onClock_of_isOnClock {t : Instant} (h : t.IsOnClock) : t.onClock = t := dif_pos h

/-- What a clock shows is on a clock. -/
private theorem isOnClock_onClock (t : Instant) : t.onClock.IsOnClock := by
  unfold onClock
  split
  · assumption
  · have hnanos := t.nanos_lt
    exact .inl (show t.nanos - nanosPerSecond < nanosPerSecond by omega)

/-- The parts of the instant that a clock shows in place of one that it does not have. -/
theorem onClock_parts {t : Instant} (h : ¬ t.IsOnClock) :
    t.onClock.seconds = t.seconds + 1 ∧ t.onClock.nanos + nanosPerSecond = t.nanos := by
  have hleap : nanosPerSecond ≤ t.nanos := Nat.le_of_not_lt fun hlt => h (.inl hlt)
  rw [onClock, dif_neg h]
  exact ⟨rfl, Nat.sub_add_cancel hleap⟩

/-- The text of an instant is that of the instant on a clock. -/
theorem chars_onClock (t : Instant) : t.onClock.chars = t.chars := by
  by_cases h : t.IsOnClock
  · rw [onClock_of_isOnClock h]
  · obtain ⟨hseconds, hnanos⟩ := onClock_parts h
    have htwo := t.nanos_lt
    have hminute : t.seconds % 60 ≠ 59 := fun heq => h (.inr heq)
    -- the second that follows lies in the same minute, so only the second of the minute changes
    have hday : t.onClock.seconds / secondsPerDay = t.seconds / secondsPerDay := by
      unfold secondsPerDay
      omega
    have hclock : t.onClock.secondOfDay = t.secondOfDay + 1 := by
      unfold secondOfDay secondsPerDay
      omega
    have hfollows : t.secondOfDay % 60 ≠ 59 := by
      unfold secondOfDay secondsPerDay
      omega
    have hhour : (t.secondOfDay + 1) / 3600 = t.secondOfDay / 3600 := by omega
    have hminutes : (t.secondOfDay + 1) / 60 % 60 = t.secondOfDay / 60 % 60 := by omega
    have hsecond : (t.secondOfDay + 1) % 60 + t.onClock.nanos / nanosPerSecond =
        t.secondOfDay % 60 + t.nanos / nanosPerSecond := by
      unfold nanosPerSecond at *
      omega
    have hmillis : t.onClock.nanos % nanosPerSecond = t.nanos % nanosPerSecond := by
      unfold nanosPerSecond at *
      omega
    simp only [chars, date, hday, hclock, hhour, hminutes, hsecond, hmillis]

/-- The text of an instant on a clock, in whole milliseconds, determines the instant. -/
private theorem chars_injective {t u : Instant} (htclock : t.IsOnClock) (huclock : u.IsOnClock)
    (ht : t.nanos % 1000000 = 0) (hu : u.nanos % 1000000 = 0) (h : t.chars = u.chars) : t = u := by
  have htsecond := t.secondOfDay_lt
  have husecond := u.secondOfDay_lt
  have htnanos := t.nanos_lt
  have hunanos := u.nanos_lt
  -- a leap second is the sixtieth of its minute
  have htleap : t.nanos < nanosPerSecond ∨ t.secondOfDay % 60 = 59 := by
    unfold IsOnClock secondOfDay secondsPerDay at *
    omega
  have huleap : u.nanos < nanosPerSecond ∨ u.secondOfDay % 60 = 59 := by
    unfold IsOnClock secondOfDay secondsPerDay at *
    omega
  unfold nanosPerSecond at *
  simp only [chars, nanosPerSecond, List.append_assoc, List.cons_append] at h
  -- the numbers of the text are split off one after the other: the date, the hour, the minute, the
  -- second and the milliseconds
  obtain ⟨hdate, h⟩ := Date.chars_append_inj t.isValid_date u.isValid_date h
  obtain ⟨hhour, h⟩ := padded_append_inj (by decide)
    (show t.secondOfDay / 3600 < 100 by omega) (show u.secondOfDay / 3600 < 100 by omega)
    (List.cons.inj h).2
  obtain ⟨hminute, h⟩ := padded_append_inj (by decide)
    (show t.secondOfDay / 60 % 60 < 100 by omega) (show u.secondOfDay / 60 % 60 < 100 by omega)
    (List.cons.inj h).2
  obtain ⟨hsecond, h⟩ := padded_append_inj (by decide)
    (show t.secondOfDay % 60 + t.nanos / 1000000000 < 100 by omega)
    (show u.secondOfDay % 60 + u.nanos / 1000000000 < 100 by omega) (List.cons.inj h).2
  obtain ⟨hmillis, -⟩ := padded_append_inj (by decide)
    (show t.nanos % 1000000000 / 1000000 < 1000 by omega)
    (show u.nanos % 1000000000 / 1000000 < 1000 by omega) (List.cons.inj h).2
  -- only a leap second shows the number sixty, so the seconds and the nanoseconds can be told apart
  have hnanos : t.nanos = u.nanos := by omega
  have hclock : t.secondOfDay = u.secondOfDay := by omega
  have hseconds : t.seconds = u.seconds := by rw [t.seconds_eq, u.seconds_eq, hdate, hclock]
  exact eq_of_parts hseconds hnanos

/-- A clock shows whole milliseconds where the instant has them. -/
private theorem nanos_onClock_mod {t : Instant} (h : t.nanos % 1000000 = 0) :
    t.onClock.nanos % 1000000 = 0 := by
  by_cases hclock : t.IsOnClock
  · rw [onClock_of_isOnClock hclock, h]
  · have hnanos := (onClock_parts hclock).2
    unfold nanosPerSecond at hnanos
    omega

/-- Instants in whole milliseconds have the same text exactly if a clock shows the same for both. -/
theorem chars_eq_iff {t u : Instant} (ht : t.nanos % 1000000 = 0) (hu : u.nanos % 1000000 = 0) :
    t.chars = u.chars ↔ t.onClock = u.onClock := by
  constructor
  · intro h
    rw [← t.chars_onClock, ← u.chars_onClock] at h
    exact chars_injective t.isOnClock_onClock u.isOnClock_onClock (nanos_onClock_mod ht)
      (nanos_onClock_mod hu) h
  · intro h
    rw [← t.chars_onClock, h, u.chars_onClock]

/-- The middle of a leap second that follows the thirtieth second of its minute. -/
def strayLeapSecond : Instant := ⟨1704067230, 1500000000, by decide, by decide, by decide⟩

/-- The middle of the second that comes next. -/
def nextSecond : Instant := ⟨1704067231, 500000000, by decide, by decide, by decide⟩

end Instant

end Sift
