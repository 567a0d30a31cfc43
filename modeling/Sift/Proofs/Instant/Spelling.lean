import Sift.Proofs.Instant.Timestamp
import Sift.Proofs.Operand.RelativeDate

/-!
# All texts that are read as instants

A text is read as an instant exactly if it writes a day or a timestamp that denotes the instant
(`read?_eq_some_iff`).

* A `WrittenDay` is more than the text of a `Day`: blanks may stand before each of its numbers, the
  year may have a sign and then any number of digits, and all numbers may have too few digits.
* A `WrittenStamp` is the text of a `Timestamp`, but more than nine digits may stand in its
  fraction, and a minus sign may stand for the hyphen of its offset.

Each reader has a pair of lemmas: what it reads stands in the text (`exists_written_day` for whole
days), and what stands in the text is read (`day?_written`).
-/

namespace Sift

open Char (isDigit)
open Text (decimalValue)
open Operand (Amount Sign)

/-! ## Written days -/

/-- Blanks, and a number of up to two digits behind them. -/
structure WrittenNumber where
  blanks : List Char
  isWhiteSpace_of_mem : ∀ c ∈ blanks, Unicode.isWhiteSpace c = true
  digits : List Char
  nonempty : digits ≠ []
  isDigit_of_mem : ∀ c ∈ digits, isDigit c = true
  length_le : digits.length ≤ 2

namespace WrittenNumber

def chars (number : WrittenNumber) : List Char := number.blanks ++ number.digits

def value (number : WrittenNumber) : Nat := decimalValue number.digits

/-- Two digits, and nothing before them. -/
def IsStandard (number : WrittenNumber) : Prop := number.blanks = [] ∧ number.digits.length = 2

end WrittenNumber

/-- A day in one of the forms in which days are read. -/
structure WrittenDay where
  blanks : List Char
  isWhiteSpace_of_mem : ∀ c ∈ blanks, Unicode.isWhiteSpace c = true
  year : Amount
  /-- Only behind a sign a year has more than four digits. -/
  length_le : year.sign = .none → year.digits.length ≤ 4
  month : WrittenNumber
  day : WrittenNumber

namespace WrittenDay

def chars (written : WrittenDay) : List Char :=
  written.blanks ++ (written.year.sign.chars ++ (written.year.digits ++
    '-' :: (written.month.chars ++ '-' :: written.day.chars)))

def text (written : WrittenDay) : String := String.ofList written.chars

def date (written : WrittenDay) : Date :=
  ⟨written.year.value, written.month.value, written.day.value⟩

/-- An instant is the midnight of a written day, which the calendar has. -/
def Denotes (written : WrittenDay) (t : Instant) : Prop :=
  written.date.IsValid ∧ t.seconds = written.date.dayNumber * secondsPerDay ∧ t.nanos = 0

/-- Four, two and two digits, with nothing before them. -/
def IsStandard (written : WrittenDay) : Prop :=
  written.blanks = [] ∧ written.year.sign = .none ∧ written.year.digits.length = 4 ∧
    written.month.IsStandard ∧ written.day.IsStandard

end WrittenDay

/-! ## Written timestamps -/

/-- The instant that a timestamp denotes. -/
def Timestamp.Denotes (stamp : Timestamp) (t : Instant) : Prop :=
  t.seconds = stamp.localSeconds - (stamp.second - 59 : Nat) - stamp.zone.seconds ∧
    t.nanos = decimalValue stamp.fraction * Nat.pow 10 (9 - stamp.fraction.length) +
      (stamp.second - 59) * nanosPerSecond

/-- A timestamp in one of the forms in which timestamps are read. -/
structure WrittenStamp where
  stamp : Timestamp
  /-- The digits of the fraction behind the ninth, which do not count. -/
  dropped : List Char
  isDigit_of_mem : ∀ c ∈ dropped, isDigit c = true
  length_eq : dropped ≠ [] → stamp.fraction.length = 9
  /-- Whether a minus sign stands for the hyphen of the offset. -/
  minusSign : Bool
  isWest : minusSign = true → ∃ hours minutes, stamp.zone = .west hours minutes

namespace WrittenStamp

def zoneChars (written : WrittenStamp) : List Char :=
  if written.minusSign then '\u2212' :: written.stamp.zone.chars.tail
  else written.stamp.zone.chars

def chars (written : WrittenStamp) : List Char :=
  written.stamp.frontThen (Timestamp.fractionChars written.stamp.fraction ++
    (written.dropped ++ written.zoneChars))

def text (written : WrittenStamp) : String := String.ofList written.chars

end WrittenStamp

namespace Instant

/-! ## Numbers and marks -/

variable {cs rest : List Char} {n : Nat} {t : Instant}

/-- A mark is read where it stands, and nowhere else. -/
private theorem mark_eq_some_iff {c : Char} : mark c cs = some rest ↔ cs = c :: rest := by
  cases cs with
  | nil => simp [mark]
  | cons c' cs =>
    by_cases hc : c' = c
    · simp [mark, hc]
    · simp [mark, hc]

/-- Blanks are skipped up to something else. -/
private theorem skipBlank_append {blanks : List Char}
    (hblanks : ∀ c ∈ blanks, Unicode.isWhiteSpace c = true)
    (hrest : rest.head?.all (!Unicode.isWhiteSpace ·) = true) :
    skipBlank (blanks ++ rest) = rest := by
  rw [skipBlank, List.dropWhile_append_of_pos hblanks]
  cases rest with
  | nil => rfl
  | cons c rest =>
    have hc : Unicode.isWhiteSpace c = false := by simpa using hrest
    exact List.dropWhile_cons_of_neg (by simp [hc])

/-- What is skipped are blanks. -/
private theorem exists_blanks (cs : List Char) :
    ∃ blanks, (∀ c ∈ blanks, Unicode.isWhiteSpace c = true) ∧ cs = blanks ++ skipBlank cs :=
  ⟨cs.takeWhile Unicode.isWhiteSpace, List.all_eq_true.mp List.all_takeWhile,
    List.takeWhile_append_dropWhile.symm⟩

/-- Digits in full width are what their value is padded to. -/
theorem padded_decimalValue {digits : List Char} (hnonempty : digits ≠ [])
    (hdigits : ∀ c ∈ digits, isDigit c = true) :
    padded digits.length (decimalValue digits) = digits := by
  have hlength := length_padded (List.length_pos_iff.mpr hnonempty) (Text.decimalValue_lt hdigits)
  exact Text.eq_of_decimalValue hlength (fun _ => isDigit_of_mem_padded) hdigits
    (decimalValue_padded _ _)

/-- A number of fixed width stands in the text as it is padded to this width. -/
private theorem eq_padded_of_exactly {width : Nat} (hwidth : 0 < width)
    (h : exactly width cs = some (n, rest)) :
    n < Nat.pow 10 width ∧ cs = padded width n ++ rest := by
  simp only [exactly] at h
  split at h
  · rename_i hcond
    obtain ⟨hlength, hall⟩ := hcond
    obtain ⟨rfl, rfl⟩ := Prod.mk.inj (Option.some.inj h)
    have hdigits := List.all_eq_true.mp hall
    have hnonempty : cs.take width ≠ [] := by
      rw [← List.length_pos_iff, hlength]
      exact hwidth
    -- digits of the right number are the padded number that they write
    have hpadded := padded_decimalValue hnonempty hdigits
    have hlt := Text.decimalValue_lt hdigits
    rw [hlength] at hpadded hlt
    exact ⟨hlt, by rw [hpadded, List.take_append_drop]⟩
  · cases h

/-- A number of limited width stands in the text in its digits. -/
private theorem exists_digits_of_upTo {most : Nat} (h : upTo most cs = some (n, rest)) :
    ∃ digits, digits ≠ [] ∧ (∀ c ∈ digits, isDigit c = true) ∧ digits.length ≤ most ∧
      cs = digits ++ rest ∧ n = decimalValue digits := by
  -- the digits that are read are a beginning of the text, within its first `most` characters
  have hfront : (cs.take most).takeWhile isDigit <+: cs.take most := List.takeWhile_prefix _
  have hdigits : ∀ c ∈ (cs.take most).takeWhile isDigit, isDigit c = true :=
    List.all_eq_true.mp List.all_takeWhile
  unfold upTo at h
  split at h
  · cases h
  · rename_i hnonempty
    generalize (cs.take most).takeWhile isDigit = digits at *
    obtain ⟨rfl, rfl⟩ := Prod.mk.inj (Option.some.inj h)
    refine ⟨digits, hnonempty, hdigits, ?_, ?_, rfl⟩
    · exact Nat.le_trans hfront.length_le (List.length_take_le _ _)
    · exact (List.prefix_iff_eq_append.mp (hfront.trans (List.take_prefix _ _))).symm

/-! ## Days -/

/-- What is read as a month or as a day of the month is written as one. -/
private theorem exists_written_number (h : upTo 2 (skipBlank cs) = some (n, rest)) :
    ∃ number : WrittenNumber, cs = number.chars ++ rest ∧ n = number.value := by
  obtain ⟨blanks, hblanks, hcs⟩ := exists_blanks cs
  obtain ⟨digits, hnonempty, hdigits, hlength, hskip, hn⟩ := exists_digits_of_upTo h
  refine ⟨⟨blanks, hblanks, digits, hnonempty, hdigits, hlength⟩, ?_, hn⟩
  rw [hcs, hskip, WrittenNumber.chars, List.append_assoc]

/-- Neither a digit nor nothing is a blank. -/
private theorem head_digits {digits : List Char} (hnonempty : digits ≠ [])
    (hdigits : ∀ c ∈ digits, isDigit c = true) (rest : List Char) :
    (digits ++ rest).head?.all (!Unicode.isWhiteSpace ·) = true := by
  obtain ⟨c, tail, rfl⟩ := List.exists_cons_of_ne_nil hnonempty
  simpa using isWhiteSpace_of_isDigit (hdigits c List.mem_cons_self)

/-- What is written as a month or as a day of the month is read as one. -/
private theorem upTo_written (number : WrittenNumber) (hrest : rest.head?.all (!isDigit ·) = true) :
    upTo 2 (skipBlank (number.chars ++ rest)) = some (number.value, rest) := by
  rw [WrittenNumber.chars, List.append_assoc, skipBlank_append number.isWhiteSpace_of_mem
    (head_digits number.nonempty number.isDigit_of_mem rest)]
  exact upTo_append number.nonempty number.isDigit_of_mem number.length_le (.inr hrest)

/-- What is read as a year is written as one. -/
private theorem exists_written_year {y : Int} (h : year cs = some (y, rest)) :
    ∃ amount : Amount, (amount.sign = .none → amount.digits.length ≤ 4) ∧
      cs = amount.sign.chars ++ (amount.digits ++ rest) ∧ y = amount.value := by
  unfold year at h
  -- in all three branches digits are read behind the sign that the branch has taken
  split at h <;> obtain ⟨⟨n, back⟩, hread, heq⟩ := Option.map_eq_some_iff.mp h <;>
    obtain ⟨rfl, rfl⟩ := Prod.mk.inj heq <;>
    obtain ⟨digits, hnonempty, hdigits, hlength, hcs, rfl⟩ := exists_digits_of_upTo hread
  · exact ⟨⟨.minus, digits, hnonempty, hdigits⟩, nofun, by rw [hcs]; rfl, rfl⟩
  · exact ⟨⟨.plus, digits, hnonempty, hdigits⟩, nofun, by rw [hcs]; rfl, rfl⟩
  · exact ⟨⟨.none, digits, hnonempty, hdigits⟩, fun _ => hlength, by rw [hcs]; rfl, rfl⟩

/-- What is written as a year is read as one. -/
private theorem year_written (amount : Amount)
    (hlength : amount.sign = .none → amount.digits.length ≤ 4)
    (hrest : rest.head?.all (!isDigit ·) = true) :
    year (amount.sign.chars ++ (amount.digits ++ rest)) = some (amount.value, rest) := by
  have hread : ∀ most, amount.digits.length ≤ most →
      upTo most (amount.digits ++ rest) = some (decimalValue amount.digits, rest) :=
    fun _ hle => upTo_append amount.nonempty amount.isDigit_of_mem hle (.inr hrest)
  -- behind a sign as many digits may stand as there are characters
  have hall := hread _ (show _ ≤ (amount.digits ++ rest).length by simp)
  unfold Amount.value
  cases hsign : amount.sign with
  | none =>
    obtain ⟨c, tail, hdigits⟩ := List.exists_cons_of_ne_nil amount.nonempty
    have hne := Operand.ne_sign_of_isDigit (amount.isDigit_of_mem c (by simp [hdigits]))
    rw [Sign.chars, List.nil_append]
    unfold year
    -- a sign would be the first digit
    split
    · rename_i heq
      rw [hdigits] at heq
      exact absurd (List.cons.inj heq).1 hne.1
    · rename_i heq
      rw [hdigits] at heq
      exact absurd (List.cons.inj heq).1 hne.2
    · rw [hread 4 (hlength hsign)]
      rfl
  | plus =>
    show (upTo (amount.digits ++ rest).length (amount.digits ++ rest)).map _ = _
    rw [hall]
    rfl
  | minus =>
    show (upTo (amount.digits ++ rest).length (amount.digits ++ rest)).map _ = _
    rw [hall]
    rfl

/-- The instant at a second of a day, which the calendar has to have. -/
private theorem at?_eq_some_iff {date : Date} {second : Int} :
    at? date second n = some t ↔
      date.IsValid ∧ t.seconds = date.dayNumber * secondsPerDay + second ∧ t.nanos = n := by
  unfold at?
  split
  · rename_i hvalid
    rw [ofParts?_eq_some_iff]
    exact ⟨fun h => ⟨hvalid, h⟩, fun h => h.2⟩
  · rename_i hvalid
    exact ⟨nofun, fun h => absurd h.1 hvalid⟩

/-- The instant that a day denotes is its midnight. -/
theorem denotes_day_iff {written : WrittenDay} :
    at? written.date 0 0 = some t ↔ written.Denotes t := by
  rw [at?_eq_some_iff, Int.add_zero]
  rfl

/-- What is read as a day is written as one. -/
theorem exists_written_day (h : day? cs = some t) :
    ∃ written : WrittenDay, cs = written.chars ∧ written.Denotes t := by
  obtain ⟨blanks, hblanks, hcs⟩ := exists_blanks cs
  -- one step per reader: the year, a hyphen, the month, a hyphen and the day of the month
  obtain ⟨⟨y, cs₁⟩, hy, h⟩ := Option.bind_eq_some_iff.mp h
  obtain ⟨cs₂, hmark, h⟩ := Option.bind_eq_some_iff.mp h
  obtain ⟨⟨m, cs₃⟩, hm, h⟩ := Option.bind_eq_some_iff.mp h
  obtain ⟨cs₄, hmark', h⟩ := Option.bind_eq_some_iff.mp h
  obtain ⟨⟨d, cs₅⟩, hd, h⟩ := Option.bind_eq_some_iff.mp h
  dsimp only at hmark hmark' h
  obtain ⟨year, hlength, hyear, rfl⟩ := exists_written_year hy
  obtain ⟨month, hmonth, rfl⟩ := exists_written_number hm
  obtain ⟨day, hday, rfl⟩ := exists_written_number hd
  -- nothing may follow the day of the month
  split at h
  · rename_i hend
    rw [List.isEmpty_iff.mp hend, List.append_nil] at hday
    refine ⟨⟨blanks, hblanks, year, hlength, month, day⟩, ?_, denotes_day_iff.mp h⟩
    rw [hcs, hyear, mark_eq_some_iff.mp hmark, hmonth, mark_eq_some_iff.mp hmark', hday]
    rfl
  · cases h

/-- What is written as a day is read as one. -/
theorem day?_written (written : WrittenDay) : day? written.chars = at? written.date 0 0 := by
  -- what follows the blanks begins with a sign or a digit, so the blanks end there
  have hhead : ∀ rest : List Char, (written.year.sign.chars ++
      (written.year.digits ++ rest)).head?.all (!Unicode.isWhiteSpace ·) = true := by
    intro rest
    cases written.year.sign with
    | none => exact head_digits written.year.nonempty written.year.isDigit_of_mem rest
    | plus => rfl
    | minus => rfl
  have hday : upTo 2 (skipBlank (written.day.chars ++ [])) = _ := upTo_written written.day rfl
  rw [List.append_nil] at hday
  rw [WrittenDay.chars, day?, skipBlank_append written.isWhiteSpace_of_mem (hhead _),
    bind_of_eq_some (year_written written.year written.length_le rfl)]
  dsimp only
  rw [bind_of_eq_some (mark_cons _ _), bind_of_eq_some (upTo_written written.month rfl)]
  dsimp only
  rw [bind_of_eq_some (mark_cons _ _), bind_of_eq_some hday]
  rfl

/-! ## Timestamps -/

/-- What is read as a fraction is written as one. -/
private theorem exists_written_fraction (h : fraction cs = some (n, rest)) :
    ∃ kept dropped, (∀ c ∈ kept, isDigit c = true) ∧ kept.length ≤ 9 ∧
      (∀ c ∈ dropped, isDigit c = true) ∧ (dropped ≠ [] → kept.length = 9) ∧
      cs = Timestamp.fractionChars kept ++ (dropped ++ rest) ∧
      n = decimalValue kept * Nat.pow 10 (9 - kept.length) := by
  unfold fraction at h
  split at h
  · rename_i back
    have hdigits := List.all_eq_true.mp (List.all_takeWhile (p := isDigit) (l := back))
    have hback : back = back.takeWhile isDigit ++ back.drop (back.takeWhile isDigit).length :=
      (List.prefix_iff_eq_append.mp (List.takeWhile_prefix _)).symm
    split at h
    · cases h
    · rename_i hnonempty
      generalize back.takeWhile isDigit = digits at *
      obtain ⟨rfl, rfl⟩ := Prod.mk.inj (Option.some.inj h)
      -- the first nine digits are kept
      refine ⟨digits.take 9, digits.drop 9, fun c hc => hdigits c (List.mem_of_mem_take hc),
        List.length_take_le _ _, fun c hc => hdigits c (List.mem_of_mem_drop hc), ?_, ?_, rfl⟩
      · intro hdropped
        rw [ne_eq, List.drop_eq_nil_iff, Nat.not_le] at hdropped
        rw [List.length_take]
        omega
      · have hchars : Timestamp.fractionChars (digits.take 9) = '.' :: digits.take 9 := by
          cases digits with
          | nil => exact absurd rfl hnonempty
          | cons c digits => rfl
        rw [hchars, List.cons_append, ← List.append_assoc, List.take_append_drop, ← hback]
  · obtain ⟨rfl, rfl⟩ := Prod.mk.inj (Option.some.inj h)
    exact ⟨[], [], nofun, by decide, nofun, absurd rfl, rfl, rfl⟩

/-- What is read as the clock of an offset is written as one. -/
private theorem exists_written_clock {east : Int} (h : offset.clock cs = some (east, rest)) :
    ∃ (hours : Fin 24) (minutes : Fin 60), cs = Zone.clockChars hours minutes ++ rest ∧
      east = ((hours * 60 + minutes) * 60 : Nat) := by
  obtain ⟨⟨hours, cs₁⟩, hh, h⟩ := Option.bind_eq_some_iff.mp h
  obtain ⟨cs₂, hmark, h⟩ := Option.bind_eq_some_iff.mp h
  obtain ⟨⟨minutes, cs₃⟩, hm, h⟩ := Option.bind_eq_some_iff.mp h
  dsimp only at hmark h
  split at h
  · rename_i hle
    obtain ⟨rfl, rfl⟩ := Prod.mk.inj (Option.some.inj h)
    have hhours := (eq_padded_of_exactly (by decide) hh).2
    have hminutes := (eq_padded_of_exactly (by decide) hm).2
    refine ⟨⟨hours, by omega⟩, ⟨minutes, by omega⟩, ?_, rfl⟩
    rw [hhours, mark_eq_some_iff.mp hmark, hminutes, Zone.clockChars, List.append_assoc,
      List.cons_append]
  · cases h

/-- The offset of a written timestamp, where a minus sign may stand for the hyphen. -/
private theorem exists_written_zone {east : Int} (h : offset cs = some (east, rest)) :
    ∃ (zone : Zone) (minusSign : Bool),
      (minusSign = true → ∃ hours minutes, zone = .west hours minutes) ∧
      cs = (if minusSign then '\u2212' :: zone.chars.tail else zone.chars) ++ rest ∧
      east = zone.seconds := by
  unfold offset at h
  -- one branch per spelling: `Z`, `z`, `+`, `-` and the minus sign
  split at h
  · obtain ⟨rfl, rfl⟩ := Prod.mk.inj (Option.some.inj h)
    exact ⟨.utc false, false, nofun, rfl, rfl⟩
  · obtain ⟨rfl, rfl⟩ := Prod.mk.inj (Option.some.inj h)
    exact ⟨.utc true, false, nofun, rfl, rfl⟩
  · obtain ⟨hours, minutes, rfl, rfl⟩ := exists_written_clock h
    exact ⟨.east hours minutes, false, nofun, rfl, rfl⟩
  · obtain ⟨⟨east', back⟩, hclock, heq⟩ := Option.map_eq_some_iff.mp h
    obtain ⟨rfl, rfl⟩ := Prod.mk.inj heq
    obtain ⟨hours, minutes, rfl, rfl⟩ := exists_written_clock hclock
    exact ⟨.west hours minutes, false, nofun, rfl, rfl⟩
  · obtain ⟨⟨east', back⟩, hclock, heq⟩ := Option.map_eq_some_iff.mp h
    obtain ⟨rfl, rfl⟩ := Prod.mk.inj heq
    obtain ⟨hours, minutes, rfl, rfl⟩ := exists_written_clock hclock
    exact ⟨.west hours minutes, true, fun _ => ⟨hours, minutes, rfl⟩, rfl, rfl⟩
  · cases h

/-- One of the separators stands before the time. -/
private theorem exists_separator (h : (mark 'T' cs <|> mark 't' cs <|> mark ' ' cs) = some rest) :
    ∃ c ∈ ['T', 't', ' '], cs = c :: rest := by
  simp only [Option.orElse_eq_orElse, Option.orElse_eq_or, Option.or_eq_some_iff,
    mark_eq_some_iff] at h
  rcases h with h | ⟨-, h | ⟨-, h⟩⟩
  · exact ⟨_, by simp, h⟩
  · exact ⟨_, by simp, h⟩
  · exact ⟨_, by simp, h⟩

/-- The instant that a timestamp denotes is the one at its second of its day. -/
private theorem denotes_stamp_iff {stamp : Timestamp} :
    at? stamp.day.date (((stamp.hour * 60 + stamp.minute) * 60 + min stamp.second 59 : Nat) -
        stamp.zone.seconds)
      (decimalValue stamp.fraction * Nat.pow 10 (9 - stamp.fraction.length) +
        (stamp.second - 59) * nanosPerSecond) = some t ↔ stamp.Denotes t := by
  rw [at?_eq_some_iff, ← stamp.day.seconds_eq, Timestamp.Denotes, Timestamp.localSeconds]
  constructor
  · rintro ⟨-, hseconds, hnanos⟩
    exact ⟨by omega, hnanos⟩
  · rintro ⟨hseconds, hnanos⟩
    exact ⟨stamp.day.isValid, by omega, hnanos⟩

/-- What is read as a timestamp is written as one. -/
private theorem exists_written_stamp (h : timestamp? cs = some t) :
    ∃ written : WrittenStamp, cs = written.chars ∧ written.stamp.Denotes t := by
  obtain ⟨⟨y, cs₁⟩, hy, h⟩ := Option.bind_eq_some_iff.mp h
  obtain ⟨cs₂, hmark₁, h⟩ := Option.bind_eq_some_iff.mp h
  obtain ⟨⟨m, cs₃⟩, hm, h⟩ := Option.bind_eq_some_iff.mp h
  obtain ⟨cs₄, hmark₂, h⟩ := Option.bind_eq_some_iff.mp h
  obtain ⟨⟨d, cs₅⟩, hd, h⟩ := Option.bind_eq_some_iff.mp h
  obtain ⟨cs₆, hs, h⟩ := Option.bind_eq_some_iff.mp h
  obtain ⟨⟨hour, cs₇⟩, hh, h⟩ := Option.bind_eq_some_iff.mp h
  obtain ⟨cs₈, hmark₃, h⟩ := Option.bind_eq_some_iff.mp h
  obtain ⟨⟨minute, cs₉⟩, hmin, h⟩ := Option.bind_eq_some_iff.mp h
  obtain ⟨cs₁₀, hmark₄, h⟩ := Option.bind_eq_some_iff.mp h
  obtain ⟨⟨second, cs₁₁⟩, hsec, h⟩ := Option.bind_eq_some_iff.mp h
  obtain ⟨⟨nanos, cs₁₂⟩, hf, h⟩ := Option.bind_eq_some_iff.mp h
  obtain ⟨⟨east, cs₁₃⟩, ho, h⟩ := Option.bind_eq_some_iff.mp h
  dsimp only at hmark₁ hmark₂ hs hmark₃ hmark₄ hf ho h
  obtain ⟨separator, hmem, hseparator⟩ := exists_separator hs
  obtain ⟨kept, dropped, hkept, hlength, hdropped, hfull, hfraction, rfl⟩ :=
    exists_written_fraction hf
  obtain ⟨zone, minusSign, hwest, hzone, rfl⟩ := exists_written_zone ho
  split at h
  · rename_i hwithin
    obtain ⟨hend, hhour, hminute, hsecond⟩ := hwithin
    rw [List.isEmpty_iff.mp hend, List.append_nil] at hzone
    -- the calendar has the date, since else there would be no instant at all
    have hvalid := (at?_eq_some_iff.mp h).1
    have hyear : y < 10000 := (eq_padded_of_exactly (by decide) hy).1
    refine ⟨⟨⟨⟨⟨y, m, d⟩, hvalid, by simp, by simp; omega⟩, separator, hmem, hour, hhour, minute,
      hminute, second, hsecond, kept, hkept, hlength, zone⟩, dropped, hdropped, hfull, minusSign,
      hwest⟩, ?_, denotes_stamp_iff.mp h⟩
    -- the text is what the readers took, one after the other
    rw [(eq_padded_of_exactly (by decide) hy).2, mark_eq_some_iff.mp hmark₁,
      (eq_padded_of_exactly (by decide) hm).2, mark_eq_some_iff.mp hmark₂,
      (eq_padded_of_exactly (by decide) hd).2, hseparator,
      (eq_padded_of_exactly (by decide) hh).2, mark_eq_some_iff.mp hmark₃,
      (eq_padded_of_exactly (by decide) hmin).2, mark_eq_some_iff.mp hmark₄,
      (eq_padded_of_exactly (by decide) hsec).2, hfraction, hzone]
    rfl
  · cases h

/-- What is written as a timestamp is read as one. -/
private theorem timestamp?_written (written : WrittenStamp) :
    timestamp? written.chars = some t ↔ written.stamp.Denotes t := by
  have hoffset : offset written.zoneChars = some (written.stamp.zone.seconds, []) := by
    have hzone := offset_zone written.stamp.zone
    unfold WrittenStamp.zoneChars
    split
    · rename_i hminus
      -- a minus sign is read as the hyphen is
      obtain ⟨hours, minutes, hwest⟩ := written.isWest hminus
      rw [hwest] at hzone ⊢
      exact hzone
    · exact hzone
  -- a zone begins neither with a digit nor with a point, so the fraction ends before it
  have hhead : ∃ c tail, written.zoneChars = c :: tail ∧ isDigit c = false ∧ c ≠ '.' := by
    unfold WrittenStamp.zoneChars
    split
    · exact ⟨_, _, rfl, by decide, by decide⟩
    · exact head_zone written.stamp.zone
  obtain ⟨c, tail, hcons, hdigit, hpoint⟩ := hhead
  have hfraction := fraction_append written.dropped written.stamp.fraction_digits
    written.stamp.fraction_length written.isDigit_of_mem written.length_eq hcons hdigit hpoint
  rw [WrittenStamp.chars, timestamp?_frontThen written.stamp hfraction hoffset,
    denotes_stamp_iff]

/-! ## All texts -/

/-- The texts that are read as instants are those that write a day or a timestamp. -/
theorem read?_eq_some_iff {text : String} :
    read? text = some t ↔
      (∃ written : WrittenDay, text = written.text ∧ written.Denotes t) ∨
        ∃ written : WrittenStamp, text = written.text ∧ written.stamp.Denotes t := by
  constructor
  · intro h
    rw [read?, Option.orElse_eq_orElse, Option.orElse_eq_or, Option.or_eq_some_iff] at h
    -- a text that is no day is read as a timestamp
    rcases h with h | ⟨-, h⟩
    · obtain ⟨written, hchars, hdenotes⟩ := exists_written_day h
      exact .inl ⟨written, by rw [WrittenDay.text, ← hchars, String.ofList_toList], hdenotes⟩
    · obtain ⟨written, hchars, hdenotes⟩ := exists_written_stamp h
      exact .inr ⟨written, by rw [WrittenStamp.text, ← hchars, String.ofList_toList], hdenotes⟩
  · rintro (⟨written, rfl, hdenotes⟩ | ⟨written, rfl, hdenotes⟩)
    · rw [read?, WrittenDay.text, String.toList_ofList, day?_written,
        denotes_day_iff.mpr hdenotes]
      rfl
    -- a timestamp is no day, since something follows its day of the month
    · rw [read?, WrittenStamp.text, String.toList_ofList,
        (timestamp?_written written).mpr hdenotes, WrittenStamp.chars, day?_frontThen]
      rfl

end Instant

end Sift
