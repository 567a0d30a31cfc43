import Sift.Proofs.Filter.Contains
import Sift.Proofs.Instant.Spelling

/-!
# Absolute dates

The forms of text that stand for an instant on their own.  Two of them are `Standard`: a day in
four, two and two digits, and a timestamp.  The readers take others as well, the `Lenient` ones,
and a text in one of these is in none of the standard forms (`Lenient.not_standard`).

`absolute_date_forms` says what this makes of a text, as the value of a term on a date field and as
the value of a field that is compared with an instant.
-/

namespace Sift

open Char (isDigit)
open Text (decimalValue)
open Operand (Amount Sign)

/-! ## Standard and lenient forms -/

/-- No blanks stand before a digit that a text begins with. -/
private theorem blanks_eq_nil {blanks rest tail : List Char} {digit : Char}
    (hblanks : ∀ c ∈ blanks, Unicode.isWhiteSpace c = true) (hdigit : isDigit digit = true)
    (h : blanks ++ rest = digit :: tail) : blanks = [] := by
  cases blanks with
  | nil => rfl
  | cons c blanks =>
    -- the first character would be a blank and a digit
    have hc := hblanks c (by simp)
    rw [(List.cons.inj h).1, Instant.isWhiteSpace_of_isDigit hdigit] at hc
    cases hc

/-- A run of digits before something else is a number in standard form only if it is two digits. -/
private theorem WrittenNumber.standard_of_append {number : WrittenNumber} {digits r s : List Char}
    (hdigits : ∀ c ∈ digits, isDigit c = true) (hlength : digits.length = 2)
    (hr : r.head?.all (!isDigit ·) = true) (hs : s.head?.all (!isDigit ·) = true)
    (h : number.chars ++ s = digits ++ r) : number.IsStandard ∧ s = r := by
  rw [WrittenNumber.chars, List.append_assoc] at h
  have hblanks : number.blanks = [] := by
    obtain ⟨digit, rest, rfl⟩ := List.exists_cons_of_length_eq_add_one hlength
    exact blanks_eq_nil number.isWhiteSpace_of_mem (hdigits digit (by simp)) h
  rw [hblanks, List.nil_append] at h
  obtain ⟨heq, hrest⟩ := Text.run_append_inj number.isDigit_of_mem hdigits hs hr h
  exact ⟨⟨hblanks, heq ▸ hlength⟩, hrest⟩

namespace WrittenDay

/-- A day that has the text of a date in full width is in standard form. -/
private theorem isStandard_of_chars {written : WrittenDay} {day : Day}
    (h : written.chars = day.chars) : written.IsStandard := by
  obtain ⟨hmonth, hday⟩ := day.isValid.lt_hundred
  have hlength := length_padded (show 0 < 4 by decide) day.year_lt
  obtain ⟨c, tail, hcons, hdigit⟩ := exists_padded_cons 4 day.date.year.toNat
  simp only [chars, Day.chars, List.append_assoc, List.cons_append] at h
  -- neither a blank nor a sign is a digit, with which the date begins
  have hblanks : written.blanks = [] := by
    rw [hcons] at h
    exact blanks_eq_nil written.isWhiteSpace_of_mem hdigit h
  rw [hblanks, List.nil_append] at h
  have hsign : written.year.sign = .none := by
    have hne := Operand.ne_sign_of_isDigit hdigit
    cases hsign : written.year.sign with
    | none => rfl
    | plus =>
      rw [hsign, hcons] at h
      exact absurd (List.cons.inj h).1.symm hne.2
    | minus =>
      rw [hsign, hcons] at h
      exact absurd (List.cons.inj h).1.symm hne.1
  rw [hsign, Sign.chars, List.nil_append] at h
  -- the three numbers are split off one after the other, the year as a run of digits
  obtain ⟨hyear, h⟩ := Text.run_append_inj written.year.isDigit_of_mem
    (fun _ => isDigit_of_mem_padded) rfl rfl h
  obtain ⟨hmonth, h⟩ := WrittenNumber.standard_of_append (fun _ => isDigit_of_mem_padded)
    (length_padded (by decide) hmonth) rfl rfl (List.cons.inj h).2
  obtain ⟨hday, -⟩ := WrittenNumber.standard_of_append (r := []) (s := [])
    (fun _ => isDigit_of_mem_padded) (length_padded (by decide) hday) rfl rfl
    (by rw [List.append_nil, List.append_nil]; exact (List.cons.inj h).2)
  exact ⟨hblanks, hsign, hyear ▸ hlength, hmonth, hday⟩

/-- A valid date in standard form is a day. -/
private theorem exists_day {written : WrittenDay} (h : written.IsStandard)
    (hvalid : written.date.IsValid) :
    ∃ day : Day, day.date = written.date ∧ written.chars = day.chars := by
  obtain ⟨hblanks, hsign, hlength, ⟨hmonthBlanks, hmonth⟩, hdayBlanks, hday⟩ := h
  have hvalue : written.year.value = (decimalValue written.year.digits : Int) := by
    rw [Amount.value, hsign]
  -- without a sign four digits stand for a year of four digits
  have hlt := Text.decimalValue_lt written.year.isDigit_of_mem
  rw [hlength, show Nat.pow 10 4 = 10000 from rfl] at hlt
  have hyear : 0 ≤ written.date.year ∧ written.date.year ≤ 9999 := by
    show 0 ≤ written.year.value ∧ written.year.value ≤ 9999
    rw [hvalue]
    omega
  refine ⟨⟨written.date, hvalid, hyear.1, hyear.2⟩, rfl, ?_⟩
  -- each number is the padded form of its value
  have hyearChars := Instant.padded_decimalValue written.year.nonempty written.year.isDigit_of_mem
  have hmonthChars :=
    Instant.padded_decimalValue written.month.nonempty written.month.isDigit_of_mem
  have hdayChars := Instant.padded_decimalValue written.day.nonempty written.day.isDigit_of_mem
  rw [hlength] at hyearChars
  rw [hmonth] at hmonthChars
  rw [hday] at hdayChars
  simp only [chars, Day.chars, date, hvalue, Int.toNat_natCast, WrittenNumber.value, hyearChars,
    hmonthChars, hdayChars, hblanks, hsign, Sign.chars, WrittenNumber.chars, hmonthBlanks,
    hdayBlanks, List.nil_append, List.append_assoc, List.cons_append]

end WrittenDay

namespace Instant

/-- A text in one of the two standard forms, and the instant that it denotes: a day in four, two and
    two digits, or a timestamp. -/
inductive Standard (text : String) (t : Instant) : Prop
  | day (day : Day) (htext : text = day.text) (hseconds : t.seconds = day.seconds)
      (hnanos : t.nanos = 0)
  | stamp (written : WrittenStamp) (htext : text = written.text)
      (hhyphen : written.minusSign = false) (hdenotes : written.stamp.Denotes t)

/-- A text in another form that is read, and the instant that it denotes: a day with blanks, a sign
    or other numbers of digits, or a timestamp with a minus sign in its offset. -/
inductive Lenient (text : String) (t : Instant) : Prop
  | day (written : WrittenDay) (htext : text = written.text) (hform : ¬ written.IsStandard)
      (hdenotes : written.Denotes t)
  | stamp (written : WrittenStamp) (htext : text = written.text)
      (hminus : written.minusSign = true) (hdenotes : written.stamp.Denotes t)

variable {text : String} {t u : Instant}

/-- A text is read as an instant exactly if it is in one of the forms. -/
private theorem read?_eq_some_iff_form :
    read? text = some t ↔ Standard text t ∨ Lenient text t := by
  rw [read?_eq_some_iff]
  constructor
  · rintro (⟨written, htext, hdenotes⟩ | ⟨written, htext, hdenotes⟩)
    -- a written day is one of the two forms, and so is a timestamp, by the sign of its offset
    · by_cases hform : written.IsStandard
      · obtain ⟨day, hdate, hchars⟩ := written.exists_day hform hdenotes.1
        refine .inl (.day day ?_ ?_ hdenotes.2.2)
        · rw [htext, WrittenDay.text, hchars, Day.text]
        · rw [day.seconds_eq, hdate, hdenotes.2.1]
      · exact .inr (.day written htext hform hdenotes)
    · cases hminus : written.minusSign with
      | false => exact .inl (.stamp written htext hminus hdenotes)
      | true => exact .inr (.stamp written htext hminus hdenotes)
  · rintro ((⟨day, htext, hseconds, hnanos⟩ | ⟨written, htext, -, hdenotes⟩) |
      (⟨written, htext, -, hdenotes⟩ | ⟨written, htext, -, hdenotes⟩))
    · -- a day is read as a day, so it is written as one
      obtain ⟨u, hread, hu, hu'⟩ := read?_day day
      have hsame : u = t := eq_of_parts (hu.trans hseconds.symm) (hu'.trans hnanos.symm)
      rw [htext, ← read?_eq_some_iff, hread, hsame]
    · exact .inr ⟨written, htext, hdenotes⟩
    · exact .inl ⟨written, htext, hdenotes⟩
    · exact .inr ⟨written, htext, hdenotes⟩

/-- A timestamp has no minus sign, unless one stands in its offset. -/
private theorem minusSign_of_mem {written : WrittenStamp} (h : '\u2212' ∈ written.chars) :
    written.minusSign = true := by
  have hnumber : ∀ width n, '\u2212' ∉ padded width n := fun width n hmem => by
    cases isDigit_of_mem_padded hmem
  -- neither a number nor a zone in standard form has the sign, so it can only be that of the offset
  have hclock : ∀ hours minutes, '\u2212' ∉ Zone.clockChars hours minutes := by
    intro hours minutes
    simp [Zone.clockChars, hnumber]
  have hzone : '\u2212' ∉ written.stamp.zone.chars := by
    cases written.stamp.zone with
    | utc lowerCase => cases lowerCase <;> simp [Zone.chars]
    | east hours minutes => simp [Zone.chars, hclock]
    | west hours minutes => simp [Zone.chars, hclock]
  have hseparator : '\u2212' ≠ written.stamp.separator := by
    have hmem := written.stamp.separator_mem
    rintro heq
    rw [← heq] at hmem
    simp at hmem
  have hfraction : '\u2212' ∉ Timestamp.fractionChars written.stamp.fraction := by
    intro hmem
    have hdigits := written.stamp.fraction_digits
    cases hdigit : written.stamp.fraction with
    | nil =>
      rw [hdigit] at hmem
      cases hmem
    | cons digit digits =>
      rw [hdigit] at hmem hdigits
      rcases List.mem_cons.mp hmem with heq | hmem
      · exact absurd heq (by decide)
      · cases hdigits _ hmem
  have hdropped : '\u2212' ∉ written.dropped := fun hmem => by
    cases written.isDigit_of_mem _ hmem
  cases hminus : written.minusSign with
  | true => rfl
  | false =>
    simp [WrittenStamp.chars, Timestamp.frontThen, WrittenStamp.zoneChars, hminus, hnumber, hzone,
      hseparator, hfraction, hdropped] at h

/-- No text is in a standard form and in another one. -/
theorem Lenient.not_standard (h : Lenient text t) : ¬ Standard text u := by
  -- days and timestamps are told apart by the reader of days
  have hday : ∀ day : Day, day? day.chars ≠ none := by
    intro day hnone
    have hread : day? (day.chars ++ []) = at? day.date 0 0 := day?_append day []
    obtain ⟨t, hat, -⟩ := exists_at? day 0 0 (by decide) (by decide) (by decide)
    rw [List.append_nil, hnone, hat] at hread
    cases hread
  -- a day is no timestamp, and within days and timestamps the form is a property of the text
  rintro (⟨day, htext', -, -⟩ | ⟨stamp, htext', hhyphen, -⟩)
  · cases h with
    | day written htext hform hdenotes =>
      have hchars : written.chars = day.chars := String.ofList_injective (htext.symm.trans htext')
      exact hform (WrittenDay.isStandard_of_chars hchars)
    | stamp written htext hminus hdenotes =>
      have hchars : written.chars = day.chars := String.ofList_injective (htext.symm.trans htext')
      exact hday day (by rw [← hchars, WrittenStamp.chars, day?_frontThen])
  · cases h with
    | day written htext hform hdenotes =>
      have hchars : written.chars = stamp.chars := String.ofList_injective (htext.symm.trans htext')
      have hread := denotes_day_iff.mpr hdenotes
      rw [← day?_written, hchars, WrittenStamp.chars, day?_frontThen] at hread
      cases hread
    | stamp written htext hminus hdenotes =>
      have hchars : written.chars = stamp.chars := String.ofList_injective (htext.symm.trans htext')
      have hmem : '\u2212' ∈ written.chars := by
        simp [WrittenStamp.chars, Timestamp.frontThen, WrittenStamp.zoneChars, hminus]
      rw [minusSign_of_mem (hchars ▸ hmem)] at hhyphen
      cases hhyphen

end Instant

/-! ## As operands and as values of fields -/

namespace Operand

open Instant (Standard Lenient)

variable {rule : Rule} {field : String} {value : Value} {t : Instant}

/-- An instant is read before anything else that a value may stand for on a date field. -/
theorem normalize?_of_read? (hfield : field ∈ rule.isDate)
    (hread : Instant.read? value.source = some t) (operator : Operator) (now : Instant) :
    normalize? rule field operator value now = some (operator, .date t) := by
  have hnull : value.isWord Value.nullWord = false := by
    cases value with
    | number number written => rfl
    | text text =>
      -- the word for an empty field is no instant
      refine beq_eq_false_iff_ne.mpr ?_
      rintro rfl
      have hnone : Instant.read? (Value.text Value.nullWord).source = none := by decide
      rw [hnone] at hread
      cases hread
  simp [normalize?, hnull, Rule.hasDate, hfield, hread]

/-- A text is read as an instant exactly if it is in a standard or in a lenient form, and it is
    never in both.  A text in either form is an absolute date wherever a value is: on a date field
    it stands for its instant, under the operator of the term, and in a document it compares with
    all instants as its own.  Every other text is none: on a date field it stays as it is, if it is
    no word and no relative date, and it compares with no instant. -/
theorem absolute_date_forms (text : String) :
    (∀ t, Instant.read? text = some t ↔ Standard text t ∨ Lenient text t) ∧
      (∀ t u, Lenient text t → ¬ Standard text u) ∧
      (∀ t, Standard text t ∨ Lenient text t →
        (∀ (rule : Rule) (field : String) (operator : Operator) (value : Value) (now : Instant),
          field ∈ rule.isDate → value.source = text →
            normalize? rule field operator value now = some (operator, .date t)) ∧
        ∀ u, Matcher.compare? (.string text) (.date u) = some (t.compare u)) ∧
      ((¬ ∃ t, Standard text t ∨ Lenient text t) →
        (∀ (rule : Rule) (field : String) (operator : Operator) (value : Value) (now : Instant),
          field ∈ rule.isDate → value.source = text → value.isWord Value.nullWord = false →
            ¬ IsRelative value → value.isWord Value.nowWord = false →
              normalize? rule field operator value now = some (operator, .value value)) ∧
        ∀ u, Matcher.compare? (.string text) (.date u) = none) := by
  refine ⟨fun _ => Instant.read?_eq_some_iff_form, fun _ _ h => h.not_standard, ?_, ?_⟩
  · intro t hform
    -- both parts follow from what the reader gives
    have hread := Instant.read?_eq_some_iff_form.mpr hform
    refine ⟨?_, fun u => by rw [Matcher.compare?, hread, Option.map_some]⟩
    rintro rule field operator value now hfield rfl
    exact normalize?_of_read? hfield hread operator now
  · intro hform
    have hread : Instant.read? text = none := by
      rw [Option.eq_none_iff_forall_not_mem]
      exact fun t ht => hform ⟨t, Instant.read?_eq_some_iff_form.mp ht⟩
    refine ⟨?_, fun u => by rw [Matcher.compare?, hread, Option.map_none]⟩
    rintro rule field operator value now hfield rfl hnull hrelative hnow
    exact normalize?_eq_value hnull (fun _ => ⟨hread, relative?_eq_none_iff.mpr hrelative, hnow⟩)
      operator now

/-- A leap day with a blank, a sign and a single digit for its month. -/
def blankDay : WrittenDay where
  blanks := [' ']
  isWhiteSpace_of_mem := List.all_eq_true.mp rfl
  year := .ofDigits .plus ['2', '0', '2', '4'] rfl
  length_le := nofun
  month := ⟨[], nofun, ['2'], by decide, List.all_eq_true.mp rfl, by decide⟩
  day := ⟨[], nofun, ['2', '9'], by decide, List.all_eq_true.mp rfl, by decide⟩

/-- A text is an absolute date if the calendar has its day, also with a blank, a sign and a single
    digit. -/
theorem absolute_date_forms_leap_days :
    ((¬ ∃ t, Standard "2023-02-29" t ∨ Lenient "2023-02-29" t) ∧
      normalize? ⟨[], [], ["due"]⟩ "due" .gte (.ofToken "2023-02-29") .noon =
        some (.gte, .value (.text "2023-02-29")) ∧
      ∀ u, Matcher.compare? (.string "2023-02-29") (.date u) = none) ∧
    ∃ t, Lenient " +2024-2-29" t ∧
      normalize? ⟨[], [], ["due"]⟩ "due" .gte (.ofToken " +2024-2-29") .noon =
        some (.gte, .date t) := by
  obtain ⟨hread, -, -, hother⟩ := absolute_date_forms "2023-02-29"
  have hnone : Instant.read? "2023-02-29" = none := by decide
  have hform : ¬ ∃ t, Standard "2023-02-29" t ∨ Lenient "2023-02-29" t := by
    rintro ⟨t, ht⟩
    rw [← hread, hnone] at ht
    cases ht
  obtain ⟨hvalue, hcompare⟩ := hother hform
  refine ⟨⟨hform, hvalue _ _ _ _ _ (by simp) (by simp) (by decide) ?_ (by decide), hcompare⟩, ?_⟩
  · exact relative?_eq_none_iff.mp (by decide)
  · let t : Instant := ⟨1709164800, 0, by decide, by decide, by decide⟩
    have hlenient : Lenient " +2024-2-29" t :=
      .day blankDay rfl (fun h => absurd h.1 (by decide)) ⟨by decide, by decide, rfl⟩
    obtain ⟨-, -, hforms, -⟩ := absolute_date_forms " +2024-2-29"
    exact ⟨t, hlenient, (hforms t (.inr hlenient)).1 _ _ _ _ _ (by simp) (by simp)⟩

/-- A day of a single digit in each place. -/
def shortDay : WrittenDay where
  blanks := []
  isWhiteSpace_of_mem := nofun
  year := .ofDigits .none ['1'] rfl
  length_le := fun _ => by decide
  month := ⟨[], nofun, ['2'], by decide, List.all_eq_true.mp rfl, by decide⟩
  day := ⟨[], nofun, ['3'], by decide, List.all_eq_true.mp rfl, by decide⟩

/-- A text of three single digits is not in a standard form, and is taken for a day of the first
    year wherever a value is. -/
theorem read_short_day_not_standard :
    ∃ t, Instant.read? "1-2-3" = some t ∧ (∀ u, ¬ Standard "1-2-3" u) ∧
      normalize? ⟨[], [], ["due"]⟩ "due" .contains (.ofToken "1-2-3") .noon =
        some (.contains, .date t) ∧
      ∀ u, Matcher.compare? (.string "1-2-3") (.date u) = some (t.compare u) := by
  let t : Instant := ⟨-62132745600, 0, by decide, by decide, by decide⟩
  have hlenient : Lenient "1-2-3" t :=
    .day shortDay rfl (fun h => absurd h.2.2.1 (by decide)) ⟨by decide, by decide, rfl⟩
  have hread := Instant.read?_eq_some_iff_form.mpr (.inr hlenient)
  refine ⟨t, hread, fun _ => hlenient.not_standard,
    normalize?_of_read? (by simp) (by simpa using hread) _ _, fun u => ?_⟩
  rw [Matcher.compare?, hread, Option.map_some]

end Operand

end Sift
