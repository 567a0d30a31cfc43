import Sift.Proofs.Operand.AbsoluteDate

/-!
# Comparing days

A term on a date field compares instants, and where both its value and the field are days in four,
two and two digits, the instants follow one another as the texts do (`Day.text_lt_iff`): both orders
are that of the calendar, by year, month and day.  So the term accepts a document exactly if the
text of the field stands to the value as the operator says (`date_comparison_agrees`).
-/

namespace Sift

/-! ## Texts of days -/

/-- The fronts of two texts decide their order, unless they are the same. -/
private theorem append_lt_append_iff {front front' back back' : List Char}
    (h : front.length = front'.length) :
    front ++ back < front' ++ back' ↔ front < front' ∨ front = front' ∧ back < back' := by
  induction front generalizing front' with
  | nil =>
    have hnil : front' = [] := List.length_eq_zero_iff.mp h.symm
    subst hnil
    simp
  | cons c front ih =>
    obtain ⟨c', rest, rfl⟩ := List.exists_cons_of_length_eq_add_one h.symm
    have hrest : front.length = rest.length := by simpa using h
    simp only [List.cons_append, List.cons_lt_cons_iff, ih hrest, List.cons.injEq, and_or_left,
      or_assoc, and_assoc]

/-- A number before other things decides by its size, unless it is the same. -/
private theorem padded_append_lt_iff {width m n : Nat} {back back' : List Char} (hwidth : 0 < width)
    (hm : m < Nat.pow 10 width) (hn : n < Nat.pow 10 width) :
    padded width m ++ back < padded width n ++ back' ↔ m < n ∨ m = n ∧ back < back' := by
  have hlength : (padded width m).length = (padded width n).length := by
    rw [length_padded hwidth hm, length_padded hwidth hn]
  have hsame : padded width m = padded width n ↔ m = n :=
    ⟨padded_injective, fun h => congrArg _ h⟩
  rw [append_lt_append_iff hlength, hsame, Text.digits_lt_iff hlength
    (fun _ => isDigit_of_mem_padded) (fun _ => isDigit_of_mem_padded), decimalValue_padded,
    decimalValue_padded]

namespace Day

/-- The texts of days are ordered by the calendar. -/
private theorem chars_lt_iff (s q : Day) : s.chars < q.chars ↔ s.date.Before q.date := by
  -- the numbers of a date have one width each, so the first one that differs decides
  obtain ⟨hmonth, hday⟩ := s.isValid.lt_hundred
  obtain ⟨hmonth', hday'⟩ := q.isValid.lt_hundred
  have hyear := s.year_nonneg
  have hyear' := q.year_nonneg
  have hlast : padded 2 s.date.day ++ [] < padded 2 q.date.day ++ [] ↔ _ :=
    padded_append_lt_iff (by decide) hday hday'
  rw [List.append_nil, List.append_nil] at hlast
  simp only [chars, List.append_assoc, List.cons_append,
    padded_append_lt_iff (show 0 < 4 by decide) s.year_lt q.year_lt, List.cons_lt_cons_self,
    padded_append_lt_iff (show 0 < 2 by decide) hmonth hmonth', hlast, List.lt_irrefl, and_false,
    or_false, Date.Before]
  omega

/-- Days are ordered in time as their texts are. -/
theorem text_lt_iff (s q : Day) : s.text < q.text ↔ s.seconds < q.seconds := by
  rw [String.lt_iff, text, text, String.toList_ofList, String.toList_ofList, chars_lt_iff,
    ← s.isValid.dayNumber_lt_iff q.isValid, s.seconds_eq, q.seconds_eq, secondsPerDay]
  omega

/-- Days have the same text exactly if they are the same day. -/
private theorem text_eq_iff (s q : Day) : s.text = q.text ↔ s.seconds = q.seconds := by
  constructor
  · intro h
    -- one text is read as one instant
    obtain ⟨t, hread, hseconds, -⟩ := Instant.read?_day s
    obtain ⟨u, hread', hseconds', -⟩ := Instant.read?_day q
    rw [h, hread'] at hread
    rw [← hseconds, ← hseconds', Option.some.inj hread]
  · intro h
    -- a second of the calendar is the start of one day only
    have hnumber : s.date.dayNumber = q.date.dayNumber := by
      rw [s.seconds_eq, q.seconds_eq, secondsPerDay] at h
      omega
    have hdate : s.date = q.date := by
      rw [← Date.ofDayNumber_dayNumber s.isValid, hnumber, Date.ofDayNumber_dayNumber q.isValid]
    rw [text, text, chars, chars, hdate]

/-- The order of texts and that of days agree on equality too. -/
private theorem text_le_iff (s q : Day) : s.text ≤ q.text ↔ s.seconds ≤ q.seconds := by
  rw [← String.not_lt, text_lt_iff]
  omega

end Day

/-! ## Operators -/

/-- What an operator asks of a text and the text it is compared with.  A pattern asks for no
    order. -/
def Operator.Orders (operator : Operator) (s q : String) : Prop :=
  match operator with
  | .lt => s < q
  | .lte => s ≤ q
  | .gt => q < s
  | .gte => q ≤ s
  | .eq | .contains => s = q
  | .regex => False

/-- What a comparison accepts of two numbers. -/
theorem Matcher.accepted_compare_iff (comparison : Comparison) (a b : Int) :
    accepted comparison (compare a b) = true ↔
      match comparison with
      | .eq => a = b
      | .gte => b ≤ a
      | .gt => b < a
      | .lte => a ≤ b
      | .lt => a < b := by
  rcases Int.lt_trichotomy a b with h | rfl | h
  · rw [Int.compare_eq_lt.mpr h]
    cases comparison <;> simp [accepted] <;> omega
  · rw [Int.compare_eq_eq.mpr rfl]
    cases comparison <;> simp [accepted]
  · rw [Int.compare_eq_gt.mpr h]
    cases comparison <;> simp [accepted] <;> omega

/-- The condition of a term on an instant is the comparison of its operator, which holds between
    two days exactly if the operator does between their texts. -/
private theorem Filter.condition_date {operator : Operator} (h : operator ≠ .regex) (rule : Rule)
    (field source : String) (t : Instant) :
    ∃ comparison, condition rule field operator source (.date t) = .compare comparison (.date t) ∧
      ∀ s q : Day, Matcher.accepted comparison (compare s.seconds q.seconds) = true ↔
        operator.Orders s.text q.text := by
  simp only [Matcher.accepted_compare_iff]
  cases operator with
  | contains => exact ⟨.eq, rfl, fun s q => (s.text_eq_iff q).symm⟩
  | regex => exact absurd rfl h
  | gte => exact ⟨.gte, rfl, fun s q => (q.text_le_iff s).symm⟩
  | gt => exact ⟨.gt, rfl, fun s q => (q.text_lt_iff s).symm⟩
  | lte => exact ⟨.lte, rfl, fun s q => (s.text_le_iff q).symm⟩
  | lt => exact ⟨.lt, rfl, fun s q => (s.text_lt_iff q).symm⟩
  | eq => exact ⟨.eq, rfl, fun s q => (s.text_eq_iff q).symm⟩

/-! ## Documents -/

/-- A name without dots is found as it is. -/
theorem fieldPath_of_no_dot {field : String} (h : '.' ∉ field.toList) :
    fieldPath field = [field] := by
  rw [fieldPath, List.splitOn_eq_singleton h, List.map_singleton, String.ofList_toList]

/-- A field of a document with a single string is compared as this string. -/
private theorem Matcher.accepts_compare_string (field text : String) (comparison : Comparison)
    (scalar : Scalar) :
    (Matcher.field [field] (.compare comparison scalar)).accepts
        (.object [(field, .string text)]) =
      (compare? (.string text) scalar).any (accepted comparison) := by
  simp [accepts, lookup?, Json.member?, meetsFound, candidates, meets]

/-- A term on a date field whose value is a day has a filter, and the filter has a matcher.  The
    matcher accepts the document in which the field is another day exactly if the text of that day
    stands to the text of the value, in the order of texts, as the operator says; a colon asks for
    the same text. -/
theorem date_comparison_agrees (rule : Rule) (now : Instant) (field : String) (operator : Operator)
    (value : Value) (q s : Day) (hid : field ≠ Filter.idField) (hdot : '.' ∉ field.toList)
    (hfield : field ∈ rule.isDate) (hoperator : operator ≠ .regex)
    (hvalue : value.source = q.text) :
    ∃ filter matcher,
      Filter.ofTerm rule now ⟨some field, operator, value⟩ = .ok filter ∧
      Matcher.ofFilter filter = .ok matcher ∧
      (matcher.accepts (.object [(field, .string s.text)]) = true ↔
        operator.Orders s.text q.text) := by
  obtain ⟨t, hread, hseconds, hnanos⟩ := Instant.read?_day q
  obtain ⟨u, hread', hseconds', hnanos'⟩ := Instant.read?_day s
  obtain ⟨comparison, hcondition, horders⟩ :=
    Filter.condition_date hoperator rule field value.source t
  have hnormal := Operand.normalize?_of_read? hfield (hvalue ▸ hread) operator now
  have hfilter : Filter.ofTerm rule now ⟨some field, operator, value⟩ =
      .ok (.field field (.compare comparison (.date t))) := by
    simp [Filter.ofTerm, Filter.ofFullTerm, hid, hnormal, hcondition]
  have hmatcher : Matcher.ofFilter (.field field (.compare comparison (.date t))) =
      .ok (.field [field] (.compare comparison (.date t))) := by
    simp only [Matcher.ofFilter, Condition.toTest, fieldPath_of_no_dot hdot]
    rfl
  -- both are midnights, so their seconds decide
  have hcompare : u.compare t = compare s.seconds q.seconds := by
    rw [Instant.compare, hnanos, hnanos', hseconds, hseconds']
    cases compare s.seconds q.seconds <;> rfl
  refine ⟨_, _, hfilter, hmatcher, ?_⟩
  rw [Matcher.accepts_compare_string, Matcher.compare?, hread', Option.map_some, Option.any_some,
    hcompare, horders]

/-- The last day of a year. -/
def yearsLast : Day := ⟨⟨2023, 12, 31⟩, by decide, by decide, by decide⟩

/-- The first day of the next year. -/
def yearsFirst : Day := ⟨⟨2024, 1, 1⟩, by decide, by decide, by decide⟩

/-- The last day of a year comes before the first of the next one, also where the field is searched
    for parts of its text. -/
theorem date_comparison_agrees_new_year :
    ∃ filter matcher,
      Filter.ofTerm ⟨["due"], ["due"], ["due"]⟩ .noon ⟨some "due", .lte, .ofToken "2024-01-01"⟩ =
        .ok filter ∧
      Matcher.ofFilter filter = .ok matcher ∧
      matcher.accepts (.object [("due", .string "2023-12-31")]) = true := by
  have hlast : yearsLast.text = "2023-12-31" := rfl
  have hfirst : yearsFirst.text = "2024-01-01" := rfl
  have hvalue : (Value.ofToken "2024-01-01").source = yearsFirst.text := by
    rw [Value.source_ofToken, hfirst]
  obtain ⟨filter, matcher, hfilter, hmatcher, haccepts⟩ :=
    date_comparison_agrees ⟨["due"], ["due"], ["due"]⟩ .noon "due" .lte (.ofToken "2024-01-01")
      yearsFirst yearsLast (by decide) (by decide) (by simp) (by decide) hvalue
  rw [hfirst, hlast] at haccepts
  have horder : ("2023-12-31" : String) ≤ "2024-01-01" := by decide
  exact ⟨filter, matcher, hfilter, hmatcher, haccepts.mpr horder⟩

end Sift
