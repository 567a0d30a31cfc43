import Sift.Filter.Compile
import Sift.Proofs.Instant.Reader
import Sift.Proofs.Instant.Shift
import Sift.Proofs.Query.Value
import Sift.Proofs.Text.Digits

/-!
# Relative dates

A relative date is an amount, written as a sign or none and digits, and a word for a unit.  On a
date field it stands for the instant so much after the present, and a term that names it asks for
instants up to there.  `normalize?_text` says what becomes of every relative date, however many
digits it has, and `Becomes` what there is to become of a value of any kind.
-/

namespace Sift.Operand

open Char (isDigit)
open Text (decimalValue)

/-! ## Written amounts -/

/-- The sign of an amount, as it is written. -/
inductive Sign where
  | none
  | plus
  | minus

def Sign.chars : Sign → List Char
  | none => []
  | plus => ['+']
  | minus => ['-']

/-- The amount of a relative date, as it is written. -/
structure Amount where
  sign : Sign
  digits : List Char
  nonempty : digits ≠ []
  isDigit_of_mem : ∀ c ∈ digits, isDigit c = true

namespace Amount

/-- The number that is meant. -/
def value (amount : Amount) : Int :=
  match amount.sign with
  | .none | .plus => decimalValue amount.digits
  | .minus => -(decimalValue amount.digits : Int)

/-- An amount that 64 bits can hold. -/
def Fits (amount : Amount) : Prop :=
  -(Nat.pow 2 63 : Int) ≤ amount.value ∧ amount.value < Nat.pow 2 63

instance (amount : Amount) : Decidable amount.Fits := inferInstanceAs (Decidable (_ ∧ _))

/-- An amount that is given, where evaluation finds that it is made of digits. -/
def ofDigits (sign : Sign) (digits : List Char)
    (h : (!digits.isEmpty && digits.all isDigit) = true) : Amount :=
  ⟨sign, digits, by simpa using (Bool.and_eq_true_iff.mp h).1,
    by simpa using (Bool.and_eq_true_iff.mp h).2⟩

/-- The text of a relative date with this amount and a word for a unit. -/
def text (amount : Amount) (word : String) : String :=
  String.ofList (amount.sign.chars ++ (amount.digits ++ word.toList))

end Amount

/-! ## Words for units -/

/-- Words for units are made of letters. -/
private theorem isAlpha_of_mem_words {unit : TimeUnit} {word : String} (h : word ∈ unit.words) :
    (∃ c tail, word.toList = c :: tail) ∧ ∀ c ∈ word.toList, c.isAlpha = true := by
  have hcheck : (!word.toList.isEmpty && word.toList.all Char.isAlpha) = true := by
    cases unit <;> simp only [TimeUnit.words, List.mem_cons, List.not_mem_nil, or_false] at h <;>
      rcases h with rfl | rfl | rfl <;> rfl
  simp only [Bool.and_eq_true, Bool.not_eq_true', List.isEmpty_eq_false_iff,
    List.all_eq_true] at hcheck
  exact ⟨List.exists_cons_of_ne_nil hcheck.1, hcheck.2⟩

/-- A letter is no digit, no hyphen, no point and no blank. -/
private theorem not_digit_of_isAlpha {c : Char} (h : c.isAlpha = true) :
    isDigit c = false ∧ c ≠ '-' ∧ c ≠ '.' ∧ Unicode.isWhiteSpace c = false := by
  -- letters have two ranges of codes, and none of the others is in them
  have hcode : 65 ≤ c.toNat ∧ c.toNat ≤ 90 ∨ 97 ≤ c.toNat ∧ c.toNat ≤ 122 := by
    unfold Char.isAlpha Char.isUpper Char.isLower at h
    simpa [UInt32.le_iff_toNat_le] using h
  refine ⟨?_, ?_, ?_, ?_⟩
  · rw [Bool.eq_false_iff, Ne, Char.isDigit_iff_toNat, Text.digit_codes.1, Text.digit_codes.2.1]
    omega
  · rintro rfl
    simp at hcode
  · rintro rfl
    simp at hcode
  · exact Text.isWhiteSpace_of_visible (by omega) (by omega)

/-- A digit is no hyphen and no sign. -/
theorem ne_sign_of_isDigit {c : Char} (h : isDigit c = true) : c ≠ '-' ∧ c ≠ '+' := by
  constructor
  · rintro rfl
    cases h
  · rintro rfl
    cases h

/-! ## Reading relative dates -/

section

variable {amount : Amount} {unit : TimeUnit} {word : String}

/-- The characters of a relative date: its sign, its digits and its word. -/
@[simp] private theorem Amount.toList_text (amount : Amount) (word : String) :
    (amount.text word).toList = amount.sign.chars ++ (amount.digits ++ word.toList) := by
  simp [Amount.text]

/-- The sign is taken off the digits, which begin with no other. -/
private theorem takeSign_chars (amount : Amount) (rest : List Char) :
    takeSign (amount.sign.chars ++ (amount.digits ++ rest)) =
      (match amount.sign with | .minus => true | _ => false, amount.digits ++ rest) := by
  obtain ⟨c, tail, hdigits⟩ := List.exists_cons_of_ne_nil amount.nonempty
  obtain ⟨hminus, hplus⟩ := ne_sign_of_isDigit (amount.isDigit_of_mem c (by simp [hdigits]))
  cases amount.sign with
  -- without a sign, the first digit is none of the two
  | none =>
    simp only [Sign.chars, hdigits, List.cons_append, List.nil_append]
    unfold takeSign
    split
    · rename_i heq
      exact absurd (List.cons.inj heq).1 hplus
    · rename_i heq
      exact absurd (List.cons.inj heq).1 hminus
    · rfl
  | plus => rfl
  | minus => rfl

/-- A relative date splits into its amount and its word, if 64 bits can hold the amount. -/
private theorem splitRelative?_text (hword : word ∈ unit.words) :
    splitRelative? (amount.text word) =
      if amount.Fits then some (amount.value, word) else none := by
  obtain ⟨⟨c, tail, hcons⟩, halpha⟩ := isAlpha_of_mem_words hword
  have hc := not_digit_of_isAlpha (halpha c (by simp [hcons]))
  -- the digits end where the word begins
  have htake : (amount.digits ++ word.toList).takeWhile isDigit = amount.digits := by
    rw [List.takeWhile_append_of_pos amount.isDigit_of_mem, hcons]
    simp [hc.1]
  have hdrop : (amount.digits ++ word.toList).dropWhile isDigit = word.toList := by
    rw [List.dropWhile_append_of_pos amount.isDigit_of_mem, hcons]
    simp [hc.1]
  have hblank : word.toList.any Unicode.isWhiteSpace = false := by
    rw [List.any_eq_false]
    intro c hc
    simp [(not_digit_of_isAlpha (halpha c hc)).2.2.2]
  have hempty : (amount.digits.isEmpty || word.toList.isEmpty || false) = false := by
    simp [amount.nonempty, hcons]
  have hvalue : (if (match amount.sign with | .minus => true | _ => false) = true then
      -(decimalValue amount.digits : Int) else decimalValue amount.digits) = amount.value := by
    unfold Amount.value
    cases amount.sign <;> rfl
  unfold splitRelative?
  simp only [Amount.toList_text, takeSign_chars, htake, hdrop, hblank, hempty, hvalue,
    String.ofList_toList]
  rfl

/-- A text is its sign, if it has one, and what is left without it. -/
private theorem exists_sign (cs : List Char) :
    ∃ sign : Sign, cs = sign.chars ++ (takeSign cs).2 ∧
      (takeSign cs).1 = match sign with | .minus => true | _ => false := by
  unfold takeSign
  split
  · exact ⟨.plus, rfl, rfl⟩
  · exact ⟨.minus, rfl, rfl⟩
  · exact ⟨.none, rfl, rfl⟩

/-- What splits into an amount and a word is written so. -/
private theorem exists_amount {text : String} {n : Int} (h : splitRelative? text = some (n, word)) :
    ∃ amount : Amount, amount.Fits ∧ amount.value = n ∧ text = amount.text word := by
  obtain ⟨sign, hcs, hsign⟩ := exists_sign text.toList
  have hdigits := List.all_eq_true.mp
    (List.all_takeWhile (p := isDigit) (l := (takeSign text.toList).2))
  have hsplit := List.takeWhile_append_dropWhile (p := isDigit) (l := (takeSign text.toList).2)
  unfold splitRelative? at h
  dsimp only at h
  -- the digits and the word are what the text has behind its sign
  generalize (takeSign text.toList).2.takeWhile isDigit = digits at *
  generalize (takeSign text.toList).2.dropWhile isDigit = back at *
  split at h
  · cases h
  · rename_i hempty
    have hnonempty : digits ≠ [] := by
      rintro rfl
      exact hempty rfl
    let amount : Amount := ⟨sign, digits, hnonempty, hdigits⟩
    have hvalue : (if (takeSign text.toList).1 = true then -(decimalValue digits : Int)
        else decimalValue digits) = amount.value := by
      rw [hsign]
      cases sign <;> rfl
    rw [hvalue] at h
    split at h
    · rename_i hfits
      obtain ⟨rfl, rfl⟩ := Prod.mk.inj (Option.some.inj h)
      refine ⟨amount, hfits, rfl, ?_⟩
      rw [Amount.text, String.toList_ofList, hsplit, ← hcs, String.ofList_toList]
    · cases h

/-- A relative date: an amount that 64 bits can hold, and a word for a unit. -/
def IsRelative (value : Value) : Prop :=
  ∃ (amount : Amount) (unit : TimeUnit) (word : String),
    amount.Fits ∧ word ∈ unit.words ∧ value = .text (amount.text word)

/-- A value is read as a relative date exactly if it is written as one. -/
theorem relative?_eq_some_iff {value : Value} {n : Int} :
    relative? value = some (n, unit) ↔
      ∃ (amount : Amount) (word : String), amount.Fits ∧ word ∈ unit.words ∧
        value = .text (amount.text word) ∧ n = amount.value := by
  constructor
  · intro h
    cases value with
    | number number written => cases h
    | text text =>
      obtain ⟨⟨n', word⟩, hsplit, h⟩ := Option.bind_eq_some_iff.mp h
      obtain ⟨unit', hunit, h⟩ := Option.bind_eq_some_iff.mp h
      obtain ⟨rfl, rfl⟩ := Prod.mk.inj (Option.some.inj h)
      obtain ⟨amount, hfits, hvalue, rfl⟩ := exists_amount hsplit
      exact ⟨amount, word, hfits, TimeUnit.ofWord?_eq_some_iff.mp hunit, rfl, hvalue.symm⟩
  · rintro ⟨amount, word, hfits, hword, rfl, rfl⟩
    have hunit : TimeUnit.ofWord? word = some unit := TimeUnit.ofWord?_eq_some_iff.mpr hword
    simp [relative?, splitRelative?_text hword, hfits, hunit]

/-- All other values are not read as relative dates. -/
theorem relative?_eq_none_iff {value : Value} : relative? value = none ↔ ¬ IsRelative value := by
  rw [Option.eq_none_iff_forall_not_mem]
  constructor
  · rintro h ⟨amount, unit, word, hfits, hword, hvalue⟩
    exact h (amount.value, unit)
      (relative?_eq_some_iff.mpr ⟨amount, word, hfits, hword, hvalue, rfl⟩)
  · rintro h ⟨n, unit⟩ hmem
    obtain ⟨amount, word, hfits, hword, hvalue, -⟩ := relative?_eq_some_iff.mp hmem
    exact h ⟨amount, unit, word, hfits, hword, hvalue⟩

/-- A relative date has no hyphen behind its first character. -/
theorem hyphen_not_mem_tail_text (hword : word ∈ unit.words) :
    '-' ∉ (amount.text word).toList.tail := by
  -- a hyphen can only be the sign, which comes first
  have hbody : '-' ∉ amount.digits ++ word.toList := by
    rw [List.mem_append]
    rintro (hmem | hmem)
    · exact (ne_sign_of_isDigit (amount.isDigit_of_mem _ hmem)).1 rfl
    · exact (not_digit_of_isAlpha ((isAlpha_of_mem_words hword).2 _ hmem)).2.1 rfl
  rw [Amount.toList_text]
  cases amount.sign with
  | none => exact fun hmem => hbody (List.mem_of_mem_tail hmem)
  | plus => exact hbody
  | minus => exact hbody

/-- A relative date is no absolute date. -/
theorem read?_text (hword : word ∈ unit.words) : Instant.read? (amount.text word) = none :=
  Instant.read?_eq_none_of_hyphen (hyphen_not_mem_tail_text hword)

/-- A relative date does not begin with a letter. -/
theorem head_text (amount : Amount) (word : String) :
    (amount.text word).toList.head?.any Char.isAlpha = false := by
  obtain ⟨c, tail, hdigits⟩ := List.exists_cons_of_ne_nil amount.nonempty
  have hc := amount.isDigit_of_mem c (by simp [hdigits])
  rw [Amount.toList_text, hdigits]
  -- the first character is a digit or a sign
  cases amount.sign with
  | none =>
    show c.isAlpha = false
    rw [← Bool.not_eq_true]
    intro halpha
    rw [(not_digit_of_isAlpha halpha).1] at hc
    cases hc
  | plus => rfl
  | minus => rfl

/-- Nor is it a word that begins with a letter. -/
theorem text_ne_word {w : String} (hw : w.toList.head?.any Char.isAlpha = true) :
    amount.text word ≠ w := by
  rintro rfl
  rw [head_text] at hw
  cases hw

/-- A relative date is no number. -/
private theorem ofToken_text (hword : word ∈ unit.words) :
    Value.ofToken (amount.text word) = .text (amount.text word) := by
  obtain ⟨⟨c, tail, hcons⟩, halpha⟩ := isAlpha_of_mem_words hword
  have hc := not_digit_of_isAlpha (halpha c (by simp [hcons]))
  -- a letter is in no number
  exact Value.ofToken_eq_text (by simp [hcons]) hc.1 hc.2.2.1

/-- What becomes of a relative date on a date field: an instant, or nothing where that is out of
    range.  An amount that 64 bits cannot hold leaves it a plain value. -/
theorem normalize?_text {rule : Rule} {field : String} (hfield : field ∈ rule.isDate)
    (hword : word ∈ unit.words) (amount : Amount) (operator : Operator) (now : Instant) :
    normalize? rule field operator (.text (amount.text word)) now =
      if amount.Fits then (now.add? amount.value unit).map fun t => (.lte, .date t)
      else some (operator, .value (.text (amount.text word))) := by
  -- it is neither of the words and no instant, so it is read as a relative date or not at all
  have hnull : amount.text word ≠ Value.nullWord := text_ne_word rfl
  have hnow : amount.text word ≠ Value.nowWord := text_ne_word rfl
  have hdate : rule.hasDate field = true := by simpa [Rule.hasDate] using hfield
  have hunit : TimeUnit.ofWord? word = some unit := TimeUnit.ofWord?_eq_some_iff.mpr hword
  simp only [normalize?, Value.isWord, beq_eq_false_iff_ne.mpr hnull, hdate, Value.source,
    read?_text hword, relative?, splitRelative?_text hword, beq_eq_false_iff_ne.mpr hnow,
    Bool.false_eq_true, Bool.not_true, if_false]
  by_cases hfits : amount.Fits
  · simp [hfits, hunit]
  · simp [hfits]

end

/-! ## Values of any kind -/

/-- A value that stands for nothing else on its field is compared as it is. -/
theorem normalize?_eq_value {rule : Rule} {field : String} {value : Value}
    (hnull : value.isWord Value.nullWord = false)
    (hdate : field ∈ rule.isDate → Instant.read? value.source = none ∧
      relative? value = none ∧ value.isWord Value.nowWord = false)
    (operator : Operator) (now : Instant) :
    normalize? rule field operator value now = some (operator, .value value) := by
  unfold normalize?
  by_cases hfield : field ∈ rule.isDate
  · obtain ⟨hread, hrelative, hnow⟩ := hdate hfield
    simp [hnull, Rule.hasDate, hfield, hread, hrelative, hnow]
  · simp [hnull, Rule.hasDate, hfield]

/-- What a value comes down to on a field. -/
inductive Becomes (rule : Rule) (field : String) (operator : Operator) (value : Value)
    (now : Instant) : Option (Operator × Operand) → Prop
  /-- The word for an empty field. -/
  | null (hnull : value = .text Value.nullWord) :
      Becomes rule field operator value now (some (operator, .null))
  /-- A value that stands for nothing else on its field. -/
  | plain (hnull : value ≠ .text Value.nullWord)
      (hdate : field ∈ rule.isDate → Instant.read? value.source = none ∧ ¬ IsRelative value ∧
        value ≠ .text Value.nowWord) :
      Becomes rule field operator value now (some (operator, .value value))
  | absolute {t : Instant} (hnull : value ≠ .text Value.nullWord) (hfield : field ∈ rule.isDate)
      (hread : Instant.read? value.source = some t) :
      Becomes rule field operator value now (some (operator, .date t))
  | relative {amount : Amount} {unit : TimeUnit} {word : String} (hfield : field ∈ rule.isDate)
      (hfits : amount.Fits) (hword : word ∈ unit.words)
      (hvalue : value = .text (amount.text word)) :
      Becomes rule field operator value now
        ((now.add? amount.value unit).map fun t => (.lte, .date t))
  | present (hfield : field ∈ rule.isDate) (hvalue : value = .text Value.nowWord) :
      Becomes rule field operator value now (some (.lte, .date now))

/-- What a value comes down to is one of these. -/
theorem becomes_normalize? (rule : Rule) (field : String) (operator : Operator) (value : Value)
    (now : Instant) :
    Becomes rule field operator value now (normalize? rule field operator value now) := by
  unfold normalize?
  -- one split per question that is asked of the value, in the order of the questions
  split
  · rename_i hnull
    exact .null (Value.isWord_iff.mp hnull)
  · rename_i hnull
    replace hnull : value ≠ .text Value.nullWord := fun heq => hnull (Value.isWord_iff.mpr heq)
    split
    · rename_i hdate
      have hfield : field ∉ rule.isDate := by simpa [Rule.hasDate] using hdate
      exact .plain hnull fun hmem => absurd hmem hfield
    · rename_i hdate
      have hfield : field ∈ rule.isDate := by simpa [Rule.hasDate] using hdate
      split
      · rename_i t hread
        exact .absolute hnull hfield hread
      · rename_i hread
        split
        · rename_i n unit hrelative
          obtain ⟨amount, word, hfits, hword, hvalue, rfl⟩ := relative?_eq_some_iff.mp hrelative
          exact .relative hfield hfits hword hvalue
        · rename_i hrelative
          split
          · rename_i hnow
            exact .present hfield (Value.isWord_iff.mp hnow)
          · rename_i hnow
            exact .plain hnull fun _ => ⟨hread, relative?_eq_none_iff.mp hrelative,
              fun heq => hnow (Value.isWord_iff.mpr heq)⟩

/-- Outside leap seconds, a relative date whose amount 64 bits can hold stands for the instant that
    lies exactly so much after the present, whatever the operator, and for nothing exactly where
    that is beyond the years of instants; the term is then refused with an error that names the
    date. -/
theorem normalize_relative_exact (rule : Rule) (field : String) (operator : Operator)
    (now : Instant) (amount : Amount) (unit : TimeUnit) (word : String)
    (hfield : field ∈ rule.isDate) (hnow : now.nanos < nanosPerSecond) (hamount : amount.Fits)
    (hword : word ∈ unit.words) :
    (∀ d, normalize? rule field operator (.text (amount.text word)) now = some (.lte, .date d) ↔
        (unit.span amount.value).Leads now d) ∧
      ((unit.span amount.value).InRange now →
        ∃ d, normalize? rule field operator (.text (amount.text word)) now =
          some (.lte, .date d)) ∧
      (¬ (unit.span amount.value).InRange now →
        normalize? rule field operator (.text (amount.text word)) now = none ∧
          (field ≠ Filter.idField →
            Filter.ofFullTerm rule now field operator (.text (amount.text word)) =
              .error (.dateOutOfRange (amount.text word)))) := by
  have hnormal := normalize?_text hfield hword amount operator now
  rw [if_pos hamount] at hnormal
  refine ⟨fun d => ?_, fun hrange => ?_, fun hrange => ?_⟩
  · rw [hnormal, ← Instant.add?_eq_some_iff hnow]
    simp
  · -- what is in range is not refused
    have hsome : now.add? amount.value unit ≠ none := fun hnone =>
      (Instant.add?_eq_none_iff hnow _ _).mp hnone hrange
    obtain ⟨d, hd⟩ := Option.ne_none_iff_exists'.mp hsome
    exact ⟨d, by rw [hnormal, hd]; rfl⟩
  · have hnone : normalize? rule field operator (.text (amount.text word)) now = none := by
      rw [hnormal, (Instant.add?_eq_none_iff hnow _ _).mpr hrange]
      rfl
    refine ⟨hnone, fun hid => ?_⟩
    simp [Filter.ofFullTerm, hid, hnone, Value.source]

/-- One month after 31 January 2024 is 29 February, at the same time of day, and the smallest
    amount of years leads out of range. -/
theorem normalize_relative_exact_month_end :
    normalize? ⟨[], [], ["due"]⟩ "due" .contains (.text "+1M")
        ⟨1706688000, 5, by decide, by decide, by decide⟩ =
      some (.lte, .date ⟨1709193600, 5, by decide, by decide, by decide⟩) ∧
    normalize? ⟨[], [], ["due"]⟩ "due" .gt (.text "-9223372036854775808years") .noon = none :=
  ⟨((normalize_relative_exact ⟨[], [], ["due"]⟩ "due" .contains
      ⟨1706688000, 5, by decide, by decide, by decide⟩ (.ofDigits .plus ['1'] rfl) .months "M"
      (by simp) (by decide) (by decide) (by simp [TimeUnit.words])).1 _).mpr
        ⟨by decide, by decide, by decide, by decide⟩,
    ((normalize_relative_exact ⟨[], [], ["due"]⟩ "due" .gt .noon
      (.ofDigits .minus "9223372036854775808".toList rfl) .years "years" (by simp) (by decide)
      (by decide) (by simp [TimeUnit.words])).2.2 (by decide)).1⟩

/-- A relative date on a date field is never a plain value if 64 bits can hold its amount: it is an
    instant to compare up to, or it is refused.  With a larger amount it is always a plain value,
    compared by the operator of the term. -/
theorem normalize_relative_cases (rule : Rule) (field : String) (operator : Operator)
    (now : Instant) (amount : Amount) (unit : TimeUnit) (word : String)
    (hfield : field ∈ rule.isDate) (hword : word ∈ unit.words) :
    (amount.Fits →
        normalize? rule field operator (.ofToken (amount.text word)) now = none ∨
          ∃ d, normalize? rule field operator (.ofToken (amount.text word)) now =
            some (.lte, .date d)) ∧
      (¬ amount.Fits →
        normalize? rule field operator (.ofToken (amount.text word)) now =
          some (operator, .value (.text (amount.text word)))) := by
  have hnormal := normalize?_text hfield hword amount operator now
  rw [ofToken_text hword]
  refine ⟨fun hfits => ?_, fun hfits => ?_⟩
  · rw [if_pos hfits] at hnormal
    rw [hnormal]
    -- the instant is in range or not
    cases now.add? amount.value unit with
    | none => exact .inl rfl
    | some d => exact .inr ⟨d, rfl⟩
  · rw [if_neg hfits] at hnormal
    exact hnormal

/-- The largest amount of days that 64 bits can hold. -/
theorem normalize_relative_cases_largest :
    normalize? ⟨[], [], ["due"]⟩ "due" .contains (.ofToken "9223372036854775807d") .noon = none ∨
      ∃ d, normalize? ⟨[], [], ["due"]⟩ "due" .contains (.ofToken "9223372036854775807d") .noon =
        some (.lte, .date d) :=
  (normalize_relative_cases ⟨[], [], ["due"]⟩ "due" .contains .noon
    (.ofDigits .none "9223372036854775807".toList rfl) .days "d" (by simp)
    (by simp [TimeUnit.words])).1 (by decide)

/-- One day more is taken for a plain value, and is neither an instant nor refused. -/
theorem normalize_relative_beyond_word :
    normalize? ⟨[], [], ["due"]⟩ "due" .contains (.ofToken "9223372036854775808d") .noon =
        some (.contains, .value (.text "9223372036854775808d")) ∧
      ¬ (normalize? ⟨[], [], ["due"]⟩ "due" .contains (.ofToken "9223372036854775808d") .noon =
          none ∨
        ∃ d, normalize? ⟨[], [], ["due"]⟩ "due" .contains (.ofToken "9223372036854775808d") .noon =
          some (.lte, .date d)) := by
  have hplain : normalize? ⟨[], [], ["due"]⟩ "due" .contains (.ofToken "9223372036854775808d")
      .noon = some (.contains, .value (.text "9223372036854775808d")) := by decide
  refine ⟨hplain, ?_⟩
  rw [hplain]
  rintro (h | ⟨d, h⟩) <;> cases h

end Sift.Operand
