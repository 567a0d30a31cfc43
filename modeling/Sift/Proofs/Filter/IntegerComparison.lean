import Sift.Proofs.Filter.Contains
import Sift.Proofs.Filter.DateComparison
import Sift.Proofs.Matcher.Comparison
import Sift.Proofs.Number.Integer

/-!
# Comparing integers

A token of digits stands for a number, whatever its field is, and below `2 ^ 53` this number is the
integer that the digits write: the filter shows that integer, and an integer of a document stands to
it as the operator says, also where the document's integer has to be rounded
(`small_integers_exact`).
-/

namespace Sift

open Char (isDigit)
open Text (decimalValue)

/-! ## Tokens of digits -/

namespace Value

variable {token : String}

/-- Digits alone are a decimal without an exponent. -/
private theorem decimal?_of_digits (hne : token ≠ "")
    (hdigits : ∀ c ∈ token.toList, isDigit c = true) :
    decimal? token = some ⟨decimalValue token.toList, 0⟩ := by
  have hnonempty : token.toList ≠ [] := by simpa using hne
  have hdecimal := decimal?_text (.integer ⟨token.toList, hnonempty, hdigits⟩)
  rw [Numeral.text, Numeral.chars, String.ofList_toList] at hdecimal
  exact hdecimal

/-- Digits that write an integer up to `2 ^ 53` stand for its number. -/
private theorem ofToken_of_digits (hne : token ≠ "")
    (hdigits : ∀ c ∈ token.toList, isDigit c = true)
    (hvalue : decimalValue token.toList ≤ Nat.pow 2 53) :
    ofToken token = .number (.ofInt (decimalValue token.toList)) token := by
  have hnum : Decimal.num ⟨decimalValue token.toList, 0⟩ = decimalValue token.toList :=
    Nat.mul_one _
  have hden : Decimal.den ⟨decimalValue token.toList, 0⟩ = 1 := rfl
  have hnonneg : decide ((decimalValue token.toList : Int) < 0) = false := by simp
  have hfinite := (Number.ofInt_natCast hvalue).1
  unfold ofToken
  rw [decimal?_of_digits hne hdigits]
  dsimp only
  rw [hnum, hden]
  -- both sides are the same ratio, once the sign is gone
  unfold Number.ofInt at *
  rw [hnonneg, Int.natAbs_natCast] at *
  rw [if_pos hfinite]

/-- A token of digits is no date. -/
private theorem read?_of_digits (hdigits : ∀ c ∈ token.toList, isDigit c = true) :
    Instant.read? token = none := by
  apply Instant.read?_eq_none_of_hyphen
  intro hmem
  exact absurd (hdigits '-' (List.mem_of_mem_tail hmem)) (by decide)

end Value

/-! ## Comparisons -/

namespace Comparison

/-- The operator that asks for a comparison. -/
def operator : Comparison → Operator
  | .eq => .eq
  | .gte => .gte
  | .gt => .gt
  | .lte => .lte
  | .lt => .lt

/-- What a comparison says of two integers. -/
def Holds : Comparison → Int → Int → Prop
  | .eq, n, m => n = m
  | .gte, n, m => m ≤ n
  | .gt, n, m => m < n
  | .lte, n, m => n ≤ m
  | .lt, n, m => n < m

instance (comparison : Comparison) (n m : Int) : Decidable (comparison.Holds n m) :=
  match comparison with
  | .eq => inferInstanceAs (Decidable (n = m))
  | .gte => inferInstanceAs (Decidable (m ≤ n))
  | .gt => inferInstanceAs (Decidable (m < n))
  | .lte => inferInstanceAs (Decidable (n ≤ m))
  | .lt => inferInstanceAs (Decidable (n < m))

end Comparison

/-- The condition of an operator that compares is its comparison. -/
private theorem Filter.condition_operator (rule : Rule) (field source : String)
    (comparison : Comparison) (scalar : Scalar) :
    condition rule field comparison.operator source scalar = .compare comparison scalar := by
  cases comparison <;> rfl

/-- The filter of a comparison with a number compares with this number, whatever the rule says of
    the field. -/
private theorem Filter.ofTerm_number {field token : String} (hid : field ≠ Filter.idField)
    {x : Number}
    (hvalue : Value.ofToken token = .number x token) (hread : Instant.read? token = none)
    (rule : Rule) (now : Instant) (comparison : Comparison) :
    Filter.ofTerm rule now ⟨some field, comparison.operator, .ofToken token⟩ =
      .ok (.field field (.compare comparison (.number x))) := by
  rw [hvalue]
  have hnormal := @Operand.normalize?_eq_value rule field (.number x token) rfl
    (fun _ => ⟨hread, rfl, rfl⟩) comparison.operator now
  simp only [ofTerm, ofFullTerm, if_neg hid, hnormal, condition_operator]
  rfl

/-- Equality with an integer is written as the integer. -/
private theorem Filter.text_equals_ofInt {m : Nat} (hm : m ≤ Nat.pow 2 53) (field : String) :
    (Filter.field field (.compare .eq (.number (.ofInt m)))).text =
      "\x7b" ++ String.ofList (Json.stringChars field) ++ ":" ++ Nat.repr m ++ "\x7d" := by
  -- one member, with the digits of the integer for its value
  have hchars : (Json.object [(field, .int m)]).chars =
      '\x7b' :: (Json.stringChars field ++ ':' :: Nat.toDigits 10 m) ++ ['\x7d'] := by
    simp [Json.chars, Json.membersChars, Json.intChars]
  have hjson : (Filter.field field (.compare .eq (.number (.ofInt m)))).toJson =
      .object [(field, .int m)] := by
    simp only [toJson, Condition.toJson, Comparison.name?, Scalar.toJson, Number.toJson_ofInt hm]
  rw [text, hjson, Json.compact, hchars]
  apply String.toList_injective
  simp [Nat.repr_eq_ofList_toDigits]

/-- An integer in a field compares with a smaller natural number as integers do. -/
private theorem compares_int_iff {field : String} (hdot : '.' ∉ field.toList) {m : Nat}
    (hm : m < Nat.pow 2 53) (comparison : Comparison) (n : Int) :
    Compares field (.number (.ofInt m)) (.object [(field, .int n)]) comparison ↔
      comparison.Holds n m := by
  -- the path has one name, and the document has it
  have halong : Json.Along (fieldPath field) (.object [(field, .int n)]) (.int n) := by
    rw [fieldPath_of_no_dot hdot]
    exact .member (by simp) (.here _)
  have hcompare : Matcher.compare? (.int n) (.number (.ofInt m)) = some (compare n m) :=
    Number.compare?_ofInt hm n
  rw [compares_iff_of_not_isArray halong (by simp [Json.IsArray]), hcompare]
  simp only [Option.some.injEq, exists_eq_left', Matcher.accepted_compare_iff]
  cases comparison <;> rfl

/-- A term on a field other than the identifier whose value is a string of digits, zeros in front
    included, has a filter for each comparison.  The filter for equality is written as the field
    with the integer in decimal digits, and the matcher of each filter accepts a document with an
    integer in the field exactly if the comparison holds between the two integers. -/
theorem small_integers_exact (rule : Rule) (now : Instant) (field token : String) (m : Nat)
    (hid : field ≠ Filter.idField) (hdot : '.' ∉ field.toList) (hne : token ≠ "")
    (hdigits : ∀ c ∈ token.toList, isDigit c = true) (hvalue : decimalValue token.toList = m)
    (hm : m < Nat.pow 2 53) :
    (∃ filter, Filter.ofTerm rule now ⟨some field, .eq, .ofToken token⟩ = .ok filter ∧
        filter.text =
          "\x7b" ++ String.ofList (Json.stringChars field) ++ ":" ++ Nat.repr m ++ "\x7d") ∧
      ∀ comparison : Comparison, ∃ filter matcher,
        Filter.ofTerm rule now ⟨some field, comparison.operator, .ofToken token⟩ = .ok filter ∧
        Matcher.ofFilter filter = .ok matcher ∧
        ∀ n : Int, matcher.accepts (.object [(field, .int n)]) = true ↔ comparison.Holds n m := by
  have hle : decimalValue token.toList ≤ Nat.pow 2 53 := hvalue ▸ Nat.le_of_lt hm
  have htoken := Value.ofToken_of_digits hne hdigits hle
  rw [hvalue] at htoken
  have hfilter := Filter.ofTerm_number hid htoken (Value.read?_of_digits hdigits) rule now
  constructor
  · refine ⟨_, hfilter .eq, ?_⟩
    rw [Filter.text_equals_ofInt (Nat.le_of_lt hm)]
  · intro comparison
    refine ⟨_, _, hfilter comparison, rfl, fun n => ?_⟩
    rw [← compares_int_iff hdot hm, compares_iff_accepts]

/-- The largest of these integers, with zeros in front, on a field of dates and texts, beside the
    largest integer of 64 bits and the integers next to it. -/
theorem small_integers_exact_largest :
    ∃ filter matcher,
      Filter.ofTerm ⟨[], ["n"], ["n"]⟩ .noon ⟨some "n", .gt, .ofToken "009007199254740991"⟩ =
        .ok filter ∧
      Matcher.ofFilter filter = .ok matcher ∧
      matcher.accepts (.object [("n", .int 18446744073709551615)]) = true ∧
      matcher.accepts (.object [("n", .int 9007199254740992)]) = true ∧
      matcher.accepts (.object [("n", .int 9007199254740991)]) = false ∧
      matcher.accepts (.object [("n", .int (-9223372036854775808))]) = false := by
  obtain ⟨-, hterms⟩ := small_integers_exact ⟨[], ["n"], ["n"]⟩ .noon "n" "009007199254740991"
    9007199254740991 (by decide) (by decide) (by decide) (List.all_eq_true.mp rfl) rfl (by decide)
  obtain ⟨filter, matcher, hfilter, hmatcher, haccepts⟩ := hterms .gt
  refine ⟨filter, matcher, hfilter, hmatcher, ?_, ?_, ?_, ?_⟩
  · rw [haccepts]
    decide
  · rw [haccepts]
    decide
  · rw [← Bool.not_eq_true, haccepts]
    decide
  · rw [← Bool.not_eq_true, haccepts]
    decide

end Sift
