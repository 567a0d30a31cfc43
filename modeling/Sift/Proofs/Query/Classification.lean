import Sift.Proofs.Number.Nearest
import Sift.Proofs.Number.Text
import Sift.Proofs.Query.Value
import Sift.Proofs.Text.Digits

/-!
# The classification of tokens

A token is a number if it is a numeral whose value is below the overflow of numbers, and text
otherwise; either way it keeps every character that was written (`token_classification`).
-/

namespace Sift

open Text (decimalValue)

namespace Numeral

/-- The number that a numeral stands for. -/
def value : Numeral → ℚ
  | integer digits => decimalValue digits.chars
  | fractional whole fraction =>
    decimalValue whole.chars + decimalValue fraction.chars / 10 ^ fraction.chars.length

/-- The decimal that a numeral writes has its value. -/
private theorem decimal_value (numeral : Numeral) :
    (numeral.decimal.num / numeral.decimal.den : ℚ) = numeral.value := by
  cases numeral with
  | integer digits => simp [decimal, Decimal.num, Decimal.den, value]
  | fractional whole fraction =>
    -- the digits of both parts in a row are the value over the power of ten
    have hnum : (fractional whole fraction).decimal.num =
        decimalValue whole.chars * 10 ^ fraction.chars.length + decimalValue fraction.chars := by
      simp [decimal, Decimal.num, Text.decimalValue_append]
    have hden : (fractional whole fraction).decimal.den = 10 ^ fraction.chars.length := by
      simp [decimal, Decimal.den]
    have hpos : (0 : ℚ) < 10 ^ fraction.chars.length := pow_pos (by norm_num) _
    rw [hnum, hden, value]
    push_cast
    rw [add_div, mul_div_cancel_right₀ _ hpos.ne']

/-- The value of a numeral can be read off its text. -/
private theorem value_eq_of_text {numeral numeral' : Numeral} (h : numeral.text = numeral'.text) :
    numeral.value = numeral'.value := by
  have hdecimal := Value.decimal?_text numeral
  rw [h, Value.decimal?_text] at hdecimal
  rw [← decimal_value, ← decimal_value, Option.some.inj hdecimal]

end Numeral

namespace Value

/-- A numeral is a number unless it overflows. -/
private theorem ofToken_numeral (numeral : Numeral) :
    ofToken numeral.text =
      if (Number.ofRatio false numeral.decimal.num numeral.decimal.den).isFinite then
        .number (.ofRatio false numeral.decimal.num numeral.decimal.den) numeral.text
      else .text numeral.text := by
  unfold ofToken
  rw [decimal?_text]

/-- A numeral below the overflow is classified as the number nearest to its value. -/
private theorem ofToken_numeral_of_lt {numeral : Numeral} (h : numeral.value < Number.overflow) :
    ∃ rank : Fin Number.rankBound,
      ofToken numeral.text = .number (.finite false rank) numeral.text ∧
        Number.IsNearest rank numeral.value := by
  rw [← numeral.decimal_value] at h ⊢
  obtain ⟨rank, hrank, hnearest⟩ := Number.ofRatio_of_lt false numeral.decimal.den_pos h
  refine ⟨rank, ?_, hnearest⟩
  rw [ofToken_numeral, hrank]
  rfl

/-- A numeral at or above the overflow is text. -/
private theorem ofToken_numeral_of_le {numeral : Numeral} (h : Number.overflow ≤ numeral.value) :
    ofToken numeral.text = .text numeral.text := by
  rw [← numeral.decimal_value] at h
  rw [ofToken_numeral, Number.ofRatio_of_le false numeral.decimal.den_pos h]
  rfl

/-- What is no numeral is text. -/
private theorem ofToken_of_not_numeral {token : String}
    (h : ∀ numeral : Numeral, token ≠ numeral.text) : ofToken token = .text token := by
  unfold ofToken
  cases hdecimal : decimal? token with
  | none => rfl
  | some decimal =>
    obtain ⟨numeral, htoken⟩ := exists_numeral hdecimal
    exact absurd htoken (h numeral)

/-- Every token can be had back from its value.  It is a number exactly if it is a numeral, digits
    or digits on both sides of a point, of a value below the overflow; otherwise it is text.  The
    number is the one nearest to the value of the numeral. -/
theorem token_classification (token : String) :
    (ofToken token).source = token ∧
      ((∃ x written, ofToken token = .number x written) ↔
        ∃ numeral : Numeral, token = numeral.text ∧ numeral.value < Number.overflow) ∧
      ((¬ ∃ numeral : Numeral, token = numeral.text ∧ numeral.value < Number.overflow) →
        ofToken token = .text token) ∧
      ∀ numeral : Numeral, token = numeral.text → numeral.value < Number.overflow →
        ∃ rank : Fin Number.rankBound,
          ofToken token = .number (.finite false rank) token ∧
            Number.IsNearest rank numeral.value := by
  have htext : (¬ ∃ numeral : Numeral, token = numeral.text ∧ numeral.value < Number.overflow) →
      ofToken token = .text token := by
    intro hnot
    by_cases hnumeral : ∃ numeral : Numeral, token = numeral.text
    · obtain ⟨numeral, rfl⟩ := hnumeral
      exact ofToken_numeral_of_le (not_lt.mp fun hlt => hnot ⟨numeral, rfl, hlt⟩)
    · exact ofToken_of_not_numeral fun numeral heq => hnumeral ⟨numeral, heq⟩
  refine ⟨source_ofToken token, ⟨?_, ?_⟩, htext, ?_⟩
  · rintro ⟨x, written, hnumber⟩
    -- a number is not text
    by_contra hnot
    rw [htext hnot] at hnumber
    cases hnumber
  · rintro ⟨numeral, rfl, hlt⟩
    obtain ⟨rank, hrank, -⟩ := ofToken_numeral_of_lt hlt
    exact ⟨_, _, hrank⟩
  · rintro numeral rfl hlt
    exact ofToken_numeral_of_lt hlt

/-- The overflow of numbers, which is a natural number of 309 digits. -/
def overflowInteger : Nat := (Nat.pow 2 54 - 1) * Nat.pow 2 970

/-- The overflow is that natural number. -/
private theorem cast_overflowInteger : (overflowInteger : ℚ) = Number.overflow := by
  have hones : Nat.pow 2 54 - 1 = 18014398509481983 := rfl
  have hsplit : (2 : ℚ) ^ 1024 = 2 ^ 54 * 2 ^ 970 := by rw [← pow_add]
  unfold overflowInteger Number.overflow
  rw [hones, hsplit]
  simp only [Nat.pow_eq, Nat.cast_mul, Nat.cast_pow, Nat.cast_ofNat]
  generalize (2 : ℚ) ^ 970 = scale
  ring

/-- The digits that a natural number is written with. -/
def decimalDigits (n : Nat) : Digits :=
  ⟨Nat.toDigits 10 n, Nat.toDigits_ne_nil, fun _ => Text.isDigit_of_mem_toDigits⟩

/-- The overflow itself is text, and nine tenths behind the natural number before it still make a
    number. -/
theorem token_classification_overflow :
    ofToken (String.ofList (Nat.toDigits 10 overflowInteger)) =
        .text (String.ofList (Nat.toDigits 10 overflowInteger)) ∧
      ∃ x written,
        ofToken (String.ofList (Nat.toDigits 10 (overflowInteger - 1) ++ ['.', '9'])) =
          .number x written := by
  have hcast := cast_overflowInteger
  have hoverflow : 0 < Number.overflow := sub_pos.mpr (pow_lt_pow_right₀ one_lt_two (by decide))
  -- the number is not computed from here on
  generalize overflowInteger = n at *
  have hpos : 0 < n := Nat.cast_pos.mp (hcast ▸ hoverflow)
  obtain ⟨-, -, htext, -⟩ := token_classification (Numeral.integer (decimalDigits n)).text
  obtain ⟨-, hnumber, -, -⟩ := token_classification
    (Numeral.fractional (decimalDigits (n - 1)) ⟨['9'], by decide, List.all_eq_true.mp rfl⟩).text
  refine ⟨htext ?_, hnumber.mpr ⟨_, rfl, ?_⟩⟩
  · rintro ⟨numeral, hsame, hlt⟩
    rw [← Numeral.value_eq_of_text hsame, ← hcast] at hlt
    simp [Numeral.value, decimalDigits] at hlt
  · have hbefore : ((n - 1 : Nat) : ℚ) + 1 = n := by exact_mod_cast Nat.sub_add_cancel hpos
    have hwhole : decimalValue (decimalDigits (n - 1)).chars = n - 1 := Text.decimalValue_toDigits _
    have hnine : decimalValue ['9'] = 9 := rfl
    rw [← hcast, ← hbefore, Numeral.value, hwhole, hnine]
    norm_num

end Value

end Sift
