import Mathlib.Data.List.TakeDrop
import Sift.Query.Value

/-!
# Classified tokens

A value keeps the token that it was classified from, and only tokens of digits and points become
numbers: those that write a decimal are the texts of `Numeral`s (`decimal?_text`, `exists_numeral`).
-/

namespace Sift

open Char (isDigit)
open Text (decimalValue)

/-! ## Numerals -/

/-- One digit or more. -/
structure Digits where
  chars : List Char
  nonempty : chars ≠ []
  isDigit_of_mem : ∀ c ∈ chars, isDigit c = true

/-- A number as it is written: digits, or digits on both sides of a point. -/
inductive Numeral where
  | integer (digits : Digits)
  | fractional (whole fraction : Digits)

namespace Numeral

def chars : Numeral → List Char
  | integer digits => digits.chars
  | fractional whole fraction => whole.chars ++ '.' :: fraction.chars

def text (numeral : Numeral) : String := String.ofList numeral.chars

/-- The decimal that a numeral writes. -/
def decimal : Numeral → Decimal
  | integer digits => ⟨decimalValue digits.chars, 0⟩
  | fractional whole fraction =>
    ⟨decimalValue (whole.chars ++ fraction.chars), -fraction.chars.length⟩

/-- A numeral is written in digits and points. -/
private theorem isDigit_or_point {numeral : Numeral} {c : Char} (h : c ∈ numeral.chars) :
    isDigit c = true ∨ c = '.' := by
  cases numeral with
  | integer digits => exact .inl (digits.isDigit_of_mem c h)
  | fractional whole fraction =>
    rw [chars, List.mem_append, List.mem_cons] at h
    rcases h with h | rfl | h
    · exact .inl (whole.isDigit_of_mem c h)
    · exact .inr rfl
    · exact .inl (fraction.isDigit_of_mem c h)

end Numeral

namespace Value

variable {token : String}

/-! ## Sources -/

/-- A token becomes a number or text, and stands in it as it was written. -/
theorem ofToken_cases (token : String) :
    ofToken token = .text token ∨ ∃ value, ofToken token = .number value token := by
  unfold ofToken
  split
  · dsimp only
    split
    · exact .inr ⟨_, rfl⟩
    · exact .inl rfl
  · exact .inl rfl

/-- A value keeps its token. -/
@[simp] theorem source_ofToken (token : String) : (ofToken token).source = token := by
  rcases ofToken_cases token with h | ⟨value, h⟩ <;> rw [h] <;> rfl

/-- Only a text is a word. -/
theorem isWord_iff {value : Value} {word : String} :
    value.isWord word = true ↔ value = .text word := by
  cases value <;> simp [isWord]

/-- Only the word itself is classified as that word. -/
theorem isWord_ofToken_of_ne {word : String} (h : token ≠ word) :
    (ofToken token).isWord word = false := by
  rcases ofToken_cases token with htext | ⟨value, hnumber⟩
  · simp [htext, isWord, h]
  · simp [hnumber, isWord]

/-! ## Digits and points -/

/-- A token is its whole part, or its whole part, a point and its fraction. -/
private theorem eq_of_splitPoint {cs whole : List Char} {fraction : Option (List Char)}
    (h : splitPoint cs = (whole, fraction)) :
    cs = whole ++ fraction.elim [] ('.' :: ·) := by
  have hsplit := List.takeWhile_append_dropWhile (p := (· != '.')) (l := cs)
  have hpoint := List.head?_dropWhile_not (· != '.') cs
  unfold splitPoint at h
  rw [List.span_eq_takeWhile_dropWhile] at h
  -- what follows the whole part is nothing or begins with the point
  cases hback : cs.dropWhile (· != '.') with
  | nil =>
    rw [hback] at h hsplit
    obtain ⟨rfl, rfl⟩ := Prod.mk.inj h
    exact hsplit.symm
  | cons c back =>
    rw [hback] at h hsplit hpoint
    obtain ⟨rfl, rfl⟩ := Prod.mk.inj h
    have hc : c = '.' := by simpa using hpoint
    rw [hc] at hsplit
    exact hsplit.symm

/-- A point behind a part without one is the first point. -/
private theorem splitPoint_append {whole : List Char} (h : '.' ∉ whole)
    (fraction : Option (List Char)) :
    splitPoint (whole ++ fraction.elim [] ('.' :: ·)) = (whole, fraction) := by
  have hother : ∀ c ∈ whole, (c != '.') = true := by
    intro c hc
    refine bne_iff_ne.mpr ?_
    rintro rfl
    exact h hc
  unfold splitPoint
  -- the point is the first character that is not taken
  rw [List.span_eq_takeWhile_dropWhile, List.takeWhile_append_of_pos hother,
    List.dropWhile_append_of_pos hother]
  cases fraction with
  | none => simp
  | some fraction => simp

/-- Digits are recognised as such. -/
private theorem isDigits_chars (digits : Digits) : isDigits digits.chars = true := by
  simpa [isDigits, digits.nonempty] using digits.isDigit_of_mem

/-- What is recognised as digits is one digit or more. -/
private theorem exists_digits {cs : List Char} (h : isDigits cs = true) :
    ∃ digits : Digits, cs = digits.chars := by
  simp only [isDigits, Bool.and_eq_true, Bool.not_eq_true', List.isEmpty_eq_false_iff,
    List.all_eq_true] at h
  exact ⟨⟨cs, h.1, h.2⟩, rfl⟩

/-- A numeral writes its decimal. -/
theorem decimal?_text (numeral : Numeral) : decimal? numeral.text = some numeral.decimal := by
  -- a point is no digit, so the whole part ends before it
  have hpoint : ∀ digits : Digits, '.' ∉ digits.chars := fun digits hmem => by
    cases digits.isDigit_of_mem _ hmem
  unfold decimal? Numeral.text
  rw [String.toList_ofList]
  cases numeral with
  | integer digits =>
    have hsplit := splitPoint_append (hpoint digits) none
    rw [Option.elim_none, List.append_nil] at hsplit
    simp only [Numeral.chars, hsplit, isDigits_chars, if_true]
    rfl
  | fractional whole fraction =>
    have hsplit := splitPoint_append (hpoint whole) (some fraction.chars)
    rw [Option.elim_some] at hsplit
    simp only [Numeral.chars, hsplit, isDigits_chars, Bool.and_self, if_true]
    rfl

/-- Only numerals write decimals. -/
theorem exists_numeral {decimal : Decimal} (h : decimal? token = some decimal) :
    ∃ numeral : Numeral, token = numeral.text := by
  have hchars : ∃ numeral : Numeral, token.toList = numeral.chars := by
    unfold decimal? at h
    split at h
    · -- no point
      rename_i whole hsplit
      have htoken := eq_of_splitPoint hsplit
      split at h
      · rename_i hwhole
        obtain ⟨digits, rfl⟩ := exists_digits hwhole
        rw [Option.elim_none, List.append_nil] at htoken
        exact ⟨.integer digits, htoken⟩
      · cases h
    · -- a point between digits
      rename_i whole fraction hsplit
      have htoken := eq_of_splitPoint hsplit
      split at h
      · rename_i hdigits
        rw [Bool.and_eq_true] at hdigits
        obtain ⟨whole, rfl⟩ := exists_digits hdigits.1
        obtain ⟨fraction, rfl⟩ := exists_digits hdigits.2
        exact ⟨.fractional whole fraction, htoken⟩
      · cases h
  obtain ⟨numeral, hchars⟩ := hchars
  exact ⟨numeral, by rw [Numeral.text, ← hchars, String.ofList_toList]⟩

/-- A token with any other character is text. -/
theorem ofToken_eq_text {c : Char} (hc : c ∈ token.toList) (hdigit : isDigit c = false)
    (hpoint : c ≠ '.') : ofToken token = .text token := by
  unfold ofToken
  cases hdecimal : decimal? token with
  | none => rfl
  | some decimal =>
    obtain ⟨numeral, rfl⟩ := exists_numeral hdecimal
    rw [Numeral.text, String.toList_ofList] at hc
    rcases Numeral.isDigit_or_point hc with h | h
    · rw [hdigit] at h
      cases h
    · exact absurd h hpoint

end Value

end Sift
