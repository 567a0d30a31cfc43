import Sift.Number.Decimal
import Sift.Text.Digits

/-! # Values

What a term of a query compares with.  A token of digits, with or without a fraction, is a number
and keeps the text it was written with; every other token is text. -/

namespace Sift

/-- The value of a term. -/
inductive Value where
  /-- A number, and the text it was written with. -/
  | number (value : Number) (text : String)
  | text (value : String)
  deriving DecidableEq

namespace Value

open Text (decimalValue)

/-- A non-empty string of decimal digits. -/
def isDigits (cs : List Char) : Bool := !cs.isEmpty && cs.all Char.isDigit

/-- Splits a token at its first point. -/
def splitPoint (cs : List Char) : List Char × Option (List Char) :=
  match cs.span (· != '.') with
  | (whole, []) => (whole, none)
  | (whole, _ :: fraction) => (whole, some fraction)

/-- The decimal that a token of digits writes: a whole part and, if the token has a point, a
    fraction of at least one digit. -/
def decimal? (token : String) : Option Decimal :=
  match splitPoint token.toList with
  | (whole, none) => if isDigits whole then some ⟨decimalValue whole, 0⟩ else none
  | (whole, some fraction) =>
    if isDigits whole && isDigits fraction then
      some ⟨decimalValue (whole ++ fraction), -fraction.length⟩
    else none

/-- Classifies a token.  Digits too many for a finite number stay text. -/
def ofToken (token : String) : Value :=
  match decimal? token with
  | some decimal =>
    let value := Number.ofRatio false decimal.num decimal.den
    if value.isFinite then .number value token else .text token
  | none => .text token

/-- The token as it was written. -/
def source : Value → String
  | .number _ written => written
  | .text value => value

/-- Whether a value is a given word, and not a number. -/
def isWord (word : String) : Value → Bool
  | .number .. => false
  | .text value => value == word

/-- The word for an empty or missing field. -/
def nullWord : String := "NULL"

/-- The word for the present instant. -/
def nowWord : String := "NOW"

end Value

end Sift
