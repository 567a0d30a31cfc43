import Sift.Instant.Reader
import Sift.Instant.Shift
import Sift.Query.Basic
import Sift.Rule

/-! # Operands

What the value of a term means for its field.  One word stands for an empty field; on a date
field, days and timestamps stand for instants, and so do the present and amounts of time relative
to it, which always ask for instants up to there. -/

namespace Sift

/-- What a field is compared with. -/
inductive Operand where
  /-- The field is empty or missing. -/
  | null
  | date (value : Instant)
  | value (value : Value)
  deriving DecidableEq

namespace Operand

open Text (decimalValue)

/-- Takes a sign off a text; without one the text is positive. -/
def takeSign : List Char → Bool × List Char
  | '+' :: rest => (false, rest)
  | '-' :: rest => (true, rest)
  | cs => (false, cs)

/-- Splits a relative date into its amount and the word for its unit.  The amount has 64 bits. -/
def splitRelative? (text : String) : Option (Int × String) :=
  let (negative, cs) := takeSign text.toList
  let digits := cs.takeWhile Char.isDigit
  let unit := cs.dropWhile Char.isDigit
  let amount : Int := if negative then -(decimalValue digits : Int) else decimalValue digits
  -- the unit is one word, right behind the digits
  if digits.isEmpty || unit.isEmpty || unit.any Unicode.isWhiteSpace then none
  else if -(Nat.pow 2 63 : Int) ≤ amount ∧ amount < Nat.pow 2 63 then
    some (amount, String.ofList unit)
  else none

/-- The amount and the unit of a relative date.  Numbers have no unit. -/
def relative? : Value → Option (Int × TimeUnit)
  | .number .. => none
  | .text text => do
    let (amount, word) ← splitRelative? text
    let unit ← TimeUnit.ofWord? word
    some (amount, unit)

/-- The operator and the operand that a term on a field comes down to, or nothing if it is a
    relative date beyond all instants. -/
def normalize? (rule : Rule) (field : String) (operator : Operator) (value : Value)
    (now : Instant) : Option (Operator × Operand) :=
  -- this word goes before all others, on every field
  if value.isWord Value.nullWord then some (operator, .null)
  else if !rule.hasDate field then some (operator, .value value)
  else
    match Instant.read? value.source with
    | some t => some (operator, .date t)
    | none =>
      match relative? value with
      -- the operator that was written does not count
      | some (amount, unit) => (now.add? amount unit).map fun t => (.lte, .date t)
      | none =>
        if value.isWord Value.nowWord then some (.lte, .date now)
        else some (operator, .value value)

end Operand

end Sift
