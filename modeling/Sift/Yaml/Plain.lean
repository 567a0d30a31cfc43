import Sift.Json.Basic
import Sift.Text.Digits

/-! # What a plain scalar means

A scalar without quotes may be null, a truth value, an integer or a float; any other is a
string. -/

namespace Sift.Yaml

open Text (spanDigits decimalValue numeralValue?)

def isNullWord (text : String) : Bool := ["null", "Null", "NULL", "~"].contains text

def boolWord? (text : String) : Option Bool :=
  if ["true", "True", "TRUE"].contains text then some true
  else if ["false", "False", "FALSE"].contains text then some false
  else none

/-- A numeral without a sign: in base 16, 8 or 2 with a mark, or in base 10 without leading
    zeros. -/
def unsigned? : List Char → Option Nat
  | '0' :: 'x' :: digits => numeralValue? 16 digits
  | '0' :: 'o' :: digits => numeralValue? 8 digits
  | '0' :: 'b' :: digits => numeralValue? 2 digits
  -- a leading zero without the mark of a base
  | '0' :: _ :: _ => none
  | digits => numeralValue? 10 digits

/-- An integer of any size. -/
def integer? : List Char → Option Int
  | '-' :: digits => (unsigned? digits).map fun n => -(n : Int)
  | '+' :: digits => (unsigned? digits).map fun n => (n : Int)
  | digits => (unsigned? digits).map fun n => (n : Int)

/-- An exponent, or the end of a numeral. -/
private def power? : List Char → Option Int
  | [] => some 0
  | e :: rest =>
    if e == 'e' || e == 'E' then
      let (negative, digits) := match rest with
        | '-' :: digits => (true, digits)
        | '+' :: digits => (false, digits)
        | digits => (false, digits)
      (numeralValue? 10 digits).map fun n => if negative then -(n : Int) else n
    else none

/-- A decimal numeral: digits before and after a point, at least one in all, and maybe an
    exponent. -/
def decimal? (cs : List Char) : Option Decimal := do
  let (whole, rest) := spanDigits cs
  let (fraction, rest) := match rest with
    | '.' :: rest => spanDigits rest
    | rest => ([], rest)
  let power ← power? rest
  -- a point or an exponent alone is no numeral
  if whole.isEmpty && fraction.isEmpty then none
  else some ⟨decimalValue (whole ++ fraction), power - fraction.length⟩

/-- A float: infinite, not a number, or a decimal numeral that is not too large. -/
def float? (text : String) : Option Number :=
  let (negative, cs) := match text.toList with
    | '-' :: rest => (true, rest)
    | '+' :: rest => (false, rest)
    | cs => (false, cs)
  if [".inf", ".Inf", ".INF"].contains (String.ofList cs) then some (.infinite negative)
  -- no sign may stand before this one
  else if [".nan", ".NaN", ".NAN"].contains text then some .nan
  else do
    let number := (← decimal? cs).toNumber negative
    -- a numeral that overflows is left to be a string
    match number with
    | .finite .. => some number
    | _ => none

/-- Whether digits follow a leading zero, as in a telephone number. -/
def isPaddedDigits (text : String) : Bool :=
  match text.toList with
  | '-' :: '0' :: digit :: rest | '+' :: '0' :: digit :: rest | '0' :: digit :: rest =>
    (digit :: rest).all Char.isDigit
  | _ => false

/-- An integer that 64 bits hold.  One beyond 64 bits that 128 bits hold is refused, by `none`
    inside; a larger one does not count as an integer. -/
def integerJson? (text : String) : Option (Option Json) := do
  let n ← integer? text.toList
  if -(Nat.pow 2 63 : Int) ≤ n ∧ n < Nat.pow 2 64 then return some (.int n)
  if -(Nat.pow 2 127 : Int) ≤ n ∧ n < Nat.pow 2 128 then return none
  none

/-- A float as JSON, which has none that are not finite. -/
def floatJson (number : Number) : Json :=
  match number with
  | .finite .. => .float number
  | _ => .null

/-- What a plain scalar means, if it is not refused. -/
def plainJson? (text : String) : Option Json :=
  if text.isEmpty || isNullWord text then some .null
  else if let some value := boolWord? text then some (.bool value)
  else if let some value := integerJson? text then value
  -- as a float this would be a number
  else if isPaddedDigits text then some (.string text)
  else match float? text with
    | some number => some (floatJson number)
    | none => some (.string text)

end Sift.Yaml
