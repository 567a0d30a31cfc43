/-! # Digit strings -/

namespace Sift.Text

/-- The value of a decimal digit. -/
def digitValue (c : Char) : Nat := c.toNat - '0'.toNat

/-- The value of a string of decimal digits. -/
def decimalValue (digits : List Char) : Nat := Nat.ofDigitChars 10 digits 0

/-- The digits at the head of a text, and what follows them. -/
def spanDigits (cs : List Char) : List Char × List Char := cs.span Char.isDigit

/-- The value of a digit of some base up to sixteen, in either case. -/
def hexDigitValue? (c : Char) : Option Nat :=
  if c.isDigit then some (digitValue c)
  else if 'a'.toNat ≤ c.toNat ∧ c.toNat ≤ 'f'.toNat then some (c.toNat - 'a'.toNat + 10)
  else if 'A'.toNat ≤ c.toNat ∧ c.toNat ≤ 'F'.toNat then some (c.toNat - 'A'.toNat + 10)
  else none

/-- The value of a numeral in a base up to sixteen; no digits are no numeral. -/
def numeralValue? (base : Nat) (digits : List Char) : Option Nat :=
  if digits.isEmpty then none
  else digits.foldlM (fun value c => do
    let digit ← hexDigitValue? c
    if digit < base then some (base * value + digit) else none) 0

/-- The character of a code point, if there is one. -/
def charOfCode? (code : Nat) : Option Char :=
  if code.isValidChar then some (Char.ofNat code) else none

end Sift.Text
