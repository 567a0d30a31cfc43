import Sift.Number.Basic

/-! # Decimals

A decimal is a whole number of tenths, hundredths, … : `digits * 10 ^ exponent`.  Reading rounds
a decimal to the nearest number; `Decimal.shortest` goes the other way and finds the decimal with
the fewest digits that reads back as a given magnitude.  `Decimal.text` writes a decimal the way
documents show their fractions. -/

namespace Sift

/-- The decimal `digits * 10 ^ exponent`. -/
structure Decimal where
  digits : Nat
  exponent : Int
  deriving DecidableEq

namespace Decimal

/-- The numerator of a decimal as a fraction. -/
def num (d : Decimal) : Nat := d.digits * Nat.pow 10 d.exponent.toNat

/-- The denominator of a decimal as a fraction. -/
def den (d : Decimal) : Nat := Nat.pow 10 (-d.exponent).toNat

/-- How many digits a natural number is written with. -/
def length (n : Nat) : Nat := (Nat.toDigits 10 n).length

/-- The number nearest to a decimal.  A decimal of more than 400 places before the point is beyond
    all finite numbers and one with more than 400 zeros behind it is nearest to zero, so no power
    of ten larger than the digits need is ever computed. -/
def toNumber (negative : Bool) (d : Decimal) : Number :=
  let places : Int := length d.digits + d.exponent
  -- zero has no leading digit to count places from
  if d.digits = 0 ∨ places < -400 then Number.ofRatio negative 0 1
  else if 400 < places then .infinite negative
  else Number.ofRatio negative d.num d.den

/-- Whether reading a decimal gives the magnitude of a rank. -/
def readsAs (d : Decimal) (rank : Nat) : Bool :=
  Number.nearestRank (d.num * Nat.pow 2 1074) d.den == rank

/-- The exponent of the leading digit of `magnitude` units.  The shift by 400 places makes the
    whole part of every positive magnitude positive. -/
def leadingExponent (magnitude : Nat) : Int :=
  (length (magnitude * Nat.pow 10 400 / Nat.pow 2 1074) : Int) - 401

/-- The decimal with `count` digits that is nearest to the magnitude of a rank, among the two
    neighbours on that grid that read back as the rank; of two equally near, the one with the even
    last digit. -/
def onGrid? (rank count : Nat) : Option Decimal :=
  let magnitude := Number.units rank
  -- the place of the last digit
  let exponent := leadingExponent magnitude - count + 1
  let num := magnitude * Nat.pow 10 (-exponent).toNat
  let den := Nat.pow 2 1074 * Nat.pow 10 exponent.toNat
  let below : Decimal := ⟨num / den, exponent⟩
  let above : Decimal := ⟨num / den + 1, exponent⟩
  let rest := 2 * (num % den)
  if below.readsAs rank ∧
      (¬ above.readsAs rank ∨ rest < den ∨ rest = den ∧ below.digits % 2 = 0) then some below
  else if above.readsAs rank then some above
  else none

/-- The magnitude of a rank written out in full. -/
def exact (rank : Nat) : Decimal := ⟨Number.units rank * Nat.pow 5 1074, -1074⟩

/-- The decimal with the fewest digits that reads back as a rank.  Seventeen digits always do. -/
def shortest (rank : Nat) : Decimal :=
  ((List.range' 1 17).findSome? (onGrid? rank)).getD (exact rank)

/-- The digits of a decimal, without the zeros at their end. -/
def significant (d : Decimal) : List Char :=
  ((Nat.toDigits 10 d.digits).reverse.dropWhile (· == '0')).reverse

/-- A positive decimal as text.  Leading digits with exponents from -5 to 15 are written with a
    decimal point in place and at least one digit on either side of it; all others as one digit
    before the point and a signed exponent. -/
def text (d : Decimal) : List Char :=
  let ds := d.significant
  let point : Int := length d.digits + d.exponent
  if -5 < point ∧ point ≤ 16 then
    if point ≤ 0 then '0' :: '.' :: (List.replicate (-point).toNat '0' ++ ds)
    -- all digits stand before the point
    else if ds.length ≤ point.toNat then
      ds ++ List.replicate (point.toNat - ds.length) '0' ++ ['.', '0']
    else ds.take point.toNat ++ '.' :: ds.drop point.toNat
  else
    let exponent := point - 1
    -- a single digit is written without a point
    let mantissa := match ds with
      | c :: c' :: rest => c :: '.' :: c' :: rest
      | short => short
    mantissa ++ 'e' :: (if exponent < 0 then '-' else '+') :: Nat.toDigits 10 exponent.natAbs

end Decimal

/-- A finite number as text, with the fewest digits that read back as it. -/
def Number.text : Number → List Char
  | .finite negative rank =>
    let magnitude := if rank.val = 0 then ['0', '.', '0'] else (Decimal.shortest rank).text
    if negative then '-' :: magnitude else magnitude
  | .infinite negative => if negative then ['-', 'i', 'n', 'f'] else ['i', 'n', 'f']
  | .nan => ['N', 'a', 'N']

end Sift
