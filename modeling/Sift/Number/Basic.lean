/-! # Numbers

The numbers of queries and documents are those of the 64-bit binary floating point format.  A
finite number is a sign together with the *rank* of its magnitude: the finite magnitudes are
listed in increasing order, and the rank is the place in that list.  Ranks make the order of two
numbers the order of two integers, and they make the representation unique: no mantissa has to be
normalised.

Magnitudes are measured by whole numbers, in units of `2 ^ (-1074)`, the least positive number
of the format (`Number.units`), so that rounding and comparison are exact arithmetic on `Nat`. -/

namespace Sift

/-- How many finite magnitudes there are. -/
def Number.rankBound : Nat := 2047 * Nat.pow 2 52

/-- A number of the 64-bit binary floating point format.  Zero has two signs; all that is not a
    number is one value. -/
inductive Number where
  | finite (negative : Bool) (rank : Fin Number.rankBound)
  | infinite (negative : Bool)
  | nan
  deriving DecidableEq

namespace Number

/-- The magnitude of a rank, in units of `2 ^ (-1074)`.  The first `2 ^ 53` magnitudes are evenly
    spaced; from there on the spacing doubles every `2 ^ 52` ranks. -/
def units (rank : Nat) : Nat :=
  if rank < Nat.pow 2 52 then rank
  else (Nat.pow 2 52 + rank % Nat.pow 2 52) * Nat.pow 2 (rank / Nat.pow 2 52 - 1)

/-- The rank whose magnitude is nearest to `num / den` units; of two equally near ones, the even
    rank.  The answer may lie beyond the finite ranks. -/
def nearestRank (num den : Nat) : Nat :=
  -- magnitudes with more than 53 bits are spaced wider
  let shift := (num / den).log2 - 52
  let step := den * Nat.pow 2 shift
  -- each doubling of the spacing takes up `2 ^ 52` ranks
  let rank := shift * Nat.pow 2 52 + num / step
  let rest := num % step
  if 2 * rest < step ∨ 2 * rest = step ∧ rank % 2 = 0 then rank else rank + 1

/-- The number nearest to `num / den`, infinite when that is beyond the finite numbers. -/
def ofRatio (negative : Bool) (num den : Nat) : Number :=
  let rank := nearestRank (num * Nat.pow 2 1074) den
  if h : rank < rankBound then .finite negative ⟨rank, h⟩ else .infinite negative

/-- The number nearest to an integer. -/
def ofInt (n : Int) : Number := ofRatio (n < 0) n.natAbs 1

def isFinite : Number → Bool
  | .finite .. => true
  | _ => false

/-! ## Order -/

/-- The place of a number in the order of all numbers: its signed rank.  The two zeros share one
    place, and `nan` has none. -/
def place? : Number → Option Int
  | .finite negative rank => some (if negative then -(rank.val : Int) else rank.val)
  | .infinite negative => some (if negative then -(rankBound : Int) else rankBound)
  | .nan => none

/-- How two numbers compare; `nan` compares with nothing. -/
def compare? (x y : Number) : Option Ordering :=
  match x.place?, y.place? with
  | some i, some j => some (compare i j)
  | _, _ => none

/-- The integer that a finite number without a fractional part equals. -/
def whole? : Number → Option Int
  | .finite negative rank =>
    let magnitude := units rank
    if magnitude % Nat.pow 2 1074 = 0 then
      let n : Int := (magnitude / Nat.pow 2 1074 : Nat)
      some (if negative then -n else n)
    else none
  | _ => none

/-! ## Interchange format -/

/-- The 64 bits of a number: sign, then rank; infinity follows the last finite rank. -/
def toBits : Number → UInt64
  | .finite negative rank => .ofNat ((if negative then Nat.pow 2 63 else 0) + rank.val)
  | .infinite negative => .ofNat ((if negative then Nat.pow 2 63 else 0) + rankBound)
  | .nan => .ofNat (rankBound + Nat.pow 2 51)

/-- The number that 64 bits stand for. -/
def ofBits (bits : UInt64) : Number :=
  let negative := decide (Nat.pow 2 63 ≤ bits.toNat)
  let rank := bits.toNat % Nat.pow 2 63
  if h : rank < rankBound then .finite negative ⟨rank, h⟩
  else if rank = rankBound then .infinite negative
  else .nan

end Number

end Sift
