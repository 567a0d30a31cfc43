import Sift.Pattern.Basic

/-! # The size of a pattern

A pattern is matched by a program that reads bytes, once forwards and once backwards.  Its size
bounds what is accepted: a class becomes steps that read the bytes of its characters, and what is
repeated is written out.

Characters whose codes are not far apart have byte sequences that differ in few places, so a class
becomes a list of *sequences* of byte ranges, each for all the characters that it can spell. -/

namespace Sift.Pattern

/-! ## Byte sequences -/

/-- A range of bytes. -/
abbrev ByteRange := Nat × Nat

/-- The sequences of the numbers from `first` to `last` that are written with a first digit and some
    more to the base 64.  Where the first digits differ, all numbers with a digit between them have
    one sequence. -/
def digitSequences : Nat → Nat → Nat → List (List ByteRange)
  | 0, first, last => [[(first, last)]]
  | digits + 1, first, last =>
    let unit := Nat.pow 64 (digits + 1)
    let low := first / unit
    let high := last / unit
    -- the first digit is fixed, and only those after it differ
    if low = high then
      (digitSequences digits (first % unit) (last % unit)).map ((low, low) :: ·)
    else
      -- numbers with the first digit of an end have sequences of their own, unless all of them are
      -- there
      let below := if first % unit = 0 then []
        else (digitSequences digits (first % unit) (unit - 1)).map ((low, low) :: ·)
      let above := if last % unit = unit - 1 then []
        else (digitSequences digits 0 (last % unit)).map ((high, high) :: ·)
      let start := if first % unit = 0 then low else low + 1
      let stop := if last % unit = unit - 1 then high + 1 else high
      let between := if start < stop
        then [(start, stop - 1) :: List.replicate (digits + 1) (0, 63)] else []
      below ++ between ++ above

/-- The codes that are written with each number of bytes, and what is added to the digits of the
    first byte.  Surrogates are not written. -/
def lengths : List (Nat × Nat × Nat × Nat) :=
  [(0, 0x0, 0x7f, 0x0), (1, 0x80, 0x7ff, 0xc0), (2, 0x800, 0xd7ff, 0xe0), (2, 0xe000, 0xffff, 0xe0),
    (3, 0x10000, 0x10ffff, 0xf0)]

/-- The byte sequences of a range of codes, in their order. -/
def sequences (range : Nat × Nat) : List (List ByteRange) :=
  lengths.flatMap fun (digits, least, greatest, lead) =>
    let first := Nat.max range.1 least
    let last := Nat.min range.2 greatest
    if last < first then []
    else (digitSequences digits first last).map fun
      | [] => []
      | (low, high) :: rest =>
        (lead + low, lead + high) :: rest.map fun (low, high) => (0x80 + low, 0x80 + high)

/-! ## Programs of classes -/

/-- The size of a step. -/
def stepSize : Nat := 32

/-- The steps of a program that reads sequences forwards: what a step reads, and with which step it
    goes on then.  Steps with the same future are one; the last step is 0. -/
def addSteps : Nat → List (List ByteRange) → StateM (List (List (ByteRange × Nat))) Nat
  | 0, _ => return 0
  | length + 1, sequences => do
    if sequences.all List.isEmpty then return 0
    -- sequences that begin alike stand side by side, and share a step
    let branches := sequences.splitBy fun a b => a.head? == b.head?
    let step ← branches.filterMapM fun branch =>
      match branch.head?.bind List.head? with
      | some bytes => return some (bytes, ← addSteps length (branch.map (List.drop 1)))
      | none => return none
    let steps ← get
    -- the steps are kept the last first, so a number is counted from the end
    match steps.idxOf? step with
    | some place => return steps.length - place
    | none =>
      set (step :: steps)
      return steps.length + 1

/-- The size of the program that reads sequences forwards. -/
def forwardSize (sequences : List (List ByteRange)) : Nat :=
  let steps := ((addSteps 4 sequences).run []).2
  stepSize + (steps.map fun step => stepSize + 8 * step.length).foldl (· + ·) 0

/-- How many bytes two sequences have in common at their starts. -/
def sharedBytes : List ByteRange → List ByteRange → Nat
  | a :: as, b :: bs => if a == b then sharedBytes as bs + 1 else 0
  | _, _ => 0

/-- The size of the program that reads sequences backwards: one branch for each, which joins an
    earlier one where both go on alike. -/
def backwardSize (sequences : List (List ByteRange)) : Nat :=
  2 * stepSize + (sequences.zip ([] :: sequences)).foldl (fun size (sequence, previous) =>
    size + 4 + stepSize * (sequence.length - sharedBytes sequence previous)) 0

/-- The size of the program of a class, forwards or backwards. -/
def classSize (backward : Bool) (charClass : CharClass) : Nat :=
  let ranges := charClass.codes.ranges
  match ranges with
  | [(first, last)] =>
    -- one character is read byte by byte
    if first = last then stepSize * (Char.ofNat first).utf8Size
    else rangesSize ranges
  | ranges => rangesSize ranges
where
  rangesSize (ranges : List (Nat × Nat)) : Nat :=
    -- within ASCII a character is one byte
    if ranges.all (·.2 < 0x80) then 2 * stepSize + 8 * ranges.length
    else
      let sequences := ranges.flatMap sequences
      if backward then backwardSize sequences else forwardSize sequences

/-! ## Programs of patterns -/

/-- Whether a pattern reads no character, whatever it matches. -/
def isWidthless : Pattern → Bool
  | .empty => true
  | .chars _ => false
  | .look _ => true
  | .group p => p.isWidthless
  | .concat p q => p.isWidthless && q.isWidthless
  | .alt p q => p.isWidthless && q.isWidthless
  | .times p _ max => p.isWidthless || max == some 0

/-- The size of the program of a pattern.  Matches are kept forwards only. -/
def programSize (backward : Bool) : Pattern → Nat
  | .empty => stepSize
  | .chars charClass => classSize backward charClass
  | .look _ => stepSize
  | .group p => p.programSize backward + (if backward then 0 else 2 * stepSize)
  | .concat p q => p.programSize backward + q.programSize backward
  | .alt p q => p.programSize backward + q.programSize backward + 2 * stepSize
  | .times p min max =>
    let size := p.programSize backward
    -- what reads nothing is not written out again
    if p.isWidthless then size
    else match max with
      | some max => max * size + (max - min) * (stepSize + 8) + 2 * stepSize
      | none => Nat.max min 1 * size + 2 * stepSize

/-- The size of a pattern: that of the larger of its programs. -/
def size (p : Pattern) : Nat := Nat.max (p.programSize false) (p.programSize true)

end Sift.Pattern
