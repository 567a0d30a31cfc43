/-! # Sets and maps of code points

The tables of the character database are kept as text: ranges of hexadecimal code points for a
set, and the places where the value changes for a map.  This module reads that text, looks code
points up in what it reads, and combines sets. -/

namespace Sift.Unicode

/-- The words of a text that spaces and line ends separate. -/
def words (text : String) : List String :=
  ((text.splitOn "\n").flatMap (·.splitOn " ")).filter (!·.isEmpty)

/-- The value of a hexadecimal numeral in lower case. -/
def hexValue (numeral : String) : Nat :=
  numeral.foldl (fun value c =>
    16 * value + (if c.isDigit then c.toNat - '0'.toNat else c.toNat - 'a'.toNat + 10)) 0

/-- Reads `first-last`, or a single code point. -/
def parseRange (word : String) : Nat × Nat :=
  match word.splitOn "-" with
  | [first, last] => (hexValue first, hexValue last)
  | _ => (hexValue word, hexValue word)

/-- The largest code point. -/
def maxCode : Nat := 0x10ffff

/-- A set of code points: ranges in increasing order. -/
structure CodeSet where
  ranges : List (Nat × Nat)

namespace CodeSet

def parse (text : String) : CodeSet := ⟨(words text).map parseRange⟩

/-- Whether a code point lies in one of the ranges.  The ranges increase, so the search ends at
    the first that starts beyond the code point. -/
def within (code : Nat) : List (Nat × Nat) → Bool
  | [] => false
  | (first, last) :: rest => first ≤ code && (code ≤ last || within code rest)

def contains (set : CodeSet) (c : Char) : Bool := within c.toNat set.ranges

/-- The set of some code points. -/
def ofCodes (codes : List Nat) : CodeSet := ⟨(codes.mergeSort (· ≤ ·)).map fun code => (code, code)⟩

/-! ## Operations

A set can also be told by the code points where one comes into it or goes out of it, its *edges*.
Operations go along the edges of two sets at once. -/

/-- The edges of some ranges, where ranges without a gap between them are taken as one. -/
def edges : List (Nat × Nat) → List Nat
  | [] => []
  | [(first, last)] => [first, last + 1]
  | (first, last) :: next :: rest =>
    -- no gap between the ranges, so there is no edge
    if next.1 ≤ last + 1 then first :: (edges (next :: rest)).drop 1
    else first :: (last + 1) :: edges (next :: rest)

/-- The code points at the edges of two sets, each with whether an operation holds from there on. -/
def sweep (operation : Bool → Bool → Bool) (inA inB : Bool) :
    List Nat → List Nat → List (Nat × Bool)
  | [], [] => []
  | a :: as, [] => (a, operation (!inA) inB) :: sweep operation (!inA) inB as []
  | [], b :: bs => (b, operation inA !inB) :: sweep operation inA (!inB) [] bs
  | a :: as, b :: bs =>
    if a < b then (a, operation (!inA) inB) :: sweep operation (!inA) inB as (b :: bs)
    else if b < a then (b, operation inA !inB) :: sweep operation inA (!inB) (a :: as) bs
    else (a, operation (!inA) !inB) :: sweep operation (!inA) (!inB) as bs

/-- The ranges where something holds, given where that changes.  `first` is the start of the present
    range. -/
def stretches (first : Option Nat) : List (Nat × Bool) → List (Nat × Nat)
  -- a range that is still open goes up to the last code point
  | [] => ((first.filter (· ≤ maxCode)).map (·, maxCode)).toList
  | (start, true) :: rest => stretches (first.or (some start)) rest
  | (start, false) :: rest =>
    match first with
    | some first => (first, start - 1) :: stretches none rest
    | none => stretches none rest

/-- The set of an operation on two sets. -/
def combine (operation : Bool → Bool → Bool) (a b : CodeSet) : CodeSet :=
  -- before the first edge one is in neither set
  ⟨stretches none ((0, operation false false) ::
    sweep operation false false (edges a.ranges) (edges b.ranges))⟩

def union : CodeSet → CodeSet → CodeSet := combine or

def difference : CodeSet → CodeSet → CodeSet := combine fun inA inB => inA && !inB

def symmetricDifference : CodeSet → CodeSet → CodeSet := combine xor

def complement (a : CodeSet) : CodeSet := combine (fun inA _ => !inA) a ⟨[]⟩

end CodeSet

/-- Reads words of the form `range:Tag+Tag`. -/
def parseTagged (text : String) : List (CodeSet × List String) :=
  (words text).map fun word =>
    match word.splitOn ":" with
    | [range, tags] => (⟨[parseRange range]⟩, tags.splitOn "+")
    | _ => (⟨[]⟩, [])

/-- A map on all code points: the value of each run of equal values, beside the code point where
    the run starts. -/
structure Runs (α : Type) where
  starts : Array (Nat × α)

namespace Runs

variable {α : Type}

/-- Reads words that are code points and values by turns. -/
def parse (value : String → α) (text : String) : Runs α :=
  ⟨(pairs (words text)).toArray⟩
where
  pairs : List String → List (Nat × α)
    | start :: name :: rest => (hexValue start, value name) :: pairs rest
    | _ => []

/-- The value of the last run among `low ≤ i < high` that starts at or before a code point, if
    that is not the run before `low`. -/
private def search (runs : Array (Nat × α)) (code low high : Nat) : Option α :=
  if low < high then
    let middle := (low + high) / 2
    match runs[middle]? with
    | some (start, _) =>
      if start ≤ code then search runs code (middle + 1) high else search runs code low middle
    | none => none
  -- the runs from `low` on start beyond the code point
  else runs[low - 1]?.map (·.2)
termination_by high - low

/-- The value at a code point. -/
def find? (runs : Runs α) (code : Nat) : Option α :=
  search runs.starts code 0 runs.starts.size

/-- The code points whose value has a property. -/
def codes (runs : Runs α) (holds : α → Bool) : CodeSet :=
  ⟨CodeSet.stretches none (runs.starts.toList.map fun (start, value) => (start, holds value))⟩

end Runs

end Sift.Unicode
