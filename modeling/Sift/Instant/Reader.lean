import Sift.Instant.Basic
import Sift.Text.Digits
import Sift.Unicode.Property

/-! # Reading instants

Two forms of text stand for an instant.  A *day* is a year, a month and a day of the month with
hyphens between them, and stands for its midnight: the year has up to four digits, or a sign and
any number of them, the others have up to two, and blanks may stand before each number.  A
*timestamp* is a date, a time of day and an offset from universal time, each with its exact number
of digits. -/

namespace Sift.Instant

open Text (decimalValue)

/-- Reads a number of at least one digit and at most `most`. -/
def upTo (most : Nat) (cs : List Char) : Option (Nat × List Char) :=
  match (cs.take most).takeWhile Char.isDigit with
  | [] => none
  | digits => some (decimalValue digits, cs.drop digits.length)

/-- Reads a number of exactly `count` digits. -/
def exactly (count : Nat) (cs : List Char) : Option (Nat × List Char) :=
  let digits := cs.take count
  if digits.length = count ∧ digits.all Char.isDigit then
    some (decimalValue digits, cs.drop count)
  else none

/-- Reads one given character. -/
def mark (c : Char) : List Char → Option (List Char)
  | [] => none
  | c' :: rest => if c' = c then some rest else none

/-- Drops white space. -/
def skipBlank (cs : List Char) : List Char := cs.dropWhile Unicode.isWhiteSpace

/-- Reads a year: a sign and any number of digits, or up to four digits. -/
def year (cs : List Char) : Option (Int × List Char) :=
  match cs with
  | '-' :: rest => (upTo rest.length rest).map fun (n, rest) => (-(n : Int), rest)
  | '+' :: rest => (upTo rest.length rest).map fun (n, rest) => ((n : Int), rest)
  | cs => (upTo 4 cs).map fun (n, rest) => ((n : Int), rest)

/-- The instant at a second of a day, if there are such a day and such an instant. -/
def at? (date : Date) (second : Int) (nanos : Nat) : Option Instant :=
  -- an offset may lead to another day, so the second need not lie in this one
  if date.IsValid then ofParts? (date.dayNumber * secondsPerDay + second) nanos else none

/-- Reads a day. -/
def day? (cs : List Char) : Option Instant := do
  let (y, cs) ← year (skipBlank cs)
  let cs ← mark '-' cs
  let (m, cs) ← upTo 2 (skipBlank cs)
  let cs ← mark '-' cs
  let (d, cs) ← upTo 2 (skipBlank cs)
  if cs.isEmpty then at? ⟨y, m, d⟩ 0 0 else none

/-- Reads a fraction of a second, if one stands here, as nanoseconds.  Digits after the ninth are
    dropped. -/
def fraction (cs : List Char) : Option (Nat × List Char) :=
  match cs with
  | '.' :: rest =>
    match rest.takeWhile Char.isDigit with
    | [] => none
    | digits =>
      -- nine digits count nanoseconds; fewer are filled up with zeros
      let kept := digits.take 9
      some (decimalValue kept * Nat.pow 10 (9 - kept.length), rest.drop digits.length)
  | cs => some (0, cs)

/-- Reads an offset from universal time, in seconds: `Z`, or a sign, hours and minutes. -/
def offset (cs : List Char) : Option (Int × List Char) :=
  match cs with
  | 'Z' :: rest => some (0, rest)
  | 'z' :: rest => some (0, rest)
  | '+' :: rest => clock rest
  | '-' :: rest => (clock rest).map fun (n, rest) => (-n, rest)
  -- the minus sign of typography
  | '\u2212' :: rest => (clock rest).map fun (n, rest) => (-n, rest)
  | _ => none
where
  clock (cs : List Char) : Option (Int × List Char) := do
    let (hours, cs) ← exactly 2 cs
    let cs ← mark ':' cs
    let (minutes, cs) ← exactly 2 cs
    if hours ≤ 23 ∧ minutes ≤ 59 then some (((hours * 60 + minutes) * 60 : Nat), cs) else none

/-- Reads a timestamp.  A sixtieth second is a leap second. -/
def timestamp? (cs : List Char) : Option Instant := do
  let (y, cs) ← exactly 4 cs
  let cs ← mark '-' cs
  let (m, cs) ← exactly 2 cs
  let cs ← mark '-' cs
  let (d, cs) ← exactly 2 cs
  let cs ← mark 'T' cs <|> mark 't' cs <|> mark ' ' cs
  let (hour, cs) ← exactly 2 cs
  let cs ← mark ':' cs
  let (minute, cs) ← exactly 2 cs
  let cs ← mark ':' cs
  let (second, cs) ← exactly 2 cs
  let (nanos, cs) ← fraction cs
  let (east, cs) ← offset cs
  if cs.isEmpty ∧ hour ≤ 23 ∧ minute ≤ 59 ∧ second ≤ 60 then
    -- the sixtieth second is kept as nanoseconds beyond the one before it
    let clock : Int := ((hour * 60 + minute) * 60 + min second 59 : Nat)
    at? ⟨y, m, d⟩ (clock - east) (nanos + (second - 59) * nanosPerSecond)
  else none

/-- Reads a day or a timestamp. -/
def read? (text : String) : Option Instant := day? text.toList <|> timestamp? text.toList

end Sift.Instant
