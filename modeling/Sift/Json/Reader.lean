import Sift.Json.Basic
import Sift.Text.Digits

/-! # Reading documents

A reader for JSON text.  Integers that fit in 64 bits, signed or unsigned, stay integers; other
numbers are rounded to the nearest float. -/

namespace Sift.Json

open Text (spanDigits decimalValue hexDigitValue? charOfCode?)

/-- Drops blanks. -/
private def blank (cs : List Char) : List Char :=
  cs.dropWhile fun c => c == ' ' || c == '\t' || c == '\n' || c == '\r'

/-- Reads an exponent, if one stands here. -/
private def exponent (cs : List Char) : Option (Option Int × List Char) :=
  match cs with
  | e :: rest =>
    if e == 'e' || e == 'E' then
      let (negative, rest) := match rest with
        | '-' :: rest => (true, rest)
        | '+' :: rest => (false, rest)
        | rest => (false, rest)
      let (digits, rest) := spanDigits rest
      if digits.isEmpty then none
      else
        let n : Int := decimalValue digits
        some (some (if negative then -n else n), rest)
    else some (none, cs)
  | [] => some (none, [])

/-- The value of an integer literal: a float when 64 bits do not hold it, or for a negative
    zero. -/
def ofIntegerLiteral (negative : Bool) (n : Nat) : Json :=
  if negative then
    if n = 0 ∨ Nat.pow 2 63 < n then .float (.ofRatio true n 1) else .int (-n)
  else if n < Nat.pow 2 64 then .int n
  else .float (.ofRatio false n 1)

/-- Reads a number. -/
private def number (cs : List Char) : Option (Json × List Char) := do
  let (negative, cs) := match cs with
    | '-' :: rest => (true, rest)
    | cs => (false, cs)
  let (whole, cs) := spanDigits cs
  if whole.isEmpty then none
  let (fraction, cs) ← match cs with
    | '.' :: rest =>
      let (digits, rest) := spanDigits rest
      if digits.isEmpty then none else some (some digits, rest)
    | cs => some (none, cs)
  let (power, cs) ← exponent cs
  if fraction.isNone && power.isNone then
    some (ofIntegerLiteral negative (decimalValue whole), cs)
  else
    let digits := fraction.getD []
    let decimal : Decimal :=
      ⟨decimalValue (whole ++ digits), power.getD 0 - digits.length⟩
    some (.float (decimal.toNumber negative), cs)

/-- Reads four hexadecimal digits. -/
private def code (cs : List Char) : Option (Nat × List Char) :=
  match cs with
  | a :: b :: c :: d :: rest => do
    let a ← hexDigitValue? a
    let b ← hexDigitValue? b
    let c ← hexDigitValue? c
    let d ← hexDigitValue? d
    some (((a * 16 + b) * 16 + c) * 16 + d, rest)
  | _ => none

/-- Reads the rest of a string after its opening quote; `fuel` bounds its length. -/
private def stringRest (fuel : Nat) (read : List Char) (cs : List Char) :
    Option (String × List Char) :=
  match fuel, cs with
  | 0, _ => none
  | _, [] => none
  | fuel + 1, c :: rest =>
    if c == '"' then some (String.ofList read.reverse, rest)
    else if c == '\\' then
      match rest with
      | 'u' :: rest => do
        let (high, rest) ← code rest
        -- a character beyond 16 bits is written as two codes
        if 0xd800 ≤ high ∧ high < 0xdc00 then
          match rest with
          | '\\' :: 'u' :: rest =>
            let (low, rest) ← code rest
            let c ← charOfCode? (0x10000 + (high - 0xd800) * 0x400 + (low - 0xdc00))
            stringRest fuel (c :: read) rest
          | _ => none
        else
          let c ← charOfCode? high
          stringRest fuel (c :: read) rest
      | e :: rest =>
        let c? := match e with
          | '"' => some '"'
          | '\\' => some '\\'
          | '/' => some '/'
          | 'b' => some '\x08'
          | 'f' => some '\x0c'
          | 'n' => some '\n'
          | 'r' => some '\r'
          | 't' => some '\t'
          | _ => none
        match c? with
        | some c => stringRest fuel (c :: read) rest
        | none => none
      | [] => none
    else stringRest fuel (c :: read) rest

mutual

/-- Reads a value; `fuel` bounds the length of its text. -/
private def value (fuel : Nat) (cs : List Char) : Option (Json × List Char) :=
  match fuel with
  | 0 => none
  | fuel + 1 =>
    match blank cs with
    | 'n' :: 'u' :: 'l' :: 'l' :: rest => some (.null, rest)
    | 't' :: 'r' :: 'u' :: 'e' :: rest => some (.bool true, rest)
    | 'f' :: 'a' :: 'l' :: 's' :: 'e' :: rest => some (.bool false, rest)
    | '"' :: rest => do
      -- a string is no longer than the text that is left
      let (s, rest) ← stringRest (rest.length + 1) [] rest
      some (.string s, rest)
    | '[' :: rest =>
      match blank rest with
      | ']' :: rest => some (.array [], rest)
      | rest => do
        let (items, rest) ← items fuel rest
        some (.array items, rest)
    | '\x7b' :: rest =>
      match blank rest with
      | '\x7d' :: rest => some (.object [], rest)
      | rest => do
        let (members, rest) ← members fuel [] rest
        some (.object members, rest)
    | cs => number cs

/-- Reads the items of an array and its closing bracket. -/
private def items (fuel : Nat) (cs : List Char) : Option (List Json × List Char) :=
  match fuel with
  | 0 => none
  | fuel + 1 => do
    let (item, rest) ← value fuel cs
    match blank rest with
    | ',' :: rest =>
      let (rest', after) ← items fuel rest
      some (item :: rest', after)
    | ']' :: rest => some ([item], rest)
    | _ => none

/-- Reads the members of an object and its closing brace; a repeated name takes the later value
    in the earlier place. -/
private def members (fuel : Nat) (read : List (String × Json)) (cs : List Char) :
    Option (List (String × Json) × List Char) :=
  match fuel with
  | 0 => none
  | fuel + 1 =>
    match blank cs with
    | '"' :: rest => do
      let (name, rest) ← stringRest (rest.length + 1) [] rest
      match blank rest with
      | ':' :: rest =>
        let (v, rest) ← value fuel rest
        let read := set name v read
        match blank rest with
        | ',' :: rest => members fuel read rest
        | '\x7d' :: rest => some (read, rest)
        | _ => none
      | _ => none
    | _ => none

end

/-- Reads a whole text as one value. -/
def parse? (text : String) : Option Json := do
  let cs := text.toList
  -- each character is read by two nested readers at most
  let (v, rest) ← value (2 * cs.length + 2) cs
  if (blank rest).isEmpty then some v else none

end Sift.Json
