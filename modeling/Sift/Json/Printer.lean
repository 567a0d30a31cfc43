import Sift.Json.Basic

/-! # The text of a document

A document is written either compactly, without blanks, or over several lines with an indentation
of two spaces. -/

namespace Sift.Json

/-- How a character stands in a string: quotes, backslashes and controls are escaped. -/
def stringChar (c : Char) : List Char :=
  match c with
  | '"' => ['\\', '"']
  | '\\' => ['\\', '\\']
  | '\x08' => ['\\', 'b']
  | '\t' => ['\\', 't']
  | '\n' => ['\\', 'n']
  | '\x0c' => ['\\', 'f']
  | '\r' => ['\\', 'r']
  | c =>
    -- the other controls have no letter of their own
    if c.toNat < 0x20 then
      ['\\', 'u', '0', '0', Nat.digitChar (c.toNat / 16), Nat.digitChar (c.toNat % 16)]
    else [c]

/-- A string in double quotes. -/
def stringChars (s : String) : List Char := '"' :: s.toList.flatMap stringChar ++ ['"']

/-- An integer in decimal digits. -/
def intChars (n : Int) : List Char :=
  if n < 0 then '-' :: Nat.toDigits 10 n.natAbs else Nat.toDigits 10 n.natAbs

mutual

/-- The compact text of a value. -/
def chars : Json → List Char
  | .null => ['n', 'u', 'l', 'l']
  | .bool true => ['t', 'r', 'u', 'e']
  | .bool false => ['f', 'a', 'l', 's', 'e']
  | .int n => intChars n
  | .float x => x.text
  | .string s => stringChars s
  | .array items => '[' :: itemsChars items ++ [']']
  | .object members => '\x7b' :: membersChars members ++ ['\x7d']

/-- Items with commas between them. -/
def itemsChars : List Json → List Char
  | [] => []
  | [item] => item.chars
  | item :: rest => item.chars ++ ',' :: itemsChars rest

/-- Members with commas between them. -/
def membersChars : List (String × Json) → List Char
  | [] => []
  | [(name, value)] => stringChars name ++ ':' :: value.chars
  | (name, value) :: rest => stringChars name ++ ':' :: value.chars ++ ',' :: membersChars rest

end

/-- The compact text of a value, as a string. -/
def compact (value : Json) : String := String.ofList value.chars

/-! ## Several lines -/

/-- The start of a line at a depth of nesting. -/
def newline (depth : Nat) : List Char := '\n' :: List.replicate (2 * depth) ' '

mutual

/-- The text of a value over several lines; the value itself starts at `depth`. -/
def prettyChars (depth : Nat) : Json → List Char
  | .array [] => ['[', ']']
  | .array items => '[' :: prettyItems (depth + 1) items ++ newline depth ++ [']']
  | .object [] => ['\x7b', '\x7d']
  | .object members => '\x7b' :: prettyMembers (depth + 1) members ++ newline depth ++ ['\x7d']
  | value => value.chars

def prettyItems (depth : Nat) : List Json → List Char
  | [] => []
  | [item] => newline depth ++ prettyChars depth item
  | item :: rest => newline depth ++ prettyChars depth item ++ ',' :: prettyItems depth rest

def prettyMembers (depth : Nat) : List (String × Json) → List Char
  | [] => []
  | [(name, value)] =>
    newline depth ++ stringChars name ++ ':' :: ' ' :: prettyChars depth value
  | (name, value) :: rest =>
    newline depth ++ stringChars name ++ ':' :: ' ' :: prettyChars depth value ++
      ',' :: prettyMembers depth rest

end

/-- The text of a value over several lines, as a string. -/
def pretty (value : Json) : String := String.ofList (value.prettyChars 0)

end Sift.Json
