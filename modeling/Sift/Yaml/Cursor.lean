/-! # Places in a YAML text

A cursor knows what follows it and its line and column; indentation is measured by columns. -/

namespace Sift.Yaml

/-- A place in a text. -/
structure Cursor where
  rest : List Char
  /-- How many characters stand before. -/
  index : Nat
  line : Nat
  column : Nat
  /-- How many characters the whole text has. -/
  length : Nat

/-- A character that ends a line. -/
def isBreak (c : Char) : Bool :=
  c == '\r' || c == '\n' || c == '\x85' || c == '\u2028' || c == '\u2029'

def isBlank (c : Char) : Bool := c == ' ' || c == '\t'

/-- A character of the names of anchors and directives. -/
def isNameChar (c : Char) : Bool := c.isAlphanum || c == '_' || c == '-'

/-- A character that may stand in a document. -/
def isAllowed (c : Char) : Bool :=
  let n := c.toNat
  n == 0x09 || n == 0x0a || n == 0x0d || (0x20 ≤ n && n ≤ 0x7e) || n == 0x85 ||
    (0xa0 ≤ n && n ≤ 0xd7ff) || (0xe000 ≤ n && n ≤ 0xfffd) || 0x10000 ≤ n

/-- Whether there is no character, or a blank or a line end. -/
def isGap (c : Option Char) : Bool := c.all fun c => isBlank c || isBreak c

/-- Whether there is no character, or a line end. -/
def isLineEnd (c : Option Char) : Bool := c.all isBreak

namespace Cursor

/-- The start of a text. -/
def start (text : List Char) : Cursor := ⟨text, 0, 0, 0, text.length⟩

/-- How many characters follow. -/
def remaining (cursor : Cursor) : Nat := cursor.length - cursor.index

/-- The character some places ahead. -/
def ahead (cursor : Cursor) (distance : Nat) : Option Char := cursor.rest[distance]?

/-- The next character. -/
def next (cursor : Cursor) : Option Char := cursor.rest.head?

/-- Whether a given character comes next. -/
def sees (cursor : Cursor) (c : Char) : Bool := cursor.next == some c

/-- Moves past some characters of one line. -/
def skip (cursor : Cursor) (count : Nat) : Cursor :=
  { cursor with
    rest := cursor.rest.drop count
    index := cursor.index + count
    column := cursor.column + count }

/-- The start of the next line, behind a line end of some characters. -/
def nextLine (cursor : Cursor) (rest : List Char) (count : Nat) : Cursor :=
  { cursor with rest := rest, index := cursor.index + count, line := cursor.line + 1, column := 0 }

/-- Moves past a line end, if one comes next, and gives the character it stands for. -/
def takeBreak (cursor : Cursor) : List Char × Cursor :=
  match cursor.rest with
  -- a carriage return and a line feed end one line
  | '\r' :: '\n' :: rest => (['\n'], cursor.nextLine rest 2)
  | c :: rest =>
    if isBreak c then
      -- two of the line ends are kept as they are, the others are all read alike
      let read := if c == '\u2028' || c == '\u2029' then c else '\n'
      ([read], cursor.nextLine rest 1)
    else ([], cursor)
  | [] => ([], cursor)

/-- The characters of the line up to the first that is not in a class. -/
def takeWhile (cursor : Cursor) (holds : Char → Bool) : List Char × Cursor :=
  let taken := cursor.rest.takeWhile fun c => !isBreak c && holds c
  (taken, cursor.skip taken.length)

def skipWhile (cursor : Cursor) (holds : Char → Bool) : Cursor := (cursor.takeWhile holds).2

/-- Moves past a comment, if one starts here. -/
def skipComment (cursor : Cursor) : Cursor :=
  if cursor.sees '#' then cursor.skipWhile fun _ => true else cursor

/-- Whether three equal characters at the start of a line, and nothing else before a gap, mark the
    start or the end of a document. -/
def seesMarker (cursor : Cursor) (c : Char) : Bool :=
  cursor.column == 0 && [c, c, c].isPrefixOf cursor.rest && isGap (cursor.ahead 3)

/-- Moves past blanks and a comment to the end of the line; nothing else may stand there. -/
def finishLine? (cursor : Cursor) : Option Cursor :=
  let cursor := (cursor.skipWhile isBlank).skipComment
  if isLineEnd cursor.next then some cursor.takeBreak.2 else none

end Cursor

end Sift.Yaml
