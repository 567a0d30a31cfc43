/-! # Literal patterns -/

namespace Sift.Pattern

/-- The characters with a meaning in patterns. -/
def metaChars : List Char :=
  ['\\', '.', '+', '*', '?', '(', ')', '|', '[', ']', '\x7b', '\x7d', '^', '$', '#', '&', '-', '~']

def isMeta (c : Char) : Bool := metaChars.contains c

/-- The characters of a pattern that matches one character and nothing else. -/
def escapeChar (c : Char) : List Char := if isMeta c then ['\\', c] else [c]

/-- The pattern that matches a text and nothing else. -/
def escape (text : String) : String := String.ofList (text.toList.flatMap escapeChar)

end Sift.Pattern
