import Sift.Unicode.Property
import Sift.Unicode.Script

/-! # Character classes

A class is a set of characters, built from ranges and properties by the operations of sets.
`CharClass.contains` is its meaning. -/

namespace Sift

/-- A set of characters. -/
inductive CharClass where
  | empty
  | range (first last : Char)
  | property (set : Unicode.CodeSet)
  | union (a b : CharClass)
  | intersection (a b : CharClass)
  | difference (a b : CharClass)
  | symmetricDifference (a b : CharClass)
  | complement (a : CharClass)
  /-- The characters with a variant in a class.  Variants are in Unicode or in ASCII. -/
  | closure (unicode : Bool) (a : CharClass)

namespace CharClass

/-- The character and, for an ASCII letter, the same letter in the other case. -/
def asciiVariants (c : Char) : List Char :=
  if c.isUpper then [c, c.toLower] else if c.isLower then [c, c.toUpper] else [c]

/-- All characters that differ from a character at most in case. -/
def variants (unicode : Bool) : Char → List Char :=
  if unicode then Unicode.caseVariants else asciiVariants

/-- Whether a character is in a class. -/
def contains : CharClass → Char → Bool
  | .empty, _ => false
  | .range first last, c => first.toNat ≤ c.toNat && c.toNat ≤ last.toNat
  | .property set, c => set.contains c
  | .union a b, c => a.contains c || b.contains c
  | .intersection a b, c => a.contains c && b.contains c
  | .difference a b, c => a.contains c && !b.contains c
  | .symmetricDifference a b, c => a.contains c ^^ b.contains c
  | .complement a, c => !a.contains c
  | .closure unicode a, c => (variants unicode c).any a.contains

/-- The class of one character. -/
def single (c : Char) : CharClass := .range c c

/-- The union of a list of classes. -/
def unions (classes : List CharClass) : CharClass := classes.foldr .union .empty

/-- A union of ranges. -/
def ranges (pairs : List (Char × Char)) : CharClass := unions (pairs.map fun (a, b) => .range a b)

/-- The code points of a class. -/
def codes : CharClass → Unicode.CodeSet
  | .empty => ⟨[]⟩
  | .range first last => ⟨[(first.toNat, last.toNat)]⟩
  | .property set => set
  | .union a b => .union a.codes b.codes
  | .intersection a b => .combine and a.codes b.codes
  | .difference a b => .difference a.codes b.codes
  | .symmetricDifference a b => .symmetricDifference a.codes b.codes
  | .complement a => .complement a.codes
  | .closure unicode a =>
    -- a character without variants in case is in the closure if it is in the class
    let cased := Unicode.cased.ranges.flatMap fun (first, last) =>
      List.range' first (last + 1 - first)
    .union a.codes (.ofCodes (cased.filter ((CharClass.closure unicode a).contains ∘ Char.ofNat)))

/-! ## Named classes -/

/-- Properties of whole characters, or the ASCII part of them. -/
def digits (unicode : Bool) : CharClass :=
  if unicode then .property (Unicode.Category.codes [.nd]) else .range '0' '9'

def spaces (unicode : Bool) : CharClass :=
  if unicode then .property Unicode.whiteSpace else .ranges [('\t', '\r'), (' ', ' ')]

def wordChars (unicode : Bool) : CharClass :=
  if unicode then .property Unicode.word
  else .ranges [('0', '9'), ('A', 'Z'), ('_', '_'), ('a', 'z')]

/-- The classes that are written `[:name:]` inside brackets; all are within ASCII. -/
def posix? : String → Option CharClass
  | "alnum" => some (.ranges [('0', '9'), ('A', 'Z'), ('a', 'z')])
  | "alpha" => some (.ranges [('A', 'Z'), ('a', 'z')])
  | "ascii" => some (.range '\x00' '\x7f')
  | "blank" => some (.ranges [('\t', '\t'), (' ', ' ')])
  | "cntrl" => some (.ranges [('\x00', '\x1f'), ('\x7f', '\x7f')])
  | "digit" => some (.range '0' '9')
  | "graph" => some (.range '!' '~')
  | "lower" => some (.range 'a' 'z')
  | "print" => some (.range ' ' '~')
  | "punct" => some (.ranges [('!', '/'), (':', '@'), ('[', '\x60'), ('\x7b', '~')])
  | "space" => some (.ranges [('\t', '\r'), (' ', ' ')])
  | "upper" => some (.range 'A' 'Z')
  | "word" => some (.ranges [('0', '9'), ('A', 'Z'), ('_', '_'), ('a', 'z')])
  | "xdigit" => some (.ranges [('0', '9'), ('A', 'F'), ('a', 'f')])
  | _ => none

/-! ## Properties by name -/

/-- The form in which names of properties are compared: ASCII in lower case, without blanks,
    hyphens and underscores and without a leading "is". -/
def normalName (name : List Char) : String :=
  let keep (cs : List Char) : List Char :=
    (cs.filter fun c => c != ' ' && c != '_' && c != '-' && c.toNat < 0x80).map Char.toLower
  match name with
  | a :: b :: rest =>
    if a.toLower == 'i' && b.toLower == 's' then
      match keep rest with
      -- a name by itself, and not the `c` that would be left
      | ['c'] => "isc"
      | short => String.ofList short
    else String.ofList (keep name)
  | short => String.ofList (keep short)

/-- The class of a general category or a group of them. -/
def category? (name : String) : Option CharClass :=
  match name with
  | "any" => some (.complement .empty)
  | "assigned" => some (.complement (.property (Unicode.Category.codes [.cn])))
  | "ascii" => some (.range '\x00' '\x7f')
  | name =>
    (Unicode.Category.named.find? fun entry => entry.1.contains name).map fun entry =>
      .property (Unicode.Category.codes entry.2)

/-- The four-letter name of a script. -/
def scriptName? (name : String) : Option String :=
  (Unicode.Script.named.find? fun entry => entry.2.contains name).map (·.1)

/-- The class of the characters of a script. -/
def script? (name : String) : Option CharClass :=
  (scriptName? name).map fun script => .property (Unicode.Script.codes script)

/-- The class of the characters that a script uses. -/
def scriptExtensions? (name : String) : Option CharClass :=
  (scriptName? name).map fun script => .property (Unicode.Script.extensions script)

/-- The class of a binary property. -/
def binary? (name : String) : Option CharClass :=
  (Unicode.binaryProperties.find? fun entry => entry.1.contains name).map fun entry =>
    .property entry.2

/-- The class of a name alone: a binary property, a category or a script. -/
def named? (name : List Char) : Option CharClass :=
  let name := normalName name
  binary? name <|> category? name <|> script? name

/-- The class of a property and one of its values. -/
def valued? (property value : List Char) : Option CharClass :=
  let value := normalName value
  match normalName property with
  | "gc" | "generalcategory" => category? value
  | "sc" | "script" => script? value
  | "scx" | "scriptextensions" => scriptExtensions? value
  | _ => none

end CharClass

end Sift
