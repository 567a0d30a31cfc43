import Sift.Pattern.Basic
import Sift.Pattern.Escape
import Sift.Text.Digits

/-! # Atoms of patterns

An atom is the smallest part of a pattern's text: a character, a class by name, a dot or a
condition on a spot.  Reading an atom depends only on whether blanks are ignored; what it means
depends on the flags in force. -/

namespace Sift.Pattern

open Text (hexDigitValue? numeralValue? charOfCode?)

/-- The flags of a pattern. -/
structure Flags where
  /-- Letters match in either case. -/
  ignoreCase : Bool := false
  /-- `^` and `$` match at lines. -/
  multiLine : Bool := false
  /-- The dot matches line ends too. -/
  dotAll : Bool := false
  /-- Lines may end in a carriage return. -/
  returns : Bool := false
  /-- Blanks and comments are skipped. -/
  ignoreBlank : Bool := false
  /-- Classes go beyond ASCII. -/
  unicode : Bool := true

/-- A condition on a spot, as written. -/
inductive Anchor where
  | line (start : Bool)
  | text (start : Bool)
  | word (accepts : Bool → Bool → Bool)

/-- The three classes that a letter after a backslash stands for. -/
inductive Shorthand where
  | digits | spaces | wordChars

inductive Atom where
  /-- A character; `asByte` if two hexadecimal digits wrote it. -/
  | literal (c : Char) (asByte : Bool)
  | dot
  | anchor (anchor : Anchor)
  | shorthand (kind : Shorthand) (negated : Bool)
  | property (charClass : CharClass) (negated : Bool)

/-! ## Blanks and comments -/

/-- Skips blanks and, from `#` to the end of its line, comments. -/
def skipBlank : List Char → List Char
  | [] => []
  | c :: rest =>
    if Unicode.isWhiteSpace c then skipBlank rest
    else if c = '#' then skipComment rest
    else c :: rest
where
  skipComment : List Char → List Char
    | [] => []
    | c :: rest => if c = '\n' then skipBlank rest else skipComment rest

/-- Skips blanks and comments where they are ignored. -/
def skip (ignoreBlank : Bool) (cs : List Char) : List Char :=
  if ignoreBlank then skipBlank cs else cs

/-- The characters up to the first that is not in a class, and what follows them, skipping blanks
    after each; `fuel` bounds their number. -/
def takeSkipping (ignoreBlank : Bool) (holds : Char → Bool) :
    Nat → List Char → List Char × List Char
  | 0, cs => ([], cs)
  | _, [] => ([], [])
  | fuel + 1, c :: rest =>
    if holds c then
      let (taken, after) := takeSkipping ignoreBlank holds fuel (skip ignoreBlank rest)
      (c :: taken, after)
    else ([], c :: rest)

/-- What stands between braces, after the opening one, and what follows the closing one. -/
def braced? (ignoreBlank : Bool) (cs : List Char) : Option (List Char × List Char) :=
  match takeSkipping ignoreBlank (· != '\x7d') cs.length (skip ignoreBlank cs) with
  | (inside, _ :: rest) => some (inside, rest)
  | (_, []) => none

/-! ## Escapes -/

/-- The character of a hexadecimal numeral. -/
def hexChar? (digits : List Char) : Option Char := do
  let code ← numeralValue? 16 digits
  charOfCode? code

/-- Reads `count` hexadecimal digits. -/
def hexDigits? (ignoreBlank : Bool) : Nat → List Char → Option (List Char × List Char)
  | 0, cs => some ([], cs)
  | _, [] => none
  | count + 1, c :: rest => do
    let _ ← hexDigitValue? c
    let (digits, rest) ← hexDigits? ignoreBlank count (skip ignoreBlank rest)
    some (c :: digits, rest)

/-- Reads a character by its code: so many digits, or any number of them between braces. -/
def codeLiteral? (ignoreBlank : Bool) (count : Nat) (cs : List Char) :
    Option (Atom × List Char) :=
  match skip ignoreBlank cs with
  | '\x7b' :: rest => do
    let (digits, rest) ← braced? ignoreBlank rest
    let c ← hexChar? digits
    some (.literal c false, rest)
  | cs => do
    let (digits, rest) ← hexDigits? ignoreBlank count cs
    let c ← hexChar? digits
    some (.literal c (count == 2), rest)

/-- Splits a list of characters before and behind the first place where another list stands. -/
def splitAt? (separator : List Char) : List Char → Option (List Char × List Char)
  | [] => none
  | c :: rest =>
    if separator.isPrefixOf (c :: rest) then some ([], (c :: rest).drop separator.length)
    else (splitAt? separator rest).map fun (before, after) => (c :: before, after)

/-- The class that the text between the braces of a property stands for, and whether it is the
    complement that is meant. -/
def propertyClass? (name : List Char) : Option (CharClass × Bool) :=
  -- before a mere equality sign, which is part of it
  match splitAt? ['!', '='] name with
  | some (property, value) => (CharClass.valued? property value).map (·, true)
  | none =>
    match splitAt? [':'] name <|> splitAt? ['='] name with
    | some (property, value) => (CharClass.valued? property value).map (·, false)
    | none => (CharClass.named? name).map (·, false)

/-- Reads a property: one letter, or a name between braces. -/
def property? (ignoreBlank negated : Bool) (cs : List Char) : Option (Atom × List Char) :=
  match skip ignoreBlank cs with
  | [] => none
  | '\x7b' :: rest => do
    let (name, rest) ← braced? ignoreBlank rest
    let (charClass, inverted) ← propertyClass? name
    some (.property charClass (negated ^^ inverted), rest)
  | c :: rest => do
    -- a backslash is not the name of a property
    if c = '\\' then none
    let charClass ← CharClass.named? [c]
    some (.property charClass negated, rest)

/-- The names of one-sided word boundaries. -/
def wordBoundary? : String → Option (Bool → Bool → Bool)
  | "start" => some fun before after => !before && after
  | "end" => some fun before after => before && !after
  | "start-half" => some fun before _ => !before
  | "end-half" => some fun _ after => !after
  | _ => none

/-- Reads what follows `\b`: a name between braces makes the boundary one-sided; other braces are
    left for a repetition. -/
def boundary? (ignoreBlank : Bool) (cs : List Char) : Option (Atom × List Char) :=
  let plain : Atom := .anchor (.word fun before after => before != after)
  let isNameChar (c : Char) : Bool := c.isAlpha || c == '-'
  match cs with
  | '\x7b' :: rest =>
    match skip ignoreBlank rest with
    | [] => none
    | c :: inside =>
      if isNameChar c then
        match takeSkipping ignoreBlank isNameChar (c :: inside).length (c :: inside) with
        | (name, '\x7d' :: rest) =>
          (wordBoundary? (String.ofList name)).map fun accepts => (.anchor (.word accepts), rest)
        | _ => none
      else some (plain, cs)
  | cs => some (plain, cs)

/-- Characters that a backslash takes literally: punctuation and blanks of ASCII, except angle
    brackets. -/
def isEscapable (c : Char) : Bool :=
  isMeta c || (c.toNat < 0x80 && !c.isAlphanum && c != '<' && c != '>')

/-- Reads what follows a backslash. -/
def escape? (ignoreBlank : Bool) : List Char → Option (Atom × List Char)
  | [] => none
  | c :: rest =>
    -- no letter is among these
    if isEscapable c then some (.literal c false, rest)
    else match c with
    | 'x' => codeLiteral? ignoreBlank 2 rest
    | 'u' => codeLiteral? ignoreBlank 4 rest
    | 'U' => codeLiteral? ignoreBlank 8 rest
    | 'p' => property? ignoreBlank false rest
    | 'P' => property? ignoreBlank true rest
    | 'd' => some (.shorthand .digits false, rest)
    | 'D' => some (.shorthand .digits true, rest)
    | 's' => some (.shorthand .spaces false, rest)
    | 'S' => some (.shorthand .spaces true, rest)
    | 'w' => some (.shorthand .wordChars false, rest)
    | 'W' => some (.shorthand .wordChars true, rest)
    | 'a' => some (.literal '\x07' false, rest)
    | 'f' => some (.literal '\x0c' false, rest)
    | 't' => some (.literal '\t' false, rest)
    | 'n' => some (.literal '\n' false, rest)
    | 'r' => some (.literal '\r' false, rest)
    | 'v' => some (.literal '\x0b' false, rest)
    | 'A' => some (.anchor (.text true), rest)
    | 'z' => some (.anchor (.text false), rest)
    | 'b' => boundary? ignoreBlank rest
    | 'B' => some (.anchor (.word fun before after => before == after), rest)
    | '<' => some (.anchor (.word fun before after => !before && after), rest)
    | '>' => some (.anchor (.word fun before after => before && !after), rest)
    | _ => none

/-! ## Meaning -/

/-- A class closed under case, if case is ignored. -/
def Flags.fold (flags : Flags) (charClass : CharClass) : CharClass :=
  if flags.ignoreCase then .closure flags.unicode charClass else charClass

/-- A class or its complement.  Without Unicode classes there are no complements: they would
    match single bytes of a character. -/
def Flags.negate? (flags : Flags) (negated : Bool) (charClass : CharClass) : Option CharClass :=
  if !negated then some charClass
  else if flags.unicode then some (.complement charClass)
  else none

/-- The class of a shorthand. -/
def Shorthand.charClass (flags : Flags) : Shorthand → CharClass
  | .digits => CharClass.digits flags.unicode
  | .spaces => CharClass.spaces flags.unicode
  | .wordChars => CharClass.wordChars flags.unicode

/-- The class of a shorthand or property. -/
def Atom.charClass? (flags : Flags) : Atom → Option CharClass
  | .shorthand kind negated => flags.negate? negated (kind.charClass flags)
  | .property charClass negated =>
    -- without Unicode classes there are no properties
    if flags.unicode then flags.negate? negated (flags.fold charClass) else none
  | _ => none

/-- The condition of an anchor. -/
def Anchor.look (flags : Flags) : Anchor → Look
  | .text true => .startText
  | .text false => .endText
  | .line start =>
    match flags.multiLine, flags.returns, start with
    | false, _, true => .startText
    | false, _, false => .endText
    | true, false, true => .startLine
    | true, false, false => .endLine
    | true, true, true => .startReturnLine
    | true, true, false => .endReturnLine
  | .word accepts => .word (CharClass.wordChars flags.unicode).contains accepts

/-- Whether a literal stands for a character: a byte beyond ASCII does not, where classes do not
    go beyond ASCII. -/
def Flags.allows (flags : Flags) (c : Char) (asByte : Bool) : Bool :=
  flags.unicode || !asByte || c.toNat < 0x80

/-- The pattern of an atom. -/
def Atom.pattern? (flags : Flags) : Atom → Option Pattern
  | .literal c asByte =>
    if flags.allows c asByte then some (.chars (flags.fold (.single c))) else none
  | .dot =>
    -- a dot would match single bytes of a character
    if !flags.unicode then none
    else if flags.dotAll then some (.chars (.complement .empty))
    else if flags.returns then some (.chars (.complement (.ranges [('\n', '\n'), ('\r', '\r')])))
    else some (.chars (.complement (.single '\n')))
  | .anchor condition => some (.look (condition.look flags))
  | atom => (atom.charClass? flags).map .chars

end Sift.Pattern
