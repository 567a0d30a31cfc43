import Sift.Query.Basic
import Sift.Text.Quoted

/-! # Reading queries

The grammar, with ordered choice:

```
query    = sentence " OR " sentence | sentence " " sentence | sentence
sentence = "(" sentence ")" | term " OR " term | term " " term | term
term     = string operator string | string
string   = raw | '"' any but '"' '"'
raw      = one or more characters that are not reserved
```

The first alternative that matches is taken and never given up again, which limits how many terms
can stand side by side without brackets.  While alternatives fail, the parser notes the furthest
place where something was missing and what would have been accepted there; that is the error of a
query that cannot be read.  Places are counted in bytes of UTF-8. -/

namespace Sift.Query

/-- What would have been accepted at some place of a query. -/
inductive Expected where
  | literal (text : String)
  | operator
  | term
  | closingQuote
  | nestingDepth
  | endOfInput
  deriving DecidableEq

/-- How an expectation is named in messages. -/
def Expected.text : Expected → String
  | .literal text => text
  | .operator => "operator"
  | .term => "term"
  | .closingQuote => "closing '\"'"
  | .nestingDepth => "nesting depth"
  | .endOfInput => "end of input"

/-- The furthest place at which the parser failed, and what it expected there, in the order in
    which it looked. -/
structure Failures where
  furthest : Nat
  expected : List Expected
  deriving DecidableEq

namespace Failures

/-- No failure yet. -/
def none : Failures := ⟨0, []⟩

/-- Notes that something was expected at a place.  A place before the furthest is forgotten, one
    beyond it replaces it. -/
def note (failures : Failures) (place : Nat) (expected : Expected) : Failures :=
  if failures.furthest < place then ⟨place, [expected]⟩
  -- nothing is noted twice at one place
  else if place = failures.furthest ∧ expected ∉ failures.expected then
    ⟨place, failures.expected ++ [expected]⟩
  else failures

end Failures

/-- A place in a query: its distance from the start, and what follows it. -/
structure Cursor where
  place : Nat
  rest : List Char
  deriving DecidableEq

/-- The number of bytes that characters take in UTF-8. -/
def utf8Length (cs : List Char) : Nat := cs.foldr (fun c size => c.utf8Size + size) 0

/-- Moves past the first `count` characters. -/
def Cursor.advance (cursor : Cursor) (count : Nat) : Cursor :=
  ⟨cursor.place + utf8Length (cursor.rest.take count), cursor.rest.drop count⟩

/-- A rule of the grammar: from a place, and the failures so far, it gives what it read and where
    it ended, or nothing, and the failures up to then. -/
def Grammar (α : Type) : Type := Cursor → Failures → Option (α × Cursor) × Failures

namespace Grammar

variable {α β : Type}

/-- Reads nothing. -/
protected def pure (a : α) : Grammar α := fun cursor failures => (some (a, cursor), failures)

/-- One rule, and from where it ended another. -/
protected def bind (rule : Grammar α) (next : α → Grammar β) : Grammar β :=
  fun cursor failures =>
    match rule cursor failures with
    | (some (a, after), failures) => next a after failures
    | (none, failures) => (none, failures)

/-- One rule or, from the same place, another. -/
protected def orElse (rule : Grammar α) (other : Unit → Grammar α) : Grammar α :=
  fun cursor failures =>
    match rule cursor failures with
    | (none, failures) => other () cursor failures
    | success => success

instance : Monad Grammar where
  pure := Grammar.pure
  bind := Grammar.bind

instance : OrElse (Grammar α) where
  orElse := Grammar.orElse

/-- Fails, noting what was expected at this place. -/
def fail (expected : Expected) : Grammar α :=
  fun cursor failures => (none, failures.note cursor.place expected)

end Grammar

/-! ## Tokens -/

/-- The characters that end an unquoted string. -/
def reserved : List Char := [' ', '"', ':', '>', '=', '<', '~', '(', ')']

def isReserved (c : Char) : Bool := reserved.contains c

/-- A fixed text. -/
def literal (text : String) : Grammar Unit := fun cursor failures =>
  if text.toList.isPrefixOf cursor.rest then
    (some ((), cursor.advance text.toList.length), failures)
  else (none, failures.note cursor.place (.literal text))

/-- A string without quotes. -/
def raw : Grammar String := fun cursor failures =>
  match cursor.rest.takeWhile (!isReserved ·) with
  | [] => (none, failures.note cursor.place .term)
  | token => (some (String.ofList token, cursor.advance token.length), failures)

/-- The rest of a quoted string and its closing quote.  Where that is missing, it is expected at
    the end of the query. -/
def closing : Grammar String := fun cursor failures =>
  let inside := cursor.rest.takeWhile (· != '"')
  -- a quote follows what was taken
  if inside.length < cursor.rest.length then
    (some (String.ofList inside, cursor.advance (inside.length + 1)), failures)
  else (none, failures.note (cursor.advance inside.length).place .closingQuote)

def quoted : Grammar String := do
  literal "\""
  closing

def string : Grammar String := raw <|> quoted

/-- The operators, longer ones before their beginnings. -/
def operators : List Operator := [.contains, .regex, .gte, .gt, .lte, .lt, .eq]

def operator : Grammar Operator := fun cursor failures =>
  match operators.find? (fun op => op.symbol.toList.isPrefixOf cursor.rest) with
  | some op => (some (op, cursor.advance op.symbol.toList.length), failures)
  | none => (none, failures.note cursor.place .operator)

/-! ## Terms and sentences -/

/-- A term with a field. -/
def fullTerm : Grammar Term := do
  let field ← string
  let op ← operator
  let token ← string
  pure ⟨some field, op, Value.ofToken token⟩

/-- A value alone. -/
def bareTerm : Grammar Term := do
  let token ← string
  pure ⟨none, .eq, Value.ofToken token⟩

/-- A term as a query. -/
def single : Grammar Query := do
  -- a term with a field begins like one without, so it is tried first
  let t ← fullTerm <|> bareTerm
  pure (.term t)

/-- Two queries of one kind, with a separator between them. -/
def pair (part : Grammar Query) (separator : String) (join : Query → Query → Query) :
    Grammar Query := do
  let left ← part
  literal separator
  let right ← part
  pure (join left right)

/-- A query in brackets. -/
def bracketed (inner : Grammar Query) : Grammar Query := do
  literal "("
  let q ← inner
  literal ")"
  pure (.group q)

/-- A sentence of one or two terms without brackets. -/
def plain : Grammar Query := pair single " OR " .or <|> pair single " " .and <|> single

/-- A sentence with at most `depth` brackets around one another. -/
def sentence : Nat → Grammar Query
  | 0 => bracketed (Grammar.fail .nestingDepth) <|> plain
  | depth + 1 => bracketed (sentence depth) <|> plain

/-- How many brackets may stand around one another. -/
def maxNesting : Nat := 128

/-- A whole query, not yet checked to reach the end. -/
def whole : Grammar Query :=
  pair (sentence maxNesting) " OR " .or <|> pair (sentence maxNesting) " " .and <|>
    sentence maxNesting

/-- Why a query cannot be read. -/
structure ParseError where
  input : String
  /-- The furthest place of failure, in bytes. -/
  position : Nat
  expected : List Expected
  deriving DecidableEq

def ParseError.message (error : ParseError) : String :=
  "Parse error at position " ++ Nat.repr error.position ++ ": expected " ++
    String.intercalate " or " (error.expected.map Expected.text) ++
    " in " ++ Text.quoted error.input

/-- Reads a query. -/
def parse (input : String) : Except ParseError Query :=
  match whole ⟨0, input.toList⟩ .none with
  | (some (q, cursor), failures) =>
    if cursor.rest.isEmpty then .ok q
    else
      let failures := failures.note cursor.place .endOfInput
      .error ⟨input, failures.furthest, failures.expected⟩
  | (none, failures) => .error ⟨input, failures.furthest, failures.expected⟩

end Sift.Query
