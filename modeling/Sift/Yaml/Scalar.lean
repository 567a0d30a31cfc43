import Sift.Text.Digits
import Sift.Yaml.Cursor

/-! # Scalars in a YAML text

The four ways to write a scalar: plain, in single or double quotes, or as a block of indented
lines.  Line ends inside the first three fold: a single one reads as a space, and of several the
first is dropped. -/

namespace Sift.Yaml

open Text (digitValue hexDigitValue? charOfCode?)

/-- White space inside a scalar: blanks of a line, or its line ends, the first apart from the
    others. -/
structure Space where
  blanks : List Char := []
  /-- Whether a line has ended. -/
  broken : Bool := false
  first : List Char := []
  others : List Char := []

/-- What white space reads as. -/
def Space.fold (space : Space) : List Char :=
  if !space.broken then space.blanks
  else if space.first == ['\n'] then
    if space.others.isEmpty then [' '] else space.others
  -- line ends that are kept as they are do not fold
  else space.first ++ space.others

/-- Moves past blanks and line ends.  After a line end, a tab before column `indent` is refused;
    `fuel` bounds the number of characters. -/
def takeSpace? (indent : Int) : Nat → Space → Cursor → Option (Space × Cursor)
  | 0, _, _ => none
  | fuel + 1, space, cursor =>
    match cursor.next with
    | none => some (space, cursor)
    | some c =>
      if isBlank c then
        if !space.broken then
          takeSpace? indent fuel { space with blanks := space.blanks ++ [c] } (cursor.skip 1)
        else if c == '\t' && (cursor.column : Int) < indent then none
        else takeSpace? indent fuel space (cursor.skip 1)
      else if isBreak c then
        let (read, after) := cursor.takeBreak
        if space.broken then
          takeSpace? indent fuel { space with others := space.others ++ read } after
        -- blanks before the first line end go with it
        else takeSpace? indent fuel ⟨[], true, read, []⟩ after
      else some (space, cursor)

/-! ## Plain scalars -/

/-- A character that ends or separates what stands between flow brackets. -/
def isFlowMark (c : Char) : Bool :=
  c == ',' || c == '[' || c == ']' || c == '\x7b' || c == '\x7d'

/-- Whether a plain scalar ends before the next character. -/
def endsPlain (flow : Bool) (cursor : Cursor) : Bool :=
  match cursor.next with
  | none => true
  | some c =>
    isBlank c || isBreak c || c == ':' && isGap (cursor.ahead 1) || flow && isFlowMark c

/-- Whether the next character is a colon that a flow bracket, a comma or a question mark
    follows. -/
def strayColon (cursor : Cursor) : Bool :=
  cursor.sees ':' && (cursor.ahead 1).any fun c => isFlowMark c || c == '?'

/-- The characters of a plain scalar up to a space or its end. -/
def plainWord? (flow : Bool) : Nat → List Char → Cursor → Option (List Char × Cursor)
  | 0, _, _ => none
  | fuel + 1, word, cursor =>
    if flow && strayColon cursor then none
    else if endsPlain flow cursor then some (word, cursor)
    else match cursor.next with
      | some c => plainWord? flow fuel (c :: word) (cursor.skip 1)
      | none => some (word, cursor)

/-- A plain scalar that continues after white space.  `read` is what has been read, the last
    character first.  The answer tells whether a line ended after the last word. -/
def plainRest? (flow : Bool) (indent : Int) :
    Nat → List Char → Space → Cursor → Option (List Char × Bool × Cursor)
  | 0, _, _, _ => none
  | fuel + 1, read, space, cursor =>
    -- only here, where white space stands before it, does a number sign begin a comment
    if cursor.seesMarker '-' || cursor.seesMarker '.' || cursor.sees '#' then
      some (read, space.broken, cursor)
    else do
      let (word, after) ← plainWord? flow (cursor.remaining + 1) [] cursor
      -- white space counts only with a word behind it
      let read := if word.isEmpty then read else word ++ space.fold.reverse ++ read
      let space : Space := if word.isEmpty then space else {}
      if !isGap after.next || after.next.isNone then some (read, space.broken, after)
      else do
        let (space, after) ← takeSpace? indent (after.remaining + 1) space after
        -- a line with less indentation belongs to the block around
        if !flow && (after.column : Int) < indent then some (read, space.broken, after)
        else plainRest? flow indent fuel read space after

/-- Reads a plain scalar; its lines after the first start at column `indent` or later. -/
def plain? (flow : Bool) (indent : Int) (cursor : Cursor) :
    Option (List Char × Bool × Cursor) := do
  let (read, broken, after) ← plainRest? flow indent (cursor.remaining + 1) [] {} cursor
  some (read.reverse, broken, after)

/-! ## Quoted scalars -/

/-- What a letter after a backslash stands for. -/
def escaped? : Char → Option Char
  | '0' => some '\x00'
  | 'a' => some '\x07'
  | 'b' => some '\x08'
  | 't' | '\t' => some '\t'
  | 'n' => some '\n'
  | 'v' => some '\x0b'
  | 'f' => some '\x0c'
  | 'r' => some '\r'
  | 'e' => some '\x1b'
  | ' ' => some ' '
  | '"' => some '"'
  | '/' => some '/'
  | '\\' => some '\\'
  | 'N' => some '\x85'
  | '_' => some '\xa0'
  | 'L' => some '\u2028'
  | 'P' => some '\u2029'
  | _ => none

/-- Reads so many hexadecimal digits as the code of a character. -/
def codeEscape? (count : Nat) (cursor : Cursor) : Option (Char × Cursor) := do
  let digits := cursor.rest.take count
  if digits.length < count then none
  let code ← digits.foldlM (fun value c => (hexDigitValue? c).map (16 * value + ·)) 0
  let c ← charOfCode? code
  some (c, cursor.skip count)

/-- The characters of a quoted scalar up to a space, its closing quote or an escaped line end, the
    last character first; and whether it was a line end. -/
def quotedWord? (single : Bool) : Nat → List Char → Cursor → Option (List Char × Bool × Cursor)
  | 0, _, _ => none
  | fuel + 1, word, cursor =>
    match cursor.rest with
    | [] => some (word, false, cursor)
    | c :: rest =>
      if isBlank c || isBreak c then some (word, false, cursor)
      else if single then
        if c == '\x27' then
          -- a quote that is doubled stands for itself
          if rest.head? == some '\x27' then quotedWord? single fuel ('\x27' :: word) (cursor.skip 2)
          else some (word, false, cursor)
        else quotedWord? single fuel (c :: word) (cursor.skip 1)
      else if c == '"' then some (word, false, cursor)
      else if c == '\\' then
        match rest with
        | [] => none
        | e :: _ =>
          -- a line end behind a backslash leaves nothing
          if isBreak e then some (word, true, (cursor.skip 1).takeBreak.2)
          else do
            let inside := cursor.skip 2
            let (c, after) ← match e with
              | 'x' => codeEscape? 2 inside
              | 'u' => codeEscape? 4 inside
              | 'U' => codeEscape? 8 inside
              | e => (escaped? e).map (·, inside)
            quotedWord? single fuel (c :: word) after
      else quotedWord? single fuel (c :: word) (cursor.skip 1)

/-- The rest of a quoted scalar; `read` is what has been read, the last character first. -/
def quotedRest? (single : Bool) : Nat → List Char → Cursor → Option (List Char × Cursor)
  | 0, _, _ => none
  | fuel + 1, read, cursor =>
    if cursor.seesMarker '-' || cursor.seesMarker '.' || cursor.next.isNone then none
    else do
      let (read, broken, after) ← quotedWord? single (cursor.remaining + 1) read cursor
      if after.sees (if single then '\x27' else '"') then some (read, after.skip 1)
      else do
        -- after an escaped line end the blanks are those at the start of a line
        let (space, after) ←
          takeSpace? 0 (after.remaining + 1) { broken := broken } after
        quotedRest? single fuel (space.fold.reverse ++ read) after

/-- Reads a quoted scalar, from its opening quote on. -/
def quoted? (single : Bool) (cursor : Cursor) : Option (List Char × Cursor) := do
  let (read, after) ← quotedRest? single (cursor.remaining + 1) [] (cursor.skip 1)
  some (read.reverse, after)

/-! ## Block scalars -/

/-- What happens to the line ends at the end of a block scalar: the last one stays, all are
    dropped, or all stay. -/
inductive Chomping where
  | clip | strip | keep
  deriving DecidableEq

/-- Reads a chomping mark, if one stands here. -/
def chomping (cursor : Cursor) : Option Chomping × Cursor :=
  if cursor.sees '+' then (some .keep, cursor.skip 1)
  else if cursor.sees '-' then (some .strip, cursor.skip 1)
  else (none, cursor)

/-- Reads an indentation from 1 to 9, if a digit stands here. -/
def indentation? (cursor : Cursor) : Option (Option Nat × Cursor) :=
  match cursor.next with
  | some c =>
    if c.isDigit then
      if c == '0' then none else some (some (digitValue c), cursor.skip 1)
    else some (none, cursor)
  | none => some (none, cursor)

/-- The two marks after the sign of a block scalar, in either order. -/
def blockMarks? (cursor : Cursor) : Option (Chomping × Option Nat × Cursor) :=
  match chomping cursor with
  | (some chomp, after) => do
    let (indent, after) ← indentation? after
    some (chomp, indent, after)
  | (none, after) => do
    let (indent, after) ← indentation? after
    if indent.isSome then
      let (chomp, after) := chomping after
      some (chomp.getD .clip, indent, after)
    else some (.clip, none, after)

/-- Moves past empty lines and indentation.  Where the indentation is not known yet, all spaces
    belong to it.  Gives the line ends and the deepest column seen. -/
def blockBreaks? (indent : Option Nat) :
    Nat → Nat → List Char → Cursor → Option (List Char × Nat × Cursor)
  | 0, _, _, _ => none
  | fuel + 1, deepest, breaks, cursor =>
    let inside (column : Nat) : Bool := indent.all (column < ·)
    let spaces := (cursor.rest.takeWhile (· == ' ')).length
    let count := match indent with
      | some n => Nat.min spaces (n - cursor.column)
      | none => spaces
    let cursor := cursor.skip count
    let deepest := Nat.max deepest cursor.column
    -- a tab is no indentation
    if inside cursor.column && cursor.sees '\t' then none
    else if cursor.next.any isBreak then
      let (read, after) := cursor.takeBreak
      blockBreaks? indent fuel deepest (breaks ++ read) after
    else some (breaks, deepest, cursor)

/-- The lines of a block scalar.  `read` is what has been read, the last character first, without
    `lineEnd`, the end of the last line, and `breaks`, the ends of the empty lines after it. -/
def blockLines? (literal : Bool) (indent : Nat) :
    Nat → List Char → List Char → List Char → Bool → Cursor →
      Option (List Char × List Char × List Char × Cursor)
  | 0, _, _, _, _, _ => none
  | fuel + 1, read, lineEnd, breaks, startsBlank, cursor =>
    if cursor.column == indent && cursor.next.isSome then do
      let blank := cursor.next.any isBlank
      -- in a folded scalar two lines join if neither starts with a blank
      let joint :=
        if !literal && lineEnd == ['\n'] && !startsBlank && !blank then
          if breaks.isEmpty then [' '] else []
        else lineEnd
      let (line, after) := cursor.takeWhile fun _ => true
      let (lineEnd, after) := after.takeBreak
      let read := line.reverse ++ breaks.reverse ++ joint.reverse ++ read
      let (breaks, _, after) ←
        blockBreaks? (some indent) (after.remaining + 1) 0 [] after
      blockLines? literal indent fuel read lineEnd breaks blank after
    else some (read, lineEnd, breaks, cursor)

/-- Reads a block scalar, from its sign on, inside a block at column `parent`. -/
def block? (literal : Bool) (parent : Int) (cursor : Cursor) : Option (List Char × Cursor) := do
  let (chomp, increment, after) ← blockMarks? (cursor.skip 1)
  let after ← after.finishLine?
  let given : Option Nat := increment.map fun n =>
    -- outside of all blocks the number is the column itself
    if 0 ≤ parent then parent.toNat + n else n
  let (breaks, deepest, after) ← blockBreaks? given (after.remaining + 1) 0 [] after
  -- without a number the deepest line up to the first that is not empty sets the indentation
  let indent := given.getD (Nat.max deepest (Nat.max (parent + 1).toNat 1))
  let (read, lineEnd, breaks, after) ←
    blockLines? literal indent (after.remaining + 1) [] [] breaks false after
  let tail := match chomp with
    | .strip => []
    | .clip => lineEnd
    | .keep => lineEnd ++ breaks
  some (read.reverse ++ tail, after)

end Sift.Yaml
