import Sift.Yaml.Scalar

/-! # Tokens of YAML

A text is cut into tokens.  Indentation becomes visible as tokens that open and close blocks, and
a mapping key on one line, which shows only by the colon behind it, is marked by a token in front
of it. -/

namespace Sift.Yaml

inductive Token where
  | versionDirective (major minor : Nat)
  | tagDirective (handle uri : String)
  | documentStart
  | documentEnd
  | blockSequenceStart
  | blockMappingStart
  | blockEnd
  | flowSequenceStart
  | flowSequenceEnd
  | flowMappingStart
  | flowMappingEnd
  | blockEntry
  | flowEntry
  | key
  | value
  | alias (name : String)
  | anchor (name : String)
  | tag (handle suffix : String)
  | scalar (text : String) (plain : Bool)
  deriving DecidableEq

/-- A place where a key on one line may have started. -/
structure PossibleKey where
  /-- How many tokens stand before it. -/
  position : Nat
  /-- Whether nothing else than a key may stand there. -/
  required : Bool
  index : Nat
  line : Nat
  column : Nat

/-- What is known while tokens are cut. -/
structure Scanner where
  cursor : Cursor
  tokens : Array Token
  /-- The columns of the open blocks, the innermost first; `-1` stands for none. -/
  indent : Int
  outerIndents : List Int
  /-- For each open flow bracket, and for the block around them, where a key may have started; the
      innermost first. -/
  keys : List (Option PossibleKey)
  /-- How many flow brackets are open. -/
  flowLevel : Nat
  /-- Whether a key may start here. -/
  keyAllowed : Bool

namespace Scanner

def start (text : List Char) : Scanner :=
  ⟨.start text, #[], -1, [], [none], 0, true⟩

def inFlow (s : Scanner) : Bool := s.flowLevel != 0

def push (s : Scanner) (token : Token) : Scanner := { s with tokens := s.tokens.push token }

/-- Puts a token before the one at a position. -/
def insert (s : Scanner) (position : Nat) (token : Token) : Scanner :=
  { s with tokens := s.tokens.insertIdxIfInBounds position token }

/-! ## Keys on one line -/

/-- Forgets the innermost key; a required one must not be forgotten. -/
def dropKey? (s : Scanner) : Option Scanner :=
  match s.keys with
  | [] => some s
  | key :: outer =>
    if key.any (·.required) then none else some { s with keys := none :: outer }

/-- Notes that a key may start here. -/
def noteKey? (s : Scanner) : Option Scanner :=
  if s.keyAllowed then do
    let s ← s.dropKey?
    let key : PossibleKey :=
      { position := s.tokens.size
        -- at the column of its block nothing but a key may stand
        required := !s.inFlow && s.indent == s.cursor.column
        index := s.cursor.index
        line := s.cursor.line
        column := s.cursor.column }
    some { s with keys := some key :: s.keys.drop 1 }
  else some s

/-- Forgets keys on earlier lines or more than 1024 characters back. -/
def dropStaleKeys? (s : Scanner) : Option Scanner := do
  let keys ← s.keys.mapM fun key =>
    match key with
    | none => some none
    | some key =>
      if key.line < s.cursor.line || key.index + 1024 < s.cursor.index then
        if key.required then none else some none
      else some (some key)
  some { s with keys := keys }

/-! ## Blocks -/

/-- Opens a block at a column that lies deeper than the present one. -/
def openBlock (s : Scanner) (column : Nat) (position : Option Nat) (token : Token) : Scanner :=
  if !s.inFlow && s.indent < column then
    let s := { s with indent := column, outerIndents := s.indent :: s.outerIndents }
    match position with
    | some position => s.insert position token
    | none => s.push token
  else s

/-- Closes the blocks that lie deeper than a column, given the columns around them. -/
private def closeTo (column : Int) : List Int → Scanner → Scanner
  | [], s => s
  | outer :: rest, s =>
    if column < s.indent then
      closeTo column rest { s.push .blockEnd with indent := outer, outerIndents := rest }
    else s

/-- Closes the blocks that lie deeper than a column. -/
def closeBlocks (s : Scanner) (column : Int) : Scanner :=
  if s.inFlow then s else closeTo column s.outerIndents s

/-! ## White space between tokens -/

/-- Moves to the next token.  Tabs count as white space in flow brackets and where no key may
    start. -/
def toToken : Nat → Scanner → Scanner
  | 0, s => s
  | fuel + 1, s =>
    let cursor := s.cursor
    -- a byte order mark may stand at the start of a line
    let cursor := if cursor.column == 0 && cursor.sees '\ufeff' then cursor.skip 1 else cursor
    let tabs := s.inFlow || !s.keyAllowed
    let cursor := (cursor.skipWhile fun c => c == ' ' || tabs && c == '\t').skipComment
    if cursor.next.any isBreak then
      toToken fuel { s with
        cursor := cursor.takeBreak.2
        -- a new line may start a key, but not between flow brackets
        keyAllowed := s.keyAllowed || !s.inFlow }
    else { s with cursor := cursor }

/-! ## Directives -/

/-- A number of one to nine digits. -/
def versionNumber? (cursor : Cursor) : Option (Nat × Cursor) :=
  let (digits, after) := cursor.takeWhile Char.isDigit
  if digits.isEmpty || 9 < digits.length then none else some (Text.decimalValue digits, after)

/-- The bytes of escapes such as `%41`, which together must write one character. -/
def uriEscape? (cursor : Cursor) : Option (Char × Cursor) := do
  let octet (cursor : Cursor) : Option (Nat × Cursor) :=
    match cursor.rest with
    | '%' :: a :: b :: _ => do
      let a ← Text.hexDigitValue? a
      let b ← Text.hexDigitValue? b
      some (16 * a + b, cursor.skip 3)
    | _ => none
  let (first, after) ← octet cursor
  -- the first byte tells how many follow, and has the highest digits
  let (width, high) ←
    if first < 0x80 then some (1, first)
    else if 0xc0 ≤ first ∧ first < 0xe0 then some (2, first - 0xc0)
    else if 0xe0 ≤ first ∧ first < 0xf0 then some (3, first - 0xe0)
    else if 0xf0 ≤ first ∧ first < 0xf8 then some (4, first - 0xf0)
    else none
  let (code, after) ← (List.range (width - 1)).foldlM (fun (code, after) _ => do
    let (byte, after) ← octet after
    if 0x80 ≤ byte ∧ byte < 0xc0 then some (64 * code + (byte - 0x80), after) else none)
    (high, after)
  let c ← Text.charOfCode? code
  some (c, after)

/-- A character of the address that a tag stands for; some only where the address is in angle
    brackets or in a directive. -/
def isUriChar (bracketed : Bool) (c : Char) : Bool :=
  isNameChar c || ";/?:@&=+$.%!~*\x27()".toList.contains c ||
    bracketed && (c == ',' || c == '[' || c == ']')

/-- The characters of an address, the last one first. -/
def uriRest? (bracketed : Bool) : Nat → List Char → Cursor → Option (List Char × Cursor)
  | 0, _, _ => none
  | fuel + 1, read, cursor =>
    match cursor.next with
    | some c =>
      if !isUriChar bracketed c then some (read, cursor)
      else if c == '%' then do
        let (c, after) ← uriEscape? cursor
        uriRest? bracketed fuel (c :: read) after
      else uriRest? bracketed fuel (c :: read) (cursor.skip 1)
    | none => some (read, cursor)

/-- Reads an address after what is known of it, or refuses an empty one. -/
def uri? (bracketed : Bool) (known : Option (List Char)) (cursor : Cursor) :
    Option (List Char × Cursor) := do
  let (read, after) ← uriRest? bracketed (cursor.remaining + 1) [] cursor
  if read.isEmpty && known.isNone then none
  -- what is known begins with an exclamation mark, which is no part of the address
  else some ((known.getD []).drop 1 ++ read.reverse, after)

/-- Reads `!`, a name and, if it is there, a second `!`. -/
def tagHandle? (cursor : Cursor) : Option (List Char × Cursor) :=
  if cursor.sees '!' then
    let (name, after) := (cursor.skip 1).takeWhile isNameChar
    if after.sees '!' then some ('!' :: name ++ ['!'], after.skip 1)
    else some ('!' :: name, after)
  else none

/-- Whether a handle is one exclamation mark, or ends in a second one. -/
def isWholeHandle (handle : List Char) : Bool := 1 < handle.length && handle.getLast? == some '!'

/-- Reads a directive, from the percent sign on. -/
def directive? (cursor : Cursor) : Option (Token × Cursor) := do
  let (name, after) := (cursor.skip 1).takeWhile isNameChar
  if name.isEmpty || !isGap after.next then none
  let after := after.skipWhile isBlank
  let (token, after) ← match String.ofList name with
    | "YAML" => do
      let (major, after) ← versionNumber? after
      if !after.sees '.' then none
      let (minor, after) ← versionNumber? (after.skip 1)
      some (Token.versionDirective major minor, after)
    | "TAG" => do
      let (handle, after) ← tagHandle? after
      if handle != ['!'] && !isWholeHandle handle then none
      if !after.next.any isBlank then none
      let (uri, after) ← uri? true none (after.skipWhile isBlank)
      if !isGap after.next then none
      some (Token.tagDirective (String.ofList handle) (String.ofList uri), after)
    | _ => none
  let after ← after.finishLine?
  some (token, after)

/-! ## Anchors and tags -/

/-- Reads the name of an anchor or alias, from its sign on. -/
def anchorName? (cursor : Cursor) : Option (String × Cursor) :=
  let (name, after) := (cursor.skip 1).takeWhile isNameChar
  -- these characters may follow a name without a gap
  let ends := isGap after.next || after.next.any fun c => "?:,]\x7d%@\x60".toList.contains c
  if !name.isEmpty && ends then
    some (String.ofList name, after)
  else none

/-- Reads a tag, from its exclamation mark on. -/
def tag? (inFlow : Bool) (cursor : Cursor) : Option (Token × Cursor) := do
  let (handle, suffix, after) ←
    if cursor.ahead 1 == some '<' then do
      let (uri, after) ← uri? true none (cursor.skip 2)
      if after.sees '>' then some ([], uri, after.skip 1) else none
    else do
      let (handle, after) ← tagHandle? cursor
      if isWholeHandle handle then do
        let (uri, after) ← uri? false none after
        some (handle, uri, after)
      else do
        let (uri, after) ← uri? false (some handle) after
        -- a mark alone is a tag by itself
        if uri.isEmpty then some ([], ['!'], after) else some (['!'], uri, after)
  if isGap after.next || inFlow && after.sees ',' then
    some (.tag (String.ofList handle) (String.ofList suffix), after)
  else none

/-! ## One token -/

/-- Moves past an indicator of so many characters and adds its token. -/
def indicator (s : Scanner) (count : Nat) (token : Token) : Scanner :=
  { s with cursor := s.cursor.skip count }.push token

/-- A marker of a document or a directive: all blocks end. -/
def endBlocks? (s : Scanner) : Option Scanner := do
  let s ← (s.closeBlocks (-1)).dropKey?
  some { s with keyAllowed := false }

def flowStart? (s : Scanner) (token : Token) : Option Scanner := do
  let s ← s.noteKey?
  some <| { s with
    keys := none :: s.keys, flowLevel := s.flowLevel + 1, keyAllowed := true }.indicator 1 token

def flowEnd? (s : Scanner) (token : Token) : Option Scanner := do
  let s ← s.dropKey?
  -- a bracket that closes nothing is left for the reader of nodes to refuse
  let s := if s.inFlow then { s with keys := s.keys.drop 1, flowLevel := s.flowLevel - 1 } else s
  some <| { s with keyAllowed := false }.indicator 1 token

def flowComma? (s : Scanner) : Option Scanner := do
  let s ← s.dropKey?
  some <| { s with keyAllowed := true }.indicator 1 .flowEntry

/-- An indicator that may open a block where a key may start. -/
def blockIndicator? (s : Scanner) (opening : Token) : Option Scanner :=
  if s.inFlow then some s
  else if s.keyAllowed then some (s.openBlock s.cursor.column none opening)
  else none

def blockDash? (s : Scanner) : Option Scanner := do
  let s ← s.blockIndicator? .blockSequenceStart
  let s ← s.dropKey?
  some <| { s with keyAllowed := true }.indicator 1 .blockEntry

def key? (s : Scanner) : Option Scanner := do
  let s ← s.blockIndicator? .blockMappingStart
  let s ← s.dropKey?
  some <| { s with keyAllowed := !s.inFlow }.indicator 1 .key

/-- A colon: behind a key on one line, which is marked now, or behind any other key. -/
def value? (s : Scanner) : Option Scanner :=
  match s.keys with
  | some key :: outer =>
    -- the tokens of the key are there already, so the marks go in front of them
    let s := (s.insert key.position .key).openBlock key.column (some key.position)
      .blockMappingStart
    some <| { s with keys := none :: outer, keyAllowed := false }.indicator 1 .value
  | _ => do
    let s ← s.blockIndicator? .blockMappingStart
    some <| { s with keyAllowed := !s.inFlow }.indicator 1 .value

/-- A token that may start a key and after which none can start. -/
def keyed? (s : Scanner) (read : Cursor → Option (Token × Cursor)) : Option Scanner := do
  let s ← s.noteKey?
  let (token, after) ← read s.cursor
  some <| { s with keyAllowed := false, cursor := after }.push token

def blockScalar? (s : Scanner) (literal : Bool) : Option Scanner := do
  let s ← s.dropKey?
  let (text, after) ← block? literal s.indent s.cursor
  some <| { s with keyAllowed := true, cursor := after }.push (.scalar (String.ofList text) false)

def quotedScalar? (s : Scanner) (single : Bool) : Option Scanner :=
  s.keyed? fun cursor => do
    let (text, after) ← quoted? single cursor
    some (.scalar (String.ofList text) false, after)

/-- A plain scalar; where it ends with a line, a key may start behind it. -/
def plainScalar? (s : Scanner) : Option Scanner := do
  let s ← s.noteKey?
  let (text, broken, after) ← plain? s.inFlow (s.indent + 1) s.cursor
  some <| { s with keyAllowed := broken, cursor := after }.push (.scalar (String.ofList text) true)

/-- Whether a plain scalar may start here. -/
def startsPlain (s : Scanner) (c : Char) : Bool :=
  !(isBlank c || isBreak c || "-?:,[]\x7b\x7d#&*!|>\x27\"%@\x60".toList.contains c) ||
    -- three of the indicators may begin a scalar where no gap follows
    c == '-' && !(s.cursor.ahead 1).any isBlank ||
    !s.inFlow && (c == '?' || c == ':') && !isGap (s.cursor.ahead 1)

/-- Cuts the token that starts with a character. -/
def cut? (s : Scanner) (c : Char) : Option Scanner :=
  let gap := isGap (s.cursor.ahead 1)
  -- a directive or a marker goes before what its first character means elsewhere
  if s.cursor.column == 0 && c == '%' then do
    let s ← s.endBlocks?
    let (token, after) ← directive? s.cursor
    some ({ s with cursor := after }.push token)
  else if s.cursor.seesMarker '-' then s.endBlocks?.map (·.indicator 3 .documentStart)
  else if s.cursor.seesMarker '.' then s.endBlocks?.map (·.indicator 3 .documentEnd)
  else if c == '[' then s.flowStart? .flowSequenceStart
  else if c == '\x7b' then s.flowStart? .flowMappingStart
  else if c == ']' then s.flowEnd? .flowSequenceEnd
  else if c == '\x7d' then s.flowEnd? .flowMappingEnd
  else if c == ',' then s.flowComma?
  else if c == '-' && gap then s.blockDash?
  else if c == '?' && (s.inFlow || gap) then s.key?
  else if c == ':' && (s.inFlow || gap) then s.value?
  else if c == '*' then
    s.keyed? fun cursor => (anchorName? cursor).map fun (name, after) => (.alias name, after)
  else if c == '&' then
    s.keyed? fun cursor => (anchorName? cursor).map fun (name, after) => (.anchor name, after)
  else if c == '!' then s.keyed? (tag? s.inFlow)
  else if c == '|' && !s.inFlow then s.blockScalar? true
  else if c == '>' && !s.inFlow then s.blockScalar? false
  else if c == '\x27' then s.quotedScalar? true
  else if c == '"' then s.quotedScalar? false
  else if s.startsPlain c then s.plainScalar?
  else none

/-- Ends the text: all blocks close. -/
def finish? (s : Scanner) : Option (List Token) := do
  let s ← (s.closeBlocks (-1)).dropKey?
  some s.tokens.toList

/-- Cuts all tokens; each takes at least a character, so `fuel` is never used up. -/
def run? : Nat → Scanner → Option (List Token)
  | 0, _ => none
  | fuel + 1, s => do
    -- a key must be complete on its line, so older ones are forgotten before the next token
    let s ← (s.toToken (s.cursor.remaining + 1)).dropStaleKeys?
    let s := s.closeBlocks s.cursor.column
    match s.cursor.next with
    | none => s.finish?
    | some c => do
      let s ← s.cut? c
      run? fuel s

end Scanner

/-- The tokens of a text. -/
def scan? (text : String) : Option (List Token) :=
  let cs := text.toList
  if cs.all isAllowed then Scanner.run? (cs.length + 2) (.start cs) else none

end Sift.Yaml
