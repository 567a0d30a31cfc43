import Sift.Pattern.Brackets
import Sift.Pattern.Size

/-! # Reading patterns

A pattern is a sequence of atoms, classes and groups, any of them repeated, with alternatives
between bars.  Flags set inside a group hold to its end.  Not every text is a pattern: brackets
must close, repetitions need something to repeat, and neither the nesting nor the repetitions may
grow beyond a bound. -/

namespace Sift.Pattern

open Text (decimalValue)

/-- A part of a pattern. -/
structure Piece where
  pattern : Pattern
  /-- How deeply the text that wrote it is nested. -/
  depth : Nat
  /-- Whether a repetition may follow it; a setting of flags cannot be repeated. -/
  repeatable : Bool

/-- A group that is still open, or the whole pattern: its finished alternatives and the pieces of
    the present one, the last of each first, and whether what it matches is kept. -/
structure OpenGroup where
  branches : List Piece
  pieces : List Piece
  captures : Bool

/-- What has been read: the flags in force, the names of groups, the innermost group and those
    around it, each with the flags in force where it goes on. -/
structure ReadState where
  flags : Flags
  names : List String
  group : OpenGroup
  outer : List (OpenGroup × Flags)

/-- The greatest depth of some pieces. -/
def deepest (pieces : List Piece) : Nat := (pieces.map (·.depth)).foldl Nat.max 0

/-- Pieces in a row, the last one first. -/
def sequenceOf (pieces : List Piece) : Piece :=
  match pieces with
  | [] => ⟨.empty, 0, true⟩
  | [piece] => piece
  | pieces => ⟨.sequence (pieces.reverse.map (·.pattern)), deepest pieces + 1, true⟩

/-- The piece that a group holds when it ends. -/
def OpenGroup.content (group : OpenGroup) : Piece :=
  let last := sequenceOf group.pieces
  match group.branches with
  | [] => last
  | branches =>
    -- the branches come the last first, so each goes in front of those behind it
    ⟨branches.foldl (fun alternatives branch => .alt branch.pattern alternatives) last.pattern,
      deepest (last :: branches) + 1, true⟩

def OpenGroup.empty (captures : Bool) : OpenGroup := ⟨[], [], captures⟩

/-- Adds a piece to the innermost group. -/
def ReadState.push (state : ReadState) (piece : Piece) : ReadState :=
  { state with group := { state.group with pieces := piece :: state.group.pieces } }

/-- Adds a piece without parts. -/
def ReadState.pushAtom (state : ReadState) (pattern : Pattern) : ReadState :=
  state.push ⟨pattern, 0, true⟩

/-! ## Repetition -/

/-- Repeats the last piece. -/
def ReadState.repeat? (state : ReadState) (min : Nat) (max : Option Nat) : Option ReadState :=
  match state.group.pieces with
  | piece :: pieces =>
    if piece.repeatable then
      let repeated : Piece := ⟨.times piece.pattern min max, piece.depth + 1, true⟩
      some { state with group := { state.group with pieces := repeated :: pieces } }
    else none
  | [] => none

/-- Drops a question mark: whether the shorter match is preferred does not change whether there is
    one. -/
def dropLazy : List Char → List Char
  | '?' :: rest => rest
  | cs => cs

/-- Reads a number of 32 bits, or no digits, with blanks around it. -/
def count? (ignoreBlank : Bool) (cs : List Char) : Option (Option Nat × List Char) :=
  -- blanks may stand here even where they are not ignored
  let cs := cs.dropWhile Unicode.isWhiteSpace
  let (digits, rest) := takeSkipping ignoreBlank Char.isDigit cs.length cs
  let rest := skip ignoreBlank (rest.dropWhile Unicode.isWhiteSpace)
  if digits.isEmpty then some (none, rest)
  else if decimalValue digits < Nat.pow 2 32 then some (some (decimalValue digits), rest)
  else none

/-- Reads the bounds of a repetition after the opening brace: one number, a number and a comma, or
    two numbers in order. -/
def bounds? (ignoreBlank : Bool) (cs : List Char) : Option (Nat × Option Nat × List Char) := do
  let (low?, rest) ← count? ignoreBlank (skip ignoreBlank cs)
  let low ← low?
  match rest with
  | '\x7d' :: rest => some (low, some low, rest)
  | ',' :: rest =>
    match skip ignoreBlank rest with
    | '\x7d' :: rest => some (low, none, rest)
    | rest =>
      let (high?, rest) ← count? ignoreBlank rest
      let high ← high?
      match rest with
      | '\x7d' :: rest => if low ≤ high then some (low, some high, rest) else none
      | _ => none
  | _ => none

/-! ## Groups -/

/-- Whether a character may stand in the name of a group. -/
def isNameChar (first : Bool) (c : Char) : Bool :=
  c == '_' || Unicode.isAlphabetic c ||
    !first && (c == '.' || c == '[' || c == ']' || Unicode.inCategories [.nd, .nl, .no] c)

/-- Reads the name of a group and the bracket that ends it. -/
def groupName? (cs : List Char) : Option (String × List Char) :=
  let name := cs.takeWhile (· != '>')
  match name, cs.drop name.length with
  | c :: rest, _ :: after =>
    if isNameChar true c && rest.all (isNameChar false) then some (String.ofList name, after)
    else none
  | _, _ => none

/-- Sets a flag by its letter. -/
def Flags.set? (flags : Flags) (letter : Char) (value : Bool) : Option Flags :=
  match letter with
  | 'i' => some { flags with ignoreCase := value }
  | 'm' => some { flags with multiLine := value }
  | 's' => some { flags with dotAll := value }
  | 'R' => some { flags with returns := value }
  | 'x' => some { flags with ignoreBlank := value }
  | 'u' => some { flags with unicode := value }
  -- which match is preferred does not matter for whether there is one
  | 'U' => some flags
  | _ => none

/-- Sets the flags of letters, those after a hyphen to false.  No letter may stand twice, nor a
    second hyphen, nor a hyphen at the end. -/
def Flags.setAll? (flags : Flags) (seen : List Char) : List Char → Option Flags
  | [] => if seen.head? == some '-' then none else some flags
  | c :: rest =>
    if seen.contains c then none
    else if c = '-' then flags.setAll? (c :: seen) rest
    else do
      let flags ← flags.set? c (!seen.contains '-')
      flags.setAll? (c :: seen) rest

/-- Opens a group. -/
def ReadState.open (state : ReadState) (flags : Flags) (captures : Bool) : ReadState :=
  { state with
    flags := flags
    group := .empty captures
    outer := (state.group, state.flags) :: state.outer }

/-- Reads the start of a group after its opening bracket: a name, flags, or nothing.  Flags that
    are followed by the closing bracket hold for the rest of the group around. -/
def openGroup? (state : ReadState) (cs : List Char) : Option (List Char × ReadState) := do
  let named (rest : List Char) : Option (List Char × ReadState) := do
    let (name, rest) ← groupName? rest
    if state.names.contains name then none
    else some (rest, { state.open state.flags true with names := name :: state.names })
  match skip state.flags.ignoreBlank cs with
  | '?' :: 'P' :: '<' :: rest => named rest
  | '?' :: '<' :: rest => named rest
  | '?' :: rest =>
    let letters := rest.takeWhile fun c => c != ':' && c != ')'
    let flags ← state.flags.setAll? [] letters
    match rest.drop letters.length with
    | ':' :: rest => some (rest, state.open flags false)
    | ')' :: rest =>
      -- a setting needs at least one letter
      if letters.isEmpty then none
      -- the piece stands for the setting, so that no repetition can follow
      else some (rest, { state with flags := flags }.push ⟨.empty, 0, false⟩)
    | _ => none
  | cs => some (cs, state.open state.flags true)

/-- Closes the innermost group. -/
def ReadState.close? (state : ReadState) : Option ReadState :=
  match state.outer with
  | [] => none
  | (group, flags) :: outer =>
    let content := state.group.content
    let pattern := if state.group.captures then .group content.pattern else content.pattern
    -- with the end of the group the flags around it come back
    some <| { state with flags := flags, group := group, outer := outer }.push
      ⟨pattern, content.depth + 1, true⟩

/-! ## Bounds -/

/-- The deepest nesting of a pattern's text. -/
def maxDepth : Nat := 250

/-- The largest size of a pattern's program. -/
def maxSize : Nat := 10485760

/-! ## The whole pattern -/

/-- Reads one part of a pattern. -/
def step? (c : Char) (rest : List Char) (state : ReadState) : Option (List Char × ReadState) :=
  let atom (atom : Atom) (rest : List Char) : Option (List Char × ReadState) := do
    let pattern ← atom.pattern? state.flags
    some (rest, state.pushAtom pattern)
  match c with
  | '(' => openGroup? state rest
  | ')' => state.close?.map (rest, ·)
  | '|' =>
    let group := state.group
    let branches := sequenceOf group.pieces :: group.branches
    some (rest, { state with group := ⟨branches, [], group.captures⟩ })
  | '[' => do
    let (charClass, rest) ← bracketClass? state.flags rest
    some (rest, state.push ⟨.chars charClass.charClass, charClass.depth, true⟩)
  | '?' => (state.repeat? 0 (some 1)).map (dropLazy rest, ·)
  | '*' => (state.repeat? 0 none).map (dropLazy rest, ·)
  | '+' => (state.repeat? 1 none).map (dropLazy rest, ·)
  | '\x7b' => do
    let (min, max, rest) ← bounds? state.flags.ignoreBlank rest
    let state ← state.repeat? min max
    some (dropLazy (skip state.flags.ignoreBlank rest), state)
  | '.' => atom .dot rest
  | '^' => atom (.anchor (.line true)) rest
  | '$' => atom (.anchor (.line false)) rest
  | '\\' => do
    let (escaped, rest) ← escape? state.flags.ignoreBlank rest
    atom escaped rest
  | c => atom (.literal c false) rest

/-- Reads a pattern to its end.  Every part takes a character. -/
def readRest? (cs : List Char) (state : ReadState) : Option ReadState :=
  match skip state.flags.ignoreBlank cs with
  | [] => some state
  | c :: rest =>
    match step? c rest state with
    | none => none
    | some (rest, state) =>
      -- every part takes a character, and the check makes the recursion end
      if rest.length < cs.length then readRest? rest state else none
termination_by cs.length

/-- Reads a pattern. -/
def parse? (text : String) : Option Pattern := do
  let state ← readRest? text.toList ⟨{}, [], .empty false, []⟩
  let content := state.group.content
  if state.outer.isEmpty && content.depth ≤ maxDepth && content.pattern.size ≤ maxSize then
    some content.pattern
  else none

end Sift.Pattern
