import Sift.Glob.Basic

/-! # Reading globs

Besides stars, question marks and classes in brackets, a glob may offer choices in braces.  A
backslash takes the next character as it is, and so does a bracket that is never closed. -/

namespace Sift.Glob

/-- A choice that is being read. -/
structure Choice where
  /-- What stands before it, the last piece first. -/
  before : List GlobPiece
  /-- The branches that are complete, the last first. -/
  branches : List (List GlobPiece)

/-- What is known while a glob is read. -/
structure Reader where
  rest : List Char
  /-- The last character read. -/
  last : Option Char := none
  /-- The pieces of the present branch, the last first. -/
  pieces : List GlobPiece := []
  /-- The choices around it, the innermost first. -/
  choices : List Choice := []
  /-- Whether a bracket was found that is never closed; further ones are not looked at. -/
  plainBrackets : Bool := false

namespace Reader

/-- Adds a piece and goes on behind some characters. -/
def push (s : Reader) (piece : GlobPiece) (last : Char) (rest : List Char) : Reader :=
  { s with pieces := piece :: s.pieces, last := some last, rest := rest }

/-- How a class in brackets ends. -/
inductive ClassEnd where
  | closed (ranges : List (Char × Char)) (rest : List Char)
  | unclosed
  /-- A range goes backward. -/
  | backward

/-- Reads the members of a class.  `ranges` are those read, the last first; `inRange` tells that
    a hyphen waits for the end of its range. -/
def classMembers (first inRange : Bool) (ranges : List (Char × Char)) : List Char → ClassEnd
  | [] => .unclosed
  | c :: rest =>
    -- at the head a closing bracket is a member
    if c == ']' && !first then
      -- a hyphen that waits in vain stands for itself
      .closed ((if inRange then ('-', '-') :: ranges else ranges).reverse) rest
    else if inRange then
      match ranges with
      | (low, _) :: others =>
        if c < low then .backward else classMembers false false ((low, c) :: others) rest
      | [] => .backward
    else if c == '-' && !first then classMembers false true ranges rest
    else classMembers false false ((c, c) :: ranges) rest

/-- Reads a class behind its opening bracket. -/
def readClass? (s : Reader) (rest : List Char) : Option Reader :=
  let (negated, members) := match rest with
    | '!' :: members => (true, members)
    | '^' :: members => (true, members)
    | members => (false, members)
  match classMembers true false [] members with
  | .closed ranges rest => some (s.push (.oneOf negated ranges) ']' rest)
  -- the bracket is a character, and so are all brackets after it
  | .unclosed => some ({ s with plainBrackets := true }.push (.char '[') '[' rest)
  | .backward => none

/-- Takes two stars that do not stand for directories. -/
def twoStars (s : Reader) (rest : List Char) : Reader := (s.push .many '*' rest).push .many '*' rest

/-- Reads what follows two stars behind other pieces.  They stand for directories if a slash stands
    on both sides, or an end of the glob or of a branch. -/
def innerStars (s : Reader) (rest : List Char) : Reader :=
  let starts := s.last == some '/' ||
    !s.choices.isEmpty && (s.last == some ',' || s.last == some '\x7b')
  let replaced (piece : GlobPiece) (last : Char) (rest : List Char) : Reader :=
    match s.pieces with
    -- stars for directories that are there already take the new ones in
    | .leading :: others => { s with pieces := others }.push .leading last rest
    | .trailing :: others => { s with pieces := others }.push .trailing last rest
    -- the slash before the stars is part of what they stand for
    | _ :: others => { s with pieces := others }.push piece last rest
    | [] => s.push piece last rest
  if !starts then s.twoStars rest
  else match rest with
    | [] => replaced .trailing '*' []
    | '/' :: rest => replaced .between '/' rest
    | c :: _ =>
      if !s.choices.isEmpty && (c == ',' || c == '\x7d') then replaced .trailing '*' rest
      else s.twoStars rest

/-- Reads what follows a star. -/
def readStar (s : Reader) (rest : List Char) : Reader :=
  match rest with
  | '*' :: rest =>
    -- at the head of a glob or of a branch
    if s.pieces.isEmpty then
      match rest with
      | [] => s.push .leading '*' []
      | '/' :: rest => s.push .leading '/' rest
      | _ => s.twoStars rest
    else s.innerStars rest
  | rest => s.push .many '*' rest

/-- Reads one character and what belongs to it. -/
def step? (s : Reader) (c : Char) (rest : List Char) : Option Reader :=
  match c with
  | '?' => some (s.push .one c rest)
  | '*' => some (s.readStar rest)
  | '[' => if s.plainBrackets then some (s.push (.char c) c rest) else s.readClass? rest
  | '\x7b' =>
    some { s with
      rest := rest, last := some c, pieces := [], choices := ⟨s.pieces, []⟩ :: s.choices }
  | '\x7d' =>
    match s.choices with
    -- a brace that closes nothing
    | [] => none
    | choice :: outer =>
      let branches := (s.pieces.reverse :: choice.branches).reverse
      some { s with
        rest := rest, last := some c, pieces := .choice branches :: choice.before
        choices := outer }
  | ',' =>
    match s.choices with
    | [] => some (s.push (.char c) c rest)
    | choice :: outer =>
      -- the present branch is complete, and the next one begins
      let choice := { choice with branches := s.pieces.reverse :: choice.branches }
      some { s with rest := rest, last := some c, pieces := [], choices := choice :: outer }
  | '\\' =>
    match rest with
    | [] => none
    | escaped :: rest => some (s.push (.char escaped) escaped rest)
  | c => some (s.push (.char c) c rest)

/-- Reads to the end; each step takes a character, so `fuel` is never used up. -/
def run? : Nat → Reader → Option Reader
  | 0, _ => none
  | fuel + 1, s =>
    match s.rest with
    | [] => some s
    | c :: rest => (s.step? c rest).bind (run? fuel)

end Reader

/-- Reads a glob. -/
def parse? (text : List Char) : Option Glob := do
  let s ← Reader.run? (text.length + 1) { rest := text }
  -- a brace is still open otherwise
  if s.choices.isEmpty then some ⟨s.pieces.reverse⟩ else none

end Sift.Glob
