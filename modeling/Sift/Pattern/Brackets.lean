import Sift.Pattern.Atom

/-! # Classes in brackets

Between brackets stand characters, ranges, named classes and further brackets; `&&`, `--` and `~~`
are the intersection, the difference and the symmetric difference of what stands on both sides,
taken from left to right. -/

namespace Sift.Pattern

/-- An operation between two parts of a class in brackets. -/
inductive SetOperation where
  | intersection | difference | symmetricDifference

/-- A class and how deeply the text that wrote it is nested. -/
structure NestedClass where
  charClass : CharClass
  depth : Nat

/-- The union of some classes, the last one first. -/
def unionOf (items : List NestedClass) : NestedClass :=
  match items with
  | [] => ⟨.empty, 0⟩
  | [item] => item
  | items =>
    ⟨.unions (items.reverse.map (·.charClass)), (items.map (·.depth)).foldl Nat.max 0 + 1⟩

/-- An open bracket: whether it is negated, what stands on the left of an operation in it, the
    items after that, the last one first. -/
structure OpenBracket where
  negated : Bool
  left : Option (SetOperation × NestedClass)
  items : List NestedClass

/-- The class of an operation. -/
def combine (flags : Flags) (operation : SetOperation) (a b : NestedClass) : NestedClass :=
  let l := flags.fold a.charClass
  let r := flags.fold b.charClass
  let result : CharClass := match operation with
    | .intersection => .intersection l r
    | .difference => .difference l r
    | .symmetricDifference => .symmetricDifference l r
  ⟨result, Nat.max a.depth b.depth + 1⟩

namespace OpenBracket

/-- What stands in a bracket so far. -/
def content (flags : Flags) (bracket : OpenBracket) : NestedClass :=
  match bracket.left with
  | some (operation, left) => combine flags operation left (unionOf bracket.items)
  | none => unionOf bracket.items

/-- The class of a bracket that closes. -/
def close? (flags : Flags) (bracket : OpenBracket) : Option NestedClass := do
  let content := bracket.content flags
  -- closed under case first, so that a letter is left out with its variants
  let charClass ← flags.negate? bracket.negated (flags.fold content.charClass)
  some ⟨charClass, content.depth + 1⟩

def push (bracket : OpenBracket) (item : NestedClass) : OpenBracket :=
  { bracket with items := item :: bracket.items }

/-- Takes what stands in a bracket as the left of an operation. -/
def operate (flags : Flags) (operation : SetOperation) (bracket : OpenBracket) : OpenBracket :=
  { bracket with left := some (operation, bracket.content flags), items := [] }

end OpenBracket

/-! ## Reading -/

/-- Reads hyphens as themselves, skipping blanks after each; `fuel` bounds their number. -/
def leadingHyphens (ignoreBlank : Bool) : Nat → List Char → Nat × List Char
  | 0, cs => (0, cs)
  | fuel + 1, '-' :: rest =>
    let (count, rest) := leadingHyphens ignoreBlank fuel (skip ignoreBlank rest)
    (count + 1, rest)
  | _, cs => (0, cs)

/-- Reads the start of a bracket, after its opening: a caret negates it, and hyphens and, if there
    are none, a closing bracket are characters here. -/
def openBracket? (ignoreBlank : Bool) (cs : List Char) : Option (OpenBracket × List Char) := do
  let (negated, cs) := match skip ignoreBlank cs with
    | '^' :: rest => (true, skip ignoreBlank rest)
    | cs => (false, cs)
  let (hyphens, cs) := leadingHyphens ignoreBlank cs.length cs
  let hyphen : NestedClass := ⟨.single '-', 0⟩
  match hyphens, cs with
  | _, [] => none
  -- a closing bracket at the head is a character, if anything follows
  | 0, ']' :: rest =>
    if (skip ignoreBlank rest).isEmpty then none
    else some (⟨negated, none, [⟨.single ']', 0⟩]⟩, skip ignoreBlank rest)
  | hyphens, cs => some (⟨negated, none, List.replicate hyphens hyphen⟩, cs)

/-- Reads `[:name:]`, after its opening bracket. -/
def posixClass? (flags : Flags) (cs : List Char) : Option (Option NestedClass × List Char) := do
  let cs ← match cs with
    | ':' :: rest => some rest
    | _ => none
  let (negated, cs) := match cs with
    | '^' :: rest => (true, rest)
    | cs => (false, cs)
  let name := cs.takeWhile (· != ':')
  match cs.drop name.length with
  | ':' :: ']' :: rest =>
    -- with an unknown name this is a bracket inside of the bracket
    let charClass ← CharClass.posix? (String.ofList name)
    some ((flags.negate? negated (flags.fold charClass)).map (⟨·, 0⟩), rest)
  | _ => none

/-- Reads one item: what follows a backslash, or a character. -/
def bracketItem? (ignoreBlank : Bool) : List Char → Option (Atom × List Char)
  | [] => none
  | '\\' :: rest => escape? ignoreBlank rest
  | c :: rest => some (.literal c false, rest)

/-- The character of an item that is one, as far as the flags allow it in a class. -/
def Atom.char? (flags : Flags) : Atom → Option Char
  | .literal c asByte =>
    -- beyond ASCII a class without Unicode would hold bytes
    if flags.allows c asByte && (flags.unicode || c.toNat < 0x80) then some c else none
  | _ => none

/-- The class of an item. -/
def Atom.item? (flags : Flags) (atom : Atom) : Option NestedClass :=
  match atom with
  | .literal .. => (atom.char? flags).map fun c => ⟨.single c, 0⟩
  | atom => (atom.charClass? flags).map (⟨·, 0⟩)

/-- The character that follows the first one, and the blanks and the opening of a comment after
    it. -/
def peekPast (ignoreBlank : Bool) (cs : List Char) : Option Char :=
  if ignoreBlank then peek false (cs.drop 1) else (cs.drop 1).head?
where
  peek (inComment : Bool) : List Char → Option Char
    -- where nothing else follows, the character right after the hyphen is seen
    | [] => (cs.drop 1).head?
    | c :: rest =>
      if Unicode.isWhiteSpace c then peek inComment rest
      else if !inComment && c == '#' then peek true rest
      else some c

/-- Reads an item or a range of two.  A hyphen before the closing bracket or before another hyphen
    makes no range. -/
def bracketRange? (flags : Flags) (cs : List Char) : Option (NestedClass × List Char) := do
  let (first, rest) ← bracketItem? flags.ignoreBlank cs
  let rest := skip flags.ignoreBlank rest
  match rest with
  | '-' :: afterHyphen =>
    let next := peekPast flags.ignoreBlank rest
    -- the hyphen is left for the next item, or for an operation
    if next == some ']' || next == some '-' then
      let item ← first.item? flags
      some (item, rest)
    else
      let (last, rest) ← bracketItem? flags.ignoreBlank (skip flags.ignoreBlank afterHyphen)
      -- a range needs characters at both ends
      let a ← first.char? flags
      let b ← last.char? flags
      if a.toNat ≤ b.toNat then some (⟨.range a b, 0⟩, rest) else none
  | rest => do
    let item ← first.item? flags
    some (item, rest)

/-- Reads one part of a class: `outer` are the brackets around the innermost one.  The answer has
    no bracket left when the whole class is closed. -/
def bracketStep? (flags : Flags) (cs : List Char) (bracket : OpenBracket)
    (outer : List OpenBracket) :
    Option (List Char × (NestedClass ⊕ OpenBracket × List OpenBracket)) :=
  match cs with
  | [] => none
  | '[' :: rest =>
    match posixClass? flags rest with
    | some (item?, rest) => do
      let item ← item?
      some (rest, .inr (bracket.push item, outer))
    | none => do
      let (inner, rest) ← openBracket? flags.ignoreBlank rest
      some (rest, .inr (inner, bracket :: outer))
  | ']' :: rest => do
    let closed ← bracket.close? flags
    match outer with
    | [] => some (rest, .inl closed)
    | parent :: outer => some (rest, .inr (parent.push closed, outer))
  | '&' :: '&' :: rest => some (rest, .inr (bracket.operate flags .intersection, outer))
  | '-' :: '-' :: rest => some (rest, .inr (bracket.operate flags .difference, outer))
  | '~' :: '~' :: rest => some (rest, .inr (bracket.operate flags .symmetricDifference, outer))
  | cs => do
    let (item, rest) ← bracketRange? flags cs
    some (rest, .inr (bracket.push item, outer))

/-- Reads a class up to its closing bracket.  Every part takes a character. -/
def bracketRest? (flags : Flags) (cs : List Char) (bracket : OpenBracket)
    (outer : List OpenBracket) : Option (NestedClass × List Char) :=
  match bracketStep? flags (skip flags.ignoreBlank cs) bracket outer with
  | none => none
  | some (rest, .inl closed) => some (closed, rest)
  | some (rest, .inr (bracket, outer)) =>
    if rest.length < cs.length then bracketRest? flags rest bracket outer else none
termination_by cs.length

/-- Reads a class after its opening bracket. -/
def bracketClass? (flags : Flags) (cs : List Char) : Option (NestedClass × List Char) := do
  let (bracket, rest) ← openBracket? flags.ignoreBlank cs
  bracketRest? flags rest bracket []

end Sift.Pattern
