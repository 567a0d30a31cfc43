import Sift.Pattern.Basic

/-! # Globs

A glob describes paths by their bytes.  A star or a question mark stands for bytes that are no
slash, and two stars between slashes for any number of directories. -/

namespace Sift

/-- A piece of a glob. -/
inductive GlobPiece where
  | char (c : Char)
  /-- One byte but a slash. -/
  | one
  /-- Any number of bytes but slashes. -/
  | many
  /-- Any directories in front. -/
  | leading
  /-- Anything below. -/
  | trailing
  /-- Any directories in between. -/
  | between
  /-- One byte of a class of characters, or with `negated` one that is not in it. -/
  | oneOf (negated : Bool) (ranges : List (Char × Char))
  /-- One of some globs; those that stand for nothing do not count. -/
  | choice (branches : List (List GlobPiece))

/-- The bytes of a text, each as the character of its number. -/
def byteChars (text : String) : List Char := text.toUTF8.toList.map fun b => Char.ofNat b.toNat

namespace GlobPiece

/-- The pattern of given bytes. -/
def bytes (cs : List Char) : Pattern := .sequence (cs.map fun c => .chars (.single c))

def slash : Pattern := .chars (.single '/')

def anything : Pattern := .times (.chars (.complement .empty)) 0 none

def noSlash : Pattern := .chars (.complement (.single '/'))

/-- The bytes of a range of characters.  Beyond ASCII the bytes of both ends count one by one, and
    the range goes from the last byte of the first end to the first byte of the last. -/
def rangeClass (first last : Char) : CharClass :=
  let lower := byteChars (String.singleton first)
  let upper := byteChars (String.singleton last)
  let singles := (lower ++ upper).foldl (fun set c => .union set (.single c)) .empty
  if first = last then singles
  else .union singles (.range (lower.getLast?.getD first) (upper.head?.getD last))

def charClass (negated : Bool) (ranges : List (Char × Char)) : CharClass :=
  let set := ranges.foldl (fun set (first, last) => .union set (rangeClass first last)) .empty
  if negated then .complement set else set

mutual

/-- Whether a piece stands for nothing at all. -/
def isVoid : GlobPiece → Bool
  | .choice branches => branchesVoid branches
  | _ => false

def piecesVoid : List GlobPiece → Bool
  | [] => true
  | piece :: rest => isVoid piece && piecesVoid rest

def branchesVoid : List (List GlobPiece) → Bool
  | [] => true
  | branch :: rest => piecesVoid branch && branchesVoid rest

end

mutual

/-- The pattern of a piece. -/
def pattern : GlobPiece → Pattern
  | .char c => bytes (byteChars (String.singleton c))
  | .one => noSlash
  | .many => .times noSlash 0 none
  -- no directories at all, or everything up to a slash
  | .leading => .alt (.times slash 0 (some 1)) (.concat anything slash)
  | .trailing => .concat slash anything
  | .between => .alt slash (.concat slash (.concat anything slash))
  | .oneOf negated ranges => .chars (charClass negated ranges)
  -- with no branch left the choice is the empty text
  | .choice branches => (choicePattern? branches).getD .empty

def piecesPattern : List GlobPiece → Pattern
  | [] => .empty
  | piece :: rest => .concat (pattern piece) (piecesPattern rest)

/-- The pattern of some branches, without those that stand for nothing. -/
def choicePattern? : List (List GlobPiece) → Option Pattern
  | [] => none
  | branch :: rest =>
    if piecesVoid branch then choicePattern? rest
    else match choicePattern? rest with
      | some other => some (.alt (piecesPattern branch) other)
      | none => some (piecesPattern branch)

end

end GlobPiece

/-- A description of paths. -/
structure Glob where
  pieces : List GlobPiece

namespace Glob

/-- The pattern that a whole path must fit.  Two stars alone stand for every path. -/
def pattern (glob : Glob) : Pattern :=
  match glob.pieces with
  | [.leading] => GlobPiece.anything
  | pieces => GlobPiece.piecesPattern pieces

/-- Whether a path fits a glob. -/
def accepts (glob : Glob) (path : String) : Bool :=
  (glob.pattern.ends [⟨0, none, byteChars path⟩]).any (·.after.isEmpty)

end Glob

end Sift
