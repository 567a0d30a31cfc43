import Sift.Path

/-! # Files and directories

The files that a command sees are one tree, in which relative paths start at a working
directory. -/

namespace Sift

/-- A file or a directory.  Names are texts, and there are no links: what a link leads to stands in
    its place, if it is a file, or is left out. -/
inductive Tree where
  | file (content : ByteArray)
  | directory (entries : List (String × Tree))

namespace Tree

/-- The directory without entries. -/
def empty : Tree := .directory []

/-- The entries of a directory; a file has none. -/
def entries : Tree → List (String × Tree)
  | .directory entries => entries
  | .file _ => []

def isFile : Tree → Bool
  | .file _ => true
  | .directory _ => false

/-- What stands in a directory under a name. -/
def child? (tree : Tree) (name : String) : Option Tree := tree.entries.lookup name

/-- What stands below a tree under some names. -/
def find? : Tree → List String → Option Tree
  | tree, [] => some tree
  | tree, name :: rest => (tree.child? name).bind fun child => child.find? rest

/-- Puts a tree in place under some names, in directories that are made where they are missing. -/
def put : Tree → List String → Tree → Tree
  | _, [], placed => placed
  | tree, name :: rest, placed =>
    let child := put ((tree.child? name).getD .empty) rest placed
    -- the new entry takes the place of one with the same name
    .directory ((name, child) :: tree.entries.filter (·.1 != name))

end Tree

/-- All files, and the directory where relative paths start. -/
structure FileSystem where
  root : Tree
  workingDirectory : List String

namespace FileSystem

/-- Takes one piece of a path, from the directory that some names lead to, the last name first. -/
def step? (files : FileSystem) (names : List String) (piece : String) : Option (List String) := do
  -- a step needs a directory to start from, even one that stays there
  match ← files.root.find? names.reverse with
  | .file _ => none
  | .directory entries =>
    if piece = "" ∨ piece = "." then some names
    -- the root is its own parent
    else if piece = ".." then some names.tail
    else if (entries.lookup piece).isSome then some (piece :: names)
    else none

/-- The names that lead from the root to what a path means, if that exists. -/
def resolve? (files : FileSystem) (path : Path) : Option (List String) := do
  if path.text = "" then none
  let start := if path.components.head? = some .root then [] else files.workingDirectory
  let names ← path.pieces.foldlM files.step? start.reverse
  some names.reverse

/-- What a path means, if that exists. -/
def find? (files : FileSystem) (path : Path) : Option Tree := do
  files.root.find? (← files.resolve? path)

/-- The content of a file. -/
def read? (files : FileSystem) (path : Path) : Option ByteArray := do
  match ← files.find? path with
  | .file content => some content
  | .directory _ => none

end FileSystem

end Sift
