import Sift.Ignore

/-! # Vaults

A vault is a directory of notes.  Its notes are the Markdown files in it that no ignore file
excludes, in the order of their paths. -/

namespace Sift.Vault

/-- A file or directory that was met. -/
structure Entry where
  path : Path
  isFile : Bool

mutual

/-- The entries of a directory and of all directories in it, without those that are ignored.  The
    content of a directory that is ignored is not looked at. -/
def walk (path : Path) (layers : IgnoreLayers) : Tree → List Entry
  | .file _ => []
  | .directory entries => walkEntries path ((.ofEntries entries, "") :: layers) entries

def walkEntries (path : Path) (layers : IgnoreLayers) : List (String × Tree) → List Entry
  | [] => []
  | (name, tree) :: rest =>
    let others := walkEntries path layers rest
    if layers.ignores name !tree.isFile then others
    else
      ⟨path.join name, tree.isFile⟩ :: walk (path.join name) (layers.descend name) tree ++ others

end

/-- The root of a vault and all that is met in it.  The root itself is never ignored. -/
def entries (files : FileSystem) (root : Path) : List Entry :=
  match files.resolve? root with
  | none => []
  | some names =>
    match files.root.find? names with
    | none => []
    -- the directories above decide about what is in the vault
    | some tree => ⟨root, tree.isFile⟩ :: walk root (.above files.root names) tree

/-- The extension of notes. -/
def extension : String := "md"

/-- Whether an entry is a note. -/
def Entry.isNote (entry : Entry) : Bool := entry.isFile && entry.path.extension? == some extension

/-- The notes among some entries, in the order of their paths. -/
def notes (entries : List Entry) : List Path :=
  ((entries.filter Entry.isNote).map (·.path)).mergeSort Path.le

/-- Whether a path is a dash alone, which stands for the input and not for a directory. -/
def isDash (root : Path) : Bool := root.components == [.name "-"]

/-- What is met in a vault.  Under a dash nothing is. -/
def met (files : FileSystem) (root : Path) : List Entry :=
  if isDash root then [] else entries files root

/-- The paths of the notes of a vault. -/
def list (files : FileSystem) (root : Path) : List Path := notes (met files root)

end Sift.Vault
