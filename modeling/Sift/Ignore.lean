import Sift.FileSystem
import Sift.Glob.Reader
import Sift.Text.Lines
import Sift.Unicode.Property

/-! # Ignore files

An ignore file holds a rule in each line, for the paths below its directory.  The last rule that a
path fits decides; a rule with an exclamation mark keeps the path.

Three names are looked for.  Whatever the first says anywhere on the way to the root goes before
the second, and that before the third, which counts only inside a repository.  For one name the
file that is nearest to the path goes first. -/

namespace Sift

/-- One line of an ignore file. -/
structure IgnoreRule where
  glob : Glob
  /-- Whether the paths are kept instead of ignored. -/
  keeps : Bool
  /-- Whether only directories are meant. -/
  directories : Bool

namespace IgnoreRule

/-- The line without white space at its end; a space behind a backslash stays. -/
def trimmed (line : List Char) : List Char :=
  match line.reverse with
  | ' ' :: '\\' :: _ => line
  | backward => (backward.dropWhile Unicode.isWhiteSpace).reverse

/-- The glob of a line.  Without a slash it is looked for in all directories, and two stars at its
    end stand for what is inside a directory and not for the directory. -/
def globText (anchored : Bool) (text : List Char) : List Char :=
  -- two stars alone stand for all directories already
  let free := !anchored && !text.contains '/' && text != "**".toList
  let text := if free then "**/".toList ++ text else text
  if "/**".toList.isSuffixOf text then text ++ "/*".toList else text

/-- Takes a slash off the end, with a backslash before it, and tells whether there was one. -/
def splitSlash (text : List Char) : Bool × List Char :=
  match text.reverse with
  | '/' :: '\\' :: rest => (true, rest.reverse)
  | '/' :: rest => (true, rest.reverse)
  | _ => (false, text)

/-- Reads a line.  Comments, empty lines and lines that are no glob are no rules. -/
def parse? (line : List Char) : Option IgnoreRule := do
  if line.head? == some '#' then none
  let text := trimmed line
  if text.isEmpty then none
  let (keeps, anchored, text) := match text with
    -- behind a backslash a mark is a character
    | '\\' :: '!' :: rest => (false, false, '!' :: rest)
    | '\\' :: '#' :: rest => (false, false, '#' :: rest)
    | '!' :: '/' :: rest => (true, true, rest)
    | '!' :: rest => (true, false, rest)
    -- a slash at the head ties the rule to its directory
    | '/' :: rest => (false, true, rest)
    | text => (false, false, text)
  let (directories, text) := splitSlash text
  let glob ← Glob.parse? (globText anchored text)
  some ⟨glob, keeps, directories⟩

/-- Whether a path fits a rule. -/
def accepts (rule : IgnoreRule) (path : String) (isDirectory : Bool) : Bool :=
  (!rule.directories || isDirectory) && rule.glob.accepts path

end IgnoreRule

/-- The rules of a file, in order. -/
abbrev IgnoreFile := List IgnoreRule

namespace IgnoreFile

/-- Reads a file.  A byte order mark may stand before its first line. -/
def parse (content : ByteArray) : IgnoreFile :=
  match Text.lines content with
  | [] => []
  | first :: rest => (first.dropWhile (· == '\ufeff') :: rest).filterMap IgnoreRule.parse?

/-- What a file says about a path: that it is ignored, that it is kept, or nothing. -/
def verdict? (file : IgnoreFile) (path : String) (isDirectory : Bool) : Option Bool :=
  (file.reverse.find? (·.accepts path isDirectory)).map (!·.keeps)

end IgnoreFile

/-- What a directory says about the paths below it. -/
structure IgnoreLayer where
  own : IgnoreFile
  general : IgnoreFile
  repository : IgnoreFile
  /-- Whether the directory is the top of a repository. -/
  isRepository : Bool

namespace IgnoreLayer

/-- The name of the file that goes first. -/
def ownName : String := ".searchqignore"

def generalName : String := ".ignore"

def repositoryName : String := ".gitignore"

/-- The entries that make a directory the top of a repository. -/
def repositoryMarks : List String := [".git", ".jj"]

/-- Reads one ignore file of a directory. -/
def fileNamed (entries : List (String × Tree)) (name : String) : IgnoreFile :=
  match entries.lookup name with
  | some (.file content) => IgnoreFile.parse content
  | _ => []

/-- The ignore files among the entries of a directory. -/
def ofEntries (entries : List (String × Tree)) : IgnoreLayer :=
  { own := fileNamed entries ownName
    general := fileNamed entries generalName
    repository := fileNamed entries repositoryName
    isRepository := repositoryMarks.any fun mark => (entries.lookup mark).isSome }

end IgnoreLayer

/-- The layers around a place, the innermost first, each with the way from its directory down to
    the place: names that are each followed by a slash. -/
abbrev IgnoreLayers := List (IgnoreLayer × String)

namespace IgnoreLayers

/-- The layers up to the innermost repository; none if there is no repository. -/
def ofRepository : IgnoreLayers → IgnoreLayers
  | [] => []
  | (layer, way) :: outer =>
    if layer.isRepository then [(layer, way)]
    else match ofRepository outer with
      -- no repository was found further out
      | [] => []
      | found => (layer, way) :: found

/-- The first verdict that some layers give about an entry. -/
def verdict? (layers : IgnoreLayers) (file : IgnoreLayer → IgnoreFile) (name : String)
    (isDirectory : Bool) : Option Bool :=
  layers.findSome? fun (layer, way) => (file layer).verdict? (way ++ name) isDirectory

/-- Whether an entry of the innermost directory is ignored. -/
def ignores (layers : IgnoreLayers) (name : String) (isDirectory : Bool) : Bool :=
  -- a verdict that keeps the entry counts too, and what comes later is not asked
  ((layers.verdict? (·.own) name isDirectory).or <|
    (layers.verdict? (·.general) name isDirectory).or <|
    layers.ofRepository.verdict? (·.repository) name isDirectory).getD false

/-- The layers as they are seen from an entry that is a directory. -/
def descend (layers : IgnoreLayers) (name : String) : IgnoreLayers :=
  layers.map fun (layer, way) => (layer, way ++ name ++ "/")

/-- The layers of the directories above the one that some names lead to. -/
def above : Tree → List String → IgnoreLayers
  | _, [] => []
  | tree, name :: rest =>
    above ((tree.child? name).getD .empty) rest ++
      [(.ofEntries tree.entries, String.join ((name :: rest).map (· ++ "/")))]

end IgnoreLayers

end Sift
