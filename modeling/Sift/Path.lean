/-! # Paths

A path is kept as it is written.  It means a list of components; slashes that follow each other and
dots in the middle mean nothing.  Paths are ordered by their components, so a directory's content
stands together: `a/x.md` comes before `a-b.md`. -/

namespace Sift

/-- A path as it is written. -/
structure Path where
  text : String
  deriving DecidableEq

/-- One step of a path. -/
inductive Component where
  /-- The root of all files. -/
  | root
  /-- The directory where the path starts; written only at its head. -/
  | here
  | parent
  | name (text : String)
  deriving DecidableEq

namespace Component

/-- Components of different kinds are ordered by kind. -/
def rank : Component → Nat
  | .root => 0
  | .here => 1
  | .parent => 2
  | .name _ => 3

/-- The name, if the component has one. -/
def label : Component → String
  | .name text => text
  | _ => ""

/-- The order of components: by kind, and names by their characters. -/
def lt (a b : Component) : Bool :=
  a.rank < b.rank || (a.rank == b.rank && a.label < b.label)

end Component

namespace Path

/-- The pieces between slashes. -/
def pieces (path : Path) : List String := (path.text.toList.splitOn '/').map String.ofList

/-- What a piece means inside a path. -/
def component? (piece : String) : Option Component :=
  if piece = "" ∨ piece = "." then none
  else if piece = ".." then some .parent
  else some (.name piece)

/-- The pieces with what they mean.  At the head of a path nothing before a slash is the root, and
    a dot counts. -/
def parts (path : Path) : List (String × Option Component) :=
  match path.pieces with
  | "" :: next :: rest => ("", some .root) :: (next :: rest).map fun p => (p, component? p)
  | "." :: rest => (".", some .here) :: rest.map fun p => (p, component? p)
  | pieces => pieces.map fun p => (p, component? p)

/-- The components of a path. -/
def components (path : Path) : List Component := path.parts.filterMap (·.2)

/-- The order of lists of components, the first difference deciding. -/
def componentsLe : List Component → List Component → Bool
  | [], _ => true
  | _ :: _, [] => false
  | a :: as, b :: bs => a.lt b || (a == b && componentsLe as bs)

/-- The order of paths. -/
def le (a b : Path) : Bool := componentsLe a.components b.components

/-- The path of an entry of a directory. -/
def join (path : Path) (name : String) : Path :=
  ⟨if path.text = "" ∨ path.text.toList.getLast? = some '/' then path.text ++ name
    else path.text ++ "/" ++ name⟩

/-- Drops pieces until so many components are gone. -/
def dropComponents : Nat → List (String × Option Component) → List (String × Option Component)
  | 0, parts => parts
  | _ + 1, [] => []
  | count + 1, (_, none) :: rest => dropComponents (count + 1) rest
  | count + 1, (_, some _) :: rest => dropComponents count rest

/-- The rest of a path below another one, as it is written, if it lies below. -/
def below? (base path : Path) : Option Path :=
  if base.components.isPrefixOf path.components then
    let rest := (dropComponents base.components.length path.parts).dropWhile (·.2.isNone)
    -- pieces that mean nothing stay only in the middle
    let rest := (rest.reverse.dropWhile (·.2.isNone)).reverse
    some ⟨"/".intercalate (rest.map (·.1))⟩
  else none

/-- What follows the last dot of a name, unless nothing stands before the dot. -/
def nameExtension? (name : List Char) : Option (List Char) :=
  let backward := name.reverse
  match backward.dropWhile (· != '.') with
  | _ :: _ :: _ => some (backward.takeWhile (· != '.')).reverse
  | _ => none

/-- The extension of the last component, if that is a name. -/
def extension? (path : Path) : Option String :=
  match path.components.getLast? with
  | some (.name text) => (nameExtension? text.toList).map String.ofList
  | _ => none

end Path

end Sift
