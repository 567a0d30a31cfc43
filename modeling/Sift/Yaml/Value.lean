import Sift.Json.Printer
import Sift.Yaml.Node
import Sift.Yaml.Plain

/-! # YAML documents as JSON

A document becomes a JSON value if its mappings have scalar keys, none of them twice.  A tag of
the document's own, such as `!deck`, becomes an object with the tag as its only name. -/

namespace Sift.Yaml

/-- The name in a tag of the document's own, without its mark. -/
def ownTag? (tag : Option String) : Option String :=
  match tag.map String.toList with
  | some ['!'] => some "!"
  | some ('!' :: name) => some (String.ofList name)
  | _ => none

/-- How the name of a tag is written: with one mark before it. -/
def tagText (name : String) : String :=
  match name.toList with
  | ['!'] => "!!"
  | '!' :: rest => String.ofList ('!' :: rest)
  | cs => String.ofList ('!' :: cs)

/-- Under its own tag, what a value means. -/
def underTag (properties : Properties) (value : Json) : Json :=
  match ownTag? properties.tag with
  | some name => .object [(tagText name, value)]
  | none => value

/-- What a scalar means.  A common tag fixes its kind, and any other tag but one of the
    document's own makes it a string. -/
def scalarJson? (properties : Properties) (text : String) (plain : Bool) : Option Json :=
  let untagged := if plain then plainJson? text else some (.string text)
  match properties.tag with
  | none => untagged
  | some "tag:yaml.org,2002:bool" => (boolWord? text).map .bool
  | some "tag:yaml.org,2002:int" => (integerJson? text).join
  | some "tag:yaml.org,2002:float" => (float? text).map floatJson
  | some "tag:yaml.org,2002:null" => if isNullWord text then some .null else none
  | tag => if (ownTag? tag).isSome then untagged else some (.string text)

/-- The name that a key gives to a member. -/
def keyName? : Json → Option String
  | .string text => some text
  | .int n => some (String.ofList (Json.intChars n))
  | .float number => some (String.ofList number.text)
  | .bool value => some (if value then "true" else "false")
  | _ => none

/-- Whether two keys are the same: of one kind and of equal value. -/
def sameKey : Json → Json → Bool
  | .string a, .string b => a == b
  | .int a, .int b => a == b
  | .float a, .float b => Number.compare? a b == some .eq
  | .bool a, .bool b => a == b
  | _, _ => false

/-- The members of an object, from keys that must differ.  Where keys of different kinds give the
    same name, the later value takes the earlier place. -/
def members? : List Json → List (String × Json) → List (Json × Json) → Option (List (String × Json))
  | _, members, [] => some members
  | seen, members, (key, value) :: rest =>
    if seen.any (sameKey key) then none
    else do
      let name ← keyName? key
      members? (key :: seen) (Json.set name value members) rest

namespace Document

/-- What a node means.  Collections may nest `depth` deep, aliases included, and the state counts
    how many aliases may still be followed. -/
def nodeJson? (document : Document) : Nat → Node → StateT Nat Option Json
  | depth, node => do
    let (target, aliased) ← document.follow? node
    if aliased then
      let budget ← get
      guard (budget != 0)
      set (budget - 1)
    match depth, target with
    | _, .scalar properties text plain =>
      return underTag properties (← scalarJson? properties text plain)
    | depth + 1, .sequence properties items =>
      return underTag properties (.array (← items.mapM fun item => nodeJson? document depth item))
    | depth + 1, .mapping properties entries =>
      let entries ← entries.mapM fun (key, value) => do
        let key ← nodeJson? document depth key
        return (key, ← nodeJson? document depth value)
      return underTag properties (.object (← members? [] [] entries))
    -- no depth is left for a collection
    | _, _ => failure

/-- The value of a document, in which at most 128 collections nest and at most a hundred aliases
    are followed for each thing written. -/
def json? (document : Document) : Option Json :=
  (nodeJson? document 128 document.root).run' (100 * document.root.weight)

/-- The value of a document that is a mapping. -/
def mappingJson? (document : Document) : Option Json :=
  match document.root with
  | .mapping .. => document.json?
  | _ => none

end Document

end Sift.Yaml
