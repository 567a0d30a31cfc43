import Sift.Unicode.Property
import Sift.Yaml.Value

/-! # Frontmatter

A note may begin with a YAML mapping between two lines of dashes.  The mapping is the note's
document. -/

namespace Sift.Frontmatter

/-- The mark before the mapping. -/
def opening : List Char := "---".toList

/-- The mark behind it, with the end of the line before. -/
def closing : List Char := "\n---".toList

/-- What stands before the first closing mark. -/
def beforeClosing? : List Char → Option (List Char)
  | [] => none
  | c :: rest =>
    if closing.isPrefixOf (c :: rest) then some [] else (beforeClosing? rest).map (c :: ·)

/-- The text between the marks; white space may stand before the first. -/
def extract? (content : List Char) : Option (List Char) :=
  -- a byte order mark is no white space, and so hides the mapping
  let content := content.dropWhile Unicode.isWhiteSpace
  if opening.isPrefixOf content then beforeClosing? (content.drop opening.length) else none

/-- The document written in a YAML text, which must be a mapping. -/
def parse? (text : String) : Option Json := do
  let document ← (← Yaml.Document.read? text)
  document.mappingJson?

/-- The document of a note with a given content, which must be UTF-8. -/
def document? (content : ByteArray) : Option Json := do
  let content ← String.fromUTF8? content
  let text ← extract? content.toList
  parse? (String.ofList text)

end Sift.Frontmatter
