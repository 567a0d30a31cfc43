import Sift.Rule
import Sift.Unicode.Property
import Sift.Yaml.Node

/-! # Rule files

A rule file is a YAML mapping with lists of fields under `anyOf`, `isString` and `isDate`.  Every
scalar in such a list is a field's name as it is written. -/

namespace Sift.RuleFile

open Yaml (Document Node)

/-- Why a rule file gives no rule. -/
inductive RuleFileError where
  /-- The file is missing or is not UTF-8. -/
  | unreadable
  /-- The content is no rule. -/
  | invalid
  deriving DecidableEq

def RuleFileError.message : RuleFileError → String
  | .unreadable => "Cannot read rule file"
  | .invalid => "Invalid rule file"

/-- The text of a scalar. -/
def text? (document : Document) (node : Node) : Option String :=
  match document.follow? node with
  | some (.scalar _ text _, _) => some text
  | _ => none

/-- A list of names; where nothing is written it is empty. -/
def names? (document : Document) (node : Node) : Option (List String) :=
  match document.follow? node with
  | some (.sequence _ items, _) => items.mapM (text? document)
  | some (.scalar _ text _, _) => if text.isEmpty then some [] else none
  | _ => none

/-- The lists of a rule, each of which may be given once. -/
structure Draft where
  anyOf : Option (List String) := none
  isString : Option (List String) := none
  isDate : Option (List String) := none

/-- The rule in which a list that is not given is empty. -/
def Draft.rule (draft : Draft) : Rule :=
  { anyOf := draft.anyOf.getD []
    isString := draft.isString.getD []
    isDate := draft.isDate.getD [] }

/-- Takes up the list of one entry. -/
def addList? (document : Document) (draft : Draft) (entry : Node × Node) : Option Draft := do
  -- every key must be the name of one of the lists
  match ← text? document entry.1 with
  | "anyOf" =>
    if draft.anyOf.isSome then none else some { draft with anyOf := ← names? document entry.2 }
  | "isString" =>
    if draft.isString.isSome then none
    else some { draft with isString := ← names? document entry.2 }
  | "isDate" =>
    if draft.isDate.isSome then none else some { draft with isDate := ← names? document entry.2 }
  | _ => none

/-- The rule that a document writes. -/
def ofDocument? (document : Document) : Option Rule :=
  match document.root with
  | .mapping _ entries => (entries.foldlM (addList? document) {}).map Draft.rule
  -- a document in which nothing is written
  | .scalar _ text _ => if text.isEmpty then some {} else none
  | _ => none

/-- Reads the text of a rule file.  White space alone is the empty rule. -/
def parse? (text : String) : Option Rule :=
  if text.toList.all Unicode.isWhiteSpace then some {}
  else match Yaml.Document.read? text with
    | some (some document) => ofDocument? document
    | some none => some {}
    | none => none

/-- Reads a rule file, given its content if there is one. -/
def load (content : Option ByteArray) : Except RuleFileError Rule :=
  match content.bind String.fromUTF8? with
  | none => .error .unreadable
  | some text =>
    match parse? text with
    | some rule => .ok rule
    | none => .error .invalid

end Sift.RuleFile
