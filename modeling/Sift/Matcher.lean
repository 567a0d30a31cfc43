import Sift.Filter.Basic
import Sift.Instant.Reader
import Sift.Json.Printer
import Sift.Pattern.Parser
import Sift.Text.Quoted

/-! # Matching documents

A matcher is a filter whose patterns have been read.  It finds a field along the dots of its name,
through objects only, and where the field holds an array each element may meet the condition as
well. -/

namespace Sift

/-- A condition with its pattern read. -/
inductive Test where
  | compare (comparison : Comparison) (scalar : Scalar)
  | pattern (pattern : Pattern)
  | exists (value : Bool)

/-- A filter with its patterns read. -/
inductive Matcher where
  | all (parts : List Matcher)
  | any (parts : List Matcher)
  | field (path : List String) (test : Test)
  | id (id : DocumentId)

/-- The text of a pattern that cannot be read. -/
structure InvalidPattern where
  pattern : String
  deriving DecidableEq

def InvalidPattern.message (error : InvalidPattern) : String :=
  "Invalid regex " ++ Text.quoted error.pattern

/-! ## Preparing -/

/-- The names along which a field is found: the pieces of its name between dots. -/
def fieldPath (name : String) : List String := (name.toList.splitOn '.').map String.ofList

def Condition.toTest : Condition → Except InvalidPattern Test
  | .compare comparison scalar => .ok (.compare comparison scalar)
  | .regex text =>
    match Pattern.parse? text with
    | some pattern => .ok (.pattern pattern)
    | none => .error ⟨text⟩
  | .exists value => .ok (.exists value)

namespace Matcher

mutual

/-- Reads the patterns of a filter.  Of several that cannot be read the first is reported. -/
def ofFilter : Filter → Except InvalidPattern Matcher
  | .and parts => do
    let matchers ← ofFilters parts
    return .all matchers
  | .or parts => do
    let matchers ← ofFilters parts
    return .any matchers
  | .field name condition => do
    let test ← condition.toTest
    return .field (fieldPath name) test
  | .id docId => .ok (.id docId)

def ofFilters : List Filter → Except InvalidPattern (List Matcher)
  | [] => .ok []
  | part :: rest => do
    let matcher ← ofFilter part
    let matchers ← ofFilters rest
    return matcher :: matchers

end

/-! ## Fields -/

/-- The value along a path of names, through objects. -/
def lookup? : List String → Json → Option Json
  | [], value => some value
  | name :: rest, value =>
    match value.member? name with
    | some inner => lookup? rest inner
    | none => none

/-- The values that may meet a condition on a field: its own and, for an array, its elements. -/
def candidates (value : Json) : List Json :=
  match value with
  | .array items => value :: items
  | _ => [value]

/-- The text that patterns see; arrays, objects and null have none. -/
def text? : Json → Option String
  | .string s => some s
  | .int n => some (String.ofList (Json.intChars n))
  | .float x => some (String.ofList x.text)
  | .bool true => some "true"
  | .bool false => some "false"
  | _ => none

/-- How a value compares with a scalar of its kind; different kinds do not compare. -/
def compare? (value : Json) (scalar : Scalar) : Option Ordering :=
  match value, scalar with
  | .int n, .number x => (Number.ofInt n).compare? x
  | .float y, .number x => y.compare? x
  -- by their characters, which is also the order of their bytes
  | .string s, .string t => some (compare s t)
  | .string s, .date t => (Instant.read? s).map fun instant => instant.compare t
  | _, _ => none

/-- Whether an order meets a comparison. -/
def accepted : Comparison → Ordering → Bool
  | .eq, order => order == .eq
  | .gte, order => order != .lt
  | .gt, order => order == .gt
  | .lte, order => order != .gt
  | .lt, order => order == .lt

/-- Whether a single value meets a condition. -/
def meets (test : Test) (value : Json) : Bool :=
  match test with
  | .compare comparison scalar => (compare? value scalar).any (accepted comparison)
  | .pattern pattern => (text? value).any pattern.search
  | .exists _ => true

/-- Whether what was found at a path meets a condition. -/
def meetsFound (test : Test) (found : Option Json) : Bool :=
  match test, found with
  -- the one condition that may hold where nothing is found
  | .exists value, found => found.isSome == value
  | _, none => false
  | test, some value => (candidates value).any (meets test)

/-- The text of a document's identifier: a string, or an object with a string in it. -/
def idText? : Json → Option String
  | .string s => some s
  | value =>
    match value.member? "$oid" with
    | some (.string s) => some s
    | _ => none

/-- Whether a document has an identifier; the case of its digits does not matter. -/
def hasId (id : DocumentId) (document : Json) : Bool :=
  match document.member? "_id" with
  | some value =>
    match idText? value with
    -- the digits of an identifier are written in lower case
    | some text => text.toList.map Char.toLower == id.hex.toList
    | none => false
  | none => false

/-! ## Accepting -/

mutual

/-- Whether a matcher accepts a document. -/
def accepts : Matcher → Json → Bool
  | .all parts, document => acceptsAll parts document
  | .any parts, document => acceptsAny parts document
  | .field path test, document => meetsFound test (lookup? path document)
  | .id docId, document => hasId docId document

def acceptsAll : List Matcher → Json → Bool
  | [], _ => true
  | part :: rest, document => part.accepts document && acceptsAll rest document

def acceptsAny : List Matcher → Json → Bool
  | [], _ => false
  | part :: rest, document => part.accepts document || acceptsAny rest document

end

end Matcher

end Sift
