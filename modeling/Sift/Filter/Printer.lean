import Sift.Filter.Basic
import Sift.Instant.Printer
import Sift.Json.Printer

/-! # The text of a filter

Filters are written as JSON in the query dialect of document stores: operators are members whose
names start with a dollar sign. -/

namespace Sift

/-- A number as JSON.  Whole numbers below `2 ^ 63` are integers; what JSON has no number for is
    a string. -/
def Number.toJson (x : Number) : Json :=
  match x.whole? with
  | some n => if n.natAbs < Nat.pow 2 63 then .int n else .float x
  | none => if x.isFinite then .float x else .string (String.ofList x.text)

def Scalar.toJson : Scalar → Json
  | .number x => x.toJson
  | .string s => .string s
  | .date t => .object [("$date", .string t.text)]

/-- The name of a comparison; equality has none. -/
def Comparison.name? : Comparison → Option String
  | .eq => none
  | .gte => some "$gte"
  | .gt => some "$gt"
  | .lte => some "$lte"
  | .lt => some "$lt"

def Condition.toJson : Condition → Json
  | .compare comparison scalar =>
    match comparison.name? with
    | some name => .object [(name, scalar.toJson)]
    | none => scalar.toJson
  | .regex pattern => .object [("$regex", .string pattern)]
  | .exists value => .object [("$exists", .bool value)]

namespace Filter

mutual

def toJson : Filter → Json
  | .and parts => .object [("$and", .array (listToJson parts))]
  | .or parts => .object [("$or", .array (listToJson parts))]
  | .field name condition => .object [(name, condition.toJson)]
  | .id docId => .object [("_id", .object [("$oid", .string docId.hex)])]

def listToJson : List Filter → List Json
  | [] => []
  | part :: rest => part.toJson :: listToJson rest

end

/-- The compact text of a filter. -/
def text (filter : Filter) : String := filter.toJson.compact

end Filter

end Sift
