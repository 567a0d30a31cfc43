import Sift.Number.Decimal

/-! # Documents

Documents are JSON values.  The members of an object stand in the order in which they were
written, and an integer that was written as one stays apart from a fraction of the same value:
`1` and `1.0` compare equal and read differently. -/

namespace Sift

/-- A JSON value. -/
inductive Json where
  | null
  | bool (value : Bool)
  /-- An integer of at most 64 bits. -/
  | int (value : Int)
  /-- Any other number. -/
  | float (value : Number)
  | string (value : String)
  | array (items : List Json)
  | object (members : List (String × Json))

namespace Json

/-- The member of an object under a name, the first one if there are several. -/
def member? (name : String) : Json → Option Json
  | .object members => members.lookup name
  | _ => none

/-- Sets the value under a name: in place if the name is there, else at the end. -/
def set (name : String) (value : Json) : List (String × Json) → List (String × Json)
  | [] => [(name, value)]
  | (key, old) :: rest =>
    if key = name then (key, value) :: rest else (key, old) :: set name value rest

end Json

end Sift
