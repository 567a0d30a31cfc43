import Sift.Filter.DocumentId
import Sift.Instant.Basic
import Sift.Number.Basic

/-! # Filters

A filter is a condition on documents: conditions on single fields and identifiers, under
conjunction and disjunction of any number of parts. -/

namespace Sift

/-- What a field is compared with. -/
inductive Scalar where
  | number (value : Number)
  | string (value : String)
  | date (value : Instant)
  deriving DecidableEq

/-- How a field is compared. -/
inductive Comparison where
  | eq | gte | gt | lte | lt
  deriving DecidableEq

/-- A condition on one field. -/
inductive Condition where
  | compare (comparison : Comparison) (scalar : Scalar)
  /-- The field's text has a match of a pattern. -/
  | regex (pattern : String)
  /-- The field is there, or is not. -/
  | exists (value : Bool)
  deriving DecidableEq

inductive Filter where
  | and (parts : List Filter)
  | or (parts : List Filter)
  | field (name : String) (condition : Condition)
  | id (id : DocumentId)

namespace Filter

/-- Equality of a field with a scalar. -/
def equals (name : String) (scalar : Scalar) : Filter := .field name (.compare .eq scalar)

/-- The documents in which a field is the empty string or missing. -/
def null (name : String) : Filter :=
  .or [equals name (.string ""), .field name (.exists false)]

end Filter

end Sift
