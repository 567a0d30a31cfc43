import Sift.Query.Value

/-! # Queries

A query is a tree of terms under conjunction, disjunction and brackets. -/

namespace Sift

/-- How a term compares its field with its value. -/
inductive Operator where
  | contains | regex | gte | gt | lte | lt | eq
  deriving DecidableEq

/-- How an operator is written. -/
def Operator.symbol : Operator → String
  | .contains => ":"
  | .regex => "~"
  | .gte => ">="
  | .gt => ">"
  | .lte => "<="
  | .lt => "<"
  | .eq => "="

/-- A comparison.  A term without a field is *bare*: it is matched against the default fields. -/
structure Term where
  field : Option String
  operator : Operator
  value : Value
  deriving DecidableEq

inductive Query where
  | term (term : Term)
  | and (left right : Query)
  | or (left right : Query)
  /-- A query in brackets. -/
  | group (inner : Query)
  deriving DecidableEq

end Sift
