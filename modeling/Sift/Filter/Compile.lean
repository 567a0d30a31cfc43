import Sift.Filter.Basic
import Sift.Operand
import Sift.Pattern.Escape
import Sift.Query.Parser

/-! # From queries to filters

Under a rule a query denotes a filter. -/

namespace Sift

/-- Why a query has no filter. -/
inductive QueryError where
  | parse (error : Query.ParseError)
  /-- A bare term, and no fields to search it in. -/
  | noDefaultFields (term : String)
  /-- A relative date beyond all instants. -/
  | dateOutOfRange (text : String)
  | invalidId (text : String)
  deriving DecidableEq

def QueryError.message : QueryError → String
  | .parse error => error.message
  | .noDefaultFields term =>
    "Configuration error: bare term " ++ Text.quoted term ++ " needs anyOf or isString fields"
  | .dateOutOfRange text => "Format error: date " ++ Text.quoted text ++ " is out of range"
  | .invalidId text => "Format error: " ++ Text.quoted text ++ " is not a valid document id"

/-- The scalar of a plain value. -/
def Value.toScalar : Value → Scalar
  | .number value _ => .number value
  | .text value => .string value

/-- The identifier that a text writes. -/
def DocumentId.parse (text : String) : Except QueryError DocumentId :=
  match DocumentId.ofHex? text with
  | some id => .ok id
  | none => .error (.invalidId text)

namespace Filter

/-- The field of a term that stands for the identifier of a document. -/
def idField : String := "id"

/-- The condition that a field has a text in it. -/
def substring (text : String) : Condition := .regex (Pattern.escape text)

/-- The condition of a term, given the scalar that its value stands for. -/
def condition (rule : Rule) (field : String) (operator : Operator) (source : String)
    (scalar : Scalar) : Condition :=
  match operator, scalar with
  -- a date is not looked for inside a text
  | .contains, .date t => .compare .eq (.date t)
  | .contains, scalar =>
    -- only a field of text has parts to look for
    if rule.hasString field then substring source else .compare .eq scalar
  | .regex, _ => .regex source
  | .gte, scalar => .compare .gte scalar
  | .gt, scalar => .compare .gt scalar
  | .lte, scalar => .compare .lte scalar
  | .lt, scalar => .compare .lt scalar
  | .eq, scalar => .compare .eq scalar

/-- The filter of a term with a field. -/
def ofFullTerm (rule : Rule) (now : Instant) (field : String) (operator : Operator)
    (value : Value) : Except QueryError Filter :=
  -- whatever the operator, an identifier is asked for as a whole
  if field = idField then
    match DocumentId.parse value.source with
    | .ok found => .ok (.id found)
    | .error error => .error error
  else
    match Operand.normalize? rule field operator value now with
    | none => .error (.dateOutOfRange value.source)
    | some (_, .null) => .ok (null field)
    | some (operator, .date t) =>
      .ok (.field field (condition rule field operator value.source (.date t)))
    | some (operator, .value value) =>
      .ok (.field field (condition rule field operator value.source value.toScalar))

/-- The filter of a bare term: one of the default fields has the value. -/
def ofBareTerm (rule : Rule) (value : Value) : Except QueryError Filter :=
  match rule.defaultFields with
  | [] => .error (.noDefaultFields value.source)
  | fields => .ok <| .or <| fields.map fun field =>
    .field field <|
      if rule.hasString field then substring value.source
      else .compare .eq value.toScalar

def ofTerm (rule : Rule) (now : Instant) (term : Term) : Except QueryError Filter :=
  match term.field with
  | some name => ofFullTerm rule now name term.operator term.value
  | none => ofBareTerm rule term.value

/-- The filter of a query.  Of two errors, the left one is reported. -/
def ofQuery (rule : Rule) (now : Instant) : Query → Except QueryError Filter
  | .term term => ofTerm rule now term
  | .and left right => do
    let l ← ofQuery rule now left
    let r ← ofQuery rule now right
    return .and [l, r]
  | .or left right => do
    let l ← ofQuery rule now left
    let r ← ofQuery rule now right
    return .or [l, r]
  | .group inner => ofQuery rule now inner

/-- The filter of the text of a query. -/
def compile (rule : Rule) (now : Instant) (text : String) : Except QueryError Filter :=
  match Query.parse text with
  | .ok query => ofQuery rule now query
  | .error error => .error (.parse error)

end Filter

end Sift
