/-! # Rules

A rule tells a compiler of queries about the fields of the documents. -/

namespace Sift

/-- What is known about the fields of documents. -/
structure Rule where
  /-- The fields that a bare term searches, in order. -/
  anyOf : List String := []
  /-- The fields that are searched for a part of their text.  An empty list stands for all
      fields. -/
  isString : List String := []
  /-- The fields that hold dates. -/
  isDate : List String := []
  deriving DecidableEq

namespace Rule

/-- Whether a field is searched for a part of its text. -/
def hasString (rule : Rule) (field : String) : Bool :=
  rule.isString.isEmpty || rule.isString.contains field

/-- Whether a field holds dates. -/
def hasDate (rule : Rule) (field : String) : Bool := rule.isDate.contains field

/-- The fields that a bare term searches: those listed for it or else the string fields. -/
def defaultFields (rule : Rule) : List String :=
  if rule.anyOf.isEmpty then rule.isString else rule.anyOf

end Rule

end Sift
