import ContextualQuery.Operator

/-!
# Translation errors

Why a query has no SQL condition.
-/

namespace ContextualQuery

/-- What a masked term uses that its column cannot express, or what is wrong with its escapes. -/
inductive MaskingError
  /-- A star stands for any text. -/
  | anyText
  /-- A question mark stands for any character. -/
  | anyChar
  /-- A caret anchors the term. -/
  | anchor
  /-- A backslash stands in front of a character that needs none. -/
  | badEscape
  | danglingEscape
deriving DecidableEq, Repr

namespace MaskingError

def message : MaskingError → String
  | .anyText => "masking op * unsupported"
  | .anyChar => "masking op ? unsupported"
  | .anchor => "anchor op ^ unsupported"
  | .badEscape =>
    "a masking backslash in a CQL string must be followed by *, ?, ^, \" or \\"
  | .danglingEscape => "a CQL string must not end with a masking backslash"

end MaskingError

/-- Why a query has no SQL condition. -/
inductive SqlError
  | unknownField (name : String)
  | unsupportedRelation (relation : String)
  | unsupportedOperator (operator : Operator)
  | sortingUnsupported
  | invalidNumber (term : String)
  | invalidColumn (column : String)
  | invalidLanguage (language : String)
  | masking (cause : MaskingError)
deriving DecidableEq, Repr

namespace SqlError

def message : SqlError → String
  | .unknownField name => "unknown field " ++ name
  | .unsupportedRelation relation => "unsupported relation " ++ relation
  | .unsupportedOperator operator => "unsupported operator " ++ operator.keyword
  | .sortingUnsupported => "sorting not supported"
  | .invalidNumber term => "invalid number " ++ term
  | .invalidColumn column => "invalid column " ++ column
  | .invalidLanguage language => "invalid language " ++ language
  | .masking cause => cause.message

end SqlError
end ContextualQuery
