import ContextualQuery.Query.ParseError
import ContextualQuery.Sql.Error

/-!
# Command errors

Why a command gives no answer.
-/

namespace ContextualQuery

/-- Why a command gives no answer. -/
inductive CommandError
  | parse (cause : ParseError)
  | sql (cause : SqlError)
  | notText
  | unknownFormat (name : String)
  /-- A mapping has no name or no column. -/
  | fieldMapping (mapping : String)
  | unknownCategory (name : String)
deriving DecidableEq, Repr

namespace CommandError

/-- The wording of the error. -/
def message : CommandError → String
  | .parse cause => "Parse error: " ++ cause.text
  | .sql cause => "Translation error: " ++ cause.message
  | .notText => "IO error: stream did not contain valid UTF-8"
  | .unknownFormat name =>
    "Unknown output format: '" ++ name ++ "'. Expected cql, json, xcql or debug."
  | .fieldMapping mapping =>
    "Invalid field mapping: '" ++ mapping ++ "'. Expected NAME or NAME=COLUMN."
  | .unknownCategory name =>
    "Unknown category: '" ++ name ++ "'\nRun 'cql docs' to see available categories."

end CommandError
end ContextualQuery
