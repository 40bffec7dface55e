import ContextualQuery.Command.Error
import ContextualQuery.Dump
import ContextualQuery.Query.Canonical
import ContextualQuery.Query.Json
import ContextualQuery.Query.Parse
import ContextualQuery.Text.Blank
import ContextualQuery.Xcql

/-!
# Checking a query

Reads a query and shows it in a chosen format.
-/

namespace ContextualQuery

/-- The form in which a query is shown. -/
inductive Format
  | cql
  | json
  | xcql
  | debug
deriving DecidableEq, Repr

namespace Format

/-- The format with a name in any letter case. -/
def ofName (name : String) : Except CommandError Format :=
  match name.toLower with
  | "cql" | "text" => .ok .cql
  | "json" => .ok .json
  | "xcql" | "xml" => .ok .xcql
  | "debug" | "struct" => .ok .debug
  | _ => .error (.unknownFormat name)

end Format

/-- What is asked of a query that is checked. -/
structure CheckOptions where
  query : String
  /-- Whether a term is one word only. -/
  strict : Bool := false
  format : Format := .cql
  /-- The spaces by which each level of a document lies further in. -/
  indent : Nat := 2
deriving DecidableEq, Repr

/-- A query as it is shown. -/
inductive Rendering
  | text (content : String)
  | json (tree : Json)

namespace CheckOptions

/-- The query that is read: the text without line ends behind it. -/
def parse (options : CheckOptions) : Except ParseError Query :=
  Query.parse { strict := options.strict }
    (Blank.trimEnd (fun c => c == '\r' || c == '\n') options.query)

/-- A query in the form asked for. -/
def render (options : CheckOptions) (query : Query) : Rendering :=
  match options.format with
  | .cql => .text query.text
  | .json => .json query.json
  | .xcql => .text (query.xcql options.indent)
  | .debug => .text (query.dump.text)

/-- Reads the query and shows it. -/
def run (options : CheckOptions) : Except CommandError Rendering := do
  let query ← options.parse.mapError .parse
  .ok (options.render query)

end CheckOptions

namespace Rendering

/-- The lines printed for a query: text gets a line end unless it has one, and a tree takes one
line where no indentation is asked for. -/
def output (indent : Nat) : Rendering → String
  | .text content => if content.endsWith "\n" then content else content ++ "\n"
  | .json tree => (if indent = 0 then tree.compact else tree.pretty) ++ "\n"

end Rendering
end ContextualQuery
