import ContextualQuery.Command.Error
import ContextualQuery.Query.Parse
import ContextualQuery.Sql.Definition
import ContextualQuery.Text.Blank

/-!
# Translating a query

Reads a query and translates it with fields given as `NAME` or `NAME=COLUMN`.
-/

namespace ContextualQuery

/-- What is asked of a query that is translated. -/
structure TranslateOptions where
  query : String
  /-- Whether a term is one word only. -/
  strict : Bool := false
  /-- The column searched by terms without an index. -/
  serverChoice : Option String := none
  fields : List String := []
  numbers : List String := []
  /-- The number of the first placeholder. -/
  first : Nat := 1
deriving DecidableEq, Repr

/-- A name and a column. -/
structure Mapping where
  name : String
  column : String
deriving DecidableEq, Repr

namespace Mapping

/-- Reads a mapping, which is divided at its first equals sign; a name alone is its own column. -/
def ofText (text : String) : Except CommandError Mapping :=
  let name := text.toList.takeWhile (· != '=')
  let column := match text.toList.dropWhile (· != '=') with
    | [] => name
    | _ :: column => column
  if name.isEmpty || column.isEmpty then .error (.fieldMapping text)
  else .ok ⟨String.ofList name, String.ofList column⟩

end Mapping

namespace TranslateOptions

/-- The definition with a further field for each mapping. -/
def addFields (field : String → Field) (definition : Definition) (mappings : List String) :
    Except CommandError Definition :=
  mappings.foldlM (fun definition text => do
    let mapping ← Mapping.ofText text
    .ok (definition.insert mapping.name (field mapping.column))) definition

/-- A text field whose masked terms become patterns. -/
def patternField (column : String) : Field := .text (TextField.withLike { column })

/-- The fields that the options define. -/
def definition (options : TranslateOptions) : Except CommandError Definition := do
  let base := match options.serverChoice with
    | some column => Definition.empty.insert Index.serverChoice (patternField column)
    | none => Definition.empty
  let withTexts ← addFields patternField base options.fields
  addFields .number withTexts options.numbers

/-- The query that is read: the text without white space behind it. -/
def parse (options : TranslateOptions) : Except ParseError Query :=
  Query.parse { strict := options.strict } (Blank.trimEnd Blank.isBlank options.query)

def run (options : TranslateOptions) : Except CommandError Statement := do
  let definition ← options.definition
  let query ← options.parse.mapError .parse
  (definition.translate query options.first).mapError .sql

/-- The lines printed for a translation: the condition, then each argument with its
placeholder. -/
def output (options : TranslateOptions) (statement : Statement) : String :=
  statement.text ++ "\n" ++ argumentLines options.first statement.arguments
where
  argumentLines (number : Nat) : List Value → String
    | [] => ""
    | argument :: rest =>
      placeholder number ++ " = " ++ argument.display ++ "\n" ++ argumentLines (number + 1) rest

end TranslateOptions
end ContextualQuery
