import ContextualQuery.Query.Canonical
import ContextualQuery.Xcql.Element

/-!
# XCQL

A query as a document in the XML vocabulary for queries.  Declarations of the root come first,
then the clause, then the sort keys; only the root's declarations are shown.  Defaults are
written out, and a match-all clause is the search for all records.
-/

namespace ContextualQuery

open Element (leaf branch)

/-- The modifiers of a relation, operator or sort key, if there are any.  A modifier has a
comparison and a value exactly when one of the two is set. -/
def Modifier.elements (modifiers : List Modifier) : List Element :=
  if modifiers.isEmpty then [] else [branch "modifiers" [] (modifiers.map element)]
where
  element (modifier : Modifier) : Element :=
    branch "modifier" [] <| leaf "type" modifier.name ::
      if modifier.relation.isEmpty && modifier.value.isEmpty then []
      else [leaf "comparison" (Relation.orDefault modifier.relation), leaf "value" modifier.value]

/-- The declarations of the root, if there are any. -/
def Prefix.elements (prefixes : List Prefix) : List Element :=
  if prefixes.isEmpty then [] else [branch "prefixes" [] (prefixes.map element)]
where
  element (declared : Prefix) : Element :=
    branch "prefix" [] [leaf "name" declared.name, leaf "identifier" declared.uri]

/-- A search clause with its defaults filled in. -/
def SearchClause.element (search : SearchClause) : Element :=
  branch "searchClause" [] <|
    [leaf "index" search.indexOrDefault,
      branch "relation" [] [leaf "value" search.relationOrDefault]] ++
    Modifier.elements search.modifiers ++ [leaf "term" search.term]

/-- A clause without its declarations. -/
def Clause.element : Clause → Element
  | .search _ clause => clause.element
  | .matchAll _ => SearchClause.allRecords.element
  | .boolean _ left operator modifiers right =>
    branch "triple" []
      [branch "Boolean" [] (leaf "value" operator.keyword :: Modifier.elements modifiers),
        branch "leftOperand" [] [left.element], branch "rightOperand" [] [right.element]]

/-- The root clause, which always stands in a triple. -/
def Clause.rootElement (clause : Clause) : Element :=
  if clause.isBoolean then clause.element else branch "triple" [] [clause.element]

/-- The sort keys, if there are any. -/
def SortKey.elements (keys : List SortKey) : List Element :=
  if keys.isEmpty then [] else [branch "sortKeys" [] (keys.map element)]
where
  element (key : SortKey) : Element :=
    branch "key" [] (leaf "index" key.index :: Modifier.elements key.modifiers)

namespace Xcql

/-- The namespace that the root element declares. -/
def vocabulary : String := "http://docs.oasis-open.org/ns/search-ws/xcql"

end Xcql

def Query.element (query : Query) : Element :=
  branch "xcql" [("xmlns", Xcql.vocabulary)] <|
    Prefix.elements query.clause.prefixes ++ [query.clause.rootElement] ++
      SortKey.elements query.sortKeys

/-- The document of a query, each level `step` spaces further in. -/
def Query.xcql (step : Nat) (query : Query) : String := query.element.render step

end ContextualQuery
