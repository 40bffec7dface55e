import ContextualQuery.Json
import ContextualQuery.Query

/-!
# Queries as JSON

Every part of a query is an object whose fields stand in alphabetical order.  Fields that are
empty are left out, all but the term, the identifier, the index of a sort key and the name of a
modifier.  A match-all clause has neither of the two kinds of content.
-/

namespace ContextualQuery

open Json

namespace Json

/-- A field that is left out when its text is empty. -/
def textField (name value : String) : List (String × Json) :=
  if value.isEmpty then [] else [(name, .string value)]

/-- A field that is left out when it has no items. -/
def listField (name : String) (items : List Json) : List (String × Json) :=
  if items.isEmpty then [] else [(name, .array items)]

end Json

def Modifier.json (modifier : Modifier) : Json :=
  .object <| [("name", .string modifier.name)] ++ textField "relation" modifier.relation ++
    textField "value" modifier.value

def Modifier.jsonField (modifiers : List Modifier) : List (String × Json) :=
  listField "modifiers" (modifiers.map Modifier.json)

def Prefix.json (declared : Prefix) : Json :=
  .object <| textField "name" declared.name ++ [("uri", .string declared.uri)]

def Prefix.jsonField (prefixes : List Prefix) : List (String × Json) :=
  listField "prefixes" (prefixes.map Prefix.json)

def SearchClause.json (search : SearchClause) : Json :=
  .object <| textField "index" search.index ++ Modifier.jsonField search.modifiers ++
    textField "relation" search.relation ++ [("term", .string search.term)]

def Clause.json : Clause → Json
  | .search prefixes clause =>
    .object <| Prefix.jsonField prefixes ++ [("searchClause", clause.json)]
  | .boolean prefixes left operator modifiers right =>
    let content := [("left", left.json)] ++ Modifier.jsonField modifiers ++
      [("operator", .string operator.keyword), ("right", right.json)]
    .object <| [("boolClause", .object content)] ++ Prefix.jsonField prefixes
  | .matchAll prefixes => .object (Prefix.jsonField prefixes)

def SortKey.json (key : SortKey) : Json :=
  .object <| [("index", .string key.index)] ++ Modifier.jsonField key.modifiers

def Query.json (query : Query) : Json :=
  .object <| [("clause", query.clause.json)] ++
    listField "sortSpec" (query.sortKeys.map SortKey.json)

end ContextualQuery
