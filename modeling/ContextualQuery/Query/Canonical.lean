import ContextualQuery.Query
import ContextualQuery.Text.Quoted

/-!
# Canonical text

The one spelling in which a query is written.  A clause on the server's choice whose relation is
the default is its term alone.  Chains associate to the left, so only a right operand can need
brackets: when it is itself a chain, or when declarations stand in front of it.
-/

namespace ContextualQuery

namespace Modifier

/-- A modifier without its slash. -/
def text (modifier : Modifier) : String :=
  if modifier.value.isEmpty then quote modifier.name
  else quote modifier.name ++ Relation.orDefault modifier.relation ++ quote modifier.value

/-- Modifiers one behind the other, each with its slash. -/
def listText (modifiers : List Modifier) : String :=
  String.join (modifiers.map fun modifier => "/" ++ modifier.text)

end Modifier

namespace Prefix

/-- A declaration; without a name it is the identifier alone. -/
def text (declared : Prefix) : String :=
  if declared.name.isEmpty then "> " ++ quote declared.uri
  else "> " ++ quote declared.name ++ " = " ++ quote declared.uri

def listText (prefixes : List Prefix) : String :=
  String.join (prefixes.map fun declared => declared.text ++ " ")

end Prefix

namespace SearchClause

/-- Whether the clause is written as its term alone. -/
def isBare (search : SearchClause) : Bool :=
  search.indexOrDefault == Index.serverChoice &&
    (search.relationOrDefault == Relation.default ||
      search.relationOrDefault == Relation.serverChoice) &&
    search.modifiers.isEmpty

def text (search : SearchClause) : String :=
  if search.isBare then quote search.term
  else quote search.indexOrDefault ++ " " ++ search.relationOrDefault ++
    Modifier.listText search.modifiers ++ " " ++ quote search.term

/-- The search clause as which a match-all clause is written. -/
def allRecords : SearchClause :=
  { index := Index.allRecords, relation := Relation.default, term := "1" }

end SearchClause

namespace Clause

/-- Whether a right operand stands in brackets. -/
def needsBrackets (clause : Clause) : Bool := clause.isBoolean || !clause.prefixes.isEmpty

def text : Clause → String
  | .search prefixes clause => Prefix.listText prefixes ++ clause.text
  | .matchAll prefixes => Prefix.listText prefixes ++ SearchClause.allRecords.text
  | .boolean prefixes left operator modifiers right =>
    Prefix.listText prefixes ++ left.text ++ " " ++ operator.keyword ++
      Modifier.listText modifiers ++ " " ++
      (if right.needsBrackets then "(" ++ right.text ++ ")" else right.text)

instance : ToString Clause := ⟨text⟩

end Clause

namespace SortKey

def text (key : SortKey) : String := quote key.index ++ Modifier.listText key.modifiers

/-- The sort keys behind their keyword, if there are any. -/
def listText (keys : List SortKey) : String :=
  if keys.isEmpty then "" else " sortBy" ++ String.join (keys.map fun key => " " ++ key.text)

end SortKey

namespace Query

def text (query : Query) : String := query.clause.text ++ SortKey.listText query.sortKeys

instance : ToString Query := ⟨text⟩

end Query
end ContextualQuery
