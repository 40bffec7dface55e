/-!
# Relations and well-known names

A search clause relates an index to a term.  Seven symbols compare; seven words name further
relations; the remaining relations are dotted words of a context set.  Relations are kept as
text, because a context set may define any word.
-/

namespace ContextualQuery

/-- A relation written as a symbol. -/
inductive Comparison
  /-- Equality, the relation of a clause that names none. -/
  | equal
  /-- Equality of the whole value. -/
  | exactlyEqual
  | less
  | lessOrEqual
  | greater
  | greaterOrEqual
  | notEqual
deriving DecidableEq, Repr

namespace Comparison

def symbol : Comparison → String
  | .equal => "="
  | .exactlyEqual => "=="
  | .less => "<"
  | .lessOrEqual => "<="
  | .greater => ">"
  | .greaterOrEqual => ">="
  | .notEqual => "<>"

end Comparison

namespace Relation

/-- The relation of a clause that names none. -/
def default : String := "="

/-- The server's own choice, which is written like the default. -/
def serverChoice : String := "scr"

/-- The bare words that are relations wherever a relation may stand. -/
def named : List String := ["all", "any", "adj", "scr", "exact", "within", "encloses"]

/-- The relations that a query under construction may use. -/
def builtIn : List String :=
  ["=", "<>", "<", ">", "<=", ">=", "adj", "all", "any", "scr", "encloses", "exact", "within"]

/-- Whether a query under construction may use the relation. -/
def isBuiltIn (relation : String) : Bool := builtIn.contains relation

/-- The relation itself, or the default where it is left empty. -/
def orDefault (relation : String) : String :=
  if relation.isEmpty then default else relation

end Relation

namespace Index

/-- The index of a clause that names none. -/
def serverChoice : String := "cql.serverChoice"

/-- The index under which every record is found. -/
def allRecords : String := "cql.allRecords"

end Index
end ContextualQuery
