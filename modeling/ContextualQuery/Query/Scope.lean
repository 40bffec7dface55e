import ContextualQuery.Clause

/-!
# Scopes

What holds at one place of a query: the index, relation and modifiers that a bare term falls
under, and the words that may stand as relations.  A scope is handed inward only, so clauses
beside each other do not affect one another.
-/

namespace ContextualQuery

/-- What holds at one place of a query. -/
structure Scope where
  /-- The index of a bare term; empty for the default. -/
  index : String := ""
  /-- The relation of a bare term; empty for the default. -/
  relation : String := ""
  modifiers : List Modifier := []
  /-- The declared names in front of a dot, the innermost first. -/
  names : List String := ["cql"]
  /-- Whether a context set without a name is declared, so that any word may be a relation. -/
  custom : Bool := false
deriving DecidableEq, Repr

namespace Scope

/-- The scope after a declaration with a name. -/
def bind (scope : Scope) (name : String) : Scope :=
  { scope with names := name :: scope.names }

/-- The scope after a declaration without a name. -/
def allowAnyWord (scope : Scope) : Scope := { scope with custom := true }

/-- The scope behind an index, a relation and its modifiers. -/
def relating (scope : Scope) (index relation : String) (modifiers : List Modifier) : Scope :=
  { scope with index, relation, modifiers }

/-- The part of a word in front of its first dot. -/
def qualifier (word : String) : String := String.ofList (word.toList.takeWhile (· != '.'))

/-- Whether the part of a word in front of its first dot is declared. -/
def binds (scope : Scope) (word : String) : Bool := scope.names.contains (qualifier word)

/-- The search clause that a bare term stands for. -/
def search (scope : Scope) (term : String) : SearchClause :=
  { index := scope.index, relation := scope.relation, modifiers := scope.modifiers, term }

end Scope
end ContextualQuery
