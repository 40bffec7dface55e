import ContextualQuery.Clause

/-!
# Queries

A complete query: a clause and the keys its results are sorted by.
-/

namespace ContextualQuery

structure SortKey where
  index : String
  modifiers : List Modifier := []
deriving DecidableEq, Repr

/-- A clause with the keys its results are sorted by, most significant first. -/
structure Query where
  clause : Clause := .matchAll []
  /-- The sort keys; none where there is no `sortBy`. -/
  sortKeys : List SortKey := []
deriving DecidableEq, Repr

namespace Query

instance : Inhabited Query := ⟨{}⟩

end Query
end ContextualQuery
