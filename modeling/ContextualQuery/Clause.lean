import ContextualQuery.Operator
import ContextualQuery.Relation

/-!
# Clauses

The tree of a query: search clauses joined by operators, each clause with the prefix declarations
that stand in front of it.  Empty text means that the writer left the field out.
-/

namespace ContextualQuery

/-- A `/name`, `/name=value` or `/name<value` annotation of a relation, operator or sort key. -/
structure Modifier where
  name : String
  /-- The relation between name and value; empty where there is none or the default is meant. -/
  relation : String := ""
  /-- The value; empty where there is none. -/
  value : String := ""
deriving DecidableEq, Repr

/-- A `> name = uri` declaration of a context set; an empty name is the form `> uri`. -/
structure Prefix where
  name : String
  /-- The identifier of the context set. -/
  uri : String
deriving DecidableEq, Repr

structure SearchClause where
  /-- The index searched; empty for the server's choice. -/
  index : String := ""
  /-- The relation; empty for the default. -/
  relation : String := ""
  modifiers : List Modifier := []
  term : String
deriving DecidableEq, Repr

namespace SearchClause

/-- The index, with the server's choice filled in. -/
def indexOrDefault (search : SearchClause) : String :=
  if search.index.isEmpty then Index.serverChoice else search.index

/-- The relation, with the default filled in. -/
def relationOrDefault (search : SearchClause) : String :=
  Relation.orDefault search.relation

end SearchClause

/-- A clause with the prefixes declared in front of it, which hold for it and all inside it. -/
inductive Clause
  | search (prefixes : List Prefix) (clause : SearchClause)
  | boolean (prefixes : List Prefix) (left : Clause) (operator : Operator)
      (modifiers : List Modifier) (right : Clause)
  /-- No condition at all. -/
  | matchAll (prefixes : List Prefix)
deriving DecidableEq, Repr

namespace Clause

instance : Inhabited Clause := ⟨.matchAll []⟩

def prefixes : Clause → List Prefix
  | .search prefixes _ => prefixes
  | .boolean prefixes _ _ _ _ => prefixes
  | .matchAll prefixes => prefixes

/-- The clause with other prefixes in front of it. -/
def withPrefixes (declared : List Prefix) : Clause → Clause
  | .search _ clause => .search declared clause
  | .boolean _ left operator modifiers right => .boolean declared left operator modifiers right
  | .matchAll _ => .matchAll declared

/-- The clause with further declarations in front of those it has. -/
def declaring (outer : List Prefix) (clause : Clause) : Clause :=
  clause.withPrefixes (outer ++ clause.prefixes)

/-- The clause with one more declaration behind those it has. -/
def withPrefix (clause : Clause) (added : Prefix) : Clause :=
  clause.withPrefixes (clause.prefixes ++ [added])

/-- Adds modifiers to the relation or operator at the top; a match-all clause has neither. -/
def withModifiers (added : List Modifier) : Clause → Clause
  | .search prefixes clause =>
    .search prefixes { clause with modifiers := clause.modifiers ++ added }
  | .boolean prefixes left operator modifiers right =>
    .boolean prefixes left operator (modifiers ++ added) right
  | .matchAll prefixes => .matchAll prefixes

/-- The clause `index relation term`. -/
def relating (index relation term : String) : Clause :=
  .search [] { index, relation, term }

/-- The clause `index = term`. -/
def equating (index term : String) : Clause :=
  relating index Relation.default term

/-- Two clauses joined by an operator without modifiers. -/
def joined (left : Clause) (operator : Operator) (right : Clause) : Clause :=
  .boolean [] left operator [] right

def isBoolean : Clause → Bool
  | .boolean .. => true
  | _ => false

def left? : Clause → Option Clause
  | .boolean _ left _ _ _ => some left
  | _ => none

def right? : Clause → Option Clause
  | .boolean _ _ _ _ right => some right
  | _ => none

@[simp]
theorem prefixes_withPrefixes (declared : List Prefix) (clause : Clause) :
    (clause.withPrefixes declared).prefixes = declared := by
  cases clause <;> rfl

@[simp]
theorem withPrefixes_prefixes (clause : Clause) :
    clause.withPrefixes clause.prefixes = clause := by
  cases clause <;> rfl

@[simp]
theorem prefixes_declaring (outer : List Prefix) (clause : Clause) :
    (clause.declaring outer).prefixes = outer ++ clause.prefixes :=
  prefixes_withPrefixes _ _

@[simp]
theorem declaring_nil (clause : Clause) : clause.declaring [] = clause :=
  withPrefixes_prefixes clause

end Clause
end ContextualQuery
