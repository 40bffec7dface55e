/-!
# Boolean operators

The four words that join two clauses.  A keyword names its operator in any ASCII letter case and
is written in lower case.
-/

namespace ContextualQuery

/-- An operator between two clauses. -/
inductive Operator
  | and
  | or
  /-- The left side matches and the right side does not. -/
  | not
  /-- Both sides match near each other. -/
  | prox
deriving DecidableEq, Repr

namespace Operator

instance : Inhabited Operator := ⟨.and⟩

def all : List Operator := [.and, .or, .not, .prox]

def keyword : Operator → String
  | .and => "and"
  | .or => "or"
  | .not => "not"
  | .prox => "prox"

/-- The operator that a word names in any letter case. -/
def ofKeyword? (word : String) : Option Operator :=
  all.find? fun operator => operator.keyword == word.toLower

end Operator
end ContextualQuery
