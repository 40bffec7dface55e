import ContextualQuery.Sql.Value

/-!
# Predicates

The conditions on one column, each with the arguments that its placeholders stand for.  The text
of a predicate holds the column and placeholders numbered from a given number on; it never holds
an argument.
-/

namespace ContextualQuery

/-- An operator that compares a column with an argument. -/
inductive Comparator
  | equal
  | notEqual
  | less
  | greater
  | lessOrEqual
  | greaterOrEqual
deriving DecidableEq, Repr

namespace Comparator

def symbol : Comparator → String
  | .equal => "="
  | .notEqual => "<>"
  | .less => "<"
  | .greater => ">"
  | .lessOrEqual => "<="
  | .greaterOrEqual => ">="

end Comparator

/-- A condition on one column. -/
inductive Predicate
  | notNull (column : String)
  | compare (column : String) (comparator : Comparator) (argument : Value)
  /-- The column's value matches the pattern, or does not. -/
  | like (column : String) (negated : Bool) (pattern : String)
  /-- The column's value is one of the words, or is none of them. -/
  | memberOf (column : String) (negated : Bool) (words : List String)
  /-- The column's words, taken in a language, match the text query. -/
  | fullText (column language query : String)
deriving DecidableEq, Repr

def placeholder (number : Nat) : String := "$" ++ toString number

namespace Predicate

/-- The arguments in the order of their placeholders. -/
def arguments : Predicate → List Value
  | .notNull _ => []
  | .compare _ _ argument => [argument]
  | .like _ _ pattern => [.text pattern]
  | .memberOf _ _ words => words.map .text
  | .fullText _ _ query => [.text query]

/-- The text of a predicate whose placeholders are numbered from `first` on. -/
def text (first : Nat) : Predicate → String
  | .notNull column => column ++ " IS NOT NULL"
  | .compare column comparator _ =>
    column ++ " " ++ comparator.symbol ++ " " ++ placeholder first
  | .like column negated _ =>
    column ++ (if negated then " NOT LIKE " else " LIKE ") ++ placeholder first
  | .memberOf column negated words =>
    column ++ (if negated then " NOT IN(" else " IN(") ++
      ", ".intercalate ((List.range' first words.length).map placeholder) ++ ")"
  | .fullText column language _ =>
    "to_tsvector('" ++ language ++ "', " ++ column ++ ") @@ to_tsquery('" ++ language ++ "', " ++
      placeholder first ++ ")"

end Predicate
end ContextualQuery
