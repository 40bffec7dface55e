import ContextualQuery.Operator
import ContextualQuery.Sql.Predicate

/-!
# Conditions

Predicates joined by `AND`, `OR` and `AND NOT`.  In the text, every operand that is itself joined
stands in brackets, so no precedence is relied on; placeholders are numbered from left to right.
-/

namespace ContextualQuery

/-- An operator between two conditions. -/
inductive Joiner
  | and
  | or
  | andNot
deriving DecidableEq, Repr

namespace Joiner

def keyword : Joiner → String
  | .and => "AND"
  | .or => "OR"
  | .andNot => "AND NOT"

/-- What an operator of the query language becomes. -/
def ofOperator? : Operator → Option Joiner
  | .and => some .and
  | .or => some .or
  | .not => some .andNot
  | .prox => none

theorem exists_ofOperator? {operator : Operator} (supported : operator ≠ .prox) :
    ∃ joiner, ofOperator? operator = some joiner := by
  cases operator with
  | prox => exact absurd rfl supported
  | and | or | not => exact ⟨_, rfl⟩

end Joiner

/-- A condition on the columns of a row. -/
inductive Condition
  /-- No condition. -/
  | always
  | atom (predicate : Predicate)
  | join (left : Condition) (joiner : Joiner) (right : Condition)
deriving DecidableEq, Repr

namespace Condition

/-- The arguments in the order of their placeholders, in front of further ones. -/
def argumentsBefore : Condition → List Value → List Value
  | .always, rest => rest
  | .atom predicate, rest => predicate.arguments ++ rest
  | .join left _ right, rest => left.argumentsBefore (right.argumentsBefore rest)

/-- The arguments in the order of their placeholders. -/
def arguments (condition : Condition) : List Value := condition.argumentsBefore []

def isJoin : Condition → Bool
  | .join .. => true
  | _ => false

/-- Text in brackets where it is asked for. -/
def bracketed (brackets : Bool) (text : String) : String :=
  if brackets then "(" ++ text ++ ")" else text

/-- The text of a condition whose placeholders are numbered from `first` on. -/
def text (first : Nat) : Condition → String
  | .always => "TRUE"
  | .atom predicate => predicate.text first
  | .join left joiner right =>
    bracketed left.isJoin (left.text first) ++ " " ++ joiner.keyword ++ " " ++
      bracketed right.isJoin (right.text (first + left.arguments.length))

def bracket (brackets : Bool) (sign : String) : String := if brackets then sign else ""

/-- Writes a condition behind other text and gives the number of the placeholder behind it. -/
def write (sofar : String) (first : Nat) : Condition → String × Nat
  | .always => (sofar ++ "TRUE", first)
  | .atom predicate => (sofar ++ predicate.text first, first + predicate.arguments.length)
  | .join left joiner right =>
    let (sofar, next) := left.write (sofar ++ bracket left.isJoin "(") first
    let sofar := sofar ++ bracket left.isJoin ")" ++ " " ++ joiner.keyword ++ " " ++
      bracket right.isJoin "("
    let (sofar, next) := right.write sofar next
    (sofar ++ bracket right.isJoin ")", next)

theorem argumentsBefore_eq (condition : Condition) (rest : List Value) :
    condition.argumentsBefore rest = condition.arguments ++ rest := by
  induction condition generalizing rest with
  | always => rfl
  | atom predicate => simp [arguments, argumentsBefore]
  | join left joiner right leftEq rightEq =>
    simp only [arguments, argumentsBefore]
    rw [leftEq, rightEq, leftEq (right.argumentsBefore []), rightEq []]
    simp

@[simp]
theorem arguments_always : always.arguments = [] := rfl

@[simp]
theorem arguments_atom (predicate : Predicate) :
    (atom predicate).arguments = predicate.arguments := by
  simp [arguments, argumentsBefore]

@[simp]
theorem arguments_join (left : Condition) (joiner : Joiner) (right : Condition) :
    (join left joiner right).arguments = left.arguments ++ right.arguments :=
  argumentsBefore_eq left right.arguments

theorem bracketed_eq (brackets : Bool) (text : String) :
    bracketed brackets text = bracket brackets "(" ++ text ++ bracket brackets ")" := by
  cases brackets <;> simp [bracketed, bracket]

/-- Writing adds the text of the condition and counts its arguments. -/
theorem write_eq (condition : Condition) (sofar : String) (first : Nat) :
    condition.write sofar first =
      (sofar ++ condition.text first, first + condition.arguments.length) := by
  induction condition generalizing sofar first with
  | always => rfl
  | atom predicate => simp [write, text]
  | join left joiner right leftEq rightEq =>
    simp only [write, text, leftEq, rightEq, bracketed_eq, arguments_join, List.length_append]
    simp only [String.append_assoc, Nat.add_assoc]

end Condition
end ContextualQuery
