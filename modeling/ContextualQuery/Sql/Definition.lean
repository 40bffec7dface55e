import ContextualQuery.Query
import ContextualQuery.Sql.Condition
import ContextualQuery.Sql.Field

/-!
# Definitions

A definition names the fields that a query may search and turns a query into an SQL condition.
The operators of a chain are looked at before its first operand, and the operands from left to
right, so the first fault in that order is the one reported.
-/

namespace ContextualQuery

/-- The fields by name; the field added last under a name is the one in force. -/
structure Definition where
  /-- Names and fields, the one added last in front. -/
  entries : List (String × Field) := []
deriving DecidableEq, Repr

/-- An SQL condition with numbered placeholders and the arguments that they stand for. -/
structure Statement where
  text : String
  arguments : List Value
deriving DecidableEq, Repr

namespace Clause

/-- The first operator of the chain, from its end on, that SQL does not have. -/
def unsupported? : Clause → Option Operator
  | .boolean _ left operator _ _ =>
    match Joiner.ofOperator? operator with
    | none => some operator
    | some _ => left.unsupported?
  | _ => none

/-- Refuses a chain with an operator that SQL does not have. -/
def checkChain (clause : Clause) : Except SqlError Unit :=
  match clause.unsupported? with
  | some operator => .error (.unsupportedOperator operator)
  | none => .ok ()

theorem checkChain_boolean {operator : Operator} (supported : operator ≠ .prox)
    (prefixes : List Prefix) (left : Clause) (modifiers : List Modifier) (right : Clause) :
    (Clause.boolean prefixes left operator modifiers right).checkChain = left.checkChain := by
  obtain ⟨joiner, joins⟩ := Joiner.exists_ofOperator? supported
  simp only [checkChain, unsupported?, joins]

end Clause

namespace Definition

def empty : Definition := {}

/-- The definition with one more field, which replaces any of the same name. -/
def insert (definition : Definition) (name : String) (field : Field) : Definition :=
  ⟨(name, field) :: definition.entries⟩

/-- The field in force under a name. -/
def get? (definition : Definition) (name : String) : Option Field :=
  definition.entries.lookup name

def predicate (definition : Definition) (search : SearchClause) : Except SqlError Predicate :=
  match definition.get? search.indexOrDefault with
  | some field => field.predicate search
  | none => .error (.unknownField search.indexOrDefault)

/-- The condition of a clause whose own chain has been checked. -/
def assemble (definition : Definition) : Clause → Except SqlError Condition
  | .search _ clause => (definition.predicate clause).map .atom
  | .matchAll _ => .ok .always
  | .boolean _ left operator _ right => do
    let leftCondition ← definition.assemble left
    right.checkChain
    let rightCondition ← definition.assemble right
    match Joiner.ofOperator? operator with
    | some joiner => .ok (.join leftCondition joiner rightCondition)
    | none => .error (.unsupportedOperator operator)

def condition (definition : Definition) (clause : Clause) : Except SqlError Condition := do
  clause.checkChain
  definition.assemble clause

/-- The SQL condition of a query, with placeholders numbered from `first` on. -/
def translate (definition : Definition) (query : Query) (first : Nat) :
    Except SqlError Statement :=
  if query.sortKeys.isEmpty then do
    let condition ← definition.condition query.clause
    .ok ⟨(condition.write "" first).1, condition.arguments⟩
  else .error .sortingUnsupported

/-- Two clauses with conditions that an operator joins have one condition. -/
theorem assemble_boolean {definition : Definition} {left right : Clause} {operator : Operator}
    {leftCondition rightCondition : Condition} {joiner : Joiner}
    (leftAssembled : definition.assemble left = .ok leftCondition)
    (checked : right.checkChain = .ok ())
    (rightAssembled : definition.assemble right = .ok rightCondition)
    (joins : Joiner.ofOperator? operator = some joiner) (prefixes : List Prefix)
    (modifiers : List Modifier) :
    definition.assemble (.boolean prefixes left operator modifiers right) =
      .ok (.join leftCondition joiner rightCondition) := by
  simp only [assemble, leftAssembled, checked, rightAssembled, joins, bind, Except.bind]

/-- A translation is the text and the arguments of the query's condition. -/
theorem translate_eq_ok {definition : Definition} {query : Query} {first : Nat}
    {condition : Condition} (unsorted : query.sortKeys = [])
    (translated : definition.condition query.clause = .ok condition) :
    definition.translate query first = .ok ⟨condition.text first, condition.arguments⟩ := by
  simp [translate, unsorted, translated, Condition.write_eq, bind, Except.bind]

@[simp]
theorem get?_insert_self (definition : Definition) (name : String) (field : Field) :
    (definition.insert name field).get? name = some field := by
  simp [insert, get?]

theorem get?_insert_of_ne {definition : Definition} {name other : String} {field : Field}
    (different : other ≠ name) :
    (definition.insert name field).get? other = definition.get? other := by
  have : (other == name) = false := by simpa using different
  simp [insert, get?, List.lookup_cons, this]

end Definition
end ContextualQuery
