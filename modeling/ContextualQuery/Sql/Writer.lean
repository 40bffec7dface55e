import ContextualQuery.Clause.Spine
import ContextualQuery.Sql.Definition

/-!
# Writing conditions

The loop that translates a chain.  Its operators are looked at from the end of the chain on; then
the brackets of all left operands are opened at once, the operand in front is written, and the links
follow from the inside out.  Placeholders are numbered by the arguments that are there so far.
-/

namespace ContextualQuery

/-- What an operator becomes, or why it becomes nothing. -/
def Joiner.ofOperator (operator : Operator) : Except SqlError Joiner :=
  match ofOperator? operator with
  | some joiner => .ok joiner
  | none => .error (.unsupportedOperator operator)

namespace Definition

variable {whole : Clause}

/-- Writes an operand that is not joined and adds its arguments. -/
def writeLeaf (definition : Definition) (first : Nat) (arguments : List Value) :
    Clause → Except SqlError (String × List Value)
  | .search _ search => do
    let predicate ← definition.predicate search
    .ok (predicate.text first, arguments ++ predicate.arguments)
  | _ => .ok ("TRUE", arguments)

/-- One round of the loop: the bracket around the text so far is closed where it was opened, and
the link is written behind it. -/
def writeLink
    (write : (operand : Clause) → sizeOf operand < sizeOf whole → Nat → List Value →
      Except SqlError (String × List Value))
    (first start : Nat) :
    String × List Value → (Joiner × Link whole) × Nat → Except SqlError (String × List Value)
  | (sql, arguments), ((joiner, link), depth) => do
    let closed := if depth > 0 then sql ++ ")" else sql
    let (right, extended) ←
      write link.right link.smaller (first + arguments.length - start) arguments
    let operand := Condition.bracketed link.right.isBoolean right
    .ok (closed ++ " " ++ joiner.keyword ++ " " ++ operand, extended)

/-- Writes a chain and adds its arguments; another function writes the right operands. -/
def writeChain (definition : Definition)
    (write : (operand : Clause) → sizeOf operand < sizeOf whole → Nat → List Value →
      Except SqlError (String × List Value))
    (clause : Clause) (fits : sizeOf clause ≤ sizeOf whole) (first : Nat)
    (arguments : List Value) : Except SqlError (String × List Value) := do
  let links ← (Clause.spine (fun _ => true) clause fits).mapM fun link =>
    (Joiner.ofOperator link.operator).map (·, link)
  let (leaf, extended) ← definition.writeLeaf first arguments (clause.head fun _ => true)
  links.reverse.zipIdx.foldlM (writeLink write first arguments.length)
    (String.ofList (List.replicate (links.length - 1) '(') ++ leaf, extended)

/-- Writes a clause, its placeholders numbered from `first` on, and adds its arguments to those
that are there. -/
def write (definition : Definition) (clause : Clause) (first : Nat) (arguments : List Value) :
    Except SqlError (String × List Value) :=
  definition.writeChain (fun operand _ => definition.write operand) clause (Nat.le_refl _) first
    arguments
termination_by sizeOf clause
decreasing_by assumption

end Definition
end ContextualQuery
