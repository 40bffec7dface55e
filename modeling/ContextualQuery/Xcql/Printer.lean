import ContextualQuery.Clause.Spine
import ContextualQuery.Xcql

/-!
# Printing clauses

The loop that prints a chain.  Every link opens a triple two levels further in than the link before
it; then comes the operand in front, and the links are closed from the inside out, each with its
right operand.
-/

namespace ContextualQuery

open Element (leaf branch opening closing)

variable {whole : Clause}

namespace Link

/-- The lines of a triple up to its left operand. -/
def openingLines (link : Link whole) (level : Nat) : List Line :=
  ⟨level, opening "triple" []⟩ ::
    (branch "Boolean" [] (leaf "value" link.operator.keyword ::
      Modifier.elements link.modifiers)).linesBefore (level + 1)
        [⟨level + 1, opening "leftOperand" []⟩]

/-- The lines of a triple behind its left operand, around those of the right operand. -/
def closingLines (right : List Line) (level : Nat) : List Line :=
  [⟨level + 1, closing "leftOperand"⟩, ⟨level + 1, opening "rightOperand" []⟩] ++ right ++
    [⟨level + 1, closing "rightOperand"⟩, ⟨level, closing "triple"⟩]

end Link

namespace Clause

/-- The element of an operand that is not joined. -/
def leafElement : Clause → Element
  | .search _ clause => clause.element
  | _ => SearchClause.allRecords.element

/-- The lines of a chain; another function prints the right operands. -/
def printChain (print : (operand : Clause) → sizeOf operand < sizeOf whole → Nat → List Line)
    (clause : Clause) (fits : sizeOf clause ≤ sizeOf whole) (level : Nat) : List Line :=
  let links := spine (fun _ => true) clause fits
  links.zipIdx.flatMap (fun (link, depth) => link.openingLines (level + 2 * depth)) ++
    (clause.head fun _ => true).leafElement.linesBefore (level + 2 * links.length) [] ++
    links.zipIdx.reverse.flatMap fun (link, depth) =>
      Link.closingLines (print link.right link.smaller (level + 2 * depth + 2)) (level + 2 * depth)

/-- The lines of a clause that lies `level` elements deep. -/
def print (clause : Clause) (level : Nat) : List Line :=
  printChain (fun operand _ => operand.print) clause (Nat.le_refl _) level
termination_by sizeOf clause
decreasing_by assumption

end Clause
end ContextualQuery
