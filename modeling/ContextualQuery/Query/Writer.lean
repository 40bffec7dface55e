import ContextualQuery.Clause.Spine
import ContextualQuery.Query.Canonical

/-!
# Writing clauses

The loop that writes a chain: the operand in front, then the links from the inside out.  A left
operand with declarations of its own ends the loop and is written like any other clause.
-/

namespace ContextualQuery
namespace Clause

/-- Writes a chain behind other text; another function writes the operands. -/
def writeChain {whole : Clause}
    (write : (operand : Clause) → sizeOf operand < sizeOf whole → Bool → String → String)
    (left : Clause) (operator : Operator) (modifiers : List Modifier) (right : Clause)
    (fits : sizeOf left < sizeOf whole ∧ sizeOf right < sizeOf whole) (sofar : String) : String :=
  let links := ⟨operator, modifiers, right, fits.2⟩ ::
    spine List.isEmpty left (Nat.le_of_lt fits.1)
  let headFits := Nat.lt_of_le_of_lt (sizeOf_head_le List.isEmpty left) fits.1
  links.reverse.foldl
    (fun sofar link => write link.right link.smaller true
      (sofar ++ " " ++ link.operator.keyword ++ Modifier.listText link.modifiers ++ " "))
    (write (left.head List.isEmpty) headFits false sofar)

/-- Writes declarations behind other text, with the bracket in front of them that a clause with
declarations can need. -/
def writePrefixes (prefixes : List Prefix) (brackets : Bool) (sofar : String) : String :=
  (if !prefixes.isEmpty && brackets then sofar ++ "(" else sofar) ++ Prefix.listText prefixes

/-- Writes a clause behind other text.  Where brackets are asked for, they stand around a chain
and around a clause with declarations. -/
def write : Clause → Bool → String → String
  | .search prefixes clause, brackets, sofar =>
    let sofar := writePrefixes prefixes brackets sofar ++ clause.text
    if !prefixes.isEmpty && brackets then sofar ++ ")" else sofar
  | .matchAll prefixes, brackets, sofar =>
    let sofar := writePrefixes prefixes brackets sofar ++ Index.allRecords ++ " = 1"
    if !prefixes.isEmpty && brackets then sofar ++ ")" else sofar
  | .boolean prefixes left operator modifiers right, brackets, sofar =>
    let sofar := writePrefixes prefixes brackets sofar
    let chain := writeChain (fun operand _ => operand.write) left operator modifiers right
      (sizeOf_operands_lt prefixes left operator modifiers right)
    if brackets then chain (if prefixes.isEmpty then sofar ++ "(" else sofar) ++ ")"
    else chain sofar
termination_by clause => sizeOf clause
decreasing_by assumption

end Clause

/-- Writes a query: its clause, then its sort keys. -/
def Query.written (query : Query) : String :=
  let sofar := query.clause.write false ""
  if query.sortKeys.isEmpty then sofar
  else query.sortKeys.foldl (fun sofar key => sofar ++ " " ++ key.text) (sofar ++ " sortBy")

end ContextualQuery
