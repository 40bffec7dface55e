import ContextualQuery.Clause

/-!
# Spines

Chains associate to the left, so a chain is a first operand with links behind it, and a loop over
the links takes the place of a call for every operator.  Only right operands are left for a
recursion; a link says that its right operand is small enough for it.
-/

namespace ContextualQuery

/-- An operator of a chain inside a clause, with its right operand. -/
structure Link (whole : Clause) where
  operator : Operator
  modifiers : List Modifier
  right : Clause
  smaller : sizeOf right < sizeOf whole

namespace Clause

variable {whole : Clause}

theorem sizeOf_operands_lt (prefixes : List Prefix) (left : Clause) (operator : Operator)
    (modifiers : List Modifier) (right : Clause) :
    sizeOf left < sizeOf (boolean prefixes left operator modifiers right) ∧
      sizeOf right < sizeOf (boolean prefixes left operator modifiers right) := by
  rw [boolean.sizeOf_spec]
  omega

/-- The links of a chain from its end on, up to a left operand whose declarations do not let the
chain go on. -/
def spine (goesOn : List Prefix → Bool) :
    (clause : Clause) → sizeOf clause ≤ sizeOf whole → List (Link whole)
  | .boolean prefixes left operator modifiers right, fits =>
    have smaller := sizeOf_operands_lt prefixes left operator modifiers right
    if goesOn prefixes then
      ⟨operator, modifiers, right, Nat.lt_of_lt_of_le smaller.2 fits⟩ ::
        spine goesOn left (Nat.le_trans (Nat.le_of_lt smaller.1) fits)
    else []
  | .search _ _, _ | .matchAll _, _ => []

/-- The operand in front of the links. -/
def head (goesOn : List Prefix → Bool) : Clause → Clause
  | .boolean prefixes left operator modifiers right =>
    if goesOn prefixes then left.head goesOn
    else .boolean prefixes left operator modifiers right
  | clause => clause

/-- A chain that goes on wherever it can has links exactly if it is joined. -/
theorem length_spine_pos (clause : Clause) (fits : sizeOf clause ≤ sizeOf whole) :
    0 < (spine (fun _ => true) clause fits).length ↔ clause.isBoolean = true := by
  cases clause <;> simp [spine, isBoolean]

theorem sizeOf_head_le (goesOn : List Prefix → Bool) (clause : Clause) :
    sizeOf (clause.head goesOn) ≤ sizeOf clause := by
  induction clause with
  | search | matchAll => exact Nat.le_refl _
  | boolean prefixes left operator modifiers right leftLe _ =>
    rw [head]
    split
    · exact Nat.le_trans leftLe
        (Nat.le_of_lt (sizeOf_operands_lt prefixes left operator modifiers right).1)
    · exact Nat.le_refl _

end Clause
end ContextualQuery
