import ContextualQuery.Decimal
import ContextualQuery.Text.Literal

/-!
# Arguments

The values that a condition's placeholders stand for.
-/

namespace ContextualQuery

/-- An argument of a condition. -/
inductive Value
  | text (content : String)
  | number (value : Decimal)
deriving DecidableEq, Repr

namespace Value

/-- The argument as it is shown: a text as a literal, a number in digits. -/
def display : Value → String
  | .text content => literal content
  | .number value => value.text

instance : ToString Value := ⟨display⟩

end Value
end ContextualQuery
