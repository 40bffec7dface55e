import ContextualQuery.Text.Utf8

/-!
# Parse errors

What can be wrong with a query, and the error shown for it: the cause, the number of bytes read,
and the input with a combining tilde where reading stopped.
-/

namespace ContextualQuery

inductive Fault
  | endExpected
  /-- A declaration has neither name nor identifier. -/
  | prefixOrUriExpected
  | uriExpected
  /-- A clause lies deeper, or a chain is longer, than the settings allow. -/
  | nestingTooDeep
  | groupNotClosed
  | termExpected
  /-- A second word follows a term where only a relation may. -/
  | relationExpected
  | modifierNameMissing
  /-- A modifier has a comparison and no value. -/
  | modifierValueMissing
deriving DecidableEq, Repr

namespace Fault

def message : Fault → String
  | .endExpected => "EOF expected"
  | .prefixOrUriExpected => "prefix or uri expected"
  | .uriExpected => "uri expected"
  | .nestingTooDeep => "nesting too deep"
  | .groupNotClosed => "missing )"
  | .termExpected => "search term expected"
  | .relationExpected => "relation expected"
  | .modifierNameMissing => "missing modifier key"
  | .modifierValueMissing => "missing modifier value"

/-- The message tells the fault. -/
theorem eq_of_message_eq {fault other : Fault} (same : fault.message = other.message) :
    fault = other := by
  revert same
  cases fault <;> cases other <;> decide

end Fault

/-- A fault in an input, with the place it was found at. -/
structure ParseError where
  input : List UInt8
  message : String
  /-- The number of bytes read when it was found. -/
  position : Nat
deriving DecidableEq, Repr

namespace ParseError

/-- The mark put behind the last byte read. -/
def mark : String := "\u0330"

def source (error : ParseError) : String := Utf8.display error.input

/-- The input as text, with the mark at the position of the fault or, beyond the end, behind all. -/
def marked (error : ParseError) : String :=
  Utf8.display (error.input.take error.position) ++ mark ++
    Utf8.display (error.input.drop error.position)

def text (error : ParseError) : String :=
  error.message ++ " at position " ++ toString error.position ++ ": " ++ error.marked

instance : ToString ParseError := ⟨text⟩

end ParseError
end ContextualQuery
