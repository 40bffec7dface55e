/-!
# Indented lines

Structured text is laid out as lines, each with the level at which it lies.
-/

namespace ContextualQuery

/-- One line of a structured text. -/
structure Line where
  /-- The number of groups around the line. -/
  level : Nat
  /-- What stands on the line behind its indentation. -/
  content : String
deriving DecidableEq, Repr

namespace Line

/-- The text of a line that is indented by `step` spaces for every level. -/
def text (step : Nat) (line : Line) : String :=
  String.ofList (List.replicate (line.level * step) ' ') ++ line.content

end Line
end ContextualQuery
