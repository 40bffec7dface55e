import ContextualQuery.Command

/-!
# The program

Hands the words of the command line and the standard input to `Command.run`, prints what it
gives and ends with its code.  The standard input is read only where the command has use for it.
-/

namespace ContextualQuery

partial def readAll (stream : IO.FS.Stream) (sofar : ByteArray) : IO ByteArray := do
  let chunk ← stream.read 65536
  if chunk.isEmpty then return sofar else readAll stream (sofar ++ chunk)

/-- Whether a command takes its query from the standard input. -/
def Command.readsInput : Command → Bool
  | .check none _ _ _ | .sql none _ => true
  | _ => false

/-- Runs the program on the words of its command line. -/
def program (words : List String) : IO UInt32 := do
  let reads := (Command.ofWords? words).any Command.readsInput
  let input ← if reads then readAll (← IO.getStdin) .empty else pure .empty
  let outcome := Command.run words input.data.toList
  (← IO.getStdout).putStr outcome.output
  (← IO.getStderr).putStr outcome.errors
  return outcome.code

end ContextualQuery

def main (words : List String) : IO UInt32 := ContextualQuery.program words
