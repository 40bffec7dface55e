import ContextualQuery.Query.Grammar
import ContextualQuery.Token.Lexeme

/-!
# Reading queries

A query is read from bytes or from text: the input is taken apart into tokens, the tokens are
read by the grammar, and a failure is placed by counting back the tokens that were left.
-/

namespace ContextualQuery
namespace ParseError

/-- The number of bytes read when `left` tokens are still to come, the first of them looked at. -/
def positionOf (length : Nat) (lexemes : List Lexeme) (left : Nat) : Nat :=
  match lexemes.drop (lexemes.length - left) with
  | [] => length
  | lexeme :: _ => lexeme.stop length

/-- Places a failure in the input whose tokens it was found among. -/
def ofFailure (input : List UInt8) (lexemes : List Lexeme) (failure : Failure) : ParseError where
  input := input
  message := failure.fault.message
  position := positionOf input.length lexemes failure.rest.length

end ParseError

namespace Query

/-- Reads a query from bytes. -/
def parseBytes (settings : Settings) (input : List UInt8) : Except ParseError Query :=
  let lexemes := Lexeme.ofBytes input
  (ofTokens settings (lexemes.map Lexeme.token)).mapError (ParseError.ofFailure input lexemes)

/-- Reads a query from text. -/
def parse (settings : Settings) (input : String) : Except ParseError Query :=
  parseBytes settings (Utf8.encode input)

end Query
end ContextualQuery
