import ContextualQuery.Token

/-!
# Lexemes

The input as a list of tokens, each with the input that is left behind it.  While a token is
looked at, one piece behind it has already been read; the number of bytes read by then is the
position at which a fault at this token is reported.
-/

namespace ContextualQuery

open Utf8 (Piece)

structure Lexeme where
  token : Token
  rest : List Piece
deriving DecidableEq, Repr

namespace Lexeme

/-- The number of bytes read when this much of the input is left: all that is gone, and the first
piece of what is left. -/
def position (length : Nat) (left : List Piece) : Nat := length - Utf8.width left.tail

/-- The number of bytes read while the token is looked at, in an input of the given length. -/
def stop (length : Nat) (lexeme : Lexeme) : Nat := position length lexeme.rest

/-- Takes the input apart into tokens. -/
def scan (input : List Piece) : List Lexeme :=
  match _found : Token.next? input with
  | none => []
  | some (token, rest) => ⟨token, rest⟩ :: scan rest
termination_by input.length
decreasing_by exact Token.length_next?_lt ‹_›

/-- The tokens of an input given as bytes. -/
def ofBytes (bytes : List UInt8) : List Lexeme := scan (Utf8.decode bytes)

theorem scan_of_next?_eq_none {input : List Piece} (none_left : Token.next? input = none) :
    scan input = [] := by
  rw [scan]
  split <;> simp_all

theorem scan_of_next?_eq_some {input rest : List Piece} {token : Token}
    (taken : Token.next? input = some (token, rest)) :
    scan input = ⟨token, rest⟩ :: scan rest := by
  rw [scan]
  split <;> simp_all

end Lexeme
end ContextualQuery
