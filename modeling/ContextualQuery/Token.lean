import ContextualQuery.Operator
import ContextualQuery.Relation
import ContextualQuery.Text.Quoted
import ContextualQuery.Text.Utf8

/-!
# Tokens

The words and signs of a query, and the one step that takes a token off the front of the input.
A token that may stand for a term keeps its spelling, backslashes included.
-/

namespace ContextualQuery

open Utf8 (Piece)

/-- A word or sign of a query. -/
inductive Token
  | comparison (symbol : Comparison)
  | keyword (operator : Operator) (spelling : String)
  /-- The keyword in front of the sort keys. -/
  | sortBy (spelling : String)
  | namedRelation (spelling : String)
  /-- A bare word with a dot that is not escaped. -/
  | dotted (spelling : String)
  /-- A quoted string or any other bare word. -/
  | word (text : String)
  | slash
  | leftParen
  | rightParen
  /-- A byte at which no character begins. -/
  | malformed
deriving DecidableEq, Repr

namespace Token

/-- The text that a token contributes where an index, term, name or value is expected. -/
def term? : Token → Option String
  | .keyword _ spelling | .sortBy spelling | .namedRelation spelling | .dotted spelling
  | .word spelling => some spelling
  | _ => none

/-- Whether a token may stand where an index, term, name or value is expected. -/
def isTerm (token : Token) : Bool := token.term?.isSome

def comparison? : Token → Option Comparison
  | .comparison symbol => some symbol
  | _ => none

def operator? : Token → Option Operator
  | .keyword operator _ => some operator
  | _ => none

/-- The characters of a token as they are kept, without quotes. -/
def text : Token → String
  | .comparison symbol => symbol.symbol
  | .keyword _ spelling | .sortBy spelling | .namedRelation spelling | .dotted spelling
  | .word spelling => spelling
  | .slash => "/"
  | .leftParen => "("
  | .rightParen => ")"
  | .malformed => ""

/-- The token of a bare word: a keyword first, then a dotted word, then a named relation. -/
def ofWord (spelling : String) (dotted : Bool) : Token :=
  match Operator.ofKeyword? spelling with
  | some operator => .keyword operator spelling
  | none =>
    if spelling.toLower == "sortby" then .sortBy spelling
    else if dotted then .dotted spelling
    else if Relation.named.contains spelling.toLower then .namedRelation spelling
    else .word spelling

/-- The characters of one word and the input behind them. -/
structure Run where
  /-- The characters, each backslash followed by the character it escapes. -/
  text : List Char
  /-- Whether a dot stands among them that is not escaped. -/
  dotted : Bool
  rest : List Piece
deriving DecidableEq, Repr

/-- Reads characters up to the first that ends the word and is not escaped, up to a stray byte or
to the end.  A stray byte behind a backslash is dropped. -/
def run (ends : Char → Bool) : List Piece → Run
  | [] => ⟨[], false, []⟩
  | .stray :: rest => ⟨[], false, .stray :: rest⟩
  | .char c :: rest =>
    if ends c then ⟨[], false, .char c :: rest⟩
    else if c = '\\' then
      match rest with
      | [] => ⟨[c], false, []⟩
      | .stray :: rest =>
        let tail := run ends rest
        ⟨c :: tail.text, tail.dotted, tail.rest⟩
      | .char escaped :: rest =>
        let tail := run ends rest
        ⟨c :: escaped :: tail.text, tail.dotted, tail.rest⟩
    else
      let tail := run ends rest
      ⟨c :: tail.text, c == '.' || tail.dotted, tail.rest⟩

/-- The input behind the quote that closes a string, if one does. -/
def afterQuote : List Piece → List Piece
  | .char '"' :: rest => rest
  | rest => rest

/-- The sign that begins with a character, the longer of two that both could, and the input behind
it. -/
def sign? : Char → List Piece → Option (Token × List Piece)
  | '=', .char '=' :: rest => some (.comparison .exactlyEqual, rest)
  | '=', rest => some (.comparison .equal, rest)
  | '<', .char '=' :: rest => some (.comparison .lessOrEqual, rest)
  | '<', .char '>' :: rest => some (.comparison .notEqual, rest)
  | '<', rest => some (.comparison .less, rest)
  | '>', .char '=' :: rest => some (.comparison .greaterOrEqual, rest)
  | '>', rest => some (.comparison .greater, rest)
  | '/', rest => some (.slash, rest)
  | '(', rest => some (.leftParen, rest)
  | ')', rest => some (.rightParen, rest)
  | _, _ => none

/-- The token of a string and the input behind it, given the input behind the opening quote. -/
def string (input : List Piece) : Token × List Piece :=
  let content := run (· == '"') input
  (.word (String.ofList content.text), afterQuote content.rest)

/-- The token of a bare word and the input behind it. -/
def bareWord (input : List Piece) : Token × List Piece :=
  let content := run Quoted.endsWord input
  (ofWord (String.ofList content.text) content.dotted, content.rest)

/-- The token that begins with a character that is no blank, and the input behind it. -/
def starting (first : Char) (rest : List Piece) : Token × List Piece :=
  match sign? first rest with
  | some taken => taken
  | none => if first = '"' then string rest else bareWord (.char first :: rest)

/-- Whether a piece of input is a blank between tokens. -/
def isBlank : Piece → Bool
  | .char c => Quoted.isBlank c
  | .stray => false

/-- Takes the first token off the input; `none` where only blanks are left. -/
def next? (input : List Piece) : Option (Token × List Piece) :=
  match input.dropWhile isBlank with
  | [] => none
  | .stray :: rest => some (.malformed, rest)
  | .char first :: rest => some (starting first rest)

theorem isTerm_iff (token : Token) : token.isTerm = true ↔ ∃ text, token.term? = some text :=
  Option.isSome_iff_exists

theorem text_of_term? {token : Token} {text : String} (named : token.term? = some text) :
    token.text = text := by
  cases token <;> cases named <;> rfl

/-- Exactly the structural characters begin a sign. -/
theorem sign?_isSome (first : Char) (rest : List Piece) :
    (sign? first rest).isSome = Quoted.isStructural first := by
  unfold sign?
  split <;> simp_all [Quoted.isStructural]

/-- A sign takes up input. -/
theorem length_sign?_le {first : Char} {rest : List Piece} {taken : Token × List Piece}
    (found : sign? first rest = some taken) : taken.2.length ≤ rest.length := by
  revert found
  unfold sign?
  split <;> rintro ⟨⟩ <;> simp

/-- What is left behind a word is no longer than the input. -/
theorem length_rest_run_le (ends : Char → Bool) (input : List Piece) :
    (run ends input).rest.length ≤ input.length := by
  fun_induction run ends input with
  | case1 | case2 | case3 | case4 => simp
  | case5 _ _ _ ih | case6 _ _ _ _ ih =>
    simp only [List.length_cons]
    exact Nat.le_trans ih (by omega)
  | case7 _ _ _ _ _ ih =>
    simp only [List.length_cons]
    exact Nat.le_succ_of_le ih

/-- A word that does not end at once takes up input. -/
theorem length_rest_run_lt {ends : Char → Bool} {c : Char} (continues : ends c = false)
    (rest : List Piece) :
    (run ends (.char c :: rest)).rest.length ≤ rest.length := by
  unfold run
  rw [if_neg (by simp [continues])]
  split
  · split
    · simp
    · exact Nat.le_succ_of_le (length_rest_run_le ends _)
    · exact Nat.le_succ_of_le (length_rest_run_le ends _)
  · exact length_rest_run_le ends _

theorem length_afterQuote_le (input : List Piece) :
    (afterQuote input).length ≤ input.length := by
  unfold afterQuote
  split <;> simp

/-- Every token takes up input. -/
theorem length_starting_le {first : Char} (rest : List Piece)
    (notBlank : Quoted.isBlank first = false) :
    (starting first rest).2.length ≤ rest.length := by
  unfold starting
  split
  · next taken found => exact length_sign?_le found
  · next missing =>
    split
    · exact Nat.le_trans (length_afterQuote_le _) (length_rest_run_le _ rest)
    · refine length_rest_run_lt ?_ rest
      have plain : Quoted.isStructural first = false := by
        rw [← sign?_isSome first rest, missing]
        rfl
      simp [Quoted.endsWord, notBlank, plain]

/-- Taking a token leaves less input. -/
theorem length_next?_lt {input : List Piece} {taken : Token × List Piece}
    (found : next? input = some taken) : taken.2.length < input.length := by
  have shorter : (input.dropWhile isBlank).length ≤ input.length :=
    (List.dropWhile_sublist isBlank).length_le
  have headNotBlank := List.head?_dropWhile_not isBlank input
  unfold next? at found
  split at found
  · cases found
  · next rest remaining =>
    cases found
    rw [remaining, List.length_cons] at shorter
    exact shorter
  · next first rest remaining =>
    cases found
    rw [remaining] at shorter headNotBlank
    have notBlank : Quoted.isBlank first = false := by simpa [isBlank] using headNotBlank
    have := length_starting_le rest notBlank
    rw [List.length_cons] at shorter
    omega

end Token
end ContextualQuery
