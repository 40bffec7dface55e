/-!
# Quoted words

A value stands in a query as one word.  It needs quotes when it is empty or holds a character
that would end a bare word.  A backslash keeps the character behind it from having a meaning of
its own and stays part of the word; so a quote is escaped only where no backslash already does,
and a backslash that ends the value gets a partner.
-/

namespace ContextualQuery
namespace Quoted

/-- Blanks that separate words. -/
def isBlank (c : Char) : Bool := c == ' ' || c == '\t' || c == '\r' || c == '\n'

/-- Characters that stand for themselves outside quotes. -/
def isStructural (c : Char) : Bool :=
  c == '(' || c == ')' || c == '=' || c == '<' || c == '>' || c == '/'

/-- Characters at which a bare word ends. -/
def endsWord (c : Char) : Bool := isBlank c || isStructural c

/-- Whether the value can only be written in quotes. -/
def needsQuotes (value : List Char) : Bool :=
  value.isEmpty || value.any fun c => endsWord c || c == '"'

/-- Escapes every quote that is not escaped and completes a backslash at the end. -/
def guardQuotes : List Char → List Char
  | [] => []
  | ['\\'] => ['\\', '\\']
  | '\\' :: c :: rest => '\\' :: c :: guardQuotes rest
  | '"' :: rest => '\\' :: '"' :: guardQuotes rest
  | c :: rest => c :: guardQuotes rest

/-- The characters of the word that a value is written as. -/
def encode (value : List Char) : List Char :=
  if needsQuotes value then '"' :: guardQuotes value ++ ['"'] else guardQuotes value

/-- The value that a word's text stands for: each escaped character without its backslash. -/
def unescape : List Char → List Char
  | [] => []
  | ['\\'] => ['\\']
  | '\\' :: c :: rest => c :: unescape rest
  | c :: rest => c :: unescape rest

theorem guardQuotes_cons {c : Char} (rest : List Char) (noBackslash : c ≠ '\\')
    (noQuote : c ≠ '"') : guardQuotes (c :: rest) = c :: guardQuotes rest := by
  rw [guardQuotes] <;> simp_all

theorem unescape_cons {c : Char} (rest : List Char) (noBackslash : c ≠ '\\') :
    unescape (c :: rest) = c :: unescape rest := by
  rw [unescape] <;> simp_all

/-- A character is a backslash only at the end or in front of the one it escapes. -/
theorem ne_backslash {c : Char} {rest : List Char} (notLast : c = '\\' → rest = [] → False)
    (escapesNone : ∀ d others, c = '\\' → rest = d :: others → False) : c ≠ '\\' := by
  intro backslash
  cases rest with
  | nil => exact notLast backslash rfl
  | cons d others => exact escapesNone d others backslash rfl

/-- Guarding quotes a second time changes nothing. -/
theorem guardQuotes_guardQuotes (value : List Char) :
    guardQuotes (guardQuotes value) = guardQuotes value := by
  fun_induction guardQuotes value with
  | case1 => rfl
  | case2 => rfl
  | case3 c rest ih => simp only [guardQuotes, ih]
  | case4 rest ih => simp only [guardQuotes, ih]
  | case5 c rest notLast escapesNone noQuote ih =>
    rw [guardQuotes_cons _ (ne_backslash notLast escapesNone) noQuote, ih]

/-- Guarding quotes does not change what a word stands for. -/
theorem unescape_guardQuotes (value : List Char) :
    unescape (guardQuotes value) = unescape value := by
  fun_induction guardQuotes value with
  | case1 => rfl
  | case2 => rfl
  | case3 c rest ih => simp only [unescape, ih]
  | case4 rest ih =>
    rw [unescape, ih, unescape_cons rest (by decide)]
  | case5 c rest notLast escapesNone _ ih =>
    have plain := ne_backslash notLast escapesNone
    rw [unescape_cons _ plain, ih, unescape_cons _ plain]

end Quoted

/-- Writes a value as one word of a query. -/
def quote (value : String) : String := String.ofList (Quoted.encode value.toList)

namespace Escape

/-- Escapes quotes and backslashes, so that the value stays one word as it is. -/
def special (value : String) : String :=
  String.ofList <| value.toList.flatMap fun c =>
    if c == '\\' || c == '"' then ['\\', c] else [c]

/-- Escapes the characters that mask parts of a term. -/
def masking (value : String) : String :=
  String.ofList <| value.toList.flatMap fun c =>
    if c == '*' || c == '?' || c == '^' then ['\\', c] else [c]

end Escape
end ContextualQuery
