import ContextualQuery.Sql.Error

/-!
# Masked terms

A term is a row of glyphs: characters that stand for themselves, some of them only because they
are escaped, and signs that mask a part of the value.  A column that compares whole values takes
the characters and refuses the signs; a column with `LIKE` writes the signs as wildcards.
-/

namespace ContextualQuery

/-- One unit of a masked term. -/
inductive Glyph
  | plain (c : Char)
  /-- A character that stands for itself because a backslash escapes it. -/
  | escaped (c : Char)
  /-- An unescaped star: any text. -/
  | anyText
  /-- An unescaped question mark: any one character. -/
  | anyChar
  /-- An unescaped caret. -/
  | anchor
  /-- A backslash in front of a character that it may not escape. -/
  | badEscape
  | danglingEscape
deriving DecidableEq, Repr

namespace Glyph

/-- The characters that a backslash may escape in a masked term. -/
def isEscapable (c : Char) : Bool :=
  c == '*' || c == '?' || c == '^' || c == '"' || c == '\\'

/-- The glyphs of a term. -/
def ofChars : List Char → List Glyph
  | [] => []
  | ['\\'] => [.danglingEscape]
  | '\\' :: c :: rest => (if isEscapable c then .escaped c else .badEscape) :: ofChars rest
  | '*' :: rest => .anyText :: ofChars rest
  | '?' :: rest => .anyChar :: ofChars rest
  | '^' :: rest => .anchor :: ofChars rest
  | c :: rest => .plain c :: ofChars rest

/-- The glyphs of a term. -/
def ofTerm (term : String) : List Glyph := ofChars term.toList

/-- The character that a glyph stands for where nothing may be masked. -/
def exact : Glyph → Except MaskingError Char
  | .plain c | .escaped c => .ok c
  | .anyText => .error .anyText
  | .anyChar => .error .anyChar
  | .anchor => .error .anchor
  | .badEscape => .error .badEscape
  | .danglingEscape => .error .danglingEscape

/-- Whether a glyph masks a part of the value. -/
def isMask : Glyph → Bool
  | .anyText | .anyChar => true
  | _ => false

/-- A glyph in a `LIKE` pattern, where `%` and `_` are wildcards and a backslash makes the next
character stand for itself. -/
def likePattern : Glyph → Except MaskingError (List Char)
  | .plain c => .ok (if c == '%' || c == '_' then ['\\', c] else [c])
  | .escaped c => .ok (if c == '\\' then ['\\', '\\'] else [c])
  | .anyText => .ok ['%']
  | .anyChar => .ok ['_']
  | .anchor => .error .anchor
  | .badEscape => .error .badEscape
  | .danglingEscape => .error .danglingEscape

/-- Whether a glyph is a space between two words. -/
def isSpace (glyph : Glyph) : Bool := glyph == .plain ' '

/-- The stretches between spaces, empty ones included. -/
def stretches : List Glyph → List (List Glyph)
  | [] => [[]]
  | glyph :: rest =>
    if glyph.isSpace then [] :: stretches rest
    else match stretches rest with
      | [] => [[glyph]]
      | first :: others => (glyph :: first) :: others

/-- The words of a term; a term without any counts as one empty word. -/
def words (glyphs : List Glyph) : List (List Glyph) :=
  match (stretches glyphs).filter (!·.isEmpty) with
  | [] => [[]]
  | first :: others => first :: others

end Glyph

namespace Masking

/-- The text that glyphs stand for where nothing may be masked. -/
def exactText (glyphs : List Glyph) : Except MaskingError String :=
  (glyphs.mapM Glyph.exact).map String.ofList

/-- The whole value that a term stands for. -/
def exactTerm (term : String) : Except MaskingError String := exactText (Glyph.ofTerm term)

def exactWords (term : String) : Except MaskingError (List String) :=
  (Glyph.words (Glyph.ofTerm term)).mapM exactText

/-- The `LIKE` pattern of a term. -/
def likePattern (term : String) : Except MaskingError String :=
  ((Glyph.ofTerm term).mapM Glyph.likePattern).map fun parts => String.ofList parts.flatten

/-- Whether a term masks any part of the value. -/
def isMasked (term : String) : Bool := (Glyph.ofTerm term).any Glyph.isMask

end Masking
end ContextualQuery
