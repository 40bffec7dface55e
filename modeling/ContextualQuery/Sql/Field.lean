import ContextualQuery.Clause
import ContextualQuery.Decimal.Reading
import ContextualQuery.Sql.Masking
import ContextualQuery.Sql.Predicate

/-!
# Fields

A field turns search clauses into predicates on one column.  A text field knows only the relations
that its features allow; a number field knows the ordered ones.  The column is checked first, then
the empty term, then the relation and the term.
-/

namespace ContextualQuery

/-- Whether the text is an SQL identifier, possibly with dots. -/
def isIdentifier (text : String) : Bool :=
  match text.toList with
  | [] => false
  | first :: rest =>
    (first.isAlpha || first == '_') && rest.all fun c => c.isAlphanum || c == '_' || c == '.'

structure TextField where
  column : String
  /-- The language of full-text search, if the field has it. -/
  language : Option String := none
  /-- Whether masked terms become patterns. -/
  like : Bool := false
  /-- Whether whole values are compared. -/
  exact : Bool := false
  /-- Whether a term is a list of words for `any` and `<>`. -/
  split : Bool := false
deriving DecidableEq, Repr

namespace TextField

/-- The field with full-text search in a language; an empty one stands for `simple`. -/
def withFullText (field : TextField) (language : String) : TextField :=
  { field with language := some (if language.isEmpty then "simple" else language) }

/-- The field with patterns, which includes the comparison of whole values. -/
def withLike (field : TextField) : TextField := { field with like := true, exact := true }

/-- The field with the comparison of whole values. -/
def withExact (field : TextField) : TextField := { field with exact := true }

def withSplit (field : TextField) : TextField := { field with split := true }

end TextField

/-- A column with the way in which it is searched. -/
inductive Field
  | text (field : TextField)
  | number (column : String)
deriving DecidableEq, Repr

/-- The comparison that a relation makes on values without an order. -/
def Comparator.unordered? : String → Option Comparator
  | "==" | "exact" | "=" => some .equal
  | "<>" => some .notEqual
  | _ => none

/-- The comparison that a relation makes on ordered values. -/
def Comparator.ordered? : String → Option Comparator
  | "==" | "exact" | "=" => some .equal
  | "<>" => some .notEqual
  | "<" => some .less
  | ">" => some .greater
  | "<=" => some .lessOrEqual
  | ">=" => some .greaterOrEqual
  | _ => none

namespace TextQuery

/-- The operator between the words of a text query, by the relation of the clause. -/
def operator? : String → Option String
  | "adj" | "=" => some "<->"
  | "all" => some "&"
  | "any" => some "|"
  | _ => none

/-- A character inside a quoted lexeme; a quote is doubled. -/
def doubleQuote (c : Char) : List Char := if c == '\'' then [c, c] else [c]

def lexeme (word : String) : String :=
  String.ofList ('\'' :: word.toList.flatMap doubleQuote ++ ['\''])

/-- The text query that asks for words joined by an operator. -/
def ofWords (operator : String) (words : List String) : String :=
  operator.intercalate (words.map lexeme)

end TextQuery

/-- Whether the clause asks only for the column to have a value. -/
def SearchClause.asksForAny (search : SearchClause) : Bool :=
  search.term.isEmpty && search.relationOrDefault == Relation.default

/-- Refuses a column that is not an identifier. -/
def checkColumn (column : String) : Except SqlError Unit :=
  if isIdentifier column then .ok () else .error (.invalidColumn column)

namespace TextField

def fullText (field : TextField) (language operator term : String) :
    Except SqlError Predicate :=
  if isIdentifier language then do
    let words ← (Masking.exactWords term).mapError .masking
    .ok (.fullText field.column language (TextQuery.ofWords operator words))
  else .error (.invalidLanguage language)

def memberOf (field : TextField) (negated : Bool) (term : String) :
    Except SqlError Predicate := do
  let words ← (Masking.exactWords term).mapError .masking
  .ok (.memberOf field.column negated words)

/-- The predicate that compares the whole value. -/
def whole (field : TextField) (relation term : String) : Except SqlError Predicate := do
  let value ← (Masking.exactTerm term).mapError .masking
  match Comparator.unordered? relation with
  | some comparator => .ok (.compare field.column comparator (.text value))
  | none => .error (.unsupportedRelation relation)

/-- Whether masks in the term of a clause with this relation become a pattern. -/
def takesPattern (field : TextField) (relation : String) : Bool :=
  field.like && (relation == "=" || relation == "exact" || relation == "<>")

/-- The predicate on the whole value: a pattern where the field takes one and the term masks. -/
def wholeOrPattern (field : TextField) (relation term : String) :
    Except SqlError Predicate :=
  if field.takesPattern relation then do
    let pattern ← (Masking.likePattern term).mapError .masking
    if Masking.isMasked term then .ok (.like field.column (relation == "<>") pattern)
    else field.whole relation term
  else field.whole relation term

/-- The full-text search that the field makes for a relation, if it does: language and operator. -/
def fullText? (field : TextField) (relation : String) : Option (String × String) := do
  let language ← field.language
  let operator ← TextQuery.operator? relation
  some (language, operator)

/-- The predicate of a search clause on a text field. -/
def predicate (field : TextField) (search : SearchClause) : Except SqlError Predicate := do
  checkColumn field.column
  let relation := search.relationOrDefault
  if search.asksForAny then .ok (.notNull field.column)
  else match field.fullText? relation with
    | some (language, operator) => field.fullText language operator search.term
    | none =>
      if field.split && relation == "any" then field.memberOf false search.term
      else if field.split && relation == "<>" then field.memberOf true search.term
      else if field.exact then field.wholeOrPattern relation search.term
      else .error (.unsupportedRelation relation)

end TextField

namespace NumberField

/-- The predicate of a search clause on a column of numbers. -/
def predicate (column : String) (search : SearchClause) : Except SqlError Predicate := do
  checkColumn column
  if search.asksForAny then .ok (.notNull column)
  else match Comparator.ordered? search.relationOrDefault with
    | none => .error (.unsupportedRelation search.relationOrDefault)
    | some comparator =>
      match Decimal.ofString? search.term with
      | none => .error (.invalidNumber search.term)
      | some value => .ok (.compare column comparator (.number value))

end NumberField

namespace Field

/-- The column of a field, as it was given. -/
def column : Field → String
  | .text field => field.column
  | .number column => column

def predicate : Field → SearchClause → Except SqlError Predicate
  | .text field, search => field.predicate search
  | .number column, search => NumberField.predicate column search

end Field
end ContextualQuery
