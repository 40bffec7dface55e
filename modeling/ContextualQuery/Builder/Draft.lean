import ContextualQuery.Query
import ContextualQuery.Text.Blank
import ContextualQuery.Text.Literal
import ContextualQuery.Text.Quoted

/-!
# Drafts

A query under construction: the declarations and sort keys so far, the search clause being
written, and a group for the root and for every bracket that is still open.  Every change of a
draft either succeeds or says why the value given cannot stand in a query.
-/

namespace ContextualQuery

inductive BuildError
  | duplicateRoot
  | missingRoot
  /-- An operator has no left operand. -/
  | appendWithoutRoot
  | emptyPrefixUri
  | emptySortIndex
  | emptySortModifierName
  | emptyModifierName
  /-- The relation of a modifier is not a built-in one. -/
  | invalidModifierRelation (relation : String)
  /-- The relation of a search clause is not a built-in one. -/
  | invalidRelation (relation : String)
  | invalidOperator (word : String)
  | emptyTerm
  | noOpenClause
  | unclosedClause
deriving DecidableEq, Repr

namespace BuildError

def message : BuildError → String
  | .duplicateRoot => "query already has a root clause"
  | .missingRoot => "query requires a root clause"
  | .appendWithoutRoot => "query requires a root clause before appending"
  | .emptyPrefixUri => "prefix uri must be non-empty"
  | .emptySortIndex => "sort index must be non-empty"
  | .emptySortModifierName => "sort modifier name must be non-empty"
  | .emptyModifierName => "modifier name must be non-empty"
  | .invalidModifierRelation relation => "invalid modifier relation: " ++ literal relation
  | .invalidRelation relation => "invalid relation: " ++ literal relation
  | .invalidOperator word => "invalid boolean operator: " ++ literal word
  | .emptyTerm => "search term must be non-empty"
  | .noOpenClause => "no open clause to end"
  | .unclosedClause => "clause was begun but never ended"

end BuildError

/-- What stands so far at the root or between one pair of brackets. -/
inductive Group
  | empty
  | operand (clause : Clause)
  /-- A left operand and an operator that waits for its right one. -/
  | awaiting (left : Clause) (operator : Operator) (modifiers : List Modifier)
deriving DecidableEq, Repr

namespace Group

/-- The clause that a group holds, without an operator that waits. -/
def clause? : Group → Option Clause
  | .empty => none
  | .operand clause => some clause
  | .awaiting left _ _ => some left

def attach (clause : Clause) : Group → Except BuildError Group
  | .empty => .ok (.operand clause)
  | .operand _ => .error .duplicateRoot
  | .awaiting left operator modifiers => .ok (.operand (.boolean [] left operator modifiers clause))

def join (operator : Operator) : Group → Except BuildError Group
  | .empty => .error .appendWithoutRoot
  | .operand clause => .ok (.awaiting clause operator [])
  | .awaiting left _ _ => .ok (.awaiting left operator [])

/-- The group with a further modifier of the operator that waits. -/
def addModifier (modifier : Modifier) : Group → Group
  | .awaiting left operator modifiers => .awaiting left operator (modifiers ++ [modifier])
  | group => group

/-- Refuses a group in which a new operand would stand beside a complete clause. -/
def checkVacant : Group → Except BuildError Unit
  | .operand _ => .error .duplicateRoot
  | _ => .ok ()

end Group

structure Draft where
  prefixes : List Prefix := []
  sortKeys : List SortKey := []
  /-- The group in which the next operand stands. -/
  current : Group := .empty
  /-- The groups around it, the innermost first; the last of all is the root. -/
  outer : List Group := []
  /-- The search clause that waits for its term. -/
  pending : SearchClause := { term := "" }
deriving DecidableEq, Repr

namespace Modifier

/-- Refuses a relation that is not built in. -/
def checkRelation (modifier : Modifier) : Except BuildError Modifier :=
  if Relation.isBuiltIn modifier.relation then .ok modifier
  else .error (.invalidModifierRelation modifier.relation)

/-- The modifier of a sort key: the value escaped, a relation filled in where there is a value. -/
def forSortKey (modifier : Modifier) : Except BuildError Modifier :=
  if Blank.isBlankText modifier.name then .error .emptySortModifierName
  else if modifier.value.isEmpty then
    if modifier.relation.isEmpty then .ok modifier else modifier.checkRelation
  else
    checkRelation
      ⟨modifier.name, Relation.orDefault modifier.relation, Escape.special modifier.value⟩

def named (name : String) : Except BuildError Modifier :=
  if Blank.isBlankText name then .error .emptyModifierName else .ok { name }

/-- A modifier with a value, which is escaped; an empty relation stands for the default. -/
def valued (name relation value : String) : Except BuildError Modifier :=
  if Blank.isBlankText name then .error .emptyModifierName
  else checkRelation ⟨name, Relation.orDefault relation, Escape.special value⟩

end Modifier

namespace Draft

/-- A draft that goes on from a query, whose clause becomes the root. -/
def ofQuery (query : Query) : Draft :=
  { sortKeys := query.sortKeys, current := .operand query.clause }

def declare (draft : Draft) (name uri : String) : Except BuildError Draft :=
  if Blank.isBlankText uri then .error .emptyPrefixUri
  else .ok { draft with prefixes := draft.prefixes ++ [⟨name, uri⟩] }

def sortBy (draft : Draft) (index : String) (modifiers : List Modifier) :
    Except BuildError Draft := do
  if Blank.isBlankText index then
    .error .emptySortIndex
  else
    let modifiers ← modifiers.mapM Modifier.forSortKey
    .ok { draft with sortKeys := draft.sortKeys ++ [{ index, modifiers }] }

/-- Adds an operand to the current group. -/
def attach (draft : Draft) (clause : Clause) : Except BuildError Draft := do
  let group ← draft.current.attach clause
  .ok { draft with current := group }

/-- Puts an operator behind the current group's clause. -/
def join (draft : Draft) (operator : Operator) : Except BuildError Draft := do
  let group ← draft.current.join operator
  .ok { draft with current := group }

/-- Puts an operator given as a word behind the current group's clause. -/
def joinNamed (draft : Draft) (word : String) : Except BuildError Draft :=
  match Operator.ofKeyword? word with
  | some operator => draft.join operator
  | none => .error (.invalidOperator word)

def search (draft : Draft) (index : String) : Draft :=
  { draft with pending := { index, term := "" } }

def beginClause (draft : Draft) : Except BuildError Draft := do
  draft.current.checkVacant
  .ok { draft with current := .empty, outer := draft.current :: draft.outer }

/-- Closes the innermost bracket and attaches what stands in it. -/
def endClause (draft : Draft) : Except BuildError Draft :=
  match draft.outer with
  | [] => .error .noOpenClause
  | group :: outer =>
    match draft.current.clause? with
    | none => .error .missingRoot
    | some clause => { draft with current := group, outer := outer }.attach clause

/-- Gives the pending search clause a relation; an empty one leaves the default. -/
def relation (draft : Draft) (relation : String) : Except BuildError Draft :=
  if relation.isEmpty || Relation.isBuiltIn relation then
    .ok { draft with pending := { draft.pending with relation } }
  else .error (.invalidRelation relation)

/-- Adds a modifier to the pending search clause. -/
def modifySearch (draft : Draft) (modifier : Modifier) : Draft :=
  { draft with
    pending := { draft.pending with modifiers := draft.pending.modifiers ++ [modifier] } }

/-- Adds a modifier to the operator that waits. -/
def modifyJoin (draft : Draft) (modifier : Modifier) : Draft :=
  { draft with current := draft.current.addModifier modifier }

/-- Completes the pending search clause with a term exactly as given. -/
def rawTerm (draft : Draft) (term : String) : Except BuildError Draft :=
  { draft with pending := { term := "" } }.attach (.search [] { draft.pending with term })

/-- Completes the pending search clause with a term that is to match literally. -/
def term (draft : Draft) (term : String) : Except BuildError Draft :=
  if Blank.isBlankText term then .error .emptyTerm
  else draft.rawTerm (Escape.masking (Escape.special term))

def build (draft : Draft) : Except BuildError Query :=
  if draft.outer.isEmpty then
    match draft.current.clause? with
    | some clause =>
      .ok { clause := clause.declaring draft.prefixes, sortKeys := draft.sortKeys }
    | none => .error .missingRoot
  else .error .unclosedClause

end Draft
end ContextualQuery
