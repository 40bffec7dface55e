import ContextualQuery.Builder.Calls

/-!
# Recordings

The state of a chain of calls as one record that every call changes.  There is a level for the root
and for every bracket that is still open; a level may hold a clause, an operator, both or neither.
The first error is part of the record, and almost every call looks at it before it does anything.
-/

namespace ContextualQuery

/-- What stands so far at the root or between one pair of brackets. -/
structure Level where
  clause : Option Clause := none
  /-- The operator that waits for its right operand, with its modifiers. -/
  join : Option (Operator × List Modifier) := none
deriving DecidableEq, Repr

structure Recording where
  prefixes : List Prefix := []
  sortKeys : List SortKey := []
  /-- The levels, the innermost last; the first is the root. -/
  levels : List Level
  /-- The error of the first call that failed. -/
  error : Option BuildError := none
  /-- The search clause that waits for its term. -/
  pending : SearchClause := { term := "" }
deriving DecidableEq, Repr

namespace Recording

/-- The start, with a query to go on from or without. -/
def starting : Option Query → Recording
  | none => { levels := [{}] }
  | some query => { sortKeys := query.sortKeys, levels := [{ clause := some query.clause }] }

def isOk (recording : Recording) : Bool := recording.error.isNone

/-- Keeps an error, unless there is one before it. -/
def fail (recording : Recording) (error : BuildError) : Recording :=
  if recording.isOk then { recording with error := some error } else recording

/-- A change that is made only while no call has failed. -/
def change (recording : Recording) (step : Recording → Recording) : Recording :=
  if recording.isOk then step recording else recording

/-- A change by a value that has been checked. -/
def use {α : Type} (recording : Recording) (checked : Except BuildError α)
    (step : Recording → α → Recording) : Recording :=
  match checked with
  | .ok value => step recording value
  | .error error => recording.fail error

/-- The recording with a level to write to. -/
def withLevel (recording : Recording) : Recording :=
  if recording.levels.isEmpty then { recording with levels := [{}] } else recording

/-- The innermost level. -/
def current (recording : Recording) : Level := recording.levels.getLastD {}

def setCurrent (recording : Recording) (level : Level) : Recording :=
  { recording with levels := recording.levels.dropLast ++ [level] }

/-- Whether a new operand would stand beside a complete clause. -/
def isOccupied (recording : Recording) : Bool :=
  recording.current.clause.isSome && recording.current.join.isNone

/-- Adds an operand to the innermost level. -/
def attach (recording : Recording) (clause : Clause) : Recording :=
  recording.change fun recording =>
    let recording := recording.withLevel
    match recording.current with
    | ⟨some left, some (operator, modifiers)⟩ =>
      recording.setCurrent { clause := some (.boolean [] left operator modifiers clause) }
    | ⟨none, none⟩ => recording.setCurrent { clause := some clause }
    | ⟨some existing, none⟩ =>
      (recording.setCurrent { clause := some existing }).fail .duplicateRoot
    | ⟨none, some _⟩ => (recording.setCurrent {}).fail .appendWithoutRoot

/-- Puts an operator behind the innermost level's clause. -/
def join (recording : Recording) (operator : Operator) : Recording :=
  recording.change fun recording =>
    let recording := recording.withLevel
    if recording.current.clause.isNone then recording.fail .appendWithoutRoot
    else recording.setCurrent { recording.current with join := some (operator, []) }

/-- Puts an operator given as a word behind the innermost level's clause. -/
def joinNamed (recording : Recording) (word : String) : Recording :=
  match Operator.ofKeyword? word with
  | some operator => recording.join operator
  | none => recording.fail (.invalidOperator word)

def beginClause (recording : Recording) : Recording :=
  recording.change fun recording =>
    let recording := recording.withLevel
    if recording.isOccupied then recording.fail .duplicateRoot
    else { recording with levels := recording.levels ++ [{}] }

/-- Takes the innermost level away and attaches what stands in it. -/
def endClause (recording : Recording) : Recording :=
  recording.change fun recording =>
    if recording.levels.length < 2 then recording.fail .noOpenClause
    else
      let outside := { recording with levels := recording.levels.dropLast }
      match recording.levels.getLast?.bind Level.clause with
      | some clause => outside.attach clause
      | none => outside.fail .missingRoot

def declare (recording : Recording) (name uri : String) : Recording :=
  recording.change fun recording =>
    if Blank.isBlankText uri then recording.fail .emptyPrefixUri
    else { recording with prefixes := recording.prefixes ++ [⟨name, uri⟩] }

def sortBy (recording : Recording) (index : String) (modifiers : List Modifier) : Recording :=
  recording.change fun recording =>
    if Blank.isBlankText index then recording.fail .emptySortIndex
    else recording.use (modifiers.mapM Modifier.forSortKey) fun recording modifiers =>
      { recording with sortKeys := recording.sortKeys ++ [{ index, modifiers }] }

/-- Begins a search clause; at the start, there must not be a root. -/
def search (recording : Recording) (stage : Stage) (index : String) : Recording :=
  let recording :=
    if stage = .query then
      recording.change fun recording =>
        let recording := recording.withLevel
        if recording.isOccupied then recording.fail .duplicateRoot else recording
    else recording
  { recording with pending := { index, term := "" } }

/-- Gives the pending search clause a relation; an empty one leaves the default. -/
def relation (recording : Recording) (relation : String) : Recording :=
  recording.change fun recording =>
    if relation.isEmpty then { recording with pending := { recording.pending with relation := "" } }
    else if Relation.isBuiltIn relation then
      { recording with pending := { recording.pending with relation } }
    else recording.fail (.invalidRelation relation)

/-- Adds a modifier to the pending search clause. -/
def modifySearch (recording : Recording) (made : Except BuildError Modifier) : Recording :=
  recording.change fun recording => recording.use made fun recording modifier =>
    let modifiers := recording.pending.modifiers ++ [modifier]
    { recording with pending := { recording.pending with modifiers } }

/-- Adds a modifier to the operator that waits, if there is one. -/
def modifyJoin (recording : Recording) (made : Except BuildError Modifier) : Recording :=
  recording.change fun recording => recording.use made fun recording modifier =>
    let recording := recording.withLevel
    match recording.current.join with
    | some (operator, modifiers) =>
      recording.setCurrent
        { recording.current with join := some (operator, modifiers ++ [modifier]) }
    | none => recording

/-- Completes the pending search clause with a term exactly as given. -/
def rawTerm (recording : Recording) (term : String) : Recording :=
  { recording with pending := { term := "" } }.attach (.search [] { recording.pending with term })

/-- Completes the pending search clause with a term that is to match literally. -/
def term (recording : Recording) (term : String) : Recording :=
  let recording := if Blank.isBlankText term then recording.fail .emptyTerm else recording
  recording.rawTerm (Escape.masking (Escape.special term))

def build (recording : Recording) : Except BuildError Query :=
  match recording.error with
  | some error => .error error
  | none =>
    if recording.levels.length > 1 then .error .unclosedClause
    else
      match recording.levels.head?.bind Level.clause with
      | none => .error .missingRoot
      | some clause =>
        let clause :=
          if recording.prefixes.isEmpty then clause
          else clause.withPrefixes (recording.prefixes ++ clause.prefixes)
        .ok { clause, sortKeys := recording.sortKeys }

/-- What a call makes of a recording. -/
def call {before after : Stage} (recording : Recording) : Call before after → Recording
  | .declare name uri => recording.declare name uri
  | .sortBy _ index modifiers => recording.sortBy index modifiers
  | .join _ operator => recording.join operator
  | .joinNamed _ word => recording.joinNamed word
  | .search _ index => recording.search before index
  | .beginClause _ => recording.beginClause
  | .relation name => recording.relation name
  | .searchModifier name => recording.modifySearch (Modifier.named name)
  | .searchModifierWith name comparison value =>
    recording.modifySearch (Modifier.valued name comparison value)
  | .joinModifier name => recording.modifyJoin (Modifier.named name)
  | .joinModifierWith name comparison value =>
    recording.modifyJoin (Modifier.valued name comparison value)
  | .term text => recording.term text
  | .rawTerm text => recording.rawTerm text
  | .endClause => recording.endClause

end Recording

/-- The recording that calls lead to from a given one. -/
def Calls.recordingFrom (first : Recording) {stage : Stage} : Calls stage → Recording
  | .start => first
  | .andThen calls call => (calls.recordingFrom first).call call

end ContextualQuery
