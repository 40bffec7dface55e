import ContextualQuery.Builder.Draft
import ContextualQuery.Query.Parse

/-!
# Building queries step by step

A query is built by calls, each of which leads from one stage to another, so that only calls in
an order that makes sense can be written down.  Whether the values given may stand in a query is
checked at each call.  The first call that fails fixes the error; the calls behind it change
nothing, and building gives that error.
-/

namespace ContextualQuery

/-- The part of a query that is being built. -/
inductive Stage
  /-- The start: declarations, sort keys, then the root clause. -/
  | query
  /-- A search clause that waits for its term. -/
  | search
  /-- An operator that waits for its right operand. -/
  | join
  /-- Just inside an opened bracket. -/
  | clause
  /-- A complete operand. -/
  | expr
deriving DecidableEq, Repr

namespace Stage

/-- Whether a query can be built at this stage. -/
def isComplete : Stage → Bool
  | .query | .expr => true
  | _ => false

/-- Whether an operand may begin at this stage. -/
def takesOperand : Stage → Bool
  | .query | .join | .clause => true
  | _ => false

end Stage

/-- A call that leads from one stage to another. -/
inductive Call : Stage → Stage → Type
  /-- Declares `> name = uri`, or `> uri` where the name is empty. -/
  | declare (name uri : String) : Call .query .query
  | sortBy {stage : Stage} (complete : stage.isComplete) (index : String)
      (modifiers : List Modifier) : Call stage stage
  | join {stage : Stage} (complete : stage.isComplete) (operator : Operator) : Call stage .join
  /-- Goes on with an operator given as a word. -/
  | joinNamed {stage : Stage} (complete : stage.isComplete) (word : String) : Call stage .join
  | search {stage : Stage} (operand : stage.takesOperand) (index : String) : Call stage .search
  | beginClause {stage : Stage} (operand : stage.takesOperand) : Call stage .clause
  | relation (relation : String) : Call .search .search
  | searchModifier (name : String) : Call .search .search
  | searchModifierWith (name relation value : String) : Call .search .search
  | joinModifier (name : String) : Call .join .join
  | joinModifierWith (name relation value : String) : Call .join .join
  /-- Completes the search clause with a term that is to match literally. -/
  | term (term : String) : Call .search .expr
  /-- Completes the search clause with a term exactly as given. -/
  | rawTerm (term : String) : Call .search .expr
  | endClause : Call .expr .expr

namespace Call

/-- What a call makes of a draft. -/
def apply {before after : Stage} (draft : Draft) : Call before after → Except BuildError Draft
  | .declare name uri => draft.declare name uri
  | .sortBy _ index modifiers => draft.sortBy index modifiers
  | .join _ operator => draft.join operator
  | .joinNamed _ word => draft.joinNamed word
  | @search stage _ index => do
    if stage = .query then draft.current.checkVacant
    .ok (draft.search index)
  | .beginClause _ => draft.beginClause
  | .relation name => draft.relation name
  | .searchModifier name => (Modifier.named name).map draft.modifySearch
  | .searchModifierWith name comparison value =>
    (Modifier.valued name comparison value).map draft.modifySearch
  | .joinModifier name => (Modifier.named name).map draft.modifyJoin
  | .joinModifierWith name comparison value =>
    (Modifier.valued name comparison value).map draft.modifyJoin
  | .term text => draft.term text
  | .rawTerm text => draft.rawTerm text
  | .endClause => draft.endClause

end Call

/-- A query under construction at a stage, or the error that a call before has fixed. -/
structure Builder (stage : Stage) where
  /-- The draft, if no call has failed. -/
  state : Except BuildError Draft

namespace Builder

def empty : Builder .query := ⟨.ok {}⟩

/-- The start from a query, whose clause becomes the root. -/
def ofQuery (query : Query) : Builder .query := ⟨.ok (.ofQuery query)⟩

/-- The start from the text of a query. -/
def ofText (text : String) : Except ParseError (Builder .query) :=
  (Query.parse {} text).map ofQuery

def call {before after : Stage} (builder : Builder before) (call : Call before after) :
    Builder after :=
  ⟨do call.apply (← builder.state)⟩

def build {stage : Stage} (builder : Builder stage) : Except BuildError Query := do
  (← builder.state).build

end Builder
end ContextualQuery
