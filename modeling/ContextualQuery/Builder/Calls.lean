import ContextualQuery.Builder

/-!
# Chains of calls

The calls by which a query is built, one behind the other, from the start without a query or from a
query whose clause becomes the root.
-/

namespace ContextualQuery

/-- Calls that lead from the start to a stage, the last one outermost. -/
inductive Calls : Stage → Type
  | start : Calls .query
  | andThen {before after : Stage} (calls : Calls before) (call : Call before after) : Calls after

namespace Calls

/-- The builder that calls lead to from the start without a query. -/
def builder {stage : Stage} : Calls stage → Builder stage
  | .start => .empty
  | .andThen calls call => calls.builder.call call

/-- The builder that calls lead to from a given one. -/
def builderFrom (first : Builder .query) {stage : Stage} : Calls stage → Builder stage
  | .start => first
  | .andThen calls call => (calls.builderFrom first).call call

theorem builder_eq {stage : Stage} (calls : Calls stage) :
    calls.builder = calls.builderFrom .empty := by
  induction calls with
  | start => rfl
  | andThen calls call ih => rw [builder, ih, builderFrom]

end Calls

/-- The start without a query or from a query. -/
def Builder.starting : Option Query → Builder .query
  | none => .empty
  | some query => .ofQuery query

end ContextualQuery
