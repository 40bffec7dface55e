import ContextualQuery.Builder.Calls
import ContextualQuery.Proofs.Results

/-!
# What calls do

Every call that succeeds, with what the draft and the values given must be like for it and the draft
that it leads to.  What holds at the start and is kept by every call holds behind every chain of
calls; so the current group always has the shape of the stage, and the groups around it wait for an
operand.
-/

namespace ContextualQuery

/-! ## Groups -/

namespace Group

/-- Whether an operand may follow in a group. -/
def isVacant : Group → Bool
  | .operand _ => false
  | _ => true

/-- The clause of a group with an operand behind what it holds. -/
def completed (operand : Clause) : Group → Clause
  | .awaiting left operator modifiers => .boolean [] left operator modifiers operand
  | _ => operand

theorem checkVacant_eq_ok {group : Group} : group.checkVacant = .ok () ↔ group.isVacant = true := by
  cases group with
  | operand => exact iff_of_false (by rintro ⟨⟩) Bool.false_ne_true
  | empty | awaiting => exact iff_of_true rfl rfl

theorem attach_eq_ok {group next : Group} {clause : Clause} :
    group.attach clause = .ok next ↔
      group.isVacant = true ∧ next = .operand (group.completed clause) := by
  cases group with
  | operand => exact iff_of_false (by rintro ⟨⟩) fun ⟨vacant, _⟩ => Bool.false_ne_true vacant
  | empty | awaiting =>
    simp only [attach, isVacant, completed, Except.ok.injEq, true_and, @eq_comm _ next]

theorem join_eq_ok {group next : Group} {operator : Operator} :
    group.join operator = .ok next ↔
      ∃ left, group.clause? = some left ∧ next = .awaiting left operator [] := by
  cases group <;> simp [join, clause?, eq_comm]

end Group

/-! ## Modifiers -/

namespace Modifier

theorem checkRelation_eq_ok {modifier made : Modifier} : modifier.checkRelation = .ok made ↔
    Relation.isBuiltIn modifier.relation = true ∧ made = modifier := by
  unfold checkRelation
  split
  · next known => simp only [known, Except.ok.injEq, true_and, @eq_comm _ made]
  · next unknown => exact iff_of_false (by rintro ⟨⟩) fun ⟨known, _⟩ => unknown known

theorem named_eq_ok {name : String} {made : Modifier} :
    named name = .ok made ↔ Blank.isBlankText name = false ∧ made = { name } := by
  unfold named
  cases Blank.isBlankText name <;> simp [eq_comm]

/-- The modifier of a call with a value: the value escaped, an empty relation filled in. -/
def escaped (name relation value : String) : Modifier :=
  ⟨name, Relation.orDefault relation, Escape.special value⟩

theorem valued_eq_ok {name relation value : String} {made : Modifier} :
    valued name relation value = .ok made ↔ Blank.isBlankText name = false ∧
      Relation.isBuiltIn (Relation.orDefault relation) = true ∧
      made = escaped name relation value := by
  unfold valued escaped
  cases Blank.isBlankText name <;> simp [checkRelation_eq_ok]

/-- The modifier that a sort key has for a given one. -/
def keyed (modifier : Modifier) : Modifier :=
  if modifier.value.isEmpty then modifier
  else escaped modifier.name modifier.relation modifier.value

theorem of_forSortKey {modifier made : Modifier} (checked : modifier.forSortKey = .ok made) :
    made = modifier.keyed ∧ (made.relation = "" ∨ Relation.isBuiltIn made.relation = true) := by
  unfold forSortKey at checked
  unfold keyed
  split at checked
  · cases checked
  · split at checked
    · next flag =>
      rw [if_pos flag]
      split at checked
      · next unrelated =>
        cases checked
        exact ⟨rfl, .inl (String.isEmpty_iff.1 unrelated)⟩
      · obtain ⟨known, rfl⟩ := checkRelation_eq_ok.1 checked
        exact ⟨rfl, .inr known⟩
    · next valued =>
      rw [if_neg valued]
      obtain ⟨known, rfl⟩ := checkRelation_eq_ok.1 checked
      exact ⟨rfl, .inr known⟩

end Modifier

/-! ## Drafts -/

namespace Draft

variable {draft next : Draft}

theorem attach_eq_ok {clause : Clause} : draft.attach clause = .ok next ↔
    draft.current.isVacant = true ∧
      next = { draft with current := .operand (draft.current.completed clause) } := by
  simp only [attach, bind_eq_ok, Group.attach_eq_ok, Except.ok.injEq]
  constructor
  · rintro ⟨_, ⟨vacant, rfl⟩, rfl⟩
    exact ⟨vacant, rfl⟩
  · rintro ⟨vacant, rfl⟩
    exact ⟨_, ⟨vacant, rfl⟩, rfl⟩

theorem join_eq_ok {operator : Operator} : draft.join operator = .ok next ↔
    ∃ left, draft.current.clause? = some left ∧
      next = { draft with current := .awaiting left operator [] } := by
  simp only [join, bind_eq_ok, Group.join_eq_ok, Except.ok.injEq]
  constructor
  · rintro ⟨_, ⟨left, holds, rfl⟩, rfl⟩
    exact ⟨left, holds, rfl⟩
  · rintro ⟨left, holds, rfl⟩
    exact ⟨_, ⟨left, holds, rfl⟩, rfl⟩

/-- The draft with the pending search clause, given its term, as an operand. -/
def searched (draft : Draft) (term : String) : Draft :=
  { draft with
    current := .operand (draft.current.completed (.search [] { draft.pending with term }))
    pending := { term := "" } }

theorem declare_eq_ok {name uri : String} : draft.declare name uri = .ok next ↔
    Blank.isBlankText uri = false ∧
      next = { draft with prefixes := draft.prefixes ++ [⟨name, uri⟩] } := by
  unfold declare
  cases Blank.isBlankText uri <;> simp [eq_comm]

theorem sortBy_eq_ok {index : String} {modifiers : List Modifier} :
    draft.sortBy index modifiers = .ok next ↔ Blank.isBlankText index = false ∧
      ∃ checked, modifiers.mapM Modifier.forSortKey = .ok checked ∧
        next = { draft with sortKeys := draft.sortKeys ++ [{ index, modifiers := checked }] } := by
  unfold sortBy
  cases Blank.isBlankText index <;> simp [bind_eq_ok, @eq_comm _ next]

theorem joinNamed_eq_ok {word : String} : draft.joinNamed word = .ok next ↔
    ∃ operator, Operator.ofKeyword? word = some operator ∧ draft.join operator = .ok next := by
  unfold joinNamed
  cases Operator.ofKeyword? word <;> simp

theorem beginClause_eq_ok : draft.beginClause = .ok next ↔ draft.current.isVacant = true ∧
    next = { draft with current := .empty, outer := draft.current :: draft.outer } := by
  simp only [beginClause, bind_eq_ok, Except.ok.injEq]
  constructor
  · rintro ⟨_, checked, rfl⟩
    exact ⟨Group.checkVacant_eq_ok.1 checked, rfl⟩
  · rintro ⟨vacant, rfl⟩
    exact ⟨_, Group.checkVacant_eq_ok.2 vacant, rfl⟩

theorem endClause_eq_ok : draft.endClause = .ok next ↔ ∃ group outer clause,
    draft.outer = group :: outer ∧ draft.current.clause? = some clause ∧
      group.isVacant = true ∧
      next = { draft with current := .operand (group.completed clause), outer := outer } := by
  unfold endClause
  cases draft.outer with
  | nil => simp
  | cons group outer => cases draft.current.clause? <;> simp [attach_eq_ok]

theorem relation_eq_ok {relation : String} : draft.relation relation = .ok next ↔
    (relation = "" ∨ Relation.isBuiltIn relation = true) ∧
      next = { draft with pending := { draft.pending with relation } } := by
  unfold Draft.relation
  rw [← String.isEmpty_iff, ← Bool.or_eq_true]
  cases relation.isEmpty || Relation.isBuiltIn relation <;> simp [eq_comm]

theorem rawTerm_eq_ok {term : String} : draft.rawTerm term = .ok next ↔
    draft.current.isVacant = true ∧ next = draft.searched term :=
  attach_eq_ok

theorem build_eq_ok {query : Query} : draft.build = .ok query ↔
    draft.outer = [] ∧ ∃ clause, draft.current.clause? = some clause ∧
      query = { clause := clause.declaring draft.prefixes, sortKeys := draft.sortKeys } := by
  unfold build
  rw [← List.isEmpty_iff]
  cases draft.outer.isEmpty with
  | false => simp
  | true => cases draft.current.clause? <;> simp [eq_comm]

theorem term_eq_ok {term : String} : draft.term term = .ok next ↔
    Blank.isBlankText term = false ∧ draft.current.isVacant = true ∧
      next = draft.searched (Escape.masking (Escape.special term)) := by
  unfold Draft.term
  cases Blank.isBlankText term <;> simp [rawTerm_eq_ok]

end Draft

/-- The draft that a call makes of another one, if it succeeds. -/
inductive Call.Makes (draft : Draft) : {before after : Stage} → Call before after → Draft → Prop
  | declare {name uri : String} (filled : Blank.isBlankText uri = false) :
    Makes draft (.declare name uri) { draft with prefixes := draft.prefixes ++ [⟨name, uri⟩] }
  | sortBy {stage : Stage} {complete : stage.isComplete = true} {index : String}
    {modifiers checked : List Modifier} (filled : Blank.isBlankText index = false)
    (each : modifiers.mapM Modifier.forSortKey = .ok checked) :
    Makes draft (.sortBy complete index modifiers)
      { draft with sortKeys := draft.sortKeys ++ [{ index, modifiers := checked }] }
  | join {stage : Stage} {complete : stage.isComplete = true} {operator : Operator} {left : Clause}
    (holds : draft.current.clause? = some left) :
    Makes draft (.join complete operator) { draft with current := .awaiting left operator [] }
  | joinNamed {stage : Stage} {complete : stage.isComplete = true} {word : String}
    {operator : Operator} {left : Clause} (named : Operator.ofKeyword? word = some operator)
    (holds : draft.current.clause? = some left) :
    Makes draft (.joinNamed complete word) { draft with current := .awaiting left operator [] }
  | search {stage : Stage} {operand : stage.takesOperand = true} {index : String}
    (vacant : stage = .query → draft.current.isVacant = true) :
    Makes draft (.search operand index) { draft with pending := { index, term := "" } }
  | beginClause {stage : Stage} {operand : stage.takesOperand = true}
    (vacant : draft.current.isVacant = true) :
    Makes draft (.beginClause operand)
      { draft with current := .empty, outer := draft.current :: draft.outer }
  | relation {relation : String} (known : relation = "" ∨ Relation.isBuiltIn relation = true) :
    Makes draft (.relation relation) { draft with pending := { draft.pending with relation } }
  | searchModifier {name : String} {modifier : Modifier}
    (made : Modifier.named name = .ok modifier) :
    Makes draft (.searchModifier name) (draft.modifySearch modifier)
  | searchModifierWith {name relation value : String} {modifier : Modifier}
    (made : Modifier.valued name relation value = .ok modifier) :
    Makes draft (.searchModifierWith name relation value) (draft.modifySearch modifier)
  | joinModifier {name : String} {modifier : Modifier} (made : Modifier.named name = .ok modifier) :
    Makes draft (.joinModifier name) (draft.modifyJoin modifier)
  | joinModifierWith {name relation value : String} {modifier : Modifier}
    (made : Modifier.valued name relation value = .ok modifier) :
    Makes draft (.joinModifierWith name relation value) (draft.modifyJoin modifier)
  | term {term : String} (filled : Blank.isBlankText term = false)
    (vacant : draft.current.isVacant = true) :
    Makes draft (.term term) (draft.searched (Escape.masking (Escape.special term)))
  | rawTerm {term : String} (vacant : draft.current.isVacant = true) :
    Makes draft (.rawTerm term) (draft.searched term)
  | endClause {group : Group} {outer : List Group} {clause : Clause}
    (opened : draft.outer = group :: outer) (holds : draft.current.clause? = some clause)
    (vacant : group.isVacant = true) :
    Makes draft .endClause
      { draft with current := .operand (group.completed clause), outer := outer }

namespace Call

variable {before after : Stage} {draft next : Draft} {call : Call before after}

theorem makes_of_apply (applied : call.apply draft = .ok next) : call.Makes draft next := by
  cases call with
  | declare =>
    obtain ⟨filled, rfl⟩ := Draft.declare_eq_ok.1 applied
    exact .declare filled
  | sortBy =>
    obtain ⟨filled, checked, each, rfl⟩ := Draft.sortBy_eq_ok.1 applied
    exact .sortBy filled each
  | join =>
    obtain ⟨left, holds, rfl⟩ := Draft.join_eq_ok.1 applied
    exact .join holds
  | joinNamed =>
    obtain ⟨operator, named, joined⟩ := Draft.joinNamed_eq_ok.1 applied
    obtain ⟨left, holds, rfl⟩ := Draft.join_eq_ok.1 joined
    exact .joinNamed named holds
  | search =>
    rw [apply] at applied
    split at applied
    · obtain ⟨_, checked, same⟩ := bind_eq_ok.1 applied
      cases same
      exact .search fun _ => Group.checkVacant_eq_ok.1 checked
    · next inner =>
      cases applied
      exact .search fun query => absurd query inner
  | beginClause =>
    obtain ⟨vacant, rfl⟩ := Draft.beginClause_eq_ok.1 applied
    exact .beginClause vacant
  | relation =>
    obtain ⟨known, rfl⟩ := Draft.relation_eq_ok.1 applied
    exact .relation known
  | searchModifier =>
    obtain ⟨modifier, made, rfl⟩ := map_eq_ok.1 applied
    exact .searchModifier made
  | searchModifierWith =>
    obtain ⟨modifier, made, rfl⟩ := map_eq_ok.1 applied
    exact .searchModifierWith made
  | joinModifier =>
    obtain ⟨modifier, made, rfl⟩ := map_eq_ok.1 applied
    exact .joinModifier made
  | joinModifierWith =>
    obtain ⟨modifier, made, rfl⟩ := map_eq_ok.1 applied
    exact .joinModifierWith made
  | term =>
    obtain ⟨filled, vacant, rfl⟩ := Draft.term_eq_ok.1 applied
    exact .term filled vacant
  | rawTerm =>
    obtain ⟨vacant, rfl⟩ := Draft.rawTerm_eq_ok.1 applied
    exact .rawTerm vacant
  | endClause =>
    obtain ⟨group, outer, clause, opened, holds, vacant, rfl⟩ := Draft.endClause_eq_ok.1 applied
    exact .endClause opened holds vacant

theorem apply_of_makes (makes : call.Makes draft next) : call.apply draft = .ok next := by
  cases makes with
  | declare filled => exact Draft.declare_eq_ok.2 ⟨filled, rfl⟩
  | sortBy filled each => exact Draft.sortBy_eq_ok.2 ⟨filled, _, each, rfl⟩
  | join holds => exact Draft.join_eq_ok.2 ⟨_, holds, rfl⟩
  | joinNamed named holds =>
    exact Draft.joinNamed_eq_ok.2 ⟨_, named, Draft.join_eq_ok.2 ⟨_, holds, rfl⟩⟩
  | search vacant =>
    rw [apply]
    split
    · next query => exact bind_eq_ok.2 ⟨(), Group.checkVacant_eq_ok.2 (vacant query), rfl⟩
    · rfl
  | beginClause vacant => exact Draft.beginClause_eq_ok.2 ⟨vacant, rfl⟩
  | relation known => exact Draft.relation_eq_ok.2 ⟨known, rfl⟩
  | searchModifier made | searchModifierWith made | joinModifier made | joinModifierWith made =>
    exact map_eq_ok.2 ⟨_, made, rfl⟩
  | term filled vacant => exact Draft.term_eq_ok.2 ⟨filled, vacant, rfl⟩
  | rawTerm vacant => exact Draft.rawTerm_eq_ok.2 ⟨vacant, rfl⟩
  | endClause opened holds vacant =>
    exact Draft.endClause_eq_ok.2 ⟨_, _, _, opened, holds, vacant, rfl⟩

/-- A call succeeds exactly in the cases of `Makes`. -/
theorem apply_eq_ok : call.apply draft = .ok next ↔ call.Makes draft next :=
  ⟨makes_of_apply, apply_of_makes⟩

end Call

/-! ## Chains -/

/-- What the calls of a chain keep holds behind the chain. -/
theorem Calls.holds_of_state (holds : {stage : Stage} → Calls stage → Draft → Prop)
    {first : Builder .query} (start : ∀ draft, first.state = .ok draft → holds .start draft)
    (step : ∀ {before after : Stage} {calls : Calls before} {call : Call before after}
      {draft next : Draft}, holds calls draft → call.Makes draft next →
        holds (calls.andThen call) next)
    {stage : Stage} {calls : Calls stage} {draft : Draft}
    (reached : (calls.builderFrom first).state = .ok draft) : holds calls draft := by
  induction calls generalizing draft with
  | start => exact start draft reached
  | andThen calls call ih =>
    obtain ⟨earlier, before, applied⟩ := bind_eq_ok.1 reached
    exact step (ih before) (Call.apply_eq_ok.1 applied)

/-- The groups that the next operand may stand in at a stage. -/
inductive Group.Fits : Stage → Group → Prop
  | start : Fits .query .empty
  | root (clause : Clause) : Fits .query (.operand clause)
  | search {group : Group} (vacant : group.isVacant = true) : Fits .search group
  | join (left : Clause) (operator : Operator) (modifiers : List Modifier) :
    Fits .join (.awaiting left operator modifiers)
  | clause : Fits .clause .empty
  | expr (clause : Clause) : Fits .expr (.operand clause)

/-- Whether the groups of a draft have the shape of the stage. -/
structure Draft.Fits (draft : Draft) (stage : Stage) : Prop where
  current : draft.current.Fits stage
  /-- Around the current group, an operand is waited for everywhere. -/
  outer : ∀ group ∈ draft.outer, group.isVacant = true

theorem Group.Fits.isVacant {stage : Stage} {group : Group} (fits : group.Fits stage)
    (operand : stage.takesOperand = true) (inner : stage ≠ .query) : group.isVacant = true := by
  cases fits with
  | start | root => exact absurd rfl inner
  | search | expr => cases operand
  | join | clause => rfl

/-- Where an operand is complete, the clause of the group has no operator behind it. -/
theorem Group.Fits.eq_operand {stage : Stage} {group : Group} (fits : group.Fits stage)
    (complete : stage.isComplete = true) {clause : Clause} (holds : group.clause? = some clause) :
    group = .operand clause := by
  cases fits with
  | start => cases holds
  | search | join | clause => cases complete
  | root | expr => exact congrArg _ (Option.some.inj holds)

theorem Group.Fits.addModifier {group : Group} (fits : group.Fits .join) (modifier : Modifier) :
    (group.addModifier modifier).Fits .join := by
  cases fits
  exact .join _ _ _

/-- Every call leads to groups of the shape of the next stage. -/
theorem Call.Makes.fits {before after : Stage} {call : Call before after} {draft next : Draft}
    (makes : call.Makes draft next) (fits : draft.Fits before) : next.Fits after := by
  cases makes with
  | declare | sortBy | relation | searchModifier | searchModifierWith =>
    exact ⟨fits.current, fits.outer⟩
  | join | joinNamed => exact ⟨.join _ _ _, fits.outer⟩
  | @search _ operand _ vacant =>
    refine ⟨.search ?_, fits.outer⟩
    by_cases query : before = .query
    · exact vacant query
    · exact fits.current.isVacant operand query
  | beginClause vacant => exact ⟨.clause, List.forall_mem_cons.2 ⟨vacant, fits.outer⟩⟩
  | joinModifier | joinModifierWith =>
    exact ⟨fits.current.addModifier _, fits.outer⟩
  | term | rawTerm => exact ⟨.expr _, fits.outer⟩
  | endClause opened =>
    refine ⟨.expr _, fun group member => fits.outer group ?_⟩
    rw [opened]
    exact List.mem_cons_of_mem _ member

end ContextualQuery
