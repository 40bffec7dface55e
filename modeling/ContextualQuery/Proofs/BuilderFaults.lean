import ContextualQuery.Proofs.BuilderSteps

/-!
# Faults of calls

Which calls fail, and with which error.  The groups of a draft have the shape of the stage, so that
an operator without a left operand and a second root can only be met at the start, and an operand is
missing only where nothing was written at all.  The first error stays whatever calls follow, and as
long as no call fails, no modifier of an operator is lost.
-/

namespace ContextualQuery

/-! ## Failing calls -/

namespace BuildError

/-- Whether an error is about a value given with a call, not about where the call stands. -/
def concernsValue : BuildError → Bool
  | .duplicateRoot | .missingRoot | .appendWithoutRoot | .noOpenClause | .unclosedClause => false
  | _ => true

end BuildError

namespace Modifier

variable {error : BuildError}

theorem concernsValue_of_checkRelation {modifier : Modifier}
    (refused : modifier.checkRelation = .error error) : error.concernsValue = true := by
  unfold checkRelation at refused
  split at refused
  · cases refused
  · cases refused
    rfl

theorem concernsValue_of_named {name : String} (refused : named name = .error error) :
    error.concernsValue = true := by
  unfold named at refused
  split at refused
  · cases refused
    rfl
  · cases refused

theorem concernsValue_of_valued {name relation value : String}
    (refused : valued name relation value = .error error) : error.concernsValue = true := by
  unfold valued at refused
  split at refused
  · cases refused
    rfl
  · exact concernsValue_of_checkRelation refused

theorem concernsValue_of_forSortKey {modifier : Modifier}
    (refused : modifier.forSortKey = .error error) : error.concernsValue = true := by
  unfold forSortKey at refused
  split at refused
  · cases refused
    rfl
  · split at refused
    · split at refused
      · cases refused
      · exact concernsValue_of_checkRelation refused
    · exact concernsValue_of_checkRelation refused

end Modifier

namespace Group

theorem exists_operand {group : Group} (occupied : group.isVacant = false) :
    ∃ clause, group = .operand clause := by
  cases group with
  | operand clause => exact ⟨clause, rfl⟩
  | empty | awaiting => cases occupied

theorem clause?_eq_none {group : Group} : group.clause? = none ↔ group = .empty := by
  cases group <;> simp [clause?]

/-- Where an operand is complete, a group is without clause only at the start. -/
theorem Fits.stage_eq_query {stage : Stage} (fits : Group.empty.Fits stage)
    (complete : stage.isComplete = true) : stage = .query := by
  cases fits with
  | start => rfl
  | search | clause => cases complete

theorem Fits.isVacant_of_search {group : Group} (fits : group.Fits .search) :
    group.isVacant = true := by
  cases fits with
  | search vacant => exact vacant

/-- Where an operand may begin, a group has one already only at the start. -/
theorem Fits.stage_of_occupied {stage : Stage} {group : Group} (fits : group.Fits stage)
    (operand : stage.takesOperand = true) (occupied : group.isVacant = false) :
    stage = .query := by
  by_contra inner
  rw [fits.isVacant operand inner] at occupied
  cases occupied

theorem checkVacant_eq_error {group : Group} {error : BuildError} :
    group.checkVacant = .error error ↔ group.isVacant = false ∧ error = .duplicateRoot := by
  cases group <;> simp [checkVacant, isVacant, eq_comm]

theorem attach_eq_error {group : Group} {clause : Clause} {error : BuildError} :
    group.attach clause = .error error ↔ group.isVacant = false ∧ error = .duplicateRoot := by
  cases group <;> simp [attach, isVacant, eq_comm]

theorem join_eq_error {group : Group} {operator : Operator} {error : BuildError} :
    group.join operator = .error error ↔ group = .empty ∧ error = .appendWithoutRoot := by
  cases group <;> simp [join, eq_comm]

end Group

namespace Draft

variable {draft : Draft} {error : BuildError}

theorem attach_eq_error {clause : Clause} : draft.attach clause = .error error ↔
    draft.current.isVacant = false ∧ error = .duplicateRoot := by
  simp [attach, bind_eq_error, Group.attach_eq_error]

theorem join_eq_error {operator : Operator} : draft.join operator = .error error ↔
    draft.current = .empty ∧ error = .appendWithoutRoot := by
  simp [join, bind_eq_error, Group.join_eq_error]

theorem declare_eq_error {name uri : String} : draft.declare name uri = .error error ↔
    Blank.isBlankText uri = true ∧ error = .emptyPrefixUri := by
  unfold declare
  cases Blank.isBlankText uri <;> simp [eq_comm]

theorem sortBy_eq_error {index : String} {modifiers : List Modifier} :
    draft.sortBy index modifiers = .error error ↔
      Blank.isBlankText index = true ∧ error = .emptySortIndex ∨
      Blank.isBlankText index = false ∧ modifiers.mapM Modifier.forSortKey = .error error := by
  unfold sortBy
  cases Blank.isBlankText index <;> simp [bind_eq_error, @eq_comm _ error]

theorem joinNamed_eq_error {word : String} : draft.joinNamed word = .error error ↔
    Operator.ofKeyword? word = none ∧ error = .invalidOperator word ∨
      ∃ operator, Operator.ofKeyword? word = some operator ∧
        draft.join operator = .error error := by
  unfold joinNamed
  cases Operator.ofKeyword? word <;> simp [eq_comm]

theorem beginClause_eq_error : draft.beginClause = .error error ↔
    draft.current.isVacant = false ∧ error = .duplicateRoot := by
  simp [beginClause, bind_eq_error, Group.checkVacant_eq_error]

theorem relation_eq_error {relation : String} : draft.relation relation = .error error ↔
    (relation ≠ "" ∧ Relation.isBuiltIn relation = false) ∧ error = .invalidRelation relation := by
  unfold Draft.relation
  rw [← String.isEmpty_eq_false_iff, ← Bool.or_eq_false_iff]
  cases relation.isEmpty || Relation.isBuiltIn relation <;> simp [eq_comm]

theorem rawTerm_eq_error {term : String} : draft.rawTerm term = .error error ↔
    draft.current.isVacant = false ∧ error = .duplicateRoot :=
  attach_eq_error

theorem term_eq_error {term : String} : draft.term term = .error error ↔
    Blank.isBlankText term = true ∧ error = .emptyTerm ∨
      Blank.isBlankText term = false ∧ draft.current.isVacant = false ∧ error = .duplicateRoot := by
  unfold Draft.term
  cases Blank.isBlankText term <;> simp [rawTerm_eq_error, @eq_comm _ error]

theorem endClause_eq_error : draft.endClause = .error error ↔
    draft.outer = [] ∧ error = .noOpenClause ∨
      ∃ group outer, draft.outer = group :: outer ∧
        (draft.current = .empty ∧ error = .missingRoot ∨
          draft.current ≠ .empty ∧ group.isVacant = false ∧ error = .duplicateRoot) := by
  unfold endClause
  cases draft.outer with
  | nil => simp [@eq_comm _ error]
  | cons group outer =>
    rw [ne_eq, ← Group.clause?_eq_none]
    cases draft.current.clause? <;> simp [attach_eq_error, @eq_comm _ error]

theorem build_eq_error : draft.build = .error error ↔
    draft.outer ≠ [] ∧ error = .unclosedClause ∨
      draft.outer = [] ∧ draft.current = .empty ∧ error = .missingRoot := by
  unfold build
  rw [← Group.clause?_eq_none]
  cases draft.outer with
  | nil => cases draft.current.clause? <;> simp [eq_comm]
  | cons => simp [eq_comm]

end Draft

namespace Call

/-- The error with which a call fails on a draft whose groups have the shape of the stage. -/
inductive Fails (draft : Draft) : {before after : Stage} → Call before after → BuildError → Prop
  | declare {name uri : String} (blank : Blank.isBlankText uri = true) :
    Fails draft (.declare name uri) .emptyPrefixUri
  | sortIndex {stage : Stage} {complete : stage.isComplete = true} {index : String}
    {modifiers : List Modifier} (blank : Blank.isBlankText index = true) :
    Fails draft (.sortBy complete index modifiers) .emptySortIndex
  | sortModifier {stage : Stage} {complete : stage.isComplete = true} {index : String}
    {modifiers : List Modifier} {modifier : Modifier} {error : BuildError}
    (member : modifier ∈ modifiers) (refused : modifier.forSortKey = .error error) :
    Fails draft (.sortBy complete index modifiers) error
  /-- An operator stands at the start and there is no root. -/
  | join {complete : Stage.query.isComplete = true} {operator : Operator}
    (rootless : draft.current = .empty) : Fails draft (.join complete operator) .appendWithoutRoot
  | joinWord {stage : Stage} {complete : stage.isComplete = true} {word : String}
    (unknown : Operator.ofKeyword? word = none) :
    Fails draft (.joinNamed complete word) (.invalidOperator word)
  | joinNamed {complete : Stage.query.isComplete = true} {word : String}
    (rootless : draft.current = .empty) : Fails draft (.joinNamed complete word) .appendWithoutRoot
  /-- An operand begins at the start and there is a root. -/
  | search {operand : Stage.query.takesOperand = true} {index : String} {root : Clause}
    (rooted : draft.current = .operand root) : Fails draft (.search operand index) .duplicateRoot
  | beginClause {operand : Stage.query.takesOperand = true} {root : Clause}
    (rooted : draft.current = .operand root) : Fails draft (.beginClause operand) .duplicateRoot
  | relation {relation : String} (nonempty : relation ≠ "")
    (unknown : Relation.isBuiltIn relation = false) :
    Fails draft (.relation relation) (.invalidRelation relation)
  | searchModifier {name : String} {error : BuildError}
    (refused : Modifier.named name = .error error) : Fails draft (.searchModifier name) error
  | searchModifierWith {name relation value : String} {error : BuildError}
    (refused : Modifier.valued name relation value = .error error) :
    Fails draft (.searchModifierWith name relation value) error
  | joinModifier {name : String} {error : BuildError}
    (refused : Modifier.named name = .error error) : Fails draft (.joinModifier name) error
  | joinModifierWith {name relation value : String} {error : BuildError}
    (refused : Modifier.valued name relation value = .error error) :
    Fails draft (.joinModifierWith name relation value) error
  | term {term : String} (blank : Blank.isBlankText term = true) :
    Fails draft (.term term) .emptyTerm
  | endClause (closed : draft.outer = []) : Fails draft .endClause .noOpenClause

variable {before after : Stage} {draft : Draft} {call : Call before after} {error : BuildError}

theorem search_eq_error {operand : before.takesOperand = true} {index : String} :
    (search operand index).apply draft = .error error ↔
      before = .query ∧ draft.current.isVacant = false ∧ error = .duplicateRoot := by
  rw [apply]
  split
  · next query => simp [query, bind_eq_error, Group.checkVacant_eq_error]
  · next inner => simp [inner]

theorem fails_of_apply (fits : draft.Fits before) (failed : call.apply draft = .error error) :
    call.Fails draft error := by
  cases call with
  | declare name uri =>
    obtain ⟨blank, rfl⟩ := Draft.declare_eq_error.1 failed
    exact .declare blank
  | sortBy complete index modifiers =>
    rcases Draft.sortBy_eq_error.1 failed with ⟨blank, rfl⟩ | ⟨-, refused⟩
    · exact .sortIndex blank
    · obtain ⟨modifier, member, refused⟩ := exists_error_of_mapM refused
      exact .sortModifier member refused
  | join complete operator =>
    obtain ⟨rootless, rfl⟩ := Draft.join_eq_error.1 failed
    obtain rfl := (rootless ▸ fits.current).stage_eq_query complete
    exact .join rootless
  | joinNamed complete word =>
    rcases Draft.joinNamed_eq_error.1 failed with ⟨unknown, rfl⟩ | ⟨operator, -, refused⟩
    · exact .joinWord unknown
    · obtain ⟨rootless, rfl⟩ := Draft.join_eq_error.1 refused
      obtain rfl := (rootless ▸ fits.current).stage_eq_query complete
      exact .joinNamed rootless
  | search operand index =>
    obtain ⟨rfl, occupied, rfl⟩ := search_eq_error.1 failed
    obtain ⟨root, rooted⟩ := Group.exists_operand occupied
    exact .search rooted
  | beginClause operand =>
    obtain ⟨occupied, rfl⟩ := Draft.beginClause_eq_error.1 failed
    obtain rfl := fits.current.stage_of_occupied operand occupied
    obtain ⟨root, rooted⟩ := Group.exists_operand occupied
    exact .beginClause rooted
  | relation name =>
    obtain ⟨⟨nonempty, unknown⟩, rfl⟩ := Draft.relation_eq_error.1 failed
    exact .relation nonempty unknown
  | searchModifier name => exact .searchModifier (map_eq_error.1 failed)
  | searchModifierWith name comparison value => exact .searchModifierWith (map_eq_error.1 failed)
  | joinModifier name => exact .joinModifier (map_eq_error.1 failed)
  | joinModifierWith name comparison value => exact .joinModifierWith (map_eq_error.1 failed)
  | term text =>
    rcases Draft.term_eq_error.1 failed with ⟨blank, rfl⟩ | ⟨-, occupied, -⟩
    · exact .term blank
    · cases fits.current.isVacant_of_search.symm.trans occupied
  | rawTerm text =>
    obtain ⟨occupied, -⟩ := Draft.rawTerm_eq_error.1 failed
    cases fits.current.isVacant_of_search.symm.trans occupied
  | endClause =>
    rcases Draft.endClause_eq_error.1 failed with
      ⟨closed, rfl⟩ | ⟨group, outer, opened, ⟨missing, -⟩ | ⟨-, occupied, -⟩⟩
    · exact .endClause closed
    · cases (missing ▸ fits.current).stage_eq_query rfl
    · have vacant := fits.outer group (by rw [opened]; exact List.mem_cons_self)
      cases vacant.symm.trans occupied

/-- Whether a call puts an operator behind what stands. -/
def isJoin {before after : Stage} : Call before after → Bool
  | .join .. | .joinNamed .. => true
  | _ => false

/-- Whether a call begins an operand, which may be one in brackets. -/
def beginsOperand {before after : Stage} : Call before after → Bool
  | .search .. | .beginClause .. => true
  | _ => false

namespace Fails

/-- Errors that concern no value come from three causes only. -/
theorem cause (fails : call.Fails draft error) : error.concernsValue = true ∨
    error = .appendWithoutRoot ∧ call.isJoin = true ∧ before = .query ∧ draft.current = .empty ∨
    error = .duplicateRoot ∧ call.beginsOperand = true ∧ before = .query ∧
      (∃ root, draft.current = .operand root) ∨
    error = .noOpenClause ∧ draft.outer = [] := by
  cases fails with
  | declare _ | sortIndex _ | joinWord _ | relation _ _ | term _ => exact .inl rfl
  | sortModifier _ refused => exact .inl (Modifier.concernsValue_of_forSortKey refused)
  | searchModifier refused | joinModifier refused =>
    exact .inl (Modifier.concernsValue_of_named refused)
  | searchModifierWith refused | joinModifierWith refused =>
    exact .inl (Modifier.concernsValue_of_valued refused)
  | join rootless | joinNamed rootless => exact .inr (.inl ⟨rfl, rfl, rfl, rootless⟩)
  | search rooted | beginClause rooted => exact .inr (.inr (.inl ⟨rfl, rfl, rfl, _, rooted⟩))
  | endClause closed => exact .inr (.inr (.inr ⟨rfl, closed⟩))

end Fails

/-! ## What calls add -/

/-- The number of brackets that a call opens. -/
def opened {before after : Stage} : Call before after → Nat
  | .beginClause _ => 1
  | _ => 0

/-- The number of brackets that a call closes. -/
def closed {before after : Stage} : Call before after → Nat
  | .endClause => 1
  | _ => 0

/-- The modifiers that a call adds to an operator. -/
def operatorModifiers {before after : Stage} : Call before after → List Modifier
  | .joinModifier name => [{ name }]
  | .joinModifierWith name comparison value => [.escaped name comparison value]
  | _ => []

end Call

namespace Calls

def opened {stage : Stage} : Calls stage → Nat
  | .start => 0
  | .andThen calls call => calls.opened + call.opened

def closed {stage : Stage} : Calls stage → Nat
  | .start => 0
  | .andThen calls call => calls.closed + call.closed

/-- The modifiers that a chain adds to operators, in order. -/
def operatorModifiers {stage : Stage} : Calls stage → List Modifier
  | .start => []
  | .andThen calls call => calls.operatorModifiers ++ call.operatorModifiers

end Calls

/-- The modifiers of all operators, from left to right. -/
def Clause.operatorModifiers : Clause → List Modifier
  | .search .. | .matchAll _ => []
  | .boolean _ left _ modifiers right =>
    left.operatorModifiers ++ modifiers ++ right.operatorModifiers

namespace Group

def operatorModifiers : Group → List Modifier
  | .empty => []
  | .operand clause => clause.operatorModifiers
  | .awaiting left _ modifiers => left.operatorModifiers ++ modifiers

theorem operatorModifiers_completed {group : Group} (vacant : group.isVacant = true)
    (operand : Clause) : (group.completed operand).operatorModifiers =
      group.operatorModifiers ++ operand.operatorModifiers := by
  cases group with
  | operand => cases vacant
  | empty | awaiting => rfl

theorem operatorModifiers_addModifier {group : Group} (fits : group.Fits .join)
    (modifier : Modifier) :
    (group.addModifier modifier).operatorModifiers = group.operatorModifiers ++ [modifier] := by
  cases fits with
  | join left operator modifiers => exact (List.append_assoc _ _ _).symm

end Group

/-- The modifiers of all operators, those that wait for an operand included. -/
def Draft.operatorModifiers (draft : Draft) : List Modifier :=
  draft.outer.reverse.flatMap Group.operatorModifiers ++ draft.current.operatorModifiers

namespace Call.Makes

variable {before after : Stage} {call : Call before after} {draft next : Draft}

theorem length_outer (makes : call.Makes draft next) :
    next.outer.length + call.closed = draft.outer.length + call.opened := by
  cases makes with
  | endClause opened => rw [opened]; rfl
  | _ => rfl

theorem operatorModifiers (makes : call.Makes draft next) (fits : draft.Fits before) :
    next.operatorModifiers = draft.operatorModifiers ++ call.operatorModifiers := by
  cases makes with
  | declare | sortBy | search | relation | searchModifier | searchModifierWith =>
    exact (List.append_nil _).symm
  | @join _ complete _ _ holds | @joinNamed _ complete _ _ _ _ holds =>
    rw [Draft.operatorModifiers, Draft.operatorModifiers,
      fits.current.eq_operand complete holds]
    exact (List.append_assoc _ _ _).symm
  | beginClause =>
    simp [Draft.operatorModifiers, Call.operatorModifiers, Group.operatorModifiers]
  | joinModifier made =>
    obtain ⟨-, rfl⟩ := Modifier.named_eq_ok.1 made
    rw [Draft.operatorModifiers, Draft.modifyJoin,
      Group.operatorModifiers_addModifier fits.current]
    exact (List.append_assoc _ _ _).symm
  | joinModifierWith made =>
    obtain ⟨-, -, rfl⟩ := Modifier.valued_eq_ok.1 made
    rw [Draft.operatorModifiers, Draft.modifyJoin,
      Group.operatorModifiers_addModifier fits.current]
    exact (List.append_assoc _ _ _).symm
  | term _ vacant | rawTerm vacant =>
    simp [Draft.operatorModifiers, Draft.searched, Call.operatorModifiers,
      Group.operatorModifiers, Group.operatorModifiers_completed vacant, Clause.operatorModifiers]
  | endClause opened holds vacant =>
    rw [Draft.operatorModifiers, Draft.operatorModifiers, opened,
      fits.current.eq_operand rfl holds]
    simp [Call.operatorModifiers, Group.operatorModifiers,
      Group.operatorModifiers_completed vacant]

end Call.Makes

/-! ## Chains -/

/-- The builders that chains start from, each with the query that it goes on from. -/
inductive Builder.StartsFrom : Option Query → Builder .query → Prop
  | empty : StartsFrom none .empty
  | query (query : Query) : StartsFrom (some query) (.ofQuery query)
  | text {text : String} {query : Query} {builder : Builder .query}
    (parsed : Query.parse {} text = .ok query) (read : Builder.ofText text = .ok builder) :
    StartsFrom (some query) builder

theorem Builder.StartsFrom.eq_starting {start : Option Query} {first : Builder .query}
    (starts : Builder.StartsFrom start first) : first = .starting start := by
  cases starts with
  | empty | query => rfl
  | text parsed read =>
    rw [Builder.ofText, parsed] at read
    exact (Except.ok.inj read).symm

theorem Clause.operatorModifiers_declaring (prefixes : List Prefix) (clause : Clause) :
    (clause.declaring prefixes).operatorModifiers = clause.operatorModifiers := by
  cases clause <;> rfl

namespace Calls

/-- Whether the calls of a chain begin with those of another one. -/
inductive GoesOn {stage : Stage} (calls : Calls stage) : {after : Stage} → Calls after → Prop
  | refl : GoesOn calls calls
  | andThen {before after : Stage} {longer : Calls before} (goesOn : GoesOn calls longer)
    (call : Call before after) : GoesOn calls (longer.andThen call)

/-- A call of a chain that fails, while those in front of it lead to a draft. -/
structure FailsAt (first : Builder .query) {stage before after : Stage} (calls : Calls stage)
    (earlier : Calls before) (draft : Draft) (call : Call before after) (error : BuildError) :
    Prop where
  goesOn : (earlier.andThen call).GoesOn calls
  reached : (earlier.builderFrom first).state = .ok draft
  failed : call.apply draft = .error error

/-- What a draft holds of the calls that led to it. -/
structure Leaves (start : Option Query) {stage : Stage} (calls : Calls stage) (draft : Draft) :
    Prop where
  fits : draft.Fits stage
  /-- No bracket is open at the start. -/
  root : stage = .query → draft.outer = []
  brackets : draft.outer.length + calls.closed = calls.opened
  operatorModifiers : draft.operatorModifiers =
    start.elim [] (·.clause.operatorModifiers) ++ calls.operatorModifiers

variable {start : Option Query} {first : Builder .query} {stage : Stage} {calls : Calls stage}
variable {draft : Draft} {error : BuildError}

theorem leaves_start (reached : (Builder.starting start).state = .ok draft) :
    Calls.start.Leaves start draft := by
  cases start with
  | none =>
    cases reached
    exact ⟨⟨.start, List.forall_mem_nil _⟩, fun _ => rfl, rfl, rfl⟩
  | some query =>
    cases reached
    exact ⟨⟨.root _, List.forall_mem_nil _⟩, fun _ => rfl, rfl, (List.append_nil _).symm⟩

theorem leaves_of_state (reached : (calls.builderFrom (.starting start)).state = .ok draft) :
    calls.Leaves start draft := by
  refine holds_of_state (Leaves start) (fun draft => leaves_start) ?_ reached
  rintro before after calls call draft next ⟨fits, root, brackets, modifiers⟩ makes
  refine ⟨makes.fits fits, ?_, ?_, ?_⟩
  · rintro rfl
    cases makes with
    | declare | sortBy => exact root rfl
  · have added := makes.length_outer
    rw [closed, opened]
    omega
  · rw [makes.operatorModifiers fits, modifiers, operatorModifiers, List.append_assoc]

/-- Behind a call that fails, no call changes the error. -/
theorem state_of_goesOn (failed : (calls.builderFrom first).state = .error error) {after : Stage}
    {longer : Calls after} (goesOn : calls.GoesOn longer) :
    (longer.builderFrom first).state = .error error := by
  induction goesOn with
  | refl => exact failed
  | andThen _ call ih => exact bind_eq_error.2 (.inl ih)

/-- The error of a chain comes from a call that fails behind calls that do not. -/
theorem exists_failsAt (begun : first.state = .ok draft)
    (failed : (calls.builderFrom first).state = .error error) :
    ∃ (before after : Stage) (earlier : Calls before) (reached : Draft) (call : Call before after),
      calls.FailsAt first earlier reached call error := by
  induction calls with
  | start => exact absurd (begun.symm.trans failed) (by rintro ⟨⟩)
  | andThen calls call ih =>
    rcases bind_eq_error.1 failed with before | ⟨reached, leads, fails⟩
    · obtain ⟨_, _, earlier, reached, failing, found⟩ := ih before
      exact ⟨_, _, earlier, reached, failing, found.goesOn.andThen call, found.reached,
        found.failed⟩
    · exact ⟨_, _, calls, reached, call, .refl, leads, fails⟩

namespace Leaves

/-- What calls lead to lacks a clause only where nothing was given and nothing written. -/
theorem build_eq_missingRoot (leaves : calls.Leaves start draft)
    (complete : stage.isComplete = true) :
    draft.build = .error .missingRoot ↔ stage = .query ∧ draft.current = .empty := by
  rw [Draft.build_eq_error]
  constructor
  · rintro (⟨-, ⟨⟩⟩ | ⟨-, missing, -⟩)
    exact ⟨(missing ▸ leaves.fits.current).stage_eq_query complete, missing⟩
  · rintro ⟨query, missing⟩
    exact .inr ⟨leaves.root query, missing, rfl⟩

theorem build_eq_unclosedClause (leaves : calls.Leaves start draft) :
    draft.build = .error .unclosedClause ↔ calls.closed < calls.opened := by
  have brackets := leaves.brackets
  rw [Draft.build_eq_error, ← List.length_pos_iff]
  constructor
  · rintro (⟨opened, -⟩ | ⟨-, -, ⟨⟩⟩)
    omega
  · intro fewer
    exact .inl ⟨by omega, rfl⟩

theorem operatorModifiers_of_build (leaves : calls.Leaves start draft) {query : Query}
    (complete : stage.isComplete = true) (built : draft.build = .ok query) :
    query.clause.operatorModifiers =
      start.elim [] (·.clause.operatorModifiers) ++ calls.operatorModifiers := by
  obtain ⟨closed, clause, holds, rfl⟩ := Draft.build_eq_ok.1 built
  rw [Clause.operatorModifiers_declaring, ← leaves.operatorModifiers, Draft.operatorModifiers,
    closed, leaves.fits.current.eq_operand complete holds]
  rfl

end Leaves

/-- The first call that fails fixes the error, which every longer chain keeps and building gives.
As long as no call fails, the groups have the shape of the stage: an operator lacks its left operand
and an operand has no place only at the start, where the root is missing or there already, and what
is built lacks a clause only there.  A bracket stays open exactly if fewer are closed than opened,
and what is built has the modifiers of all operators in order, those of the query that it goes on
from first. -/
theorem errors_of_start (starts : Builder.StartsFrom start first) (calls : Calls stage) :
    (∀ error, (calls.builderFrom first).state = .error error →
      (∃ (before after : Stage) (earlier : Calls before) (draft : Draft) (call : Call before after),
        calls.FailsAt first earlier draft call error) ∧
      ∀ {after : Stage} {longer : Calls after}, calls.GoesOn longer →
        (longer.builderFrom first).state = .error error ∧
          (longer.builderFrom first).build = .error error) ∧
    ∀ draft, (calls.builderFrom first).state = .ok draft →
      draft.Fits stage ∧
      (∀ {after : Stage} {call : Call stage after} {error : BuildError},
        call.apply draft = .error error →
          (error = .appendWithoutRoot →
            call.isJoin = true ∧ stage = .query ∧ draft.current = .empty) ∧
          (error = .duplicateRoot → call.beginsOperand = true ∧ stage = .query ∧
            ∃ root, draft.current = .operand root) ∧
          error ≠ .missingRoot ∧ error ≠ .unclosedClause) ∧
      (stage.isComplete = true →
        ((calls.builderFrom first).build = .error .missingRoot ↔
          stage = .query ∧ draft.current = .empty) ∧
        ((calls.builderFrom first).build = .error .unclosedClause ↔ calls.closed < calls.opened) ∧
        (∀ error, (calls.builderFrom first).build = .error error →
          error = .missingRoot ∨ error = .unclosedClause) ∧
        ∀ query, (calls.builderFrom first).build = .ok query →
          query.clause.operatorModifiers =
            start.elim [] (·.clause.operatorModifiers) ++ calls.operatorModifiers) := by
  obtain rfl := starts.eq_starting
  obtain ⟨origin, begun⟩ : ∃ origin, (Builder.starting start).state = .ok origin := by
    cases start <;> exact ⟨_, rfl⟩
  refine ⟨fun error failed => ⟨exists_failsAt begun failed, ?_⟩, fun draft reached => ?_⟩
  · intro after longer goesOn
    have stays := state_of_goesOn failed goesOn
    exact ⟨stays, bind_eq_error.2 (.inl stays)⟩
  · have leaves := leaves_of_state reached
    have built : (calls.builderFrom (.starting start)).build = draft.build := by
      rw [Builder.build, reached, ok_bind]
    refine ⟨leaves.fits, ?_, fun complete => ?_⟩
    · intro after call error failed
      rcases (Call.fails_of_apply leaves.fits failed).cause with
        value | ⟨rfl, append⟩ | ⟨rfl, duplicate⟩ | ⟨rfl, -⟩
      · refine ⟨?_, ?_, ?_, ?_⟩ <;> (rintro rfl; cases value)
      · exact ⟨fun _ => append, nofun, nofun, nofun⟩
      · exact ⟨nofun, fun _ => duplicate, nofun, nofun⟩
      · exact ⟨nofun, nofun, nofun, nofun⟩
    · rw [built]
      refine ⟨leaves.build_eq_missingRoot complete, leaves.build_eq_unclosedClause, ?_, ?_⟩
      · intro error failed
        rcases Draft.build_eq_error.1 failed with ⟨-, rfl⟩ | ⟨-, -, rfl⟩
        · exact .inr rfl
        · exact .inl rfl
      · intro query finished
        exact leaves.operatorModifiers_of_build complete finished

theorem errors_of_start_text :
    let unclosed : Calls .expr :=
      ((((Calls.start.andThen (.join rfl .prox)).andThen (.joinModifierWith "unit" "" "\"w\"")).andThen
        (.beginClause rfl)).andThen (.search rfl "t")).andThen (.term "x")
    let second : Calls .search := Calls.start.andThen (.search rfl "t")
    ∃ first, Builder.ofText "a and/near b" = .ok first ∧
      (unclosed.builderFrom first).build = .error .unclosedClause ∧
      (∃ query, ((unclosed.andThen .endClause).builderFrom first).build = .ok query ∧
        query.clause.operatorModifiers = [⟨"near", "", ""⟩, ⟨"unit", "=", "\\\"w\\\""⟩]) ∧
      (second.builderFrom first).state = .error .duplicateRoot ∧
      (((second.andThen (.relation "?")).andThen (.term "")).builderFrom first).build =
        .error .duplicateRoot := by
  intro unclosed second
  let root : Clause :=
    .boolean [] (.search [] { term := "a" }) .and [⟨"near", "", ""⟩] (.search [] { term := "b" })
  let first : Builder .query := .ofQuery { clause := root }
  have parsed : Query.parse {} "a and/near b" = .ok { clause := root } :=
    eq_ok_of_toOption (by decide +kernel)
  have read : Builder.ofText "a and/near b" = .ok first := by
    rw [Builder.ofText, parsed]
    rfl
  have starts : Builder.StartsFrom (some { clause := root }) first := .text parsed read
  refine ⟨first, read, ?unclosed, ?closed, ?second⟩
  case unclosed =>
    let group : Group := .awaiting root .prox [.escaped "unit" "" "\"w\""]
    have reached : (unclosed.builderFrom first).state =
        .ok { current := .operand (.search [] { index := "t", term := "x" }), outer := [group] } :=
      eq_ok_of_toOption (by decide +kernel)
    exact (((errors_of_start starts unclosed).2 _ reached).2.2 rfl).2.1.2 (by decide)
  case closed =>
    let right : Clause := .search [] { index := "t", term := "x" }
    let whole : Clause := .boolean [] root .prox [.escaped "unit" "" "\"w\""] right
    have reached : ((unclosed.andThen .endClause).builderFrom first).state =
        .ok { current := .operand whole } := eq_ok_of_toOption (by decide +kernel)
    have built : ((unclosed.andThen .endClause).builderFrom first).build =
        .ok { clause := whole } := eq_ok_of_toOption (by decide +kernel)
    have modifiers := (((errors_of_start starts _).2 _ reached).2.2 rfl).2.2.2 _ built
    exact ⟨_, built, modifiers.trans (by decide +kernel)⟩
  case second =>
    have failed : (second.builderFrom first).state = .error .duplicateRoot := rfl
    have sticks := ((errors_of_start starts second).1 _ failed).2
      ((GoesOn.refl.andThen (.relation "?")).andThen (.term ""))
    exact ⟨failed, sticks.2⟩

end Calls
end ContextualQuery
