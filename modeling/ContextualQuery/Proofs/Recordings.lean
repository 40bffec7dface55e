import ContextualQuery.Builder.Recording
import ContextualQuery.Proofs.BuilderFaults

/-!
# Drafts as recordings

A draft has no room for an error and a group none for an operator without left operand.  Every call
makes of a draft's recording what it makes of the draft, and it never changes the error of a
recording; so behind every chain of calls the recording is that of the draft, or holds the error
that the first failing call gave.  An operator without left operand and an empty stack of levels are
then states that no chain of calls leads to.
-/

namespace ContextualQuery

/-! ## Levels and groups -/

/-- The level that a group is. -/
def Group.level : Group → Level
  | .empty => {}
  | .operand clause => { clause := some clause }
  | .awaiting left operator modifiers =>
    { clause := some left, join := some (operator, modifiers) }

@[simp]
theorem Group.clause_level (group : Group) : group.level.clause = group.clause? := by
  cases group <;> rfl

/-- The recording that a draft is. -/
def Draft.recording (draft : Draft) : Recording where
  prefixes := draft.prefixes
  sortKeys := draft.sortKeys
  levels := (draft.outer.map Group.level).reverse ++ [draft.current.level]
  pending := draft.pending

namespace Recording

/-- Whether a recording is that of a draft, or holds the error that takes its place. -/
inductive Records (recording : Recording) : Except BuildError Draft → Prop
  | ok {draft : Draft} (same : recording = draft.recording) : Records recording (.ok draft)
  | error {error : BuildError} (holds : recording.error = some error) :
    Records recording (.error error)

variable {draft : Draft} {recording : Recording} {error : BuildError}

@[simp]
theorem current_recording (draft : Draft) : draft.recording.current = draft.current.level := by
  simp [current, Draft.recording]

@[simp]
theorem withLevel_recording (draft : Draft) : draft.recording.withLevel = draft.recording := by
  simp [withLevel, Draft.recording]

@[simp]
theorem change_recording (draft : Draft) (step : Recording → Recording) :
    draft.recording.change step = step draft.recording := rfl

theorem setCurrent_recording (draft : Draft) (group : Group) :
    draft.recording.setCurrent group.level = { draft with current := group }.recording := by
  simp [setCurrent, Draft.recording]

@[simp]
theorem isOccupied_recording (draft : Draft) :
    draft.recording.isOccupied = !draft.current.isVacant := by
  rw [isOccupied, current_recording]
  cases draft.current <;> rfl

theorem use_records {α : Type} {checked : Except BuildError α} {step : Recording → α → Recording}
    {next : α → Draft}
    (same : ∀ value, step draft.recording value = (next value).recording) :
    (draft.recording.use checked step).Records (checked.map next) := by
  cases checked with
  | ok value => exact .ok (same value)
  | error error => exact .error rfl

/-! ## One call -/

theorem attach_records (draft : Draft) (clause : Clause) :
    (draft.recording.attach clause).Records (draft.attach clause) := by
  simp only [attach, change_recording, withLevel_recording, current_recording, Draft.attach]
  cases draft.current with
  | empty => exact .ok (setCurrent_recording draft (.operand clause))
  | operand existing => exact .error rfl
  | awaiting left operator modifiers =>
    exact .ok (setCurrent_recording draft (.operand (.boolean [] left operator modifiers clause)))

theorem join_records (draft : Draft) (operator : Operator) :
    (draft.recording.join operator).Records (draft.join operator) := by
  simp only [join, change_recording, withLevel_recording, current_recording, Draft.join]
  cases draft.current with
  | empty => exact .error rfl
  | operand left | awaiting left =>
    exact .ok (setCurrent_recording draft (.awaiting left operator []))

theorem joinNamed_records (draft : Draft) (word : String) :
    (draft.recording.joinNamed word).Records (draft.joinNamed word) := by
  rw [joinNamed, Draft.joinNamed]
  cases Operator.ofKeyword? word with
  | none => exact .error rfl
  | some operator => exact join_records draft operator

theorem beginClause_records (draft : Draft) :
    draft.recording.beginClause.Records draft.beginClause := by
  simp only [beginClause, change_recording, withLevel_recording, isOccupied_recording,
    Draft.beginClause]
  cases vacant : draft.current.isVacant with
  | false =>
    rw [Group.checkVacant_eq_error.2 ⟨vacant, rfl⟩]
    exact .error rfl
  | true =>
    rw [Group.checkVacant_eq_ok.2 vacant]
    exact .ok (by simp [Draft.recording, Group.level])

theorem endClause_records (draft : Draft) :
    draft.recording.endClause.Records draft.endClause := by
  rw [endClause, change_recording, Draft.endClause]
  cases outside : draft.outer with
  | nil =>
    rw [if_pos (by simp [Draft.recording, outside])]
    exact .error rfl
  | cons group outer =>
    let enclosing : Draft := { draft with current := group, outer }
    have levels : draft.recording.levels = enclosing.recording.levels ++ [draft.current.level] := by
      simp [Draft.recording, outside, enclosing]
    have several : ¬draft.recording.levels.length < 2 := by
      simp [Draft.recording, outside]
    rw [if_neg several, levels, List.getLast?_concat, List.dropLast_concat, Option.bind_some,
      Group.clause_level]
    cases draft.current.clause? with
    | none => exact .error rfl
    | some clause => exact attach_records enclosing clause

theorem declare_records (draft : Draft) (name uri : String) :
    (draft.recording.declare name uri).Records (draft.declare name uri) := by
  rw [declare, change_recording, Draft.declare]
  cases Blank.isBlankText uri with
  | true => exact .error rfl
  | false => exact .ok rfl

theorem sortBy_records (draft : Draft) (index : String) (modifiers : List Modifier) :
    (draft.recording.sortBy index modifiers).Records (draft.sortBy index modifiers) := by
  rw [sortBy, change_recording, Draft.sortBy]
  cases Blank.isBlankText index with
  | true => exact .error rfl
  | false =>
    cases modifiers.mapM Modifier.forSortKey with
    | error => exact .error rfl
    | ok checked => exact .ok rfl

theorem search_records (draft : Draft) (stage : Stage) (index : String) :
    (draft.recording.search stage index).Records (do
      if stage = .query then draft.current.checkVacant
      .ok (draft.search index)) := by
  rw [search]
  split
  · simp only [change_recording, withLevel_recording, isOccupied_recording]
    cases vacant : draft.current.isVacant with
    | false =>
      rw [Group.checkVacant_eq_error.2 ⟨vacant, rfl⟩]
      exact .error rfl
    | true =>
      rw [Group.checkVacant_eq_ok.2 vacant]
      exact .ok rfl
  · exact .ok rfl

theorem relation_records (draft : Draft) (relation : String) :
    (draft.recording.relation relation).Records (draft.relation relation) := by
  rw [Recording.relation, change_recording, Draft.relation]
  cases empty : relation.isEmpty with
  | true =>
    rw [String.isEmpty_iff.1 empty]
    exact .ok rfl
  | false =>
    cases Relation.isBuiltIn relation with
    | true => exact .ok rfl
    | false => exact .error rfl

theorem modifySearch_records (draft : Draft) (made : Except BuildError Modifier) :
    (draft.recording.modifySearch made).Records (made.map draft.modifySearch) := by
  rw [modifySearch, change_recording]
  exact use_records fun _ => rfl

theorem modifyJoin_records (draft : Draft) (made : Except BuildError Modifier) :
    (draft.recording.modifyJoin made).Records (made.map draft.modifyJoin) := by
  rw [modifyJoin, change_recording]
  refine use_records fun modifier => ?_
  simp only [withLevel_recording, current_recording]
  obtain ⟨prefixes, sortKeys, group, outer, pending⟩ := draft
  cases group with
  | empty | operand => rfl
  | awaiting left operator modifiers =>
    exact setCurrent_recording _ (.awaiting left operator (modifiers ++ [modifier]))

theorem rawTerm_records (draft : Draft) (term : String) :
    (draft.recording.rawTerm term).Records (draft.rawTerm term) :=
  attach_records { draft with pending := { term := "" } } _

theorem term_records (draft : Draft) (term : String) :
    (draft.recording.term term).Records (draft.term term) := by
  rw [Recording.term, Draft.term]
  cases Blank.isBlankText term with
  | true => exact .error rfl
  | false => exact rawTerm_records draft _

/-- A call makes of a draft's recording what it makes of the draft. -/
theorem call_records (draft : Draft) {before after : Stage} (call : Call before after) :
    (draft.recording.call call).Records (call.apply draft) := by
  cases call with
  | declare name uri => exact declare_records draft name uri
  | sortBy complete index modifiers => exact sortBy_records draft index modifiers
  | join complete operator => exact join_records draft operator
  | joinNamed complete word => exact joinNamed_records draft word
  | search operand index => exact search_records draft before index
  | beginClause operand => exact beginClause_records draft
  | relation name => exact relation_records draft name
  | searchModifier name => exact modifySearch_records draft _
  | searchModifierWith name comparison value => exact modifySearch_records draft _
  | joinModifier name => exact modifyJoin_records draft _
  | joinModifierWith name comparison value => exact modifyJoin_records draft _
  | term text => exact term_records draft text
  | rawTerm text => exact rawTerm_records draft text
  | endClause => exact endClause_records draft

theorem error_change (failed : recording.error = some error) (step : Recording → Recording) :
    (recording.change step).error = some error := by
  rw [change, isOk, failed]
  exact failed

theorem error_fail (failed : recording.error = some error) (other : BuildError) :
    (recording.fail other).error = some error := by
  rw [fail, isOk, failed]
  exact failed

theorem error_rawTerm (failed : recording.error = some error) (term : String) :
    (recording.rawTerm term).error = some error := by
  have kept : ({ recording with pending := { term := "" } } : Recording).error = some error :=
    failed
  exact error_change kept _

/-- No call changes the first error. -/
theorem error_call (failed : recording.error = some error) {before after : Stage}
    (call : Call before after) : (recording.call call).error = some error := by
  cases call with
  | declare | sortBy | join | beginClause | relation | searchModifier | searchModifierWith
  | joinModifier | joinModifierWith | endClause => exact error_change failed _
  | joinNamed complete word =>
    rw [Recording.call, joinNamed]
    split
    · exact error_change failed _
    · exact error_fail failed _
  | search operand index =>
    rw [Recording.call, search]
    split
    · exact error_change failed _
    · exact failed
  | term text =>
    rw [Recording.call, Recording.term]
    split
    · exact error_rawTerm (error_fail failed _) _
    · exact error_rawTerm failed _
  | rawTerm text => exact error_rawTerm failed text

/-! ## Chains of calls -/

theorem starting_records (start : Option Query) :
    (starting start).Records (Builder.starting start).state := by
  cases start <;> exact .ok rfl

theorem build_recording (draft : Draft) : draft.recording.build = draft.build := by
  obtain ⟨prefixes, sortKeys, group, outer, pending⟩ := draft
  cases outer with
  | nil =>
    rw [build, Draft.build]
    simp only [Draft.recording, List.map_nil, List.reverse_nil, List.nil_append,
      List.length_singleton, List.head?_cons, Option.bind_some, Group.clause_level]
    cases group.clause? with
    | none => rfl
    | some clause =>
      cases prefixes with
      | nil => simp
      | cons => rfl
  | cons enclosing outer =>
    exact if_pos (by simp [Draft.recording])

theorem Records.error_eq_some_iff {state : Except BuildError Draft}
    (records : recording.Records state) : recording.error = some error ↔ state = .error error := by
  cases records with
  | ok same => simp [same, Draft.recording]
  | error holds => simp [holds]

theorem Records.exists_draft {state : Except BuildError Draft} (records : recording.Records state)
    (unfailed : recording.error = none) :
    ∃ draft, state = .ok draft ∧ recording = draft.recording := by
  cases records with
  | ok same => exact ⟨_, rfl, same⟩
  | error holds => cases unfailed.symm.trans holds

theorem Records.build {state : Except BuildError Draft} (records : recording.Records state) :
    recording.build = (do (← state).build) := by
  cases records with
  | ok same => rw [same, build_recording, ok_bind]
  | error holds =>
    rw [Recording.build, holds]
    rfl

end Recording

namespace Calls

variable {stage : Stage} {first : Recording} {builder : Builder .query}

/-- Behind a chain of calls, the recording is that of the draft, or holds the error. -/
theorem recordingFrom_records (begun : first.Records builder.state) (calls : Calls stage) :
    (calls.recordingFrom first).Records (calls.builderFrom builder).state := by
  induction calls with
  | start => exact begun
  | andThen calls call records =>
    rw [recordingFrom, builderFrom, Builder.call]
    generalize (calls.builderFrom builder).state = state at records
    cases records with
    | ok same =>
      rw [same]
      exact Recording.call_records _ call
    | error holds => exact .error (Recording.error_call holds call)

end Calls

/-! ## The shape of the levels -/

/-- Whether an operand may follow on a level, which has a clause exactly if an operator waits. -/
def Level.isVacant (level : Level) : Bool := level.clause.isSome == level.join.isSome

theorem Group.isVacant_level (group : Group) : group.level.isVacant = group.isVacant := by
  cases group <;> rfl

/-- The levels that the next operand may stand on at a stage. -/
inductive Level.Fits : Stage → Level → Prop
  | start : Fits .query {}
  | root (clause : Clause) : Fits .query { clause := some clause }
  | search {level : Level} (vacant : level.isVacant = true) : Fits .search level
  | join (left : Clause) (operator : Operator) (modifiers : List Modifier) :
    Fits .join { clause := some left, join := some (operator, modifiers) }
  | clause : Fits .clause {}
  | expr (clause : Clause) : Fits .expr { clause := some clause }

theorem Group.Fits.level {group : Group} {stage : Stage} (fits : group.Fits stage) :
    group.level.Fits stage := by
  cases fits with
  | start => exact .start
  | root clause => exact .root clause
  | search vacant => exact .search (group.isVacant_level.trans vacant)
  | join left operator modifiers => exact .join left operator modifiers
  | clause => exact .clause
  | expr clause => exact .expr clause

theorem Level.join_eq_none_of_isVacant {level : Level} (vacant : level.isVacant = true)
    (missing : level.clause = none) : level.join = none := by
  rw [isVacant, missing] at vacant
  simpa using vacant

theorem Level.Fits.join_eq_none {level : Level} {stage : Stage} (fits : level.Fits stage)
    (missing : level.clause = none) : level.join = none := by
  cases fits with
  | start | clause => rfl
  | root | join | expr => cases missing
  | search vacant => exact join_eq_none_of_isVacant vacant missing

/-- Whether the levels of a recording have the shape of the stage. -/
structure Recording.Fits (recording : Recording) (stage : Stage) : Prop where
  nonempty : recording.levels ≠ []
  current : recording.current.Fits stage
  /-- Around the innermost level, an operand is waited for everywhere. -/
  outer : ∀ level ∈ recording.levels.dropLast, level.isVacant = true

/-- No level has an operator without a left operand. -/
theorem Recording.Fits.join_eq_none {recording : Recording} {stage : Stage}
    (fits : recording.Fits stage) {level : Level} (member : level ∈ recording.levels)
    (missing : level.clause = none) : level.join = none := by
  rw [← List.dropLast_concat_getLast fits.nonempty, List.mem_append, List.mem_singleton] at member
  rcases member with around | innermost
  · exact Level.join_eq_none_of_isVacant (fits.outer level around) missing
  · have current : recording.current = level := by
      rw [innermost, Recording.current, List.getLastD_eq_getLast?,
        List.getLast?_eq_some_getLast fits.nonempty]
      rfl
    exact (current ▸ fits.current).join_eq_none missing

theorem Draft.Fits.recording {draft : Draft} {stage : Stage} (fits : draft.Fits stage) :
    draft.recording.Fits stage where
  nonempty := by simp [Draft.recording]
  current := by
    rw [Recording.current_recording]
    exact fits.current.level
  outer := by
    intro level member
    simp only [Draft.recording, List.dropLast_concat, List.mem_reverse, List.mem_map] at member
    obtain ⟨group, member, rfl⟩ := member
    rw [Group.isVacant_level]
    exact fits.outer group member

namespace Calls

variable {stage : Stage} {start : Option Query} {calls : Calls stage} {error : BuildError}

/-- As long as no call has failed, there is a level, and the levels have the shape of the stage. -/
theorem fits_of_error_eq_none (unfailed : (calls.recordingFrom (.starting start)).error = none) :
    (calls.recordingFrom (.starting start)).Fits stage := by
  have records := recordingFrom_records (Recording.starting_records start) calls
  obtain ⟨draft, reached, same⟩ := records.exists_draft unfailed
  rw [same]
  exact (leaves_of_state reached).fits.recording

/-- The error of a recording is the one that the first failing call gave. -/
theorem error_recordingFrom : (calls.recordingFrom (.starting start)).error = some error ↔
    (calls.builderFrom (.starting start)).state = .error error :=
  (recordingFrom_records (Recording.starting_records start) calls).error_eq_some_iff

/-- Behind a call that fails, no call changes the error, and building gives it. -/
theorem build_of_goesOn {first : Recording}
    (failed : (calls.recordingFrom first).error = some error) {after : Stage}
    {longer : Calls after} (goesOn : calls.GoesOn longer) :
    (longer.recordingFrom first).error = some error ∧
      (longer.recordingFrom first).build = .error error := by
  induction goesOn with
  | refl => exact ⟨failed, by rw [Recording.build, failed]⟩
  | andThen longer call ih =>
    have kept := Recording.error_call ih.1 call
    exact ⟨kept, by rw [recordingFrom, Recording.build, kept]⟩

/-- Building from a recording gives what building from the drafts gives. -/
theorem build_recordingFrom (calls : Calls stage) (start : Option Query) :
    (calls.recordingFrom (.starting start)).build = (calls.builderFrom (.starting start)).build :=
  (recordingFrom_records (Recording.starting_records start) calls).build

end Calls
end ContextualQuery
