import ContextualQuery.Proofs.BuilderSteps
import ContextualQuery.Proofs.Formula
import ContextualQuery.Proofs.LiteralTerms
import ContextualQuery.Proofs.RoundTrip
import ContextualQuery.Sql.Definition

/-!
# Chains of literal terms

A chain of calls that only searches for literal terms, joins them and brackets them builds a tree
whose search clauses are the entries of the chain in order.  Whatever the terms hold, the canonical
text of that tree is read back to the same entries, and a column that compares whole values
compares with exactly the terms that were given, each behind a placeholder of its own.
-/

namespace ContextualQuery

/-- An index with the term that is searched for under it. -/
structure Entry where
  index : String
  term : String

/-- Whether the index of an entry is written as it is and its term is not blank. -/
structure Entry.IsSafe (entry : Entry) : Prop where
  named : entry.index ≠ ""
  noQuote : '"' ∉ entry.index.toList
  noBackslash : '\\' ∉ entry.index.toList
  notBlank : Blank.isBlankText entry.term = false

theorem Entry.IsSafe.term_nonempty {entry : Entry} (safe : entry.IsSafe) : entry.term ≠ "" := by
  intro empty
  have notBlank := safe.notBlank
  rw [empty] at notBlank
  cases notBlank

/-! ## Trees of entries -/

/-- Whether a search clause asks for the default relation between an entry's index and its literal
term. -/
structure SearchClause.Spells (search : SearchClause) (entry : Entry) : Prop where
  /-- The index, filled in where it is left out. -/
  index : search.indexOrDefault = entry.index
  /-- The relation, filled in where it is left out. -/
  relation : search.relationOrDefault = Relation.default
  modifiers : search.modifiers = []
  term : search.term = literalTerm entry.term

/-- The trees over the entries, in order, that translate to SQL. -/
inductive Clause.Spells : Clause → List Entry → Prop
  | search {search : SearchClause} {entry : Entry} (spells : search.Spells entry) :
    Spells (.search [] search) [entry]
  | boolean {left right : Clause} {operator : Operator} {before behind : List Entry}
    (supported : operator ≠ .prox) (leftSpells : left.Spells before)
    (rightSpells : right.Spells behind) :
    Spells (.boolean [] left operator [] right) (before ++ behind)

/-- What stands between two conditions that an operator joins. -/
def Operator.between : Operator → String
  | .and => " AND "
  | .or => " OR "
  | .not => " AND NOT "
  | .prox => ""

theorem Operator.between_eq {operator : Operator} {joiner : Joiner}
    (joins : Joiner.ofOperator? operator = some joiner) :
    operator.between = " " ++ joiner.keyword ++ " " := by
  cases operator <;> cases joins <;> rfl

/-- The text of a condition over a tree whose search clauses are written as the given texts, one
after the other, and the texts that are left.  An operand that is itself joined stands in
brackets. -/
def Clause.writtenWith : Clause → List String → String × List String
  | .search _ _, texts => (texts.headD "", texts.tail)
  | .matchAll _, texts => ("TRUE", texts)
  | .boolean _ left operator _ right, texts =>
    let (leftText, texts) := left.writtenWith texts
    let (rightText, texts) := right.writtenWith texts
    ((if left.isBoolean then "(" ++ leftText ++ ")" else leftText) ++ operator.between ++
      (if right.isBoolean then "(" ++ rightText ++ ")" else rightText), texts)

/-- A search clause and what is read back for it spell the same entry. -/
theorem SearchClause.Spells.normal {search : SearchClause} {entry : Entry}
    (spells : search.Spells entry) (safe : entry.IsSafe) : search.normal.Spells entry := by
  have term : search.normal.term = literalTerm entry.term := by
    rw [term_normal, spells.term, reread_literalTerm]
  cases bare : search.isBare with
  | true =>
    have same := bare
    rw [isBare, Bool.and_eq_true, Bool.and_eq_true, beq_iff_eq, spells.index] at same
    refine ⟨?_, ?_, ?_, term⟩
    · rw [same.1.1, SearchClause.normal, if_pos bare]
      rfl
    · rw [SearchClause.normal, if_pos bare]
      rfl
    · rw [SearchClause.normal, if_pos bare]
  | false =>
    obtain ⟨index, relation, modifiers⟩ := normal_of_full bare
    refine ⟨?_, ?_, ?_, term⟩
    · rw [index, spells.index, reread_of_plain safe.noBackslash safe.noQuote]
    · rw [relation, spells.relation]
    · rw [modifiers, spells.modifiers, List.map_nil]

namespace Clause.Spells

variable {clause : Clause} {entries : List Entry}

theorem leading_eq_nil (spells : clause.Spells entries) : clause.leading = [] := by
  induction spells with
  | search => rfl
  | boolean _ _ _ leftEq _ => rw [leading, leftEq, List.append_nil]

theorem normal_eq_core (spells : clause.Spells entries) : clause.normal = clause.core := by
  rw [normal, spells.leading_eq_nil, List.map_nil, withPrefixes_core]

theorem legible (spells : clause.Spells entries) (outer : List Prefix) : clause.Legible outer := by
  induction spells generalizing outer with
  | search spells =>
    refine ⟨?_, ?_⟩
    · rw [EverySearch, spells.relation]
      exact Relation.readsUnder_symbol .equal
    · rw [allModifiers, spells.modifiers]
      simp
  | boolean _ _ _ leftLegible rightLegible =>
    refine ⟨⟨(leftLegible _).relations, (rightLegible _).relations⟩, ?_⟩
    simp only [allModifiers, List.append_nil, List.mem_append, or_imp, forall_and]
    exact ⟨(leftLegible outer).modifiers, (rightLegible outer).modifiers⟩

theorem core_boolean (spells : clause.Spells entries) (left : Clause) (operator : Operator) :
    (Clause.boolean [] left operator [] clause).core =
      .boolean [] left.core operator [] clause.core := by
  rw [Clause.core, spells.leading_eq_nil, List.map_nil, List.map_nil, withPrefixes_core]

/-- What is read back for a tree spells the same entries. -/
theorem core (spells : clause.Spells entries) (safe : ∀ entry ∈ entries, entry.IsSafe) :
    clause.core.Spells entries := by
  induction spells with
  | search spells => exact .search (spells.normal (safe _ List.mem_cons_self))
  | boolean supported _ rightSpells leftCore rightCore =>
    rw [List.forall_mem_append] at safe
    rw [rightSpells.core_boolean]
    exact .boolean supported (leftCore safe.1) (rightCore safe.2)

theorem checkChain (spells : clause.Spells entries) : clause.checkChain = .ok () := by
  induction spells with
  | search => rfl
  | boolean supported _ _ leftChecked _ => rw [checkChain_boolean supported, leftChecked]

end Clause.Spells

/-! ## Translating entries -/

namespace Definition

/-- The column that an index is mapped to. -/
def columnOf (definition : Definition) (index : String) : String :=
  match definition.get? index with
  | some field => field.column
  | none => ""

/-- Whether an index is mapped to a valid column that is compared as a whole. -/
def ComparesWhole (definition : Definition) (index : String) : Prop :=
  ∃ field : TextField, definition.get? index = some (.text field) ∧
    isIdentifier field.column = true ∧ field.ComparesWhole

/-- The predicate that an entry asks for. -/
def literally (definition : Definition) (entry : Entry) : Predicate :=
  .compare (definition.columnOf entry.index) .equal (.text entry.term)

variable {definition : Definition}

theorem predicate_of_spells {search : SearchClause} {entry : Entry}
    (spells : search.Spells entry) (safe : entry.IsSafe)
    (compares : definition.ComparesWhole entry.index) :
    definition.predicate search = .ok (definition.literally entry) := by
  obtain ⟨field, mapped, valid, whole⟩ := compares
  rw [predicate, literally, columnOf, spells.index, mapped]
  exact TextField.predicate_of_literalTerm valid whole spells.relation safe.term_nonempty
    spells.term

/-- The text of the predicate that an entry asks for, with its placeholder's number. -/
def literalText (definition : Definition) (entry : Entry) (number : Nat) : String :=
  definition.columnOf entry.index ++ " = $" ++ toString number

/-- The texts of the predicates that entries ask for, their placeholders numbered from `first`
on. -/
def literalTexts (definition : Definition) (first : Nat) (entries : List Entry) : List String :=
  entries.mapIdx fun position entry => definition.literalText entry (first + position)

theorem literalTexts_append (first : Nat) (before behind : List Entry) :
    definition.literalTexts first (before ++ behind) =
      definition.literalTexts first before ++
        definition.literalTexts (first + before.length) behind := by
  simp only [literalTexts, List.mapIdx_append]
  congr 2
  funext position entry
  rw [Nat.add_comm position, Nat.add_assoc]

theorem text_literally (entry : Entry) (first : Nat) :
    (definition.literally entry).text first = definition.literalText entry first := by
  have sign : " = $" = " " ++ "=" ++ " " ++ "$" := rfl
  calc (definition.literally entry).text first
      = definition.columnOf entry.index ++ " " ++ "=" ++ " " ++ ("$" ++ toString first) := rfl
    _ = definition.literalText entry first := by
      simp only [literalText, sign, String.append_assoc]

/-- A condition whose predicates are what entries ask for has an argument for each entry. -/
theorem arguments_of_literally {condition : Condition} {entries : List Entry}
    (predicates : condition.predicates = entries.map definition.literally) :
    condition.arguments = entries.map fun entry => .text entry.term := by
  rw [condition.arguments_eq_flatMap, predicates, List.flatMap_map]
  exact List.map_eq_flatMap.symm

/-- A condition is what a tree of entries asks for: it has the predicate of each entry, and it is
written as the tree with the text of each entry's predicate. -/
structure SpellsOut (definition : Definition) (clause : Clause) (entries : List Entry)
    (condition : Condition) : Prop where
  predicates : condition.predicates = entries.map definition.literally
  isJoin : condition.isJoin = clause.isBoolean
  writtenWith (first : Nat) (rest : List String) :
    clause.writtenWith (definition.literalTexts first entries ++ rest) =
      (condition.text first, rest)

theorem SpellsOut.search {search : SearchClause} (prefixes : List Prefix) (entry : Entry) :
    definition.SpellsOut (.search prefixes search) [entry] (.atom (definition.literally entry)) where
  predicates := rfl
  isJoin := rfl
  writtenWith first rest := by
    rw [Condition.text, text_literally]
    rfl

theorem SpellsOut.boolean {left right : Clause} {operator : Operator} {before behind : List Entry}
    {leftCondition rightCondition : Condition} {joiner : Joiner}
    (leftSpelled : definition.SpellsOut left before leftCondition)
    (rightSpelled : definition.SpellsOut right behind rightCondition)
    (joins : Joiner.ofOperator? operator = some joiner) (prefixes : List Prefix)
    (modifiers : List Modifier) :
    definition.SpellsOut (.boolean prefixes left operator modifiers right) (before ++ behind)
      (.join leftCondition joiner rightCondition) where
  predicates := by
    rw [Condition.predicates, leftSpelled.predicates, rightSpelled.predicates, List.map_append]
  isJoin := rfl
  writtenWith first rest := by
    have count : leftCondition.arguments.length = before.length := by
      rw [arguments_of_literally leftSpelled.predicates, List.length_map]
    rw [literalTexts_append, List.append_assoc]
    simp only [Clause.writtenWith, leftSpelled.writtenWith, rightSpelled.writtenWith,
      Operator.between_eq joins, Condition.text, Condition.bracketed, leftSpelled.isJoin,
      rightSpelled.isJoin, count, String.append_assoc]

/-- A tree of entries and what is read back for it have the same condition. -/
theorem assemble_of_spells {clause : Clause} {entries : List Entry}
    (spells : clause.Spells entries) (safe : ∀ entry ∈ entries, entry.IsSafe)
    (compares : ∀ entry ∈ entries, definition.ComparesWhole entry.index) :
    ∃ condition, definition.assemble clause = .ok condition ∧
      definition.assemble clause.core = .ok condition ∧
      definition.SpellsOut clause entries condition := by
  induction spells with
  | @search search entry spells =>
    rw [List.forall_mem_singleton] at safe compares
    refine ⟨.atom (definition.literally entry), ?_, ?_, .search [] entry⟩
    · rw [assemble, predicate_of_spells spells safe compares]
      rfl
    · rw [Clause.core, assemble, predicate_of_spells (spells.normal safe) safe compares]
      rfl
  | @boolean left right operator before behind supported leftSpells rightSpells leftSame rightSame =>
    rw [List.forall_mem_append] at safe compares
    obtain ⟨leftCondition, leftDirect, leftAgain, leftSpelled⟩ := leftSame safe.1 compares.1
    obtain ⟨rightCondition, rightDirect, rightAgain, rightSpelled⟩ := rightSame safe.2 compares.2
    obtain ⟨joiner, joins⟩ := Joiner.exists_ofOperator? supported
    refine ⟨.join leftCondition joiner rightCondition, ?_, ?_, leftSpelled.boolean rightSpelled
      joins [] []⟩
    · exact assemble_boolean leftDirect rightSpells.checkChain rightDirect joins [] []
    · rw [rightSpells.core_boolean]
      exact assemble_boolean leftAgain (rightSpells.core safe.2).checkChain rightAgain joins [] []

end Definition

/-! ## Chains of calls -/

/-- The chains that only search for literal terms, join operands and bracket them, with the number
of brackets that are still open and the entries so far. -/
inductive Calls.IsLiteral : {stage : Stage} → Calls stage → Nat → List Entry → Prop
  | start : IsLiteral .start 0 []
  | search {stage : Stage} {calls : Calls stage} {opened : Nat} {entries : List Entry}
    (before : calls.IsLiteral opened entries) (operand : stage.takesOperand = true)
    {entry : Entry} (safe : entry.IsSafe) :
    IsLiteral ((calls.andThen (.search operand entry.index)).andThen (.term entry.term)) opened
      (entries ++ [entry])
  /-- An operator behind an operand. -/
  | join {calls : Calls .expr} {opened : Nat} {entries : List Entry}
    (before : calls.IsLiteral opened entries) {operator : Operator}
    (supported : operator ≠ .prox) :
    IsLiteral (calls.andThen (.join rfl operator)) opened entries
  /-- A bracket opened in front of an operand. -/
  | beginClause {stage : Stage} {calls : Calls stage} {opened : Nat} {entries : List Entry}
    (before : calls.IsLiteral opened entries) (operand : stage.takesOperand = true) :
    IsLiteral (calls.andThen (.beginClause operand)) (opened + 1) entries
  /-- The innermost bracket closed behind an operand. -/
  | endClause {calls : Calls .expr} {opened : Nat} {entries : List Entry}
    (before : calls.IsLiteral (opened + 1) entries) :
    IsLiteral (calls.andThen .endClause) opened entries

theorem Calls.IsLiteral.safe {stage : Stage} {calls : Calls stage} {opened : Nat}
    {entries : List Entry} (literal : calls.IsLiteral opened entries) :
    ∀ entry ∈ entries, entry.IsSafe := by
  induction literal with
  | start => simp
  | search _ _ safe before =>
    rw [List.forall_mem_append, List.forall_mem_singleton]
    exact ⟨before, safe⟩
  | join _ _ before => exact before
  | beginClause _ _ before => exact before
  | endClause _ before => exact before

/-- A group whose clause, if there is one, spells the entries. -/
inductive Group.Spells : Group → List Entry → Prop
  | empty : Spells .empty []
  | operand {clause : Clause} {entries : List Entry} (spells : clause.Spells entries) :
    Spells (.operand clause) entries
  | awaiting {left : Clause} {operator : Operator} {entries : List Entry}
    (supported : operator ≠ .prox) (spells : left.Spells entries) :
    Spells (.awaiting left operator []) entries

/-- The groups of open brackets, the innermost first, in which the entries stand. -/
inductive Group.Around : List Group → List Entry → Prop
  | nil : Around [] []
  | cons {group : Group} {outer : List Group} {before behind : List Entry}
    (vacant : group.isVacant = true) (spells : group.Spells behind)
    (around : Around outer before) : Around (group :: outer) (before ++ behind)

namespace Group

theorem attach_of_spells {group : Group} {clause : Clause} {before behind : List Entry}
    (vacant : group.isVacant = true) (groupSpells : group.Spells before)
    (spells : clause.Spells behind) :
    ∃ whole, group.attach clause = .ok (.operand whole) ∧ whole.Spells (before ++ behind) := by
  cases groupSpells with
  | empty => exact ⟨clause, rfl, spells⟩
  | operand => cases vacant
  | @awaiting left operator _ supported leftSpells =>
    exact ⟨.boolean [] left operator [] clause, rfl, .boolean supported leftSpells spells⟩

theorem eq_operand_of_spells {group : Group} {entries : List Entry}
    (occupied : group.isVacant = false) (spells : group.Spells entries) :
    ∃ clause, group = .operand clause ∧ clause.Spells entries := by
  cases spells with
  | empty => cases occupied
  | operand spells => exact ⟨_, rfl, spells⟩
  | awaiting => cases occupied

end Group

/-- What holds of the draft behind a chain of literal terms. -/
structure Draft.Holds (draft : Draft) (stage : Stage) (opened : Nat) (entries : List Entry) :
    Prop where
  prefixes : draft.prefixes = []
  sortKeys : draft.sortKeys = []
  /-- There is a group for every open bracket. -/
  opened : draft.outer.length = opened
  /-- The current group has room exactly where an operand may begin. -/
  vacant : draft.current.isVacant = stage.takesOperand
  /-- The entries stand in the groups in order. -/
  entries : ∃ before behind, entries = before ++ behind ∧ Group.Around draft.outer before ∧
    draft.current.Spells behind

namespace Draft.Holds

variable {draft : Draft} {stage : Stage} {opened : Nat} {entries : List Entry}

theorem attach (holds : draft.Holds stage opened entries) (operand : stage.takesOperand = true)
    {clause : Clause} {added : List Entry} (spells : clause.Spells added) :
    ∃ next, draft.attach clause = .ok next ∧ next.Holds .expr opened (entries ++ added) := by
  obtain ⟨before, behind, rfl, around, current⟩ := holds.entries
  obtain ⟨whole, attached, wholeSpells⟩ :=
    Group.attach_of_spells (holds.vacant.trans operand) current spells
  refine ⟨{ draft with current := .operand whole }, ?_, ?_⟩
  · rw [Draft.attach, attached]
    rfl
  · exact ⟨holds.prefixes, holds.sortKeys, holds.opened, rfl, before, behind ++ added,
      List.append_assoc _ _ _, around, .operand wholeSpells⟩

theorem join (holds : draft.Holds .expr opened entries) {operator : Operator}
    (supported : operator ≠ .prox) :
    ∃ next, draft.join operator = .ok next ∧ next.Holds .join opened entries := by
  obtain ⟨before, behind, same, around, current⟩ := holds.entries
  obtain ⟨clause, occupied, spells⟩ := Group.eq_operand_of_spells holds.vacant current
  refine ⟨{ draft with current := .awaiting clause operator [] }, ?_, ?_⟩
  · rw [Draft.join, occupied]
    rfl
  · exact ⟨holds.prefixes, holds.sortKeys, holds.opened, rfl, before, behind, same, around,
      .awaiting supported spells⟩

theorem beginClause (holds : draft.Holds stage opened entries)
    (operand : stage.takesOperand = true) :
    ∃ next, draft.beginClause = .ok next ∧ next.Holds .clause (opened + 1) entries := by
  obtain ⟨before, behind, same, around, current⟩ := holds.entries
  have vacant := holds.vacant.trans operand
  refine ⟨{ draft with current := .empty, outer := draft.current :: draft.outer }, ?_, ?_⟩
  · rw [Draft.beginClause, Group.checkVacant_eq_ok.2 vacant]
    rfl
  · refine ⟨holds.prefixes, holds.sortKeys, congrArg Nat.succ holds.opened, rfl, entries, [],
      (List.append_nil _).symm, ?_, .empty⟩
    rw [same]
    exact .cons vacant current around

theorem endClause (holds : draft.Holds .expr (opened + 1) entries) :
    ∃ next, draft.endClause = .ok next ∧ next.Holds .expr opened entries := by
  obtain ⟨before, behind, rfl, around, current⟩ := holds.entries
  obtain ⟨clause, occupied, spells⟩ := Group.eq_operand_of_spells holds.vacant current
  have length := holds.opened
  unfold Draft.endClause
  cases outside : draft.outer with
  | nil =>
    rw [outside] at length
    cases length
  | cons group outer =>
    rw [outside] at around length
    cases around with
    | @cons _ _ outermost inside vacant groupSpells around =>
      obtain ⟨whole, attached, wholeSpells⟩ := Group.attach_of_spells vacant groupSpells spells
      refine ⟨{ draft with current := .operand whole, outer := outer }, ?_, ?_⟩
      · simp only [occupied, Group.clause?, Draft.attach, attached]
        rfl
      · exact ⟨holds.prefixes, holds.sortKeys, Nat.succ.inj length, rfl, outermost,
          inside ++ behind, List.append_assoc _ _ _, around, .operand wholeSpells⟩

theorem search (holds : draft.Holds stage opened entries) (operand : stage.takesOperand = true)
    {entry : Entry} (safe : entry.IsSafe) :
    ∃ next, (draft.search entry.index).term entry.term = .ok next ∧
      next.Holds .expr opened (entries ++ [entry]) := by
  have cleared : ({ draft.search entry.index with pending := { term := "" } } : Draft).Holds
      stage opened entries :=
    ⟨holds.prefixes, holds.sortKeys, holds.opened, holds.vacant, holds.entries⟩
  have spells : ({ index := entry.index, term := literalTerm entry.term } : SearchClause).Spells
      entry := by
    refine ⟨?_, rfl, rfl, rfl⟩
    rw [SearchClause.indexOrDefault, if_neg]
    rw [String.isEmpty_iff]
    exact safe.named
  obtain ⟨next, attached, nextHolds⟩ := cleared.attach operand (.search spells)
  refine ⟨next, ?_, nextHolds⟩
  rw [Draft.term, safe.notBlank]
  exact attached

theorem build (holds : draft.Holds .expr 0 entries) :
    ∃ clause : Clause, draft.build = .ok { clause } ∧ clause.Spells entries := by
  obtain ⟨before, behind, rfl, around, current⟩ := holds.entries
  obtain ⟨clause, occupied, spells⟩ := Group.eq_operand_of_spells holds.vacant current
  have outside : draft.outer = [] := List.length_eq_zero_iff.1 holds.opened
  rw [outside] at around
  cases around
  refine ⟨clause, ?_, spells⟩
  rw [Draft.build, outside, occupied, holds.prefixes, holds.sortKeys]
  simp [Group.clause?]

end Draft.Holds

namespace Calls

/-- Every chain of literal terms leads to a draft that holds its entries. -/
theorem IsLiteral.exists_draft {stage : Stage} {calls : Calls stage} {opened : Nat}
    {entries : List Entry} (literal : calls.IsLiteral opened entries) :
    ∃ draft, calls.builder.state = .ok draft ∧ draft.Holds stage opened entries := by
  induction literal with
  | start => exact ⟨{}, rfl, rfl, rfl, rfl, rfl, [], [], rfl, .nil, .empty⟩
  | @search stage calls opened entries _ operand entry safe before =>
    obtain ⟨draft, state, holds⟩ := before
    obtain ⟨next, searched, nextHolds⟩ := holds.search operand safe
    have vacant := Group.checkVacant_eq_ok.2 (holds.vacant.trans operand)
    have begun : (calls.andThen (.search operand entry.index)).builder.state =
        .ok (draft.search entry.index) := by
      rw [builder, Builder.call, state, ok_bind, Call.apply, vacant]
      split <;> rfl
    refine ⟨next, ?_, nextHolds⟩
    rw [builder, Builder.call, begun]
    exact searched
  | join _ supported before =>
    obtain ⟨draft, state, holds⟩ := before
    obtain ⟨next, joined, nextHolds⟩ := holds.join supported
    exact ⟨next, by rw [builder, Builder.call, state]; exact joined, nextHolds⟩
  | beginClause _ operand before =>
    obtain ⟨draft, state, holds⟩ := before
    obtain ⟨next, begun, nextHolds⟩ := holds.beginClause operand
    exact ⟨next, by rw [builder, Builder.call, state]; exact begun, nextHolds⟩
  | endClause _ before =>
    obtain ⟨draft, state, holds⟩ := before
    obtain ⟨next, ended, nextHolds⟩ := holds.endClause
    exact ⟨next, by rw [builder, Builder.call, state]; exact ended, nextHolds⟩

/-- A chain of literal terms builds a query whose text is read back to the same entries: wherever
every index is mapped to a column that is compared as a whole, each term is compared as it was
given, the condition is written as the tree with `column = $k` for each entry, numbered in order,
and the query that is read back translates like the one that was built. -/
theorem IsLiteral.translate_parse {calls : Calls .expr} {entries : List Entry}
    (literal : calls.IsLiteral 0 entries) :
    ∃ query, calls.builder.build = .ok query ∧ ∀ settings : Settings, settings.Allows query →
      ∃ again, Query.parse settings query.text = .ok again ∧ ∀ definition : Definition,
        (∀ entry ∈ entries, definition.ComparesWhole entry.index) →
        ∃ condition, definition.condition again.clause = .ok condition ∧
          condition.predicates = entries.map definition.literally ∧ ∀ first,
          definition.translate again first =
            .ok ⟨condition.text first, entries.map fun entry => .text entry.term⟩ ∧
          query.clause.writtenWith
              (entries.mapIdx fun position entry =>
                definition.columnOf entry.index ++ " = $" ++ toString (first + position)) =
            (condition.text first, []) ∧
          definition.translate again first = definition.translate query first := by
  obtain ⟨draft, state, holds⟩ := literal.exists_draft
  obtain ⟨clause, built, spells⟩ := holds.build
  refine ⟨{ clause }, by rw [Builder.build, state]; exact built, fun settings allows => ?_⟩
  have legible : Query.Legible { clause } := ⟨spells.legible [], by simp⟩
  refine ⟨Query.normal { clause }, Query.parse_text legible allows, fun definition compares => ?_⟩
  obtain ⟨condition, direct, again, spelled⟩ :=
    Definition.assemble_of_spells spells literal.safe compares
  have directCondition : definition.condition clause = .ok condition := by
    rw [Definition.condition, spells.checkChain, ok_bind, direct]
  have againCondition : definition.condition clause.normal = .ok condition := by
    rw [spells.normal_eq_core, Definition.condition, (spells.core literal.safe).checkChain, ok_bind,
      again]
  refine ⟨condition, againCondition, spelled.predicates, fun first => ?_⟩
  have translated : definition.translate { clause } first = _ :=
    Definition.translate_eq_ok rfl directCondition
  have translatedAgain : definition.translate (Query.normal { clause }) first = _ :=
    Definition.translate_eq_ok rfl againCondition
  have written := spelled.writtenWith first []
  rw [List.append_nil] at written
  rw [translated, translatedAgain, Definition.arguments_of_literally spelled.predicates]
  exact ⟨rfl, written, rfl⟩

theorem translate_parse_of_hostile_terms :
    let calls : Calls .expr :=
      (((((((((Calls.start.andThen (.search rfl "title")).andThen (.term "\" or x = \"")).andThen
        (.join rfl .not)).andThen (.beginClause rfl)).andThen (.search rfl "author")).andThen
        (.term "100%*\\")).andThen (.join rfl .or)).andThen (.search rfl "title")).andThen
        (.term "b?")).andThen .endClause
    let entries : List Entry :=
      [⟨"title", "\" or x = \""⟩, ⟨"author", "100%*\\"⟩, ⟨"title", "b?"⟩]
    let definition := (Definition.empty.insert "title" (.text (.withExact { column := "t" }))).insert
      "author" (.text (.withLike { column := "a" }))
    calls.IsLiteral 0 entries ∧ (∀ entry ∈ entries, definition.ComparesWhole entry.index) ∧
      ∃ (query again : Query) (condition : Condition), calls.builder.build = .ok query ∧
        Query.parse { strict := true, maxDepth := 2, maxChain := 1 } query.text = .ok again ∧
        condition.predicates = [.compare "t" .equal (.text "\" or x = \""),
          .compare "a" .equal (.text "100%*\\"), .compare "t" .equal (.text "b?")] ∧
        definition.translate again 3 =
          .ok ⟨"t = $3 AND NOT (a = $4 OR t = $5)",
            [.text "\" or x = \"", .text "100%*\\", .text "b?"]⟩ ∧
        definition.translate again 3 = definition.translate query 3 := by
  intro calls entries definition
  have safe : ∀ entry ∈ entries, entry.IsSafe := by
    simp only [entries, List.forall_mem_cons, List.not_mem_nil, false_implies, implies_true,
      and_true]
    exact ⟨⟨by decide, by decide, by decide, by decide⟩, ⟨by decide, by decide, by decide,
      by decide⟩, by decide, by decide, by decide, by decide⟩
  rw [List.forall_mem_cons, List.forall_mem_cons, List.forall_mem_singleton] at safe
  have literal : calls.IsLiteral 0 entries :=
    .endClause (.search (.join (.search (.beginClause (.join (.search .start rfl safe.1)
      (by decide)) rfl) rfl safe.2.1) (by decide)) rfl safe.2.2)
  have compares : ∀ entry ∈ entries, definition.ComparesWhole entry.index := by
    rw [List.forall_mem_cons, List.forall_mem_cons, List.forall_mem_singleton]
    exact ⟨⟨.withExact { column := "t" }, by decide, by decide, .inl rfl⟩,
      ⟨.withLike { column := "a" }, by decide, by decide, .inr rfl⟩,
      ⟨.withExact { column := "t" }, by decide, by decide, .inl rfl⟩⟩
  obtain ⟨query, built, reads⟩ := literal.translate_parse
  have allows : Settings.Allows { strict := true, maxDepth := 2, maxChain := 1 } query := by
    cases built
    exact ⟨by decide, by decide⟩
  obtain ⟨again, read, translates⟩ := reads _ allows
  obtain ⟨condition, -, predicates, translated⟩ := translates definition compares
  obtain ⟨statement, written, same⟩ := translated 3
  have text : condition.text 3 = "t = $3 AND NOT (a = $4 OR t = $5)" := by
    refine (congrArg Prod.fst written).symm.trans ?_
    cases built
    decide +kernel
  rw [text] at statement
  exact ⟨literal, compares, query, again, condition, built, read, predicates, statement, same⟩

end Calls
end ContextualQuery
