import ContextualQuery.Proofs.Formula
import ContextualQuery.Proofs.Rendering
import ContextualQuery.Sql.Definition

/-!
# The boolean structure of conditions

The text of a condition is read as the expression that the clause tree stands for.  Every operand
that is itself joined stands in brackets, so no precedence is relied on; the one text that would
mislead is a column with the name of the negation.
-/

namespace ContextualQuery

open Formula

/-! ## Reading the text of a condition -/

/-- The expression for two operands. -/
def Joiner.formula : Joiner → Formula → Formula → Formula
  | .and, left, right => .and left right
  | .or, left, right => .or left right
  | .andNot, left, right => .and left (.not right)

namespace Condition

/-- The expression of a condition whose placeholders are numbered from `first` on. -/
def formula (first : Nat) : Condition → Formula
  | .always => .always
  | .atom predicate => .atom (predicate.text first)
  | .join left joiner right =>
    joiner.formula (left.formula first) (right.formula (first + left.arguments.length))

/-- How deep groups lie inside one another, the whole included. -/
def height : Condition → Nat
  | .always => 0
  | .atom _ => 0
  | .join left _ right => max left.height right.height + 1

theorem length_le_bracketed (brackets : Bool) (text : String) :
    text.length ≤ (bracketed brackets text).length := by
  cases brackets with
  | true =>
    rw [bracketed, if_pos rfl, String.length_append, String.length_append]
    omega
  | false => exact Nat.le_refl _

theorem height_le_length (condition : Condition) (first : Nat) :
    condition.height ≤ (condition.text first).length := by
  induction condition generalizing first with
  | always => exact Nat.zero_le _
  | atom => exact Nat.zero_le _
  | join left joiner right leftLe rightLe =>
    have leftLength := Nat.le_trans (leftLe first) (length_le_bracketed left.isJoin _)
    have rightLength := Nat.le_trans (rightLe (first + left.arguments.length))
      (length_le_bracketed right.isJoin _)
    have blank : " ".length = 1 := by decide
    rw [height, text]
    simp only [String.length_append, blank]
    omega

/-- What a reader of operands makes of a text wherever a predicate may end. -/
def ReadsAs (depth : Nat) (text : String) (formula : Formula) : Prop :=
  ∀ rest, rest = [] ∨ endsPredicate rest = true →
    operand (expression depth) (text.toList ++ rest) = some (formula, rest)

theorem endsPredicate_and (rest : List Char) :
    endsPredicate (' ' :: ("AND".toList ++ ' ' :: rest)) = true := by
  rw [endsPredicate, behind?_self]
  rfl

theorem endsPredicate_or (rest : List Char) :
    endsPredicate (' ' :: ("OR".toList ++ ' ' :: rest)) = true := by
  rw [endsPredicate, behind?_self, Option.isSome_some, Bool.or_true]

theorem ends_of_closes {rest : List Char} (closes : Closes rest) :
    rest = [] ∨ endsPredicate rest = true := by
  cases rest with
  | nil => exact .inl rfl
  | cons c rest =>
    obtain rfl : c = ')' := closes c rfl
    exact .inr rfl

/-- Two operands and what joins them are read as one expression. -/
theorem expression_joined {depth : Nat} {left right : String} {leftFormula rightFormula : Formula}
    (leftReads : ReadsAs depth left leftFormula) (rightReads : ReadsAs depth right rightFormula)
    (joiner : Joiner) {rest : List Char} (closes : Closes rest) :
    expression (depth + 1) ((left ++ " " ++ joiner.keyword ++ " " ++ right).toList ++ rest) =
      some (joiner.formula leftFormula rightFormula, rest) := by
  have readRight := rightReads rest (ends_of_closes closes)
  cases joiner with
  | and =>
    have split : (left ++ " " ++ Joiner.and.keyword ++ " " ++ right).toList ++ rest =
        left.toList ++ ' ' :: ("AND".toList ++ ' ' :: (right.toList ++ rest)) := by
      simp [Joiner.keyword]
    rw [split, expression]
    exact sequence_done (sequence_one (leftReads _ (.inr (endsPredicate_and _))) readRight
      (closes.behind?_eq_none _)) (closes.behind?_eq_none _)
  | or =>
    have split : (left ++ " " ++ Joiner.or.keyword ++ " " ++ right).toList ++ rest =
        left.toList ++ ' ' :: ("OR".toList ++ ' ' :: (right.toList ++ rest)) := by
      simp [Joiner.keyword]
    have other : behind? "AND" (' ' :: ("OR".toList ++ ' ' :: (right.toList ++ rest))) = none := by
      simp [behind?, List.isPrefixOf]
    rw [split, expression]
    exact sequence_one (sequence_done (leftReads _ (.inr (endsPredicate_or _))) other)
      (sequence_done readRight (closes.behind?_eq_none _)) (closes.behind?_eq_none _)
  | andNot =>
    have split : (left ++ " " ++ Joiner.andNot.keyword ++ " " ++ right).toList ++ rest =
        left.toList ++ ' ' :: ("AND".toList ++ ' ' ::
          ('N' :: 'O' :: 'T' :: ' ' :: (right.toList ++ rest))) := by
      simp [Joiner.keyword]
    have negated : operand (expression depth) ('N' :: 'O' :: 'T' :: ' ' :: (right.toList ++ rest)) =
        some (.not rightFormula, rest) := by
      rw [operand, readRight]
      rfl
    rw [split, expression]
    exact sequence_done (sequence_one (leftReads _ (.inr (endsPredicate_and _))) negated
      (closes.behind?_eq_none _)) (closes.behind?_eq_none _)

/-- Where a condition is an operand its text is read as its expression. -/
theorem readsAs_operand {condition : Condition}
    (readable : ∀ predicate ∈ condition.predicates, predicate.IsReadable) (first : Nat)
    {depth : Nat} (deep : condition.height ≤ depth) :
    ReadsAs depth (bracketed condition.isJoin (condition.text first)) (condition.formula first) := by
  induction condition generalizing first depth with
  | always =>
    intro rest ends
    have passes : Passes 0 "TRUE".toList := fun _ => rfl
    exact operand_of_passes passes (by decide) (by decide) (by simp) ends
  | atom predicate =>
    intro rest ends
    exact (readable predicate List.mem_cons_self).operand_text first ends
  | join left joiner right leftReads rightReads =>
    obtain ⟨depth, rfl⟩ := Nat.exists_eq_add_one_of_ne_zero
      (Nat.ne_zero_of_lt (Nat.lt_of_lt_of_le (Nat.succ_pos _) deep))
    rw [height, Nat.add_le_add_iff_right, Nat.max_le] at deep
    rw [predicates, List.forall_mem_append] at readable
    intro rest ends
    have joined := expression_joined (leftReads readable.1 first deep.1)
      (rightReads readable.2 (first + left.arguments.length) deep.2) joiner (closes_paren rest)
    have split : (bracketed true (text first (.join left joiner right))).toList ++ rest =
        '(' :: ((text first (.join left joiner right)).toList ++ ')' :: rest) := by
      simp [bracketed]
    rw [isJoin, split, operand, text, joined]
    rfl

theorem expression_text {condition : Condition}
    (readable : ∀ predicate ∈ condition.predicates, predicate.IsReadable) (first : Nat)
    {depth : Nat} (deep : condition.height ≤ depth) :
    expression (depth + 1) (condition.text first).toList = some (condition.formula first, []) := by
  rw [← List.append_nil (condition.text first).toList]
  cases condition with
  | join left joiner right =>
    rw [predicates, List.forall_mem_append] at readable
    rw [height] at deep
    exact expression_joined (readsAs_operand readable.1 first (by omega))
      (readsAs_operand readable.2 (first + left.arguments.length) (by omega)) joiner closes_nil
  | always | atom =>
    have reads := readsAs_operand readable first deep [] (.inl rfl)
    exact sequence_done (sequence_done reads (closes_nil.behind?_eq_none _))
      (closes_nil.behind?_eq_none _)

/-- The text of a condition with legible names is read as its expression. -/
theorem read_text {condition : Condition}
    (readable : ∀ predicate ∈ condition.predicates, predicate.IsReadable) (first : Nat) :
    Formula.read (condition.text first) = some (condition.formula first) := by
  rw [Formula.read, expression_text readable first (condition.height_le_length first)]

end Condition

/-! ## The expression of a clause tree -/

/-- The expression that an operator makes of two operands, if SQL has the operator. -/
def Operator.formula? : Operator → Option (Formula → Formula → Formula)
  | .and => some .and
  | .or => some .or
  | .not => some fun left right => .and left (.not right)
  | .prox => none

/-- Whether two operands hold together; nearness counts as both holding. -/
def Operator.holds : Operator → Bool → Bool → Bool
  | .and, left, right => left && right
  | .or, left, right => left || right
  | .not, left, right => left && !right
  | .prox, left, right => left && right

namespace Clause

/-- The search clauses from left to right. -/
def searches : Clause → List SearchClause
  | .search _ clause => [clause]
  | .matchAll _ => []
  | .boolean _ left _ _ right => left.searches ++ right.searches

/-- The operators from left to right. -/
def operators : Clause → List Operator
  | .search _ _ => []
  | .matchAll _ => []
  | .boolean _ left operator _ right => left.operators ++ operator :: right.operators

/-- Whether the clause holds when the search clauses, numbered from left to right from `start` on,
have the truth values given. -/
def holds (truth : Nat → Bool) (start : Nat) : Clause → Bool
  | .search _ _ => truth start
  | .matchAll _ => true
  | .boolean _ left operator _ right =>
    operator.holds (left.holds truth start) (right.holds truth (start + left.searches.length))

end Clause

namespace Definition

/-- The expression of a clause tree and the arguments of its search clauses from left to right, with
placeholders numbered from `first` on; none where an operator or a search clause has no place in
SQL. -/
def formula? (definition : Definition) : Clause → Nat → Option (Formula × List Value)
  | .search _ search, first =>
    match definition.predicate search with
    | .ok predicate => some (.atom (predicate.text first), predicate.arguments)
    | .error _ => none
  | .matchAll _, _ => some (.always, [])
  | .boolean _ left operator _ right, first => do
    let (leftFormula, leftArguments) ← definition.formula? left first
    let (rightFormula, rightArguments) ← definition.formula? right (first + leftArguments.length)
    let join ← operator.formula?
    some (join leftFormula rightFormula, leftArguments ++ rightArguments)

variable {definition : Definition} {clause : Clause} {condition : Condition}

theorem assemble_boolean_eq_ok {prefixes : List Prefix} {left right : Clause} {operator : Operator}
    {modifiers : List Modifier}
    (assembled : definition.assemble (.boolean prefixes left operator modifiers right) =
      .ok condition) :
    ∃ leftCondition joiner rightCondition, definition.assemble left = .ok leftCondition ∧
      definition.assemble right = .ok rightCondition ∧
      Joiner.ofOperator? operator = some joiner ∧
      condition = .join leftCondition joiner rightCondition := by
  obtain ⟨leftCondition, leftAssembled, assembled⟩ := bind_eq_ok.1 assembled
  obtain ⟨_, -, assembled⟩ := bind_eq_ok.1 assembled
  obtain ⟨rightCondition, rightAssembled, assembled⟩ := bind_eq_ok.1 assembled
  cases joins : Joiner.ofOperator? operator with
  | none =>
    rw [joins] at assembled
    cases assembled
  | some joiner =>
    rw [joins] at assembled
    cases assembled
    exact ⟨leftCondition, joiner, rightCondition, leftAssembled, rightAssembled, rfl, rfl⟩

/-- What is assembled for a clause has the expression and the arguments of the clause tree. -/
theorem formula?_of_assemble (assembled : definition.assemble clause = .ok condition)
    (first : Nat) :
    definition.formula? clause first = some (condition.formula first, condition.arguments) := by
  induction clause generalizing condition first with
  | search prefixes search =>
    obtain ⟨predicate, found, rfl⟩ := map_eq_ok.1 assembled
    rw [formula?, found, Condition.arguments_atom]
    rfl
  | matchAll =>
    cases assembled
    rfl
  | boolean prefixes left operator modifiers right leftFormula rightFormula =>
    obtain ⟨leftCondition, joiner, rightCondition, leftAssembled, rightAssembled, joins, rfl⟩ :=
      assemble_boolean_eq_ok assembled
    have joined : operator.formula? = some joiner.formula := by
      cases operator <;> cases joins <;> rfl
    rw [formula?, leftFormula leftAssembled]
    simp only [Option.bind_eq_bind, Option.bind_some, rightFormula rightAssembled, joined,
      Condition.arguments_join]
    rfl

/-- An expression and the clause tree that it was made of hold alike. -/
theorem holds_formula {formula : Formula} {arguments : List Value} {first : Nat}
    (made : definition.formula? clause first = some (formula, arguments)) (truth : Nat → Bool)
    (start : Nat) :
    formula.size = clause.searches.length ∧
      formula.holds truth start = clause.holds truth start := by
  induction clause generalizing formula arguments first start with
  | search prefixes search =>
    rw [formula?] at made
    split at made
    · cases made
      exact ⟨rfl, rfl⟩
    · cases made
  | matchAll =>
    cases made
    exact ⟨rfl, rfl⟩
  | boolean prefixes left operator modifiers right leftHolds rightHolds =>
    obtain ⟨⟨leftFormula, leftArguments⟩, leftMade, made⟩ := Option.bind_eq_some_iff.1 made
    obtain ⟨⟨rightFormula, rightArguments⟩, rightMade, made⟩ := Option.bind_eq_some_iff.1 made
    obtain ⟨join, joins, made⟩ := Option.bind_eq_some_iff.1 made
    cases made
    obtain ⟨leftSize, leftSame⟩ := leftHolds leftMade start
    obtain ⟨rightSize, rightSame⟩ := rightHolds rightMade (start + leftFormula.size)
    rw [Clause.searches, List.length_append, Clause.holds, ← leftSame, ← leftSize, ← rightSize,
      ← rightSame]
    cases operator <;> cases joins <;> exact ⟨rfl, rfl⟩

end Definition

/-! ## Legible predicates -/

theorem TextField.isReadable {field : TextField} {search : SearchClause} {predicate : Predicate}
    (named : field.column ≠ "NOT") (made : field.predicate search = .ok predicate) :
    predicate.IsReadable := by
  obtain ⟨valid, renders⟩ := TextField.predicate_eq_ok.1 made
  cases renders with
  | fullText _ _ language _ => exact ⟨valid, language⟩
  | notNull | memberOf | like | compare => exact ⟨valid, named⟩

theorem NumberField.isReadable {column : String} {search : SearchClause} {predicate : Predicate}
    (named : column ≠ "NOT") (made : NumberField.predicate column search = .ok predicate) :
    predicate.IsReadable := by
  obtain ⟨valid, renders⟩ := NumberField.predicate_eq_ok.1 made
  cases renders with
  | notNull | compare => exact ⟨valid, named⟩

theorem Field.isReadable {field : Field} {search : SearchClause} {predicate : Predicate}
    (named : field.column ≠ "NOT") (made : field.predicate search = .ok predicate) :
    predicate.IsReadable := by
  cases field with
  | text field => exact TextField.isReadable named made
  | number column => exact NumberField.isReadable named made

namespace Definition

variable {definition : Definition} {clause : Clause} {condition : Condition}

theorem predicate_eq_ok {search : SearchClause} {predicate : Predicate} :
    definition.predicate search = .ok predicate ↔
      ∃ field, definition.get? search.indexOrDefault = some field ∧
        field.predicate search = .ok predicate := by
  unfold Definition.predicate
  cases definition.get? search.indexOrDefault with
  | none => simp
  | some field => simp

/-- Every predicate of a condition is one that a field makes. -/
theorem predicate_of_assemble (assembled : definition.assemble clause = .ok condition) :
    ∀ predicate ∈ condition.predicates, ∃ name field search,
      definition.get? name = some field ∧ field.predicate search = .ok predicate := by
  induction clause generalizing condition with
  | search prefixes search =>
    obtain ⟨predicate, made, rfl⟩ := map_eq_ok.1 assembled
    obtain ⟨field, found, made⟩ := predicate_eq_ok.1 made
    rw [Condition.predicates, List.forall_mem_singleton]
    exact ⟨_, field, search, found, made⟩
  | matchAll =>
    cases assembled
    simp [Condition.predicates]
  | boolean prefixes left operator modifiers right leftMade rightMade =>
    obtain ⟨leftCondition, joiner, rightCondition, leftAssembled, rightAssembled, -, rfl⟩ :=
      assemble_boolean_eq_ok assembled
    rw [Condition.predicates, List.forall_mem_append]
    exact ⟨leftMade leftAssembled, rightMade rightAssembled⟩

theorem readable_of_assemble (named : ∀ name field, definition.get? name = some field →
      field.column ≠ "NOT") (assembled : definition.assemble clause = .ok condition) :
    ∀ predicate ∈ condition.predicates, predicate.IsReadable := by
  intro predicate member
  obtain ⟨name, field, search, found, made⟩ := predicate_of_assemble assembled predicate member
  exact Field.isReadable (named name field found) made

/-! ## When there is a translation -/

/-- Whether every operator of a clause has a place in SQL and every search clause a predicate. -/
def Renders (definition : Definition) (clause : Clause) : Prop :=
  .prox ∉ clause.operators ∧ ∀ search ∈ clause.searches,
    ∃ field, definition.get? search.indexOrDefault = some field ∧
      ∃ predicate, field.predicate search = .ok predicate

theorem renders_boolean {prefixes : List Prefix} {left right : Clause} {operator : Operator}
    {modifiers : List Modifier} :
    definition.Renders (.boolean prefixes left operator modifiers right) ↔
      definition.Renders left ∧ operator ≠ .prox ∧ definition.Renders right := by
  simp only [Renders, Clause.operators, Clause.searches, List.mem_append, List.mem_cons, not_or,
    or_imp, forall_and]
  constructor
  · rintro ⟨⟨noLeft, supported, noRight⟩, leftFields, rightFields⟩
    exact ⟨⟨noLeft, leftFields⟩, Ne.symm supported, noRight, rightFields⟩
  · rintro ⟨⟨noLeft, leftFields⟩, supported, noRight, rightFields⟩
    exact ⟨⟨noLeft, Ne.symm supported, noRight⟩, leftFields, rightFields⟩

theorem renders_of_assemble (assembled : definition.assemble clause = .ok condition) :
    definition.Renders clause := by
  induction clause generalizing condition with
  | search prefixes search =>
    obtain ⟨predicate, made, -⟩ := map_eq_ok.1 assembled
    obtain ⟨field, found, made⟩ := predicate_eq_ok.1 made
    refine ⟨List.not_mem_nil, ?_⟩
    rw [Clause.searches, List.forall_mem_singleton]
    exact ⟨field, found, predicate, made⟩
  | matchAll => exact ⟨List.not_mem_nil, by simp [Clause.searches]⟩
  | boolean prefixes left operator modifiers right leftRenders rightRenders =>
    obtain ⟨leftCondition, joiner, rightCondition, leftAssembled, rightAssembled, joins, -⟩ :=
      assemble_boolean_eq_ok assembled
    rw [renders_boolean]
    refine ⟨leftRenders leftAssembled, ?_, rightRenders rightAssembled⟩
    rintro rfl
    cases joins

theorem checkChain_of_renders (renders : definition.Renders clause) :
    clause.checkChain = .ok () := by
  induction clause with
  | search | matchAll => rfl
  | boolean prefixes left operator modifiers right leftChecked rightChecked =>
    obtain ⟨leftRenders, supported, -⟩ := renders_boolean.1 renders
    rw [Clause.checkChain_boolean supported, leftChecked leftRenders]

theorem assemble_of_renders (renders : definition.Renders clause) :
    ∃ condition, definition.assemble clause = .ok condition := by
  induction clause with
  | search prefixes search =>
    obtain ⟨field, found, predicate, made⟩ := renders.2 search List.mem_cons_self
    exact ⟨.atom predicate, by rw [assemble, predicate_eq_ok.2 ⟨field, found, made⟩]; rfl⟩
  | matchAll => exact ⟨.always, rfl⟩
  | boolean prefixes left operator modifiers right leftAssembles rightAssembles =>
    obtain ⟨leftRenders, supported, rightRenders⟩ := renders_boolean.1 renders
    obtain ⟨leftCondition, leftAssembled⟩ := leftAssembles leftRenders
    obtain ⟨rightCondition, rightAssembled⟩ := rightAssembles rightRenders
    obtain ⟨joiner, joins⟩ := Joiner.exists_ofOperator? supported
    have checked := checkChain_of_renders rightRenders
    exact ⟨.join leftCondition joiner rightCondition,
      assemble_boolean leftAssembled checked rightAssembled joins prefixes modifiers⟩

theorem condition_eq_ok :
    definition.condition clause = .ok condition ↔ definition.assemble clause = .ok condition := by
  rw [Definition.condition]
  constructor
  · intro made
    obtain ⟨_, -, assembled⟩ := bind_eq_ok.1 made
    exact assembled
  · intro assembled
    rw [checkChain_of_renders (renders_of_assemble assembled), ok_bind, assembled]

theorem translate_eq_ok_iff {query : Query} {first : Nat} {statement : Statement} :
    definition.translate query first = .ok statement ↔ query.sortKeys = [] ∧
      ∃ condition, definition.assemble query.clause = .ok condition ∧
        statement = ⟨condition.text first, condition.arguments⟩ := by
  constructor
  · intro translated
    have unsorted : query.sortKeys = [] := by
      rw [translate] at translated
      split at translated
      · next empty => exact List.isEmpty_iff.1 empty
      · cases translated
    rw [translate, unsorted, List.isEmpty_nil, if_pos rfl] at translated
    obtain ⟨condition, made, done⟩ := bind_eq_ok.1 translated
    cases done
    refine ⟨unsorted, condition, condition_eq_ok.1 made, ?_⟩
    rw [Condition.write_eq]
    simp
  · rintro ⟨unsorted, condition, assembled, rfl⟩
    exact translate_eq_ok unsorted (condition_eq_ok.2 assembled)

/-- A translation has the boolean structure of its clause tree: its text is read as the tree's
expression, its arguments are those of the search clauses from left to right, and text and tree hold
for the same truth values.  There is a translation exactly where there are no sort keys, SQL has
every operator, and every search clause has a field that renders it. -/
theorem translate_structure (definition : Definition) (query : Query) (first : Nat) :
    (∀ statement, definition.translate query first = .ok statement →
      (∀ name field, definition.get? name = some field → field.column ≠ "NOT") →
      ∃ formula, definition.formula? query.clause first = some (formula, statement.arguments) ∧
        Formula.read statement.text = some formula ∧
        ∀ truth, formula.holds truth 0 = query.clause.holds truth 0) ∧
    ((∃ statement, definition.translate query first = .ok statement) ↔
      query.sortKeys = [] ∧ definition.Renders query.clause) := by
  refine ⟨?_, ?_⟩
  · intro statement translated named
    obtain ⟨-, condition, assembled, rfl⟩ := translate_eq_ok_iff.1 translated
    have made := formula?_of_assemble assembled first
    exact ⟨condition.formula first, made,
      Condition.read_text (readable_of_assemble named assembled) first,
      fun truth => (holds_formula made truth 0).2⟩
  · constructor
    · rintro ⟨statement, translated⟩
      obtain ⟨unsorted, condition, assembled, -⟩ := translate_eq_ok_iff.1 translated
      exact ⟨unsorted, renders_of_assemble assembled⟩
    · rintro ⟨unsorted, renders⟩
      obtain ⟨condition, assembled⟩ := assemble_of_renders renders
      exact ⟨_, translate_eq_ok_iff.2 ⟨unsorted, condition, assembled, rfl⟩⟩

theorem translate_structure_mixed :
    let definition := (Definition.empty.insert "title"
      (.text (TextField.withFullText (.withLike { column := "t" }) "english"))).insert "year"
      (.number "y")
    let title (relation term : String) : Clause := .relating "title" relation term
    let query : Query :=
      { clause := .joined (.joined (title "all" "a b") .or (.relating "year" "<" "1900")) .not
          (.joined (title "exact" "c*") .and (.matchAll [])) }
    (∀ name field, definition.get? name = some field → field.column ≠ "NOT") ∧
      ∃ statement formula, definition.translate query 2 = .ok statement ∧
        Formula.read statement.text = some formula ∧
        definition.formula? query.clause 2 = some (formula, statement.arguments) ∧
        ∀ truth, formula.holds truth 0 = ((truth 0 || truth 1) && !(truth 2 && true)) := by
  intro definition title query
  have named : ∀ name field, definition.get? name = some field → field.column ≠ "NOT" := by
    intro name field found
    by_cases year : name = "year"
    · rw [year, get?_insert_self] at found
      cases found
      decide
    · rw [get?_insert_of_ne year] at found
      by_cases title : name = "title"
      · rw [title, get?_insert_self] at found
        cases found
        decide
      · rw [get?_insert_of_ne title] at found
        cases found
  obtain ⟨reads, translates⟩ := definition.translate_structure query 2
  have renders : definition.Renders query.clause := by
    refine ⟨by decide, ?_⟩
    change ∀ search ∈ [({ index := "title", relation := "all", term := "a b" } : SearchClause),
      { index := "year", relation := "<", term := "1900" },
      { index := "title", relation := "exact", term := "c*" }], _
    simp only [List.forall_mem_cons, List.not_mem_nil, false_implies, implies_true, and_true]
    exact ⟨⟨_, rfl, .fullText "t" "english" "'a'&'b'", eq_ok_of_toOption (by decide +kernel)⟩,
      ⟨_, rfl, _, rfl⟩, _, rfl, _, rfl⟩
  obtain ⟨statement, translated⟩ := translates.2 ⟨rfl, renders⟩
  obtain ⟨formula, made, read, holds⟩ := reads statement translated named
  exact ⟨named, statement, formula, translated, read, made, holds⟩

/-- No reader tells every text apart: with a column called `NOT`, two clause trees with different
expressions have one text. -/
theorem exists_ambiguous_text :
    ¬∃ reader : String → Option Formula, ∀ (definition : Definition) (query : Query) (first : Nat)
      (statement : Statement) (formula : Formula),
      definition.translate query first = .ok statement →
      definition.formula? query.clause first = some (formula, statement.arguments) →
      reader statement.text = some formula := by
  rintro ⟨reader, reads⟩
  let definition := (Definition.empty.insert "a" (.text (.withExact { column := "a" }))).insert "b"
    (.text (.withLike { column := "NOT" }))
  let statement : Statement := ⟨"a = $1 AND NOT NOT LIKE $2", [.text "1", .text "x%"]⟩
  have conjunction := reads definition
    { clause := .joined (.equating "a" "1") .and (.relating "b" "<>" "x*") } 1 statement
    (.and (.atom "a = $1") (.atom "NOT NOT LIKE $2"))
    (eq_ok_of_toOption (by decide +kernel)) (by decide +kernel)
  have difference := reads definition
    { clause := .joined (.equating "a" "1") .not (.equating "b" "x*") } 1 statement
    (.and (.atom "a = $1") (.not (.atom "NOT LIKE $2")))
    (eq_ok_of_toOption (by decide +kernel)) (by decide +kernel)
  rw [conjunction] at difference
  cases difference

end Definition
end ContextualQuery
