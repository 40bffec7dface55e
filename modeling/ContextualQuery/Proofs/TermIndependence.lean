import ContextualQuery.Proofs.BooleanStructure

/-!
# The text knows no terms

The text of a translation depends on a term only in three ways: whether it is empty, whether it
masks anything, and how many words it has.  Two queries that agree in these and in all but their
terms have the same text, which is put together from names of the definition that are identifiers,
placeholders, and the words and signs that every translation uses.
-/

namespace ContextualQuery

/-! ## Predicates and conditions but for their arguments -/

/-- Whether two predicates differ at most in their arguments. -/
inductive Predicate.Alike : Predicate → Predicate → Prop
  | notNull (column : String) : Alike (.notNull column) (.notNull column)
  | compare (column : String) (comparator : Comparator) (argument other : Value) :
    Alike (.compare column comparator argument) (.compare column comparator other)
  | like (column : String) (negated : Bool) (pattern other : String) :
    Alike (.like column negated pattern) (.like column negated other)
  | memberOf (column : String) (negated : Bool) {words others : List String}
    (count : words.length = others.length) :
    Alike (.memberOf column negated words) (.memberOf column negated others)
  | fullText (column language query other : String) :
    Alike (.fullText column language query) (.fullText column language other)

namespace Predicate.Alike

variable {predicate other : Predicate}

theorem text_eq (alike : predicate.Alike other) (first : Nat) :
    predicate.text first = other.text first := by
  unfold text
  cases alike with
  | memberOf column negated count =>
    dsimp only
    rw [count]
  | notNull | compare | like | fullText => rfl

theorem length_arguments (alike : predicate.Alike other) :
    predicate.arguments.length = other.arguments.length := by
  cases alike with
  | memberOf column negated count => simp only [arguments, List.length_map, count]
  | notNull | compare | like | fullText => rfl

end Predicate.Alike

/-- Whether two conditions differ at most in their arguments. -/
inductive Condition.Alike : Condition → Condition → Prop
  | always : Alike .always .always
  | atom {predicate other : Predicate} (same : predicate.Alike other) :
    Alike (.atom predicate) (.atom other)
  | join {left right otherLeft otherRight : Condition} (joiner : Joiner)
    (onLeft : Alike left otherLeft) (onRight : Alike right otherRight) :
    Alike (.join left joiner right) (.join otherLeft joiner otherRight)

namespace Condition.Alike

variable {condition other : Condition}

theorem isJoin_eq (alike : condition.Alike other) : condition.isJoin = other.isJoin := by
  cases alike <;> rfl

theorem length_arguments (alike : condition.Alike other) :
    condition.arguments.length = other.arguments.length := by
  induction alike with
  | always => rfl
  | atom same => rw [arguments_atom, arguments_atom, same.length_arguments]
  | join joiner onLeft onRight leftSame rightSame =>
    rw [arguments_join, arguments_join, List.length_append, List.length_append, leftSame, rightSame]

theorem text_eq (alike : condition.Alike other) (first : Nat) :
    condition.text first = other.text first := by
  induction alike generalizing first with
  | always => rfl
  | atom same => exact same.text_eq first
  | join joiner onLeft onRight leftSame rightSame =>
    rw [text, text, onLeft.isJoin_eq, onRight.isJoin_eq, onLeft.length_arguments, leftSame,
      rightSame]

end Condition.Alike

/-! ## Clauses but for their terms -/

/-- Whether two search clauses ask the same of the same index, with terms that are both empty or
both not, both masked or both not, and of as many words, where they can be divided into words. -/
structure SearchClause.SameShape (search other : SearchClause) : Prop where
  index : search.indexOrDefault = other.indexOrDefault
  relation : search.relationOrDefault = other.relationOrDefault
  empty : search.term = "" ↔ other.term = ""
  masked : Masking.isMasked search.term = Masking.isMasked other.term
  count : ∀ words others, Masking.exactWords search.term = .ok words →
    Masking.exactWords other.term = .ok others → words.length = others.length

/-- Whether two clauses have the same operators and match-all clauses around search clauses of the
same shape. -/
inductive Clause.SameShape : Clause → Clause → Prop
  | search {search other : SearchClause} (prefixes declared : List Prefix)
    (same : search.SameShape other) : SameShape (.search prefixes search) (.search declared other)
  | matchAll (prefixes declared : List Prefix) :
    SameShape (.matchAll prefixes) (.matchAll declared)
  | boolean {left right otherLeft otherRight : Clause} (prefixes declared : List Prefix)
    (operator : Operator) (modifiers others : List Modifier)
    (onLeft : SameShape left otherLeft) (onRight : SameShape right otherRight) :
    SameShape (.boolean prefixes left operator modifiers right)
      (.boolean declared otherLeft operator others otherRight)

/-- The number of words can be compared by evaluation; it is none where a term masks something. -/
theorem SearchClause.SameShape.of_count {search other : SearchClause}
    (index : search.indexOrDefault = other.indexOrDefault)
    (relation : search.relationOrDefault = other.relationOrDefault)
    (empty : search.term = "" ↔ other.term = "")
    (masked : Masking.isMasked search.term = Masking.isMasked other.term)
    (count : (Masking.exactWords search.term).toOption.map List.length =
      (Masking.exactWords other.term).toOption.map List.length) : search.SameShape other := by
  refine ⟨index, relation, empty, masked, fun words others read otherRead => ?_⟩
  rw [read, otherRead] at count
  exact Option.some.inj count

theorem SearchClause.SameShape.asksForAny {search other : SearchClause}
    (same : search.SameShape other) : search.asksForAny = other.asksForAny := by
  rw [Bool.eq_iff_iff, asksForAny_iff, asksForAny_iff, same.relation, same.empty]

namespace TextField

variable {field : TextField} {search other : SearchClause}

theorem TakesWhole.sameShape (whole : field.TakesWhole search) (same : search.SameShape other) :
    field.TakesWhole other := by
  obtain ⟨asks, noFullText, unsplit, exact⟩ := whole
  rw [same.asksForAny] at asks
  rw [same.relation] at noFullText unsplit
  exact ⟨asks, noFullText, unsplit, exact⟩

theorem not_takesWhole {negated : Bool} (split : field.split = true)
    (relation : search.relationOrDefault = if negated then "<>" else "any") :
    ¬ field.TakesWhole search := by
  intro whole
  obtain ⟨notAny, notOther⟩ := whole.unsplit split
  cases negated with
  | false => exact notAny relation
  | true => exact notOther relation

end TextField

/-- The cases in which a text field renders a clause are told apart by the shape of the clause. -/
theorem TextField.Renders.alike {field : TextField} {search other : SearchClause}
    {predicate otherPredicate : Predicate} (same : search.SameShape other)
    (renders : field.Renders search predicate) (otherRenders : field.Renders other otherPredicate) :
    predicate.Alike otherPredicate := by
  cases renders with
  | notNull asks =>
    rw [same.asksForAny] at asks
    cases otherRenders with
    | notNull => exact .notNull _
    | fullText refuses | memberOf refuses => cases asks.symm.trans refuses
    | like whole | compare whole => cases asks.symm.trans whole.asks
  | fullText asks searches valid read =>
    rw [same.asksForAny] at asks
    rw [same.relation] at searches
    cases otherRenders with
    | notNull otherAsks => cases asks.symm.trans otherAsks
    | fullText _ otherSearches =>
      cases searches.symm.trans otherSearches
      exact .fullText _ _ _ _
    | memberOf _ noFullText => cases searches.symm.trans noFullText
    | like whole | compare whole => cases searches.symm.trans whole.noFullText
  | @memberOf negated words asks noFullText split relation read =>
    rw [same.asksForAny] at asks
    rw [same.relation] at noFullText relation
    cases otherRenders with
    | notNull otherAsks => cases asks.symm.trans otherAsks
    | fullText _ searches => cases noFullText.symm.trans searches
    | @memberOf otherNegated _ _ _ _ otherRelation otherRead =>
      have agree : negated = otherNegated := by
        have relations := relation.symm.trans otherRelation
        revert relations
        cases negated <;> cases otherNegated <;> decide
      rw [agree]
      exact .memberOf _ _ (same.count _ _ read otherRead)
    | like whole | compare whole => exact absurd whole (not_takesWhole split relation)
  | @like pattern whole takes masked read =>
    have whole := whole.sameShape same
    rw [same.relation] at takes
    rw [same.masked] at masked
    rw [same.relation]
    cases otherRenders with
    | notNull asks => cases asks.symm.trans whole.asks
    | fullText _ searches => cases whole.noFullText.symm.trans searches
    | memberOf _ _ split relation => exact absurd whole (not_takesWhole split relation)
    | like => exact .like _ _ _ _
    | compare _ unmasked => cases masked.symm.trans (unmasked takes).1
  | compare whole unmasked related read =>
    have whole := whole.sameShape same
    rw [same.relation, same.masked] at unmasked
    rw [same.relation] at related
    cases otherRenders with
    | notNull asks => cases asks.symm.trans whole.asks
    | fullText _ searches => cases whole.noFullText.symm.trans searches
    | memberOf _ _ split relation => exact absurd whole (not_takesWhole split relation)
    | like _ takes masked => cases masked.symm.trans (unmasked takes).1
    | compare _ _ otherRelated =>
      cases related.symm.trans otherRelated
      exact .compare _ _ _ _

theorem NumberField.Renders.alike {column : String} {search other : SearchClause}
    {predicate otherPredicate : Predicate} (same : search.SameShape other)
    (renders : NumberField.Renders column search predicate)
    (otherRenders : NumberField.Renders column other otherPredicate) :
    predicate.Alike otherPredicate := by
  cases renders with
  | notNull asks =>
    rw [same.asksForAny] at asks
    cases otherRenders with
    | notNull => exact .notNull _
    | compare refuses => cases asks.symm.trans refuses
  | compare refuses related =>
    rw [same.asksForAny] at refuses
    rw [same.relation] at related
    cases otherRenders with
    | notNull asks => cases asks.symm.trans refuses
    | compare _ otherRelated =>
      cases related.symm.trans otherRelated
      exact .compare _ _ _ _

theorem Field.predicate_alike {field : Field} {search other : SearchClause}
    {predicate otherPredicate : Predicate} (same : search.SameShape other)
    (made : field.predicate search = .ok predicate)
    (otherMade : field.predicate other = .ok otherPredicate) : predicate.Alike otherPredicate := by
  cases field with
  | text field =>
    exact (TextField.predicate_eq_ok.1 made).2.alike same (TextField.predicate_eq_ok.1 otherMade).2
  | number column =>
    exact (NumberField.predicate_eq_ok.1 made).2.alike same
      (NumberField.predicate_eq_ok.1 otherMade).2

theorem Definition.assemble_alike {definition : Definition} {clause other : Clause}
    {condition otherCondition : Condition} (same : clause.SameShape other)
    (assembled : definition.assemble clause = .ok condition)
    (otherAssembled : definition.assemble other = .ok otherCondition) :
    condition.Alike otherCondition := by
  induction same generalizing condition otherCondition with
  | search _ _ same =>
    obtain ⟨predicate, made, rfl⟩ := map_eq_ok.1 assembled
    obtain ⟨otherPredicate, otherMade, rfl⟩ := map_eq_ok.1 otherAssembled
    obtain ⟨field, found, made⟩ := predicate_eq_ok.1 made
    obtain ⟨otherField, otherFound, otherMade⟩ := predicate_eq_ok.1 otherMade
    rw [same.index] at found
    cases found.symm.trans otherFound
    exact .atom (field.predicate_alike same made otherMade)
  | matchAll =>
    cases assembled
    cases otherAssembled
    exact .always
  | boolean _ _ operator _ _ _ _ leftAlike rightAlike =>
    obtain ⟨left, joiner, right, leftMade, rightMade, joins, rfl⟩ :=
      assemble_boolean_eq_ok assembled
    obtain ⟨otherLeft, otherJoiner, otherRight, otherLeftMade, otherRightMade, otherJoins, rfl⟩ :=
      assemble_boolean_eq_ok otherAssembled
    cases joins.symm.trans otherJoins
    exact .join joiner (leftAlike leftMade otherLeftMade) (rightAlike rightMade otherRightMade)

/-! ## What a text is made of -/

/-- The words and signs of a translation. -/
def Condition.signs : List String :=
  ["TRUE", "(", ")", " ", "AND", "OR", "AND NOT", "=", "<>", "<", ">", "<=", ">=", " IS NOT NULL",
    " LIKE ", " NOT LIKE ", " IN(", " NOT IN(", ", ", "to_tsvector('", "', ", ") @@ to_tsquery('"]

def Field.language? : Field → Option String
  | .text field => field.language
  | .number _ => none

namespace Definition

variable {definition : Definition}

/-- Whether a name is an identifier and the column or the language of a field. -/
def Names (definition : Definition) (name : String) : Prop :=
  isIdentifier name = true ∧ ∃ index field, definition.get? index = some field ∧
    (field.column = name ∨ field.language? = some name)

/-- The pieces of a translation whose placeholders are numbered from `first` on and in front of
`last`. -/
inductive Piece (definition : Definition) (first last : Nat) : String → Prop
  | name {name : String} (names : definition.Names name) : Piece definition first last name
  | sign {sign : String} (among : sign ∈ Condition.signs) : Piece definition first last sign
  | placeholder {number : Nat} (least : first ≤ number) (most : number < last) :
    Piece definition first last (placeholder number)

/-- Whether a text is put together from pieces. -/
def Composes (definition : Definition) (first last : Nat) (text : String) : Prop :=
  ∃ pieces : List String, text.toList = pieces.flatMap String.toList ∧
    ∀ piece ∈ pieces, definition.Piece first last piece

variable {first last : Nat}

theorem Composes.append {text other : String} (one : definition.Composes first last text)
    (two : definition.Composes first last other) :
    definition.Composes first last (text ++ other) := by
  obtain ⟨pieces, made, each⟩ := one
  obtain ⟨others, otherMade, otherEach⟩ := two
  refine ⟨pieces ++ others, ?_, List.forall_mem_append.2 ⟨each, otherEach⟩⟩
  rw [String.toList_append, made, otherMade, List.flatMap_append]

theorem Composes.mono {start bound : Nat} {text : String}
    (composes : definition.Composes start bound text) (later : first ≤ start)
    (earlier : bound ≤ last) : definition.Composes first last text := by
  obtain ⟨pieces, made, each⟩ := composes
  refine ⟨pieces, made, fun piece member => ?_⟩
  cases each piece member with
  | name names => exact .name names
  | sign among => exact .sign among
  | placeholder least most =>
    exact .placeholder (Nat.le_trans later least) (Nat.lt_of_lt_of_le most earlier)

theorem composes_sign {sign : String} (among : sign ∈ Condition.signs) :
    definition.Composes first last sign :=
  ⟨[sign], (List.flatMap_singleton ..).symm, List.forall_mem_singleton.2 (.sign among)⟩

theorem Composes.bracketed {text : String} (composes : definition.Composes first last text)
    (brackets : Bool) : definition.Composes first last (Condition.bracketed brackets text) := by
  cases brackets with
  | false => exact composes
  | true =>
    exact ((composes_sign (by decide)).append composes).append (composes_sign (by decide))

theorem composes_intercalate {separator : String} {parts : List String}
    (among : separator ∈ Condition.signs)
    (each : ∀ part ∈ parts, definition.Piece first last part) :
    definition.Composes first last (separator.intercalate parts) := by
  induction parts with
  | nil => exact ⟨[], by simp, List.forall_mem_nil _⟩
  | cons part parts ih =>
    obtain ⟨front, behind⟩ := List.forall_mem_cons.1 each
    cases parts with
    | nil => exact ⟨[part], by simp, List.forall_mem_singleton.2 front⟩
    | cons next parts =>
      obtain ⟨pieces, made, rest⟩ := ih behind
      refine ⟨part :: separator :: pieces, ?_, ?_⟩
      · rw [String.toList_intercalate] at made ⊢
        simp only [List.map_cons, List.intercalate_cons_cons, List.flatMap_cons] at made ⊢
        rw [made, List.append_assoc]
      · exact List.forall_mem_cons.2 ⟨front, List.forall_mem_cons.2 ⟨.sign among, rest⟩⟩

end Definition

/-- Whether a definition has the names in a predicate. -/
def Predicate.NamedBy (definition : Definition) : Predicate → Prop
  | .notNull column | .compare column _ _ | .like column _ _ | .memberOf column _ _ =>
    definition.Names column
  | .fullText column language _ => definition.Names column ∧ definition.Names language

/-- The text of a predicate is made of its names, signs and one placeholder an argument. -/
theorem Predicate.NamedBy.composes {definition : Definition} {predicate : Predicate}
    (named : predicate.NamedBy definition) (first : Nat) :
    definition.Composes first (first + predicate.arguments.length) (predicate.text first) := by
  have own : definition.Piece first (first + 1) (placeholder first) :=
    .placeholder (Nat.le_refl _) (Nat.lt_succ_self _)
  unfold text
  cases predicate with
  | notNull column =>
    refine ⟨[column, " IS NOT NULL"], by simp, ?_⟩
    simp only [List.forall_mem_cons]
    exact ⟨.name named, .sign (by decide), List.forall_mem_nil _⟩
  | compare column comparator argument =>
    have symbol : comparator.symbol ∈ Condition.signs := by cases comparator <;> decide
    refine ⟨[column, " ", comparator.symbol, " ", placeholder first], by simp, ?_⟩
    simp only [List.forall_mem_cons]
    exact ⟨.name named, .sign (by decide), .sign symbol, .sign (by decide), own,
      List.forall_mem_nil _⟩
  | like column negated pattern =>
    have keyword : (if negated then " NOT LIKE " else " LIKE ") ∈ Condition.signs := by
      cases negated <;> decide
    refine ⟨[column, if negated then " NOT LIKE " else " LIKE ", placeholder first], by simp, ?_⟩
    simp only [List.forall_mem_cons]
    exact ⟨.name named, .sign keyword, own, List.forall_mem_nil _⟩
  | memberOf column negated words =>
    have keyword : (if negated then " NOT IN(" else " IN(") ∈ Condition.signs := by
      cases negated <;> decide
    have each : ∀ part ∈ (List.range' first words.length).map placeholder,
        definition.Piece first (first + words.length) part := by
      intro part member
      obtain ⟨number, between, rfl⟩ := List.mem_map.1 member
      obtain ⟨least, most⟩ := List.mem_range'_1.1 between
      exact .placeholder least most
    rw [arguments, List.length_map]
    have front : definition.Composes first (first + words.length)
        (column ++ if negated then " NOT IN(" else " IN(") := by
      refine ⟨[column, if negated then " NOT IN(" else " IN("], by simp, ?_⟩
      simp only [List.forall_mem_cons]
      exact ⟨.name named, .sign keyword, List.forall_mem_nil _⟩
    exact (front.append (Definition.composes_intercalate (by decide) each)).append
      (Definition.composes_sign (by decide))
  | fullText column language query =>
    obtain ⟨columnNamed, languageNamed⟩ := named
    refine ⟨["to_tsvector('", language, "', ", column, ") @@ to_tsquery('", language, "', ",
      placeholder first, ")"], by simp, ?_⟩
    simp only [List.forall_mem_cons]
    exact ⟨.sign (by decide), .name languageNamed, .sign (by decide), .name columnNamed,
      .sign (by decide), .name languageNamed, .sign (by decide), own, .sign (by decide),
      List.forall_mem_nil _⟩

theorem Condition.composes {definition : Definition} {condition : Condition}
    (named : ∀ predicate ∈ condition.predicates, predicate.NamedBy definition) (first : Nat) :
    definition.Composes first (first + condition.arguments.length) (condition.text first) := by
  induction condition generalizing first with
  | always =>
    have listed : "TRUE" ∈ signs := by decide
    exact Definition.composes_sign listed
  | atom predicate =>
    rw [arguments_atom]
    exact (named predicate List.mem_cons_self).composes first
  | join left joiner right leftMade rightMade =>
    obtain ⟨leftNamed, rightNamed⟩ := List.forall_mem_append.1 named
    have keyword : joiner.keyword ∈ signs := by cases joiner <;> decide
    have blank : " " ∈ signs := by decide
    have onLeft := (leftMade leftNamed first).bracketed left.isJoin
    have onRight := (rightMade rightNamed (first + left.arguments.length)).bracketed right.isJoin
    rw [arguments_join, List.length_append, ← Nat.add_assoc, text]
    refine .append (.append (.append (.append ?_ ?_) ?_) ?_) ?_
    · exact onLeft.mono (Nat.le_refl _) (Nat.le_add_right _ _)
    · exact Definition.composes_sign blank
    · exact Definition.composes_sign keyword
    · exact Definition.composes_sign blank
    · exact onRight.mono (Nat.le_add_right _ _) (Nat.le_refl _)

theorem Field.namedBy {definition : Definition} {name : String} {field : Field}
    {search : SearchClause} {predicate : Predicate} (found : definition.get? name = some field)
    (made : field.predicate search = .ok predicate) : predicate.NamedBy definition := by
  cases field with
  | text field =>
    obtain ⟨valid, renders⟩ := TextField.predicate_eq_ok.1 made
    have column : definition.Names field.column := ⟨valid, name, _, found, .inl rfl⟩
    cases renders with
    | fullText _ searches known _ =>
      obtain ⟨language, searched, inner⟩ := Option.bind_eq_some_iff.1 searches
      obtain ⟨operator, -, same⟩ := Option.bind_eq_some_iff.1 inner
      cases same
      exact ⟨column, known, name, _, found, .inr searched⟩
    | notNull | memberOf | like | compare => exact column
  | number column =>
    obtain ⟨valid, renders⟩ := NumberField.predicate_eq_ok.1 made
    cases renders with
    | notNull | compare => exact ⟨valid, name, _, found, .inl rfl⟩

namespace Definition

/-- The text of a translation does not depend on the terms but for their shape, and nothing of a
term stands in it. -/
theorem text_of_sameShape {definition : Definition} {query other : Query} {first : Nat}
    {statement otherStatement : Statement} (same : query.clause.SameShape other.clause)
    (translated : definition.translate query first = .ok statement)
    (otherTranslated : definition.translate other first = .ok otherStatement) :
    statement.text = otherStatement.text ∧
      definition.Composes first (first + statement.arguments.length) statement.text := by
  obtain ⟨-, condition, assembled, rfl⟩ := translate_eq_ok_iff.1 translated
  obtain ⟨-, otherCondition, otherAssembled, rfl⟩ := translate_eq_ok_iff.1 otherTranslated
  have named : ∀ predicate ∈ condition.predicates, predicate.NamedBy definition := by
    intro predicate member
    obtain ⟨_, field, search, found, made⟩ := predicate_of_assemble assembled predicate member
    exact Field.namedBy found made
  exact ⟨(assemble_alike same assembled otherAssembled).text_eq first,
    Condition.composes named first⟩

theorem text_of_sameShape_hostile :
    let definition := ((empty.insert "title" (.text (.withLike { column := "b.title" }))).insert
      "subject" (.text (.withSplit { column := "tags" }))).insert "body"
        (.text (.withFullText { column := "body" } "english"))
    let ask (title subject body : String) : Query :=
      { clause := .joined (.joined (.relating "title" "=" title) .or
          (.relating "subject" "any" subject)) .not (.relating "body" "all" body) }
    let statement : Statement :=
      ⟨"(b.title LIKE $3 OR tags IN($4, $5)) AND NOT " ++
          "to_tsvector('english', body) @@ to_tsquery('english', $6)",
        [.text "du_e", .text "sand", .text "worm", .text "'x'"]⟩
    let hostile : Statement :=
      ⟨statement.text,
        [.text "%'; DROP TABLE b --", .text "$1", .text "OR", .text "'''||(''1''=''1'"]⟩
    definition.translate (ask "du?e" "sand worm" "x") 3 = .ok statement ∧
      definition.translate (ask "*'; DROP TABLE b --" "$1 OR" "'||('1'='1") 3 = .ok hostile ∧
      statement.text = hostile.text ∧ definition.Composes 3 7 statement.text := by
  intro definition ask statement hostile
  have translated : definition.translate (ask "du?e" "sand worm" "x") 3 = .ok statement :=
    eq_ok_of_toOption (by decide +kernel)
  have otherTranslated : definition.translate (ask "*'; DROP TABLE b --" "$1 OR" "'||('1'='1") 3 =
      .ok hostile := eq_ok_of_toOption (by decide +kernel)
  have title : SearchClause.SameShape { index := "title", relation := "=", term := "du?e" }
      { index := "title", relation := "=", term := "*'; DROP TABLE b --" } :=
    .of_count rfl rfl (by decide) (by decide +kernel) (by decide +kernel)
  have subject : SearchClause.SameShape
      { index := "subject", relation := "any", term := "sand worm" }
      { index := "subject", relation := "any", term := "$1 OR" } :=
    .of_count rfl rfl (by decide) (by decide +kernel) (by decide +kernel)
  have body : SearchClause.SameShape { index := "body", relation := "all", term := "x" }
      { index := "body", relation := "all", term := "'||('1'='1" } :=
    .of_count rfl rfl (by decide) (by decide +kernel) (by decide +kernel)
  have same : (ask "du?e" "sand worm" "x").clause.SameShape
      (ask "*'; DROP TABLE b --" "$1 OR" "'||('1'='1").clause :=
    .boolean _ _ _ _ _ (.boolean _ _ _ _ _ (.search _ _ title) (.search _ _ subject))
      (.search _ _ body)
  obtain ⟨sameText, composes⟩ := text_of_sameShape same translated otherTranslated
  exact ⟨translated, otherTranslated, sameText, composes⟩

end Definition
end ContextualQuery
