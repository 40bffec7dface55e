import ContextualQuery.Proofs.BooleanStructure
import ContextualQuery.Proofs.GuardedTerms
import ContextualQuery.Proofs.Idempotence

/-!
# The translation of canonical text

A query that can be translated is read back from its canonical text to one with the same
translation.  Such a query uses only relations that fields know, which are written as they are; its
indexes are names of fields, in which nothing has to be escaped; and its terms are those that fields
take, for which guarding quotes makes no difference.
-/

namespace ContextualQuery

/-! ## Relations that fields know -/

namespace Relation

/-- The relations of the clauses that some field renders. -/
def rendered : List String :=
  ["=", "==", "exact", "<>", "<", ">", "<=", ">=", "adj", "all", "any"]

theorem readsUnder_of_rendered {relation : String} (known : relation ∈ rendered)
    (declared : List Prefix) : ReadsUnder declared relation := by
  simp only [rendered, List.mem_cons, List.not_mem_nil, or_false] at known
  rcases known with rfl | rfl | rfl | rfl | rfl | rfl | rfl | rfl | rfl | rfl | rfl
  · exact readsUnder_symbol .equal
  · exact readsUnder_symbol .exactlyEqual
  · exact readsUnder_of_named (by decide +kernel)
  · exact readsUnder_symbol .notEqual
  · exact readsUnder_symbol .less
  · exact readsUnder_symbol .greater
  · exact readsUnder_symbol .lessOrEqual
  · exact readsUnder_symbol .greaterOrEqual
  all_goals exact readsUnder_of_named (by decide +kernel)

theorem rendered_of_operator? {relation operator : String}
    (found : TextQuery.operator? relation = some operator) : relation ∈ rendered := by
  unfold TextQuery.operator? at found
  split at found
  · decide
  · decide
  · decide
  · decide
  · cases found

theorem rendered_of_unordered? {relation : String} {comparator : Comparator}
    (related : Comparator.unordered? relation = some comparator) : relation ∈ rendered := by
  rcases Comparator.relation_of_unordered? related with
    ⟨-, rfl | rfl | rfl⟩ | ⟨-, rfl⟩ <;> decide

theorem rendered_of_ordered? {relation : String} {comparator : Comparator}
    (related : Comparator.ordered? relation = some comparator) : relation ∈ rendered := by
  unfold Comparator.ordered? at related
  split at related <;> first | decide | cases related

end Relation

theorem TextField.Renders.relation_mem {field : TextField} {search : SearchClause}
    {predicate : Predicate} (renders : field.Renders search predicate) :
    search.relationOrDefault ∈ Relation.rendered := by
  cases renders with
  | notNull asks =>
    rw [(SearchClause.asksForAny_iff.1 asks).1]
    decide
  | fullText _ searches _ _ =>
    obtain ⟨_, -, found⟩ := Option.bind_eq_some_iff.1 searches
    obtain ⟨_, found, -⟩ := Option.bind_eq_some_iff.1 found
    exact Relation.rendered_of_operator? found
  | @memberOf negated _ _ _ _ relation _ =>
    rw [relation]
    cases negated <;> decide
  | like _ takes _ _ =>
    rcases (takesPattern_iff.1 takes).2 with relation | relation | relation <;>
    · rw [relation]
      decide
  | compare _ _ related _ => exact Relation.rendered_of_unordered? related

theorem NumberField.Renders.relation_mem {column : String} {search : SearchClause}
    {predicate : Predicate} (renders : NumberField.Renders column search predicate) :
    search.relationOrDefault ∈ Relation.rendered := by
  cases renders with
  | notNull asks =>
    rw [(SearchClause.asksForAny_iff.1 asks).1]
    decide
  | compare _ related _ => exact Relation.rendered_of_ordered? related

/-! ## Clauses with the term read back -/

/-- Whether a clause asks what another does, with the other's term read back. -/
structure SearchClause.Rereads (again search : SearchClause) : Prop where
  relation : again.relationOrDefault = search.relationOrDefault
  term : again.term = reread search.term

theorem SearchClause.Rereads.asksForAny {again search : SearchClause}
    (rereads : again.Rereads search) : again.asksForAny = search.asksForAny := by
  rw [SearchClause.asksForAny, rereads.relation, rereads.term, isEmpty_reread,
    SearchClause.asksForAny]

theorem TextField.Renders.reread {field : TextField} {again search : SearchClause}
    {predicate : Predicate} (rereads : again.Rereads search)
    (renders : field.Renders search predicate) : field.Renders again predicate := by
  have wholeAgain (whole : field.TakesWhole search) : field.TakesWhole again := by
    obtain ⟨asks, noFullText, unsplit, exact⟩ := whole
    refine ⟨by rw [rereads.asksForAny, asks], ?_, ?_, exact⟩
    · rw [rereads.relation, noFullText]
    · rw [rereads.relation]
      exact unsplit
  cases renders with
  | notNull asks => exact .notNull (by rw [rereads.asksForAny, asks])
  | fullText asks searches valid read =>
    refine .fullText (by rw [rereads.asksForAny, asks]) (by rw [rereads.relation, searches]) valid ?_
    rw [rereads.term]
    exact Masking.exactWords_reread read
  | memberOf asks noFullText split relation read =>
    refine .memberOf (by rw [rereads.asksForAny, asks]) (by rw [rereads.relation, noFullText])
      split (by rw [rereads.relation, relation]) ?_
    rw [rereads.term]
    exact Masking.exactWords_reread read
  | like whole takes masked read =>
    rw [← rereads.relation] at takes ⊢
    refine .like (wholeAgain whole) takes ?_ ?_
    · rw [rereads.term, Masking.isMasked_reread, masked]
    · rw [rereads.term]
      exact Masking.likePattern_reread read
  | compare whole unmasked related read =>
    rw [← rereads.relation] at unmasked related
    refine .compare (wholeAgain whole) (fun takes => ?_) related ?_
    · obtain ⟨noMask, pattern, made⟩ := unmasked takes
      rw [rereads.term, Masking.isMasked_reread]
      exact ⟨noMask, pattern, Masking.likePattern_reread made⟩
    · rw [rereads.term]
      exact Masking.exactTerm_reread read

theorem NumberField.Renders.reread {column : String} {again search : SearchClause}
    {predicate : Predicate} (rereads : again.Rereads search)
    (renders : NumberField.Renders column search predicate) :
    NumberField.Renders column again predicate := by
  cases renders with
  | notNull asks => exact .notNull (by rw [rereads.asksForAny, asks])
  | compare asks related read =>
    refine .compare (by rw [rereads.asksForAny, asks]) (by rw [rereads.relation, related]) ?_
    rw [rereads.term, Decimal.reread_of_ofString? read, read]

namespace Field

variable {field : Field} {search again : SearchClause} {predicate : Predicate}

theorem relation_mem (made : field.predicate search = .ok predicate) :
    search.relationOrDefault ∈ Relation.rendered := by
  cases field with
  | text field => exact (TextField.predicate_eq_ok.1 made).2.relation_mem
  | number column => exact (NumberField.predicate_eq_ok.1 made).2.relation_mem

theorem predicate_reread (rereads : again.Rereads search)
    (made : field.predicate search = .ok predicate) : field.predicate again = .ok predicate := by
  cases field with
  | text field =>
    obtain ⟨valid, renders⟩ := TextField.predicate_eq_ok.1 made
    exact TextField.predicate_eq_ok.2 ⟨valid, renders.reread rereads⟩
  | number column =>
    obtain ⟨valid, renders⟩ := NumberField.predicate_eq_ok.1 made
    exact NumberField.predicate_eq_ok.2 ⟨valid, renders.reread rereads⟩

end Field

/-! ## The normal form of a translatable query -/

namespace Definition

variable {definition : Definition}

/-- Whether nothing in the name of a field has to be escaped. -/
def IsPlain (definition : Definition) : Prop :=
  ∀ name field, definition.get? name = some field → '"' ∉ name.toList ∧ '\\' ∉ name.toList

theorem isPlain_empty : empty.IsPlain := by
  intro name field found
  cases found

theorem IsPlain.insert (plain : definition.IsPlain) {name : String} (noQuote : '"' ∉ name.toList)
    (noEscape : '\\' ∉ name.toList) (field : Field) : (definition.insert name field).IsPlain := by
  intro other found other'
  by_cases same : other = name
  · rw [same]
    exact ⟨noQuote, noEscape⟩
  · rw [get?_insert_of_ne same] at other'
    exact plain other found other'

theorem predicate_normal (plain : definition.IsPlain) {search : SearchClause}
    {predicate : Predicate} (made : definition.predicate search = .ok predicate) :
    definition.predicate search.normal = .ok predicate := by
  obtain ⟨field, found, made⟩ := predicate_eq_ok.1 made
  obtain ⟨noQuote, noEscape⟩ := plain _ field found
  have known := Field.relation_mem made
  have relation : search.relationOrDefault ≠ Relation.serverChoice := by
    intro same
    rw [same] at known
    revert known
    decide
  have written := search.relationOrDefault_normal.resolve_right fun elided => relation elided.1
  refine predicate_eq_ok.2 ⟨field, ?_, ?_⟩
  · rw [SearchClause.indexOrDefault_normal, reread_of_plain noEscape noQuote, found]
  · exact Field.predicate_reread ⟨written, search.term_normal⟩ made

theorem assemble_withPrefixes (declared : List Prefix) (clause : Clause) :
    definition.assemble (clause.withPrefixes declared) = definition.assemble clause := by
  cases clause <;> rfl

theorem assemble_core (plain : definition.IsPlain) {clause : Clause} {condition : Condition}
    (searches : clause.hasMatchAll = false)
    (assembled : definition.assemble clause = .ok condition) :
    definition.assemble clause.core = .ok condition := by
  induction clause generalizing condition with
  | search prefixes search =>
    obtain ⟨predicate, made, rfl⟩ := map_eq_ok.1 assembled
    exact map_eq_ok.2 ⟨predicate, predicate_normal plain made, rfl⟩
  | matchAll => cases searches
  | boolean prefixes left operator modifiers right leftCore rightCore =>
    obtain ⟨leftCondition, joiner, rightCondition, leftAssembled, rightAssembled, joins, rfl⟩ :=
      assemble_boolean_eq_ok assembled
    rw [Clause.hasMatchAll, Bool.or_eq_false_iff] at searches
    have rightAgain := rightCore searches.2 rightAssembled
    rw [← assemble_withPrefixes (right.leading.map Prefix.normal)] at rightAgain
    exact assemble_boolean (leftCore searches.1 leftAssembled)
      (checkChain_of_renders (renders_of_assemble rightAgain)) rightAgain joins _ _

theorem everySearch_of_assemble {holds : List Prefix → SearchClause → Prop} {clause : Clause}
    {condition : Condition}
    (each : ∀ declared search predicate, definition.predicate search = .ok predicate →
      holds declared search)
    (assembled : definition.assemble clause = .ok condition) (outer : List Prefix) :
    clause.EverySearch holds outer := by
  induction clause generalizing condition outer with
  | search prefixes search =>
    obtain ⟨predicate, made, -⟩ := map_eq_ok.1 assembled
    exact each _ search predicate made
  | matchAll => trivial
  | boolean prefixes left operator modifiers right leftEach rightEach =>
    obtain ⟨_, _, _, leftAssembled, rightAssembled, -⟩ := assemble_boolean_eq_ok assembled
    exact ⟨leftEach leftAssembled _, rightEach rightAssembled _⟩

/-- The canonical text of a query that is translated is accepted as deep as the query was, and the
query that is read back has the same translation. -/
theorem translate_of_parse_text (plain : definition.IsPlain) {settings wide : Settings}
    {text : String} {query : Query} (parsed : Query.parse settings text = .ok query)
    {first : Nat} {statement : Statement}
    (translated : definition.translate query first = .ok statement)
    (sameDepth : wide.maxDepth = settings.maxDepth)
    (unlimited : query.clause.longestChain ≤ wide.maxChain) :
    ∃ again, Query.parse wide query.text = .ok again ∧
      definition.translate again first = .ok statement := by
  obtain ⟨unsorted, condition, assembled, rfl⟩ := translate_eq_ok_iff.1 translated
  have accepted := Query.accepted_of_parse parsed
  have relations : query.clause.EverySearch
      (fun declared search => Relation.ReadsUnder declared search.relationOrDefault) [] := by
    refine everySearch_of_assemble (fun declared search predicate made => ?_) assembled []
    obtain ⟨field, -, made⟩ := predicate_eq_ok.1 made
    exact Relation.readsUnder_of_rendered (Field.relation_mem made) declared
  have legible : query.Legible := ⟨⟨relations, accepted.clause.modifiers⟩, accepted.sorting⟩
  have allows : wide.Allows query := ⟨sameDepth ▸ accepted.deep, unlimited⟩
  refine ⟨query.normal, Query.parse_text legible allows, translate_eq_ok_iff.2 ⟨?_, ?_⟩⟩
  · rw [Query.normal, unsorted, List.map_nil]
  · refine ⟨condition, ?_, rfl⟩
    rw [Query.normal, Clause.normal, assemble_withPrefixes]
    exact assemble_core plain accepted.clause.searches assembled

theorem translate_of_parse_text_guarded :
    let definition := ((Definition.empty.insert "title" (.text (.withLike { column := "t" }))).insert
      "year" (.number "y")).insert "cql.serverChoice" (.text (.withExact { column := "words" }))
    let settings : Settings := { maxDepth := 3, maxChain := 1 }
    let wide : Settings := { strict := true, maxDepth := 3, maxChain := 2 }
    let text := "(title = a\"*b or (> u = x year > 5)) not k\"q"
    let query : Query :=
      { clause := .joined (.joined (.equating "title" "a\"*b") .or
          (.search [⟨"u", "x"⟩] { index := "year", relation := ">", term := "5" })) .not
          (.search [] { term := "k\"q" }) }
    let statement : Statement := ⟨"(t LIKE $3 OR y > $4) AND NOT words = $5",
      [.text "a\"%b", .number ⟨false, 5, 0, by decide, by decide⟩, .text "k\"q"]⟩
    definition.IsPlain ∧ Query.parse settings text = .ok query ∧
      definition.translate query 3 = .ok statement ∧
      ∃ again, Query.parse wide query.text = .ok again ∧ again ≠ query ∧
        definition.translate again 3 = .ok statement := by
  intro definition settings wide text query statement
  have plain : definition.IsPlain :=
    ((isPlain_empty.insert (by decide) (by decide) _).insert (by decide) (by decide) _).insert
      (by decide) (by decide) _
  have parsed : Query.parse settings text = .ok query :=
    Query.parse_ofList.2 (eq_ok_of_toOption (by decide +kernel))
  have translated : definition.translate query 3 = .ok statement :=
    eq_ok_of_toOption (by decide +kernel)
  have sameDepth : wide.maxDepth = settings.maxDepth := rfl
  have unlimited : query.clause.longestChain ≤ wide.maxChain := by decide
  obtain ⟨again, readAgain, translatedAgain⟩ :=
    translate_of_parse_text plain parsed translated sameDepth unlimited
  refine ⟨plain, parsed, translated, again, readAgain, ?_, translatedAgain⟩
  intro same
  have changed : (Query.parse wide query.text).toOption ≠ some query := by decide +kernel
  exact changed (by rw [readAgain, same]; rfl)

end Definition
end ContextualQuery
