import ContextualQuery.Proofs.BuilderSteps
import ContextualQuery.Proofs.RoundTrip

/-!
# The text of built queries

A query that is built by calls has built-in relations only, and these are read back wherever a
search clause has them.  In a modifier the reader knows the comparisons alone, while a call may give
one a named relation as well; where none with a value has one, the text of the query is read back to
a query that is written the same and has the same shape and the same modifiers by name.
-/

namespace ContextualQuery

/-! ## Relations without a value are not written -/

/-- The modifier without a relation where it has no value. -/
def Modifier.settled (modifier : Modifier) : Modifier :=
  if modifier.value.isEmpty then { name := modifier.name } else modifier

namespace Modifier

theorem normal_settled (modifier : Modifier) : modifier.settled.normal = modifier.normal := by
  unfold settled
  split
  · next flag =>
    rw [normal, normal, if_pos flag]
    rfl
  · rfl

theorem map_normal_settled (modifiers : List Modifier) :
    (modifiers.map settled).map normal = modifiers.map normal := by
  rw [List.map_map]
  exact List.map_congr_left fun modifier _ => modifier.normal_settled

end Modifier

def SearchClause.settled (search : SearchClause) : SearchClause :=
  { search with modifiers := search.modifiers.map Modifier.settled }

namespace SearchClause

theorem isBare_settled (search : SearchClause) : search.settled.isBare = search.isBare := by
  rw [isBare, isBare, settled, List.isEmpty_map]
  rfl

theorem normal_settled (search : SearchClause) : search.settled.normal = search.normal := by
  rw [normal, normal, isBare_settled, settled, Modifier.map_normal_settled]
  rfl

end SearchClause

namespace Clause

/-- The clause without the relations of modifiers that have no value. -/
def settled : Clause → Clause
  | .search prefixes clause => .search prefixes clause.settled
  | .matchAll prefixes => .matchAll prefixes
  | .boolean prefixes left operator modifiers right =>
    .boolean prefixes left.settled operator (modifiers.map Modifier.settled) right.settled

theorem leading_settled (clause : Clause) : clause.settled.leading = clause.leading := by
  induction clause with
  | search | matchAll => rfl
  | boolean prefixes left operator modifiers right leftSame rightSame =>
    rw [settled, leading, leftSame, leading]

theorem core_settled (clause : Clause) : clause.settled.core = clause.core := by
  induction clause with
  | search prefixes search => rw [settled, core, search.normal_settled, core]
  | matchAll => rfl
  | boolean prefixes left operator modifiers right leftSame rightSame =>
    rw [settled, core, leftSame, rightSame, Modifier.map_normal_settled, leading_settled, core]

theorem needsBrackets_settled (clause : Clause) :
    clause.settled.needsBrackets = clause.needsBrackets := by
  cases clause <;> rfl

theorem links_settled (clause : Clause) : clause.settled.links = clause.links := by
  induction clause with
  | search | matchAll => rfl
  | boolean prefixes left operator modifiers right leftSame rightSame =>
    rw [settled, links, leftSame, links]

theorem longestChain_settled (clause : Clause) :
    clause.settled.longestChain = clause.longestChain := by
  induction clause with
  | search | matchAll => rfl
  | boolean prefixes left operator modifiers right leftSame rightSame =>
    rw [settled, longestChain, leftSame, rightSame, links_settled, longestChain]

theorem depth_settled (clause : Clause) : clause.settled.depth = clause.depth := by
  induction clause with
  | search prefixes search =>
    rw [settled, depth, SearchClause.depth, search.isBare_settled, depth, SearchClause.depth]
  | matchAll => rfl
  | boolean prefixes left operator modifiers right leftSame rightSame =>
    rw [settled, depth, leftSame, rightSame, needsBrackets_settled, depth]

theorem allModifiers_settled (clause : Clause) :
    clause.settled.allModifiers = clause.allModifiers.map Modifier.settled := by
  induction clause with
  | search | matchAll => rfl
  | boolean prefixes left operator modifiers right leftSame rightSame =>
    rw [settled, allModifiers, leftSame, rightSame, allModifiers, List.map_append, List.map_append]

end Clause

def SortKey.settled (key : SortKey) : SortKey :=
  { key with modifiers := key.modifiers.map Modifier.settled }

theorem SortKey.normal_settled (key : SortKey) : key.settled.normal = key.normal := by
  rw [normal, settled, Modifier.map_normal_settled, normal]

namespace Query

/-- The query without the relations of modifiers that have no value. -/
def settled (query : Query) : Query :=
  { clause := query.clause.settled, sortKeys := query.sortKeys.map SortKey.settled }

theorem normal_settled (query : Query) : query.settled.normal = query.normal := by
  have keys : (query.sortKeys.map SortKey.settled).map SortKey.normal =
      query.sortKeys.map SortKey.normal := by
    rw [List.map_map]
    exact List.map_congr_left fun key _ => key.normal_settled
  rw [normal, settled, keys, Clause.normal, Clause.core_settled, Clause.leading_settled]
  rfl

/-- What is not written does not matter to the reader: without it, text and normal form are the
same. -/
theorem parse_text_of_settled {settings : Settings} {query : Query}
    (legible : query.settled.Legible) (allows : settings.Allows query) :
    parse settings query.text = .ok query.normal := by
  have same : query.settled.text = query.text := by
    rw [← query.settled.text_normal, normal_settled, text_normal]
  rw [← same, ← normal_settled]
  refine parse_text legible ⟨?_, ?_⟩
  · rw [settled, Clause.depth_settled]
    exact allows.deep
  · rw [settled, Clause.longestChain_settled]
    exact allows.wide

end Query

/-! ## What calls build -/

/-- Whether a relation is one that calls may give. -/
def Relation.IsGiven (relation : String) : Prop := relation = "" ∨ isBuiltIn relation = true

/-- Whether calls may have built a clause: it has no match-all clause and only relations that they
may give. -/
inductive Clause.IsBuilt : Clause → Prop
  | search {search : SearchClause} (prefixes : List Prefix)
    (relation : Relation.IsGiven search.relation)
    (modifiers : ∀ modifier ∈ search.modifiers, Relation.IsGiven modifier.relation) :
    IsBuilt (.search prefixes search)
  | boolean {left right : Clause} (prefixes : List Prefix) (operator : Operator)
    {modifiers : List Modifier} (leftBuilt : IsBuilt left) (rightBuilt : IsBuilt right)
    (given : ∀ modifier ∈ modifiers, Relation.IsGiven modifier.relation) :
    IsBuilt (.boolean prefixes left operator modifiers right)

/-- Whether calls may have built the clause of a group and the modifiers behind it. -/
inductive Group.IsBuilt : Group → Prop
  | empty : IsBuilt .empty
  | operand {clause : Clause} (built : clause.IsBuilt) : IsBuilt (.operand clause)
  | awaiting {left : Clause} (operator : Operator) {modifiers : List Modifier}
    (built : left.IsBuilt) (given : ∀ modifier ∈ modifiers, Relation.IsGiven modifier.relation) :
    IsBuilt (.awaiting left operator modifiers)

structure Draft.IsBuilt (draft : Draft) : Prop where
  current : draft.current.IsBuilt
  outer : ∀ group ∈ draft.outer, group.IsBuilt
  /-- The search clause that waits for its term could be one of the query. -/
  pending : Clause.IsBuilt (.search [] draft.pending)
  sortKeys : ∀ key ∈ draft.sortKeys, ∀ modifier ∈ key.modifiers,
    Relation.IsGiven modifier.relation

namespace Modifier

variable {name relation value : String} {made : Modifier}

theorem isGiven_of_named (named : named name = .ok made) : Relation.IsGiven made.relation := by
  obtain ⟨-, rfl⟩ := named_eq_ok.1 named
  exact .inl rfl

theorem isGiven_of_valued (valued : valued name relation value = .ok made) :
    Relation.IsGiven made.relation := by
  obtain ⟨-, known, rfl⟩ := valued_eq_ok.1 valued
  exact .inr known

theorem isGiven_of_mapM {modifiers checked : List Modifier}
    (each : modifiers.mapM forSortKey = .ok checked) :
    ∀ modifier ∈ checked, Relation.IsGiven modifier.relation := by
  rw [mapM_eq_ok] at each
  induction each with
  | nil => exact List.forall_mem_nil _
  | cons made _ ih => exact List.forall_mem_cons.2 ⟨(of_forSortKey made).2, ih⟩

end Modifier

namespace Group.IsBuilt

variable {group : Group}

theorem completed (built : group.IsBuilt) {operand : Clause} (operandBuilt : operand.IsBuilt) :
    (Group.operand (group.completed operand)).IsBuilt := by
  cases built with
  | empty | operand => exact .operand operandBuilt
  | awaiting operator leftBuilt given =>
    exact .operand (.boolean [] operator leftBuilt operandBuilt given)

theorem of_clause? (built : group.IsBuilt) {clause : Clause} (holds : group.clause? = some clause) :
    clause.IsBuilt := by
  cases built with
  | empty => cases holds
  | operand built | awaiting _ built =>
    cases holds
    exact built

theorem addModifier (built : group.IsBuilt) {modifier : Modifier}
    (given : Relation.IsGiven modifier.relation) : (group.addModifier modifier).IsBuilt := by
  cases built with
  | empty => exact .empty
  | operand built => exact .operand built
  | awaiting operator built others =>
    refine .awaiting operator built ?_
    rw [List.forall_mem_append, List.forall_mem_singleton]
    exact ⟨others, given⟩

end Group.IsBuilt

namespace Draft.IsBuilt

variable {draft : Draft}

theorem modifySearch (built : draft.IsBuilt) {modifier : Modifier}
    (given : Relation.IsGiven modifier.relation) : (draft.modifySearch modifier).IsBuilt := by
  refine ⟨built.current, built.outer, ?_, built.sortKeys⟩
  cases built.pending with
  | search _ relation modifiers =>
    refine .search [] relation ?_
    rw [Draft.modifySearch, List.forall_mem_append, List.forall_mem_singleton]
    exact ⟨modifiers, given⟩

theorem modifyJoin (built : draft.IsBuilt) {modifier : Modifier}
    (given : Relation.IsGiven modifier.relation) : (draft.modifyJoin modifier).IsBuilt :=
  ⟨built.current.addModifier given, built.outer, built.pending, built.sortKeys⟩

theorem searched (built : draft.IsBuilt) (term : String) : (draft.searched term).IsBuilt := by
  have operand : Clause.IsBuilt (.search [] { draft.pending with term }) := by
    cases built.pending with
    | search _ relation modifiers => exact .search [] relation modifiers
  exact ⟨built.current.completed operand, built.outer,
    .search [] (.inl rfl) (List.forall_mem_nil _), built.sortKeys⟩

end Draft.IsBuilt

/-- Every call keeps to what calls may build. -/
theorem Call.Makes.isBuilt {before after : Stage} {call : Call before after} {draft next : Draft}
    (makes : call.Makes draft next) (built : draft.IsBuilt) : next.IsBuilt := by
  cases makes with
  | declare => exact ⟨built.current, built.outer, built.pending, built.sortKeys⟩
  | sortBy _ each =>
    refine ⟨built.current, built.outer, built.pending, ?_⟩
    rw [List.forall_mem_append, List.forall_mem_singleton]
    exact ⟨built.sortKeys, Modifier.isGiven_of_mapM each⟩
  | join holds | joinNamed _ holds =>
    exact ⟨.awaiting _ (built.current.of_clause? holds) (List.forall_mem_nil _), built.outer,
      built.pending, built.sortKeys⟩
  | search =>
    exact ⟨built.current, built.outer, .search [] (.inl rfl) (List.forall_mem_nil _),
      built.sortKeys⟩
  | beginClause =>
    exact ⟨.empty, List.forall_mem_cons.2 ⟨built.current, built.outer⟩, built.pending,
      built.sortKeys⟩
  | relation known =>
    refine ⟨built.current, built.outer, ?_, built.sortKeys⟩
    cases built.pending with
    | search _ _ modifiers => exact .search [] known modifiers
  | searchModifier made => exact built.modifySearch (Modifier.isGiven_of_named made)
  | searchModifierWith made => exact built.modifySearch (Modifier.isGiven_of_valued made)
  | joinModifier made => exact built.modifyJoin (Modifier.isGiven_of_named made)
  | joinModifierWith made => exact built.modifyJoin (Modifier.isGiven_of_valued made)
  | term | rawTerm => exact built.searched _
  | endClause opened holds =>
    have outer := built.outer
    rw [opened, List.forall_mem_cons] at outer
    exact ⟨outer.1.completed (built.current.of_clause? holds), outer.2, built.pending,
      built.sortKeys⟩

/-! ## What is read back -/

namespace Relation

theorem named_or_comparison {relation : String} (known : isBuiltIn relation = true) :
    relation ∈ named ∨ ∃ symbol : Comparison, relation = symbol.symbol := by
  have listed : relation ∈ builtIn := List.contains_iff_mem.1 known
  simp only [builtIn, List.mem_cons, List.not_mem_nil, or_false] at listed
  rcases listed with rfl | rfl | rfl | rfl | rfl | rfl | rest
  · exact .inr ⟨.equal, rfl⟩
  · exact .inr ⟨.notEqual, rfl⟩
  · exact .inr ⟨.less, rfl⟩
  · exact .inr ⟨.greater, rfl⟩
  · exact .inr ⟨.lessOrEqual, rfl⟩
  · exact .inr ⟨.greaterOrEqual, rfl⟩
  · left
    simp only [named, List.mem_cons, List.not_mem_nil, or_false]
    tauto

theorem IsGiven.readsUnder {relation : String} (given : IsGiven relation)
    (declared : List Prefix) : ReadsUnder declared (orDefault relation) := by
  rcases given with rfl | known
  · exact readsUnder_symbol .equal
  · rcases named_or_comparison known with isNamed | ⟨symbol, rfl⟩
    · have lower : named.contains relation.toLower = true := by
        simp only [named, List.mem_cons, List.not_mem_nil, or_false] at isNamed
        rcases isNamed with rfl | rfl | rfl | rfl | rfl | rfl | rfl <;> decide +kernel
      rw [orDefault_of_nonempty (ne_empty_of_named lower)]
      exact readsUnder_of_named lower
    · rw [orDefault_of_nonempty (by cases symbol <;> decide)]
      exact readsUnder_symbol symbol

end Relation

/-- Whether no value stands under a named relation. -/
def Modifier.IsLegible (modifier : Modifier) : Prop :=
  modifier.value ≠ "" → modifier.relation ∉ Relation.named

theorem Modifier.IsLegible.compares {modifier : Modifier} (legible : modifier.IsLegible)
    (given : Relation.IsGiven modifier.relation) : modifier.settled.Compares := by
  unfold settled
  split
  · exact .inl rfl
  · next valued =>
    rcases given with empty | known
    · exact .inl empty
    · have valued : modifier.value ≠ "" := fun empty => valued (String.isEmpty_iff.2 empty)
      exact .inr ((Relation.named_or_comparison known).resolve_left (legible valued))

namespace Clause.IsBuilt

variable {clause : Clause}

theorem relations (built : clause.IsBuilt) (outer : List Prefix) :
    clause.settled.EverySearch
      (fun declared search => Relation.ReadsUnder declared search.relationOrDefault) outer := by
  induction built generalizing outer with
  | search prefixes relation => exact relation.readsUnder _
  | boolean prefixes operator _ _ _ leftReads rightReads => exact ⟨leftReads _, rightReads _⟩

theorem modifiers (built : clause.IsBuilt) :
    ∀ modifier ∈ clause.allModifiers, Relation.IsGiven modifier.relation := by
  induction built with
  | search _ _ given => exact given
  | boolean _ _ _ _ given leftGiven rightGiven =>
    simp only [allModifiers, List.forall_mem_append]
    exact ⟨⟨leftGiven, given⟩, rightGiven⟩

theorem legible (built : clause.IsBuilt)
    (plain : ∀ modifier ∈ clause.allModifiers, modifier.IsLegible) : clause.settled.Legible [] := by
  refine ⟨built.relations [], ?_⟩
  rw [allModifiers_settled, List.forall_mem_map]
  exact fun modifier member => (plain modifier member).compares (built.modifiers modifier member)

theorem withPrefixes (built : clause.IsBuilt) (declared : List Prefix) :
    (clause.withPrefixes declared).IsBuilt := by
  cases built with
  | search _ relation modifiers => exact .search declared relation modifiers
  | boolean _ operator left right given => exact .boolean declared operator left right given

end Clause.IsBuilt

/-- Whether two modifiers have the same name but for backslashes that escape quotes. -/
def Modifier.SameName (modifier again : Modifier) : Prop := again.name = reread modifier.name

/-- Whether two clauses have the same operators around search clauses, and everywhere as many
modifiers of the same names. -/
inductive Clause.Alike : Clause → Clause → Prop
  | search {search again : SearchClause} (prefixes declared : List Prefix)
    (same : List.Forall₂ Modifier.SameName search.modifiers again.modifiers) :
    Alike (.search prefixes search) (.search declared again)
  | boolean {left right leftAgain rightAgain : Clause} (prefixes declared : List Prefix)
    (operator : Operator) {modifiers again : List Modifier} (leftAlike : Alike left leftAgain)
    (rightAlike : Alike right rightAgain)
    (same : List.Forall₂ Modifier.SameName modifiers again) :
    Alike (.boolean prefixes left operator modifiers right)
      (.boolean declared leftAgain operator again rightAgain)

/-- Whether two queries are alike in their clauses and have as many sort keys, with as many
modifiers of the same names. -/
structure Query.Alike (query again : Query) : Prop where
  clause : query.clause.Alike again.clause
  sortKeys : List.Forall₂
    (fun key other => List.Forall₂ Modifier.SameName key.modifiers other.modifiers)
    query.sortKeys again.sortKeys

theorem Modifier.sameName_normal (modifiers : List Modifier) :
    List.Forall₂ SameName modifiers (modifiers.map normal) := by
  rw [List.forall₂_map_right_iff, List.forall₂_same]
  intro modifier _
  unfold SameName normal
  split <;> rfl

theorem SearchClause.sameName_normal (search : SearchClause) :
    List.Forall₂ Modifier.SameName search.modifiers search.normal.modifiers := by
  cases bare : search.isBare with
  | false =>
    rw [(normal_of_full bare).2.2]
    exact Modifier.sameName_normal _
  | true =>
    have none : search.modifiers = [] := by
      simp only [isBare, Bool.and_eq_true, List.isEmpty_iff] at bare
      exact bare.2
    rw [none, normal, if_pos bare]
    exact .nil

namespace Clause

theorem Alike.withPrefixes {clause again : Clause} (alike : clause.Alike again)
    (declared : List Prefix) : clause.Alike (again.withPrefixes declared) := by
  cases alike with
  | search prefixes _ same => exact .search prefixes declared same
  | boolean prefixes _ operator left right same =>
    exact .boolean prefixes declared operator left right same

theorem IsBuilt.alike_core {clause : Clause} (built : clause.IsBuilt) :
    clause.Alike clause.core := by
  induction built with
  | @search search prefixes => exact .search prefixes [] search.sameName_normal
  | boolean prefixes operator _ _ _ leftAlike rightAlike =>
    exact .boolean prefixes [] operator leftAlike (rightAlike.withPrefixes _)
      (Modifier.sameName_normal _)

end Clause

namespace Calls

variable {stage : Stage} {calls : Calls stage} {query : Query}

theorem isBuilt_of_state {draft : Draft} (reached : calls.builder.state = .ok draft) :
    draft.IsBuilt := by
  rw [builder_eq] at reached
  refine holds_of_state (fun _ draft => draft.IsBuilt) ?_ (fun built makes => makes.isBuilt built)
    reached
  rintro draft ⟨⟩
  exact ⟨.empty, List.forall_mem_nil _, .search [] (.inl rfl) (List.forall_mem_nil _),
    List.forall_mem_nil _⟩

/-- The text of a query that calls have built is read back, by every reader whose limits allow it,
to a query with the same text and the same shape, as long as no modifier has a value under a named
relation: a modifier is written with its relation, but only comparisons are read there. -/
theorem parse_text_of_build (built : calls.builder.build = .ok query)
    (plain : ∀ modifier ∈ query.clause.allModifiers, modifier.IsLegible)
    (sortPlain : ∀ key ∈ query.sortKeys, ∀ modifier ∈ key.modifiers, modifier.IsLegible)
    {settings : Settings} (allows : settings.Allows query) :
    ∃ again, Query.parse settings query.text = .ok again ∧ again.text = query.text ∧
      query.Alike again := by
  obtain ⟨draft, reached, built⟩ := bind_eq_ok.1 built
  have draftBuilt := isBuilt_of_state reached
  obtain ⟨-, root, holds, rfl⟩ := Draft.build_eq_ok.1 built
  have clauseBuilt : (root.declaring draft.prefixes).IsBuilt :=
    (draftBuilt.current.of_clause? holds).withPrefixes _
  refine ⟨_, Query.parse_text_of_settled ⟨clauseBuilt.legible plain, ?_⟩ allows,
    Query.text_normal _, ⟨clauseBuilt.alike_core.withPrefixes _, ?_⟩⟩
  · simp only [Query.settled, List.forall_mem_map, SortKey.settled]
    intro key member modifier among
    exact (sortPlain key member modifier among).compares
      (draftBuilt.sortKeys key member modifier among)
  · rw [Query.normal, List.forall₂_map_right_iff, List.forall₂_same]
    exact fun key _ => Modifier.sameName_normal key.modifiers

theorem parse_text_of_build_flags :
    let calls : Calls .expr :=
      ((((((((Calls.start.andThen (.declare "x\"y" "info:x")).andThen (.search rfl "a b")).andThen
        (.relation "within")).andThen (.searchModifierWith "m\"" "all" "")).andThen
        (.rawTerm "\\")).andThen (.join rfl .prox)).andThen
        (.joinModifierWith "unit" "" "near \"here\"")).andThen (.search rfl "")).andThen
        (.term "c") |>.andThen (.sortBy rfl "/" [⟨"n", "any", ""⟩, ⟨"o", "", "p"⟩])
    let settings : Settings := { maxDepth := 1, maxChain := 1 }
    ∃ query again, calls.builder.build = .ok query ∧
      query.text = "> \"x\\\"y\" = info:x \"a b\" within/\"m\\\"\" \\\\ " ++
        "prox/unit=\"near \\\"here\\\"\" c sortBy \"/\"/n/o=p" ∧
      Query.parse settings query.text = .ok again ∧ again.text = query.text ∧
      query.Alike again := by
  intro calls settings
  let query : Query :=
    { clause := .boolean [⟨"x\"y", "info:x"⟩]
        (.search [] ⟨"a b", "within", [⟨"m\"", "all", ""⟩], "\\"⟩) .prox
        [⟨"unit", "=", "near \\\"here\\\""⟩] (.search [] ⟨"", "", [], "c"⟩)
      sortKeys := [⟨"/", [⟨"n", "any", ""⟩, ⟨"o", "=", "p"⟩]⟩] }
  have built : calls.builder.build = .ok query := eq_ok_of_toOption (by decide +kernel)
  have plain : ∀ modifier ∈ query.clause.allModifiers, modifier.IsLegible := by
    unfold Modifier.IsLegible
    decide +kernel
  have sortPlain : ∀ key ∈ query.sortKeys, ∀ modifier ∈ key.modifiers, modifier.IsLegible := by
    unfold Modifier.IsLegible
    decide +kernel
  have allows : settings.Allows query := ⟨by decide +kernel, by decide +kernel⟩
  obtain ⟨again, read, same, alike⟩ := parse_text_of_build built plain sortPlain allows
  exact ⟨query, again, built, by decide +kernel, read, same, alike⟩

/-- Two queries that calls build with a value under a named relation: the text of one is refused,
and in the other the relation and the value become a part of the modifier's name. -/
theorem exists_unreadable_text :
    let calls (value : String) : Calls .expr :=
      ((Calls.start.andThen (.search rfl "i")).andThen
        (.searchModifierWith "m" "all" value)).andThen (.term "t")
    (∃ query, (calls "=").builder.build = .ok query ∧ query.text = "i =/mall\"=\" t" ∧
      Settings.Allows {} query ∧ (Query.parse {} query.text).isOk = false) ∧
    ∃ query again, (calls "x").builder.build = .ok query ∧
      Query.parse {} query.text = .ok again ∧ query.clause.allModifiers = [⟨"m", "all", "x"⟩] ∧
      again.clause.allModifiers = [⟨"mallx", "", ""⟩] := by
  intro calls
  refine ⟨⟨{ clause := .search [] ⟨"i", "", [⟨"m", "all", "="⟩], "t"⟩ }, ?_, ?_, ?_, ?_⟩,
    { clause := .search [] ⟨"i", "", [⟨"m", "all", "x"⟩], "t"⟩ },
    { clause := .search [] ⟨"i", "=", [⟨"mallx", "", ""⟩], "t"⟩ }, ?_, ?_, rfl, rfl⟩
  · exact eq_ok_of_toOption (by decide +kernel)
  · decide +kernel
  · exact ⟨by decide +kernel, by decide +kernel⟩
  · decide +kernel
  · exact eq_ok_of_toOption (by decide +kernel)
  · exact eq_ok_of_toOption (by decide +kernel)

end Calls
end ContextualQuery
