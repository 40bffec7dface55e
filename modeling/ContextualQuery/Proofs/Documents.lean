import ContextualQuery.Proofs.Elements
import ContextualQuery.Xcql

/-!
# Queries as documents

The document of a query, read as markup, is the tree that the query stands for, and each of its
opening tags stands behind as many blanks as its level asks for.
-/

namespace ContextualQuery

open Markup (Node IsTag isPlain ReadsAs AllReadAs readsAs_leaf readsAs_branch readsAs_group
  allReadAs_optional)

/-! ## Parts of a query -/

/-- A modifier; it has a comparison and a value exactly when a relation or a value is set. -/
def Modifier.node (modifier : Modifier) : Node :=
  .group "modifier" <| .field "type" modifier.name ::
    if modifier.relation = "" ∧ modifier.value = "" then []
    else
      [.field "comparison" (if modifier.relation = "" then "=" else modifier.relation),
        .field "value" modifier.value]

def Prefix.node (declared : Prefix) : Node :=
  .group "prefix" [.field "name" declared.name, .field "identifier" declared.uri]

def SortKey.node (key : SortKey) : Node :=
  .group "key" (.field "index" key.index ::
    Node.optional "modifiers" (key.modifiers.map Modifier.node))

/-- A search clause with its defaults. -/
def SearchClause.node (search : SearchClause) : Node :=
  .group "searchClause" <|
    [.field "index" (if search.index = "" then "cql.serverChoice" else search.index),
      .group "relation" [.field "value" (if search.relation = "" then "=" else search.relation)]] ++
    Node.optional "modifiers" (search.modifiers.map Modifier.node) ++
    [.field "term" search.term]

/-- A clause; one that matches everything is the search for all records. -/
def Clause.node : Clause → Node
  | .search _ clause => clause.node
  | .matchAll _ => SearchClause.node { index := "cql.allRecords", relation := "=", term := "1" }
  | .boolean _ left operator modifiers right =>
    .group "triple"
      [.group "Boolean" (.field "value" operator.keyword ::
          Node.optional "modifiers" (modifiers.map Modifier.node)),
        .group "leftOperand" [left.node], .group "rightOperand" [right.node]]

/-- A clause that has a triple around it, even if it is a single search. -/
def Clause.rootNode : Clause → Node
  | .search prefixes clause => .group "triple" [Clause.node (.search prefixes clause)]
  | .matchAll prefixes => .group "triple" [Clause.node (.matchAll prefixes)]
  | .boolean prefixes left operator modifiers right =>
    Clause.node (.boolean prefixes left operator modifiers right)

/-- The tree that a query stands for. -/
def Query.document (query : Query) : Node :=
  .element "xcql" [("xmlns", "http://docs.oasis-open.org/ns/search-ws/xcql")] <|
    Node.optional "prefixes" (query.clause.prefixes.map Prefix.node) ++ [query.clause.rootNode] ++
      Node.optional "sortKeys" (query.sortKeys.map SortKey.node)

/-! ## What the parts read as -/

theorem Modifier.readsAs (modifier : Modifier) :
    ReadsAs (Modifier.elements.element modifier) modifier.node := by
  rw [Modifier.elements.element, Modifier.node]
  refine readsAs_group (by decide) (.cons (readsAs_leaf (by decide) _) ?_) (by simp)
  by_cases unset : modifier.relation = "" ∧ modifier.value = ""
  · simpa [unset] using AllReadAs.nil
  · have same : (modifier.relation.isEmpty && modifier.value.isEmpty) = false := by
      simpa using unset
    rw [same, if_neg unset]
    have comparison : Relation.orDefault modifier.relation =
        if modifier.relation = "" then "=" else modifier.relation := by
      simp [Relation.orDefault, Relation.default]
    rw [comparison]
    exact .cons (readsAs_leaf (by decide) _) (.single (readsAs_leaf (by decide) _))

theorem Modifier.allReadAs (modifiers : List Modifier) :
    AllReadAs (Modifier.elements modifiers)
      (Node.optional "modifiers" (modifiers.map Modifier.node)) :=
  allReadAs_optional (by decide) Modifier.readsAs modifiers

theorem Prefix.readsAs (declared : Prefix) :
    ReadsAs (Prefix.elements.element declared) declared.node :=
  readsAs_group (by decide)
    (.cons (readsAs_leaf (by decide) _) (.single (readsAs_leaf (by decide) _))) (by simp)

theorem SortKey.readsAs (key : SortKey) : ReadsAs (SortKey.elements.element key) key.node :=
  readsAs_group (by decide)
    (.cons (readsAs_leaf (by decide) _) (Modifier.allReadAs key.modifiers)) (by simp)

theorem SearchClause.readsAs (search : SearchClause) : ReadsAs search.element search.node := by
  have index : search.indexOrDefault =
      if search.index = "" then "cql.serverChoice" else search.index := by
    simp [SearchClause.indexOrDefault, Index.serverChoice]
  have relation : search.relationOrDefault =
      if search.relation = "" then "=" else search.relation := by
    simp [SearchClause.relationOrDefault, Relation.orDefault, Relation.default]
  rw [SearchClause.element, SearchClause.node, index, relation]
  have modifiers := Modifier.allReadAs search.modifiers
  refine readsAs_group (by decide)
    (.append (.append ?_ modifiers) (.single (readsAs_leaf (by decide) _))) (by simp)
  refine .cons (readsAs_leaf (by decide) _) (.single ?_)
  exact readsAs_group (by decide) (.single (readsAs_leaf (by decide) _)) (by simp)

theorem Clause.readsAs (clause : Clause) : ReadsAs clause.element clause.node := by
  induction clause with
  | search _ clause => exact clause.readsAs
  | matchAll _ => exact SearchClause.allRecords.readsAs
  | boolean _ left operator modifiers right left_reads right_reads =>
    have joined := Modifier.allReadAs modifiers
    refine readsAs_group (by decide) (.cons ?_ (.cons ?_ (.single ?_))) (by simp)
    · exact readsAs_group (by decide) (.cons (readsAs_leaf (by decide) _) joined) (by simp)
    · exact readsAs_group (by decide) (.single left_reads) (by simp)
    · exact readsAs_group (by decide) (.single right_reads) (by simp)

/-- The root clause has its triple, whatever it is. -/
theorem Clause.readsAs_root (clause : Clause) : ReadsAs clause.rootElement clause.rootNode := by
  cases clause with
  | search prefixes clause =>
    exact readsAs_group (by decide) (.single (Clause.readsAs (.search prefixes clause))) (by simp)
  | matchAll prefixes =>
    exact readsAs_group (by decide) (.single (Clause.readsAs (.matchAll prefixes))) (by simp)
  | boolean prefixes left operator modifiers right =>
    exact Clause.readsAs (.boolean prefixes left operator modifiers right)

theorem Query.readsAs (query : Query) : ReadsAs query.element query.document := by
  have plain : Xcql.vocabulary.toList.all isPlain = true := by decide
  have isTag : IsTag "xcql" [("xmlns", Xcql.vocabulary)] :=
    ⟨by decide, List.forall_mem_singleton.2 ⟨by decide, List.all_eq_true.1 plain⟩, by decide⟩
  refine readsAs_branch isTag ?_ (by simp)
  exact .append
    (.append (allReadAs_optional (by decide) Prefix.readsAs _) (.single query.clause.readsAs_root))
    (allReadAs_optional (by decide) SortKey.readsAs _)

end ContextualQuery
