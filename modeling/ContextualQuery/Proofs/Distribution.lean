import ContextualQuery.Proofs.Accepted
import ContextualQuery.Proofs.Brackets

/-!
# Relations in front of brackets

A relation in front of a group in brackets holds for the bare terms in the group.  The text in the
brackets is read rule by rule as it is on its own; only the search clauses of terms that stand under
no relation of their own get the index, the relation and its modifiers.
-/

namespace ContextualQuery

open Grammar

variable (index relation : String) (values : List Modifier)

/-- The declarations in front of a clause and of all clauses inside it. -/
def Clause.allPrefixes : Clause → List Prefix
  | .search prefixes _ => prefixes
  | .matchAll prefixes => prefixes
  | .boolean prefixes left _ _ right => prefixes ++ left.allPrefixes ++ right.allPrefixes

/-! ## What a clause inherits -/

/-- The search clause under an index, a relation and modifiers, which one that has a relation of its
own does not take. -/
def SearchClause.inheriting (search : SearchClause) : SearchClause :=
  if search.relation = "" then { search with index, relation, modifiers := values } else search

/-- The clause with every search clause under an index, a relation and modifiers. -/
def Clause.inheriting : Clause → Clause
  | .search prefixes clause => .search prefixes (clause.inheriting index relation values)
  | .matchAll prefixes => .matchAll prefixes
  | .boolean prefixes left operator modifiers right =>
    .boolean prefixes left.inheriting operator modifiers right.inheriting

/-- The rule with what was read by it so far under an index, a relation and modifiers. -/
def Grammar.Rule.inheriting : Rule → Rule
  | .group => .group
  | .clause => .clause
  | .chain links left => .chain links (left.inheriting index relation values)

/-- Whether a scope differs from another one in what bare terms stand under, and there only where
the other one has no relation. -/
structure Scope.Inherits (scope bare : Scope) : Prop where
  names : scope.names = bare.names
  custom : scope.custom = bare.custom
  search : ∀ term, scope.search term = (bare.search term).inheriting index relation values

variable {index relation : String} {values : List Modifier}

theorem Clause.inheriting_declaring (clause : Clause) (prefixes : List Prefix) :
    (clause.declaring prefixes).inheriting index relation values =
      (clause.inheriting index relation values).declaring prefixes := by
  cases clause <;> rfl

namespace Scope.Inherits

variable {scope bare : Scope}

theorem relating_root (index relation : String) (values : List Modifier) :
    (({} : Scope).relating index relation values).Inherits index relation values {} where
  names := rfl
  custom := rfl
  search _ := rfl

/-- Behind a relation the two scopes agree. -/
theorem relating (inherits : scope.Inherits index relation values bare) (index' : String)
    {relation' : String} (related : relation' ≠ "") (values' : List Modifier) :
    (scope.relating index' relation' values').Inherits index relation values
      (bare.relating index' relation' values') where
  names := inherits.names
  custom := inherits.custom
  search _ := (if_neg related).symm

theorem bind (inherits : scope.Inherits index relation values bare) (name : String) :
    (scope.bind name).Inherits index relation values (bare.bind name) where
  names := congrArg (name :: ·) inherits.names
  custom := inherits.custom
  search := inherits.search

theorem relation?_eq (inherits : scope.Inherits index relation values bare) (input : List Token) :
    relation? scope input = relation? bare input := by
  unfold relation? Scope.binds
  rw [inherits.names, inherits.custom]

/-- The same declarations can be read in both scopes. -/
theorem declarations_eq_ok (inherits : scope.Inherits index relation values bare) {inner : Scope}
    {input rest : List Token} {prefixes : List Prefix}
    (read : declarations bare input = .ok (prefixes, inner, rest))
    (named : ∀ declared ∈ prefixes, declared.name ≠ "") :
    ∃ scope', declarations scope input = .ok (prefixes, scope', rest) ∧
      scope'.Inherits index relation values inner ∧ inner.custom = bare.custom := by
  fun_induction declarations bare input generalizing scope prefixes with
  | case1 | case2 | case3 | case4 => cases read
  | case5 _ _ first isTerm _ _ _ located ih =>
    obtain ⟨⟨others, within, behind⟩, readOthers, done⟩ := bind_eq_ok.1 read
    cases done
    rw [List.forall_mem_cons] at named
    obtain ⟨scope', readScope, inherits', same⟩ := ih (inherits.bind first) readOthers named.2
    refine ⟨scope', ?_, inherits', same⟩
    rw [declarations_named isTerm located, readScope]
    rfl
  | case6 =>
    obtain ⟨⟨others, within, behind⟩, readOthers, done⟩ := bind_eq_ok.1 read
    cases done
    exact absurd rfl (named _ List.mem_cons_self)
  | case7 _ _ undeclared =>
    cases read
    refine ⟨scope, ?_, inherits, rfl⟩
    unfold declarations
    split
    · exact (undeclared _ rfl).elim
    · rfl

end Scope.Inherits

/-! ## Derivations in both scopes -/

theorem Clause.mem_allPrefixes_declaring {clause : Clause} {prefixes : List Prefix}
    {declared : Prefix} : declared ∈ (clause.declaring prefixes).allPrefixes ↔
      declared ∈ prefixes ∨ declared ∈ clause.allPrefixes := by
  cases clause <;> simp [declaring, withPrefixes, Clause.prefixes, allPrefixes]

namespace Grammar

variable {settings : Settings} {rule : Rule} {depth : Nat} {scope bare : Scope}
variable {input rest : List Token} {value : Clause}

/-- Where only words of known kinds are taken for relations, no relation is empty. -/
theorem ne_empty_of_relation? {found : String} (standard : scope.custom = false)
    (faithful : ∀ token ∈ input, token.Faithful)
    (related : relation? scope input = some (found, rest)) : found ≠ "" := by
  unfold relation? at related
  rw [standard] at related
  split at related
  · next symbol _ =>
    cases related
    cases symbol <;> decide
  · cases related
    exact Relation.ne_empty_of_named (faithful _ List.mem_cons_self)
  · split at related
    · cases related
      rintro rfl
      cases (faithful _ List.mem_cons_self).2
    · cases related
  · cases related
  · cases related

/-- What a rule read so far stays in what it reads. -/
theorem Derives.declared_of_left (derives : Derives settings rule depth scope input value rest)
    {links : Nat} {left : Clause} (same : rule = .chain links left) :
    ∀ declared ∈ left.allPrefixes, declared ∈ value.allPrefixes := by
  induction derives generalizing links left with
  | group | brackets | relation | term => cases same
  | done =>
    cases same
    exact fun _ => id
  | link _ _ _ _ _ others =>
    cases same
    intro declared member
    apply others rfl
    simp [Clause.allPrefixes, member]

/-- What is read under no index, relation or modifiers is read as well under some, which go to the
search clauses that have no relation of their own: a relation that is written is not empty, and
nothing is inherited behind it. -/
theorem Derives.inheriting (derives : Derives settings rule depth bare input value rest)
    (inherits : scope.Inherits index relation values bare) (standard : bare.custom = false)
    (faithful : ∀ token ∈ input, token.Faithful)
    (named : ∀ declared ∈ value.allPrefixes, declared.name ≠ "") :
    Derives settings (rule.inheriting index relation values) depth scope input
      (value.inheriting index relation values) rest := by
  induction derives generalizing scope with
  | group declared operand others operandIh othersIh =>
    simp only [Clause.mem_allPrefixes_declaring, or_imp, forall_and] at named
    obtain ⟨scope', declared', inherits', same⟩ := inherits.declarations_eq_ok declared named.1
    have toStart := declarations_suffix declared
    have toBehind := operand.suffix.trans toStart
    rw [Clause.inheriting_declaring]
    refine .group declared' (operandIh inherits' (same.trans standard)
      (fun _ member => faithful _ (toStart.subset member)) ?_) (othersIh inherits'
        (same.trans standard) (fun _ member => faithful _ (toBehind.subset member)) named.2)
    exact fun outer member => named.2 outer (others.declared_of_left rfl outer member)
  | brackets _ inside =>
    exact .brackets (inside inherits standard (fun _ member =>
      faithful _ (List.mem_cons_of_mem _ member)) named)
  | relation isTerm related modified _ operand =>
    have later := fun token member => faithful token (List.mem_cons_of_mem _ member)
    have nonempty := ne_empty_of_relation? standard later related
    have toStart := (modifiers_suffix modified).trans (relation?_suffix related)
    exact .relation isTerm ((inherits.relation?_eq _).trans related) modified
      (operand (inherits.relating _ nonempty _) standard
        (fun _ member => later _ (toStart.subset member)) named)
  | term isTerm unrelated continued =>
    rw [Clause.inheriting, ← inherits.search]
    exact .term isTerm ((inherits.relation?_eq _).trans unrelated) continued
  | done ends => exact .done ends
  | link joined modified operand others operandIh othersIh =>
    have toStart := (modifiers_suffix modified).trans (operator?_suffix joined)
    have toLater := operand.suffix.trans toStart
    refine .link joined modified (operandIh inherits standard
      (fun _ member => faithful _ (toStart.subset member)) ?_) (othersIh inherits standard
        (fun _ member => faithful _ (toLater.subset member)) named)
    intro outer member
    apply named outer (others.declared_of_left rfl outer _)
    simp [Clause.allPrefixes, member]

/-- A group in brackets is read under a relation in front of them. -/
theorem Derives.group_related
    (derives : Derives settings .group depth {} input value []) (index : String)
    (reads : Relation.ReadsUnder [] relation) (compare : ∀ modifier ∈ values, modifier.Compares)
    (faithful : ∀ token ∈ input, token.Faithful)
    (named : ∀ declared ∈ value.allPrefixes, declared.name ≠ "") :
    Derives settings .group (depth + 2) {}
      (.ofValue index :: Relation.token relation ::
        (values.flatMap Modifier.tokens ++ .leftParen :: (input ++ [.rightParen])))
      (value.inheriting (reread index) relation (values.map Modifier.normal)) [] := by
  have isTerm := Token.term?_ofValue index
  have inherits := Scope.Inherits.relating_root (reread index) relation (values.map Modifier.normal)
  have inside := (derives.inheriting inherits rfl faithful named).bracketed []
  have operand := Derives.relation isTerm (reads.2 {} Scope.covers_root _)
    (modifiers_tokens compare (startsWith_cons rfl)) inside
  rw [← Clause.declaring_nil (value.inheriting _ _ _)]
  exact .group (declarations_done isTerm) operand (.done rfl)

end Grammar

/-! ## Texts behind a relation -/

/-- The text of a relation in front of brackets is scanned part by part. -/
theorem Token.scan_related {text : String} (spelled : Relation.isSpelled relation = true)
    (compare : ∀ modifier ∈ values, modifier.Compares) (closed : IsClosed text) :
    Token.scan (quote index ++ " " ++ relation ++ Modifier.listText values ++ " (" ++ text ++
        ")").toList =
      .ofValue index :: Relation.token relation :: (values.flatMap Modifier.tokens ++
        .leftParen :: (Token.scan text.toList ++ [.rightParen])) := by
  have brackets : EndsSign (' ' :: '(' :: (text.toList ++ [')'])) :=
    endsSign_cons (by decide) (by decide)
  have letters : (quote index ++ " " ++ relation ++ Modifier.listText values ++ " (" ++ text ++
      ")").toList = (quote index).toList ++ ' ' :: (relation.toList ++
        ((Modifier.listText values).toList ++ ' ' :: '(' :: (text.toList ++ [')']))) := by
    simp
  rw [letters, scan_value _ (breaks_space _), scan_space,
    scan_relation spelled (breaks_modifiers _ (breaks_space _)) (endsSign_modifiers _ brackets),
    scan_modifiers compare (breaks_space _), scan_space, scan_bracketed closed, scan_nil]

namespace Query

variable {settings : Settings} {text : String} {query : Query}

/-- A relation in front of a closed text in brackets is read, two levels deeper, as the relation of
all the search clauses of the text that have none of their own. -/
theorem parse_distributed (index : String)
    (related : (∃ symbol : Comparison, relation = symbol.symbol) ∨
      Relation.named.contains relation.toLower = true)
    (compare : ∀ modifier ∈ values, modifier.Compares)
    (read : parse settings text = .ok query) (unsorted : ¬ HasSorting settings text)
    (closed : IsClosed text) (named : ∀ declared ∈ query.clause.allPrefixes, declared.name ≠ "") :
    parse { settings with maxDepth := settings.maxDepth + 2 }
        (quote index ++ " " ++ relation ++ Modifier.listText values ++ " (" ++ text ++ ")") =
      .ok { clause :=
        query.clause.inheriting (reread index) relation (values.map Modifier.normal) } := by
  have reads : Relation.ReadsUnder [] relation := by
    rcases related with ⟨symbol, rfl⟩ | isNamed
    · exact Relation.readsUnder_symbol symbol
    · exact Relation.readsUnder_of_named isNamed
  have derives := (derives_of_parse read unsorted).group_related index reads compare
    (Token.faithful_scan _) named
  apply parse_of_derives
  rw [Token.scan_related reads.1 compare closed]
  exact derives.with_maxDepth _

/-- The relation reaches into the inner brackets, but not behind another relation. -/
theorem parse_distributed_nested :
    let settings : Settings := { maxDepth := 2, maxChain := 1 }
    let deeper := { settings with maxDepth := settings.maxDepth + 2 }
    let text := "> u = v (a b or x u.like /k c) not \"d) \\\" e\""
    let values : List Modifier := [⟨"m", "", ""⟩, ⟨"n", "<", "2"⟩]
    let own : SearchClause :=
      { index := "x", relation := "u.like", modifiers := [⟨"k", "", ""⟩], term := "c" }
    let query : Query :=
      { clause := .boolean [⟨"u", "v"⟩]
          (.boolean [] (.search [] { term := "a b" }) .or [] (.search [] own)) .not []
          (.search [] { term := "d) \\\" e" }) }
    let inherited (term : String) : SearchClause :=
      { index := "ti(tle", relation := "AnY", modifiers := values, term }
    Relation.named.contains "AnY".toLower = true ∧
      (∀ modifier ∈ values, modifier.Compares) ∧ parse settings text = .ok query ∧
      ¬ HasSorting settings text ∧ IsClosed text ∧
      (∀ declared ∈ query.clause.allPrefixes, declared.name ≠ "") ∧
      parse deeper (quote "ti(tle" ++ " " ++ "AnY" ++ Modifier.listText values ++ " (" ++ text ++
          ")") =
        .ok { clause := .boolean [⟨"u", "v"⟩]
                (.boolean [] (.search [] (inherited "a b")) .or [] (.search [] own)) .not []
                (.search [] (inherited "d) \\\" e")) } := by
  intro settings deeper text values own query inherited
  have isNamed : Relation.named.contains "AnY".toLower = true := by decide +kernel
  have compare : ∀ modifier ∈ values, modifier.Compares :=
    List.forall_mem_cons.2 ⟨.inl rfl, List.forall_mem_singleton.2 (.inr ⟨.less, rfl⟩)⟩
  have read : parse settings text = .ok query :=
    parse_ofList.2 (eq_ok_of_toOption (by decide +kernel))
  have unsorted : ¬ HasSorting settings text := by decide +kernel
  have closed : IsClosed text := by decide +kernel
  have named : ∀ declared ∈ query.clause.allPrefixes, declared.name ≠ "" := by decide
  have whole := parse_distributed "ti(tle" (.inr isNamed) compare read unsorted closed named
  have inherits : query.clause.inheriting (reread "ti(tle") "AnY" (values.map Modifier.normal) =
      .boolean [⟨"u", "v"⟩]
        (.boolean [] (.search [] (inherited "a b")) .or [] (.search [] own)) .not []
        (.search [] (inherited "d) \\\" e")) := by decide +kernel
  rw [inherits] at whole
  exact ⟨isNamed, compare, read, unsorted, closed, named, whole⟩

end Query
end ContextualQuery
