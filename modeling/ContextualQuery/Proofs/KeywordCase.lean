import ContextualQuery.Proofs.CanonicalTranslation
import ContextualQuery.Proofs.LetterCase
import ContextualQuery.Proofs.Lookahead

/-!
# Letter case of keywords

An operator, the keyword in front of the sort keys and a relation that is one of the named ones may
be written in any letter case.  The operator and the keyword are forgotten once they are read; a
relation is kept as it was written, and no field renders one that is not in lower case.
-/

namespace ContextualQuery

open Grammar

/-! ## Queries with their relations in lower case -/

/-- The search clause with a change made to its relation. -/
def SearchClause.withRelation (change : String → String) (search : SearchClause) : SearchClause :=
  { search with relation := change search.relation }

/-- The clause with a change made to all its relations. -/
def Clause.withRelations (change : String → String) : Clause → Clause
  | .search prefixes clause => .search prefixes (clause.withRelation change)
  | .matchAll prefixes => .matchAll prefixes
  | .boolean prefixes left operator modifiers right =>
    .boolean prefixes (left.withRelations change) operator modifiers (right.withRelations change)

/-- The query with a change made to all its relations. -/
def Query.withRelations (change : String → String) (query : Query) : Query :=
  { query with clause := query.clause.withRelations change }

/-- The query with its relations in lower case. -/
def Query.lowered (query : Query) : Query := query.withRelations String.toLower

theorem Clause.withRelations_eq_self {change : String → String} {clause : Clause}
    (same : ∀ search ∈ clause.searches, change search.relation = search.relation) :
    clause.withRelations change = clause := by
  induction clause with
  | search prefixes search =>
    rw [withRelations, SearchClause.withRelation, same search List.mem_cons_self]
  | matchAll => rfl
  | boolean prefixes left operator modifiers right leftIh rightIh =>
    rw [searches, List.forall_mem_append] at same
    rw [withRelations, leftIh same.1, rightIh same.2]

theorem Query.withRelations_eq_self {change : String → String} {query : Query}
    (same : ∀ search ∈ query.clause.searches, change search.relation = search.relation) :
    query.withRelations change = query := by
  rw [withRelations, Clause.withRelations_eq_self same]

/-! ## Respelled tokens -/

/-- Whether other tokens than those that a rule reads differ from them only where it takes an
operator or, if that is allowed, a named relation.  What else is read, and what is left, is given
for the first tokens. -/
inductive Grammar.Respells (settings : Settings) (relations : Bool) :
    Rule → Nat → Scope → List Token → Clause → List Token → List Token → List Token → Prop
  | group {depth : Nat} {scope inner : Scope}
    {taken start behind rest other otherBehind otherRest : List Token} {prefixes : List Prefix}
    {first whole : Clause}
    (declared : declarations scope (taken ++ start) = .ok (prefixes, inner, start))
    (operand : Respells settings relations .clause depth inner start first behind other otherBehind)
    (others : Respells settings relations (.chain settings.maxChain first) depth inner behind whole
      rest otherBehind otherRest) :
    Respells settings relations .group depth scope (taken ++ start) (whole.declaring prefixes) rest
      (taken ++ other) otherRest
  | brackets {depth : Nat} {scope : Scope} {input rest other otherRest : List Token}
    {content : Clause}
    (inside : Respells settings relations .group depth scope input content (.rightParen :: rest)
      other (.rightParen :: otherRest)) :
    Respells settings relations .clause (depth + 1) scope (.leftParen :: input) content rest
      (.leftParen :: other) otherRest
  | relation {depth : Nat} {scope : Scope} {token sign respelled : Token}
    {taken start rest other otherRest : List Token} {index relation : String}
    {values : List Modifier} {value : Clause} (named : token.term? = some index)
    (related : relation? scope (sign :: (taken ++ start)) = some (relation, taken ++ start))
    (modified : modifiers (taken ++ start) = .ok (values, start))
    (kept : respelled ≠ sign → relations = true ∧ ∃ spelling, sign = .namedRelation spelling)
    (operand : Respells settings relations .clause depth (scope.relating index relation values)
      start value rest other otherRest) :
    Respells settings relations .clause (depth + 1) scope (token :: sign :: (taken ++ start)) value
      rest (token :: respelled :: (taken ++ other)) otherRest
  | term {depth : Nat} {scope : Scope} {token : Token} {taken rest otherRest : List Token}
    {first term : String} (named : token.term? = some first)
    (unrelated : relation? scope (taken ++ rest) = none)
    (continued : bareTerm settings.strict first (token :: (taken ++ rest)) (taken ++ rest) =
      .ok (term, rest)) :
    Respells settings relations .clause (depth + 1) scope (token :: (taken ++ rest))
      (.search [] (scope.search term)) rest (token :: (taken ++ otherRest)) otherRest
  | done {links depth : Nat} {left : Clause} {scope : Scope} {rest otherRest : List Token}
    (ends : operator? rest = none) :
    Respells settings relations (.chain links left) depth scope rest left rest otherRest otherRest
  | link {links depth : Nat} {left right whole : Clause} {scope : Scope} {respelled : Token}
    {taken start later rest other otherLater otherRest : List Token} {operator : Operator}
    {spelling : String} {values : List Modifier}
    (modified : modifiers (taken ++ start) = .ok (values, start))
    (operand : Respells settings relations .clause depth scope start right later other otherLater)
    (others : Respells settings relations (.chain links (.boolean [] left operator values right))
      depth scope later whole rest otherLater otherRest) :
    Respells settings relations (.chain (links + 1) left) depth scope
      (.keyword operator spelling :: (taken ++ start)) whole rest (respelled :: (taken ++ other))
      otherRest

namespace Token

theorem keyword_of_lower {respelled : Token} {operator : Operator} {spelling : String}
    (same : respelled.lower = (keyword operator spelling).lower) :
    ∃ again, respelled = .keyword operator again := by
  cases respelled with
  | keyword found again =>
    obtain ⟨rfl, -⟩ := Token.keyword.inj same
    exact ⟨again, rfl⟩
  | _ => cases same

theorem namedRelation_of_lower {respelled : Token} {spelling : String}
    (same : respelled.lower = (namedRelation spelling).lower) :
    ∃ again, respelled = .namedRelation again ∧ again.toLower = spelling.toLower := by
  cases respelled with
  | namedRelation again => exact ⟨again, rfl, Token.namedRelation.inj same⟩
  | _ => cases same

theorem sortBy_of_lower {respelled : Token} {spelling : String}
    (same : respelled.lower = (sortBy spelling).lower) :
    ∃ again, respelled = .sortBy again := by
  cases respelled with
  | sortBy again => exact ⟨again, rfl⟩
  | _ => cases same

/-- What is left behind tokens that two lists share differs in letter case if the whole does. -/
theorem map_lower_append {taken rest other : List Token} :
    (taken ++ other).map lower = (taken ++ rest).map lower ↔ other.map lower = rest.map lower := by
  rw [List.map_append, List.map_append, List.append_cancel_left_eq]

end Token

/-- The scope with a change made to its relation. -/
def Scope.withRelation (change : String → String) (scope : Scope) : Scope :=
  { scope with relation := change scope.relation }

/-- The rule with a change made to the relations read by it so far. -/
def Grammar.Rule.withRelations (change : String → String) : Rule → Rule
  | .chain links left => .chain links (left.withRelations change)
  | rule => rule

theorem Clause.withRelations_declaring (change : String → String) (prefixes : List Prefix)
    (clause : Clause) : (clause.declaring prefixes).withRelations change =
      (clause.withRelations change).declaring prefixes := by
  cases clause <;> rfl

namespace Grammar

/-- There is one way to read tokens by a rule. -/
theorem Derives.unique {settings : Settings} {rule : Rule} {depth : Nat} {scope : Scope}
    {input rest behind : List Token} {value found : Clause}
    (derives : Derives settings rule depth scope input value rest)
    (other : Derives settings rule depth scope input found behind) :
    found = value ∧ behind = rest := by
  have same := derives.read_eq_ok.symm.trans other.read_eq_ok
  cases same
  exact ⟨rfl, rfl⟩

theorem relation?_withRelation (change : String → String) (scope : Scope) (input : List Token) :
    relation? (scope.withRelation change) input = relation? scope input := by
  unfold relation?
  rfl

theorem declarations_withRelation (change : String → String) (scope : Scope) (input : List Token) :
    declarations (scope.withRelation change) input =
      (declarations scope input).map fun found =>
        (found.1, found.2.1.withRelation change, found.2.2) := by
  fun_induction declarations scope input with
  | case1 => rfl
  | case2 scope token rest unnamed =>
    simp only [declarations, unnamed]
    rfl
  | case3 scope token name named =>
    simp only [declarations, named]
    rfl
  | case4 scope token name named value rest unlocated =>
    simp only [declarations, named, unlocated]
    rfl
  | case5 scope token name named value rest uri located ih =>
    have bound : (scope.withRelation change).bind name =
        (scope.bind name).withRelation change := rfl
    rw [declarations_named named located, bound, ih]
    cases declarations (scope.bind name) rest <;> rfl
  | case6 scope token uri located rest unlocated ih =>
    have allowed : (scope.withRelation change).allowAnyWord =
        scope.allowAnyWord.withRelation change := rfl
    rw [declarations_unnamed located unlocated, allowed, ih]
    cases declarations scope.allowAnyWord rest <;> rfl
  | case7 scope rest undeclared =>
    unfold declarations
    split
    · exact (undeclared _ rfl).elim
    · rfl

/-- The same declarations can be read in scopes that differ in their relations. -/
theorem exists_declarations {change : String → String} {scope again inner : Scope}
    (scopes : again.withRelation change = scope.withRelation change) {input rest : List Token}
    {prefixes : List Prefix} (read : declarations scope input = .ok (prefixes, inner, rest)) :
    ∃ innerAgain, declarations again input = .ok (prefixes, innerAgain, rest) ∧
      innerAgain.withRelation change = inner.withRelation change := by
  have changed := declarations_withRelation change scope input
  rw [← scopes, declarations_withRelation, read] at changed
  obtain ⟨⟨others, innerAgain, behind⟩, readAgain, same⟩ := map_eq_ok.1 changed
  obtain ⟨rfl, same⟩ := Prod.mk.inj same
  obtain ⟨inners, rfl⟩ := Prod.mk.inj same
  exact ⟨innerAgain, readAgain, inners⟩

theorem relation?_of_withRelation {change : String → String} {scope again : Scope}
    (scopes : again.withRelation change = scope.withRelation change) (input : List Token) :
    relation? again input = relation? scope input := by
  rw [← relation?_withRelation change, scopes, relation?_withRelation]

theorem declarations_append {scope inner : Scope} {taken rest other : List Token}
    {prefixes : List Prefix}
    (read : declarations scope (taken ++ rest) = .ok (prefixes, inner, rest))
    (alike : SameFront rest other) :
    declarations scope (taken ++ other) = .ok (prefixes, inner, other) := by
  have found : declared scope (taken ++ rest) = .ok ((prefixes, inner), rest) := by
    rw [declared, read]
    rfl
  obtain ⟨⟨_, _, _⟩, readOther, same⟩ :=
    map_eq_ok.1 (Ahead.read_append (ahead_declared scope) found alike)
  cases same
  exact readOther

/-- A relation is found where it is respelled, and it is the same but for its case. -/
theorem exists_relation? {change : String → String} {relations : Bool}
    (caseless : relations = true → ∀ relation respelled : String,
      respelled.toLower = relation.toLower → change respelled = change relation)
    {sign respelled : Token}
    (kept : respelled ≠ sign → relations = true ∧ ∃ spelling, sign = .namedRelation spelling)
    (same : respelled.lower = sign.lower) {scope : Scope} {rest : List Token} {relation : String}
    (related : relation? scope (sign :: rest) = some (relation, rest)) (other : List Token) :
    ∃ again, relation? scope (respelled :: other) = some (again, other) ∧
      change again = change relation := by
  by_cases unchanged : respelled = sign
  · subst unchanged
    obtain ⟨token, split, relates⟩ := relation?_eq_some_cons related
    obtain ⟨rfl, -⟩ := List.cons.inj split
    exact ⟨relation, relates other, rfl⟩
  · obtain ⟨allowed, spelling, rfl⟩ := kept unchanged
    obtain ⟨again, rfl, lowers⟩ := Token.namedRelation_of_lower same
    cases related
    exact ⟨again, rfl, caseless allowed _ _ lowers⟩

/-- Whether a rule reads tokens as a value up to a change of relations, in every scope and behind
every left operand that are the given ones up to this change. -/
def DerivesUpTo (change : String → String) (settings : Settings) (rule : Rule) (depth : Nat)
    (scope : Scope) (input : List Token) (value : Clause) (rest : List Token) : Prop :=
  ∀ again : Scope, again.withRelation change = scope.withRelation change →
    ∀ ruleAgain : Rule, ruleAgain.withRelations change = rule.withRelations change →
      ∃ valueAgain, Derives settings ruleAgain depth again input valueAgain rest ∧
        valueAgain.withRelations change = value.withRelations change

variable {settings : Settings} {relations : Bool} {rule : Rule} {depth : Nat} {scope : Scope}
variable {input rest other otherRest : List Token} {value : Clause}

namespace DerivesUpTo

variable {change : String → String} {inner : Scope} {token : Token}
variable {start behind later : List Token} {values : List Modifier} {links : Nat}
variable {left right whole : Clause}

theorem group {prefixes : List Prefix} {first : Clause}
    (declared : declarations scope input = .ok (prefixes, inner, start))
    (operand : DerivesUpTo change settings .clause depth inner start first behind)
    (others : DerivesUpTo change settings (.chain settings.maxChain first) depth inner behind whole
      rest) :
    DerivesUpTo change settings .group depth scope input (whole.declaring prefixes) rest := by
  intro again scopes ruleAgain rules
  cases ruleAgain <;> cases rules
  obtain ⟨innerAgain, declaredAgain, inners⟩ := exists_declarations scopes declared
  obtain ⟨firstAgain, operandAgain, firsts⟩ := operand innerAgain inners .clause rfl
  obtain ⟨wholeAgain, othersAgain, wholes⟩ :=
    others innerAgain inners (.chain settings.maxChain firstAgain) (congrArg (Rule.chain _) firsts)
  refine ⟨_, .group declaredAgain operandAgain othersAgain, ?_⟩
  rw [Clause.withRelations_declaring, wholes, Clause.withRelations_declaring]

theorem brackets (inside : DerivesUpTo change settings .group depth scope input value
      (.rightParen :: rest)) :
    DerivesUpTo change settings .clause (depth + 1) scope (.leftParen :: input) value rest := by
  intro again scopes ruleAgain rules
  cases ruleAgain <;> cases rules
  obtain ⟨content, derives, same⟩ := inside again scopes .group rfl
  exact ⟨content, .brackets derives, same⟩

theorem relation {index relation found : String} (named : token.term? = some index)
    (related : relation? scope input = some (found, behind))
    (changed : change found = change relation) (modified : modifiers behind = .ok (values, start))
    (operand : DerivesUpTo change settings .clause depth (scope.relating index relation values)
      start value rest) :
    DerivesUpTo change settings .clause (depth + 1) scope (token :: input) value rest := by
  intro again scopes ruleAgain rules
  cases ruleAgain <;> cases rules
  have inners : (again.relating index found values).withRelation change =
      (scope.relating index relation values).withRelation change :=
    calc
      _ = (again.withRelation change).relating index (change found) values := rfl
      _ = (scope.withRelation change).relating index (change relation) values := by
        rw [scopes, changed]
  obtain ⟨valueAgain, derives, sameValue⟩ := operand _ inners .clause rfl
  rw [← relation?_of_withRelation scopes] at related
  exact ⟨valueAgain, .relation named related modified derives, sameValue⟩

theorem term {first term : String} (named : token.term? = some first)
    (unrelated : relation? scope input = none)
    (continued : bareTerm settings.strict first (token :: input) input = .ok (term, rest)) :
    DerivesUpTo change settings .clause (depth + 1) scope (token :: input)
      (.search [] (scope.search term)) rest := by
  intro again scopes ruleAgain rules
  cases ruleAgain <;> cases rules
  rw [← relation?_of_withRelation scopes] at unrelated
  refine ⟨_, .term named unrelated continued, ?_⟩
  exact congrArg (fun scope : Scope => Clause.search [] (scope.search term)) scopes

theorem done (ends : operator? rest = none) :
    DerivesUpTo change settings (.chain links left) depth scope rest left rest := by
  intro again _ ruleAgain rules
  cases ruleAgain with
  | chain linksAgain leftAgain =>
    obtain ⟨rfl, lefts⟩ := Rule.chain.inj rules
    exact ⟨leftAgain, .done ends, lefts⟩
  | _ => cases rules

theorem link {operator : Operator} (joined : operator? input = some (operator, behind))
    (modified : modifiers behind = .ok (values, start))
    (operand : DerivesUpTo change settings .clause depth scope start right later)
    (others : DerivesUpTo change settings (.chain links (.boolean [] left operator values right))
      depth scope later whole rest) :
    DerivesUpTo change settings (.chain (links + 1) left) depth scope input whole rest := by
  intro again scopes ruleAgain rules
  cases ruleAgain with
  | chain linksAgain leftAgain =>
    obtain ⟨rfl, lefts⟩ := Rule.chain.inj rules
    obtain ⟨rightAgain, operandAgain, rights⟩ := operand again scopes .clause rfl
    have joins : (Rule.chain links (.boolean [] leftAgain operator values rightAgain)).withRelations
          change =
        (Rule.chain links (.boolean [] left operator values right)).withRelations change := by
      simp only [Rule.withRelations, Clause.withRelations, lefts, rights]
    obtain ⟨wholeAgain, othersAgain, wholes⟩ := others again scopes _ joins
    exact ⟨wholeAgain, .link joined modified operandAgain othersAgain, wholes⟩
  | _ => cases rules

end DerivesUpTo

namespace Respells

/-- The first tokens are read by the rule. -/
theorem derives
    (respells : Respells settings relations rule depth scope input value rest other otherRest) :
    Derives settings rule depth scope input value rest := by
  induction respells with
  | group declared _ _ operand others => exact .group declared operand others
  | brackets _ inside => exact .brackets inside
  | relation named related modified _ _ operand =>
    exact .relation named related modified operand
  | term named unrelated continued => exact .term named unrelated continued
  | done ends => exact .done ends
  | link modified _ _ operand others => exact .link rfl modified operand others

theorem map_lower
    (respells : Respells settings relations rule depth scope input value rest other otherRest)
    (same : other.map Token.lower = input.map Token.lower) :
    otherRest.map Token.lower = rest.map Token.lower := by
  induction respells with
  | group _ _ _ operand others => exact others (operand (Token.map_lower_append.1 same))
  | brackets _ inside => exact (List.cons.inj (inside (List.cons.inj same).2)).2
  | relation _ _ _ _ _ operand =>
    exact operand (Token.map_lower_append.1 (List.cons.inj (List.cons.inj same).2).2)
  | term => exact Token.map_lower_append.1 (List.cons.inj same).2
  | done => exact same
  | link _ _ _ operand others =>
    exact others (operand (Token.map_lower_append.1 (List.cons.inj same).2))

/-- Tokens differ nowhere from themselves. -/
theorem refl (derives : Derives settings rule depth scope input value rest) :
    Respells settings relations rule depth scope input value rest input rest := by
  induction derives with
  | group declared _ _ operand others =>
    obtain ⟨taken, rfl⟩ := declarations_suffix declared
    exact .group declared operand others
  | brackets _ inside => exact .brackets inside
  | relation named related modified _ operand =>
    obtain ⟨sign, rfl, -⟩ := relation?_eq_some_cons related
    obtain ⟨taken, rfl⟩ := modifiers_suffix modified
    exact .relation named related modified (fun changed => absurd rfl changed) operand
  | term named unrelated continued =>
    obtain ⟨taken, rfl⟩ := bareTerm_suffix continued
    exact .term named unrelated continued
  | done ends => exact .done ends
  | link joined modified _ _ operand others =>
    obtain ⟨spelling, rfl⟩ := operator?_eq_some joined
    obtain ⟨taken, rfl⟩ := modifiers_suffix modified
    exact .link modified operand others

/-- A rule begins with a token of the same kind in both. -/
theorem sameFront
    (respells : Respells settings relations rule depth scope input value rest other otherRest)
    (same : other.map Token.lower = input.map Token.lower) (front : SameFront rest otherRest) :
    SameFront input other := by
  induction respells with
  | group _ operand _ operandIh othersIh =>
    have same := Token.map_lower_append.1 same
    exact (operandIh same (othersIh (operand.map_lower same) front)).append _
  | brackets | relation | term => rfl
  | done => exact front
  | link =>
    obtain ⟨again, rfl⟩ := Token.keyword_of_lower (List.cons.inj same).1
    rfl

/-- The other tokens are read by the rule as well, and but for the case of relations as the same. -/
theorem derivesUpTo
    (respells : Respells settings relations rule depth scope input value rest other otherRest)
    {change : String → String} (caseless : relations = true → ∀ relation respelled : String,
      respelled.toLower = relation.toLower → change respelled = change relation)
    (same : other.map Token.lower = input.map Token.lower) (front : SameFront rest otherRest) :
    DerivesUpTo change settings rule depth scope other value otherRest := by
  induction respells with
  | group declared operand others operandIh othersIh =>
    have sameStart := Token.map_lower_append.1 same
    have sameBehind := operand.map_lower sameStart
    have frontBehind := others.sameFront sameBehind front
    exact .group (declarations_append declared (operand.sameFront sameStart frontBehind))
      (operandIh sameStart frontBehind) (othersIh sameBehind front)
  | brackets _ inside => exact .brackets (inside (List.cons.inj same).2 rfl)
  | relation named related modified kept operand operandIh =>
    obtain ⟨sameSign, sameRest⟩ := List.cons.inj (List.cons.inj same).2
    have sameStart := Token.map_lower_append.1 sameRest
    obtain ⟨found, relatedOther, changed⟩ := exists_relation? caseless kept sameSign related _
    exact .relation named relatedOther changed
      (Ahead.read_append ahead_modifiers modified (operand.sameFront sameStart front))
      (operandIh sameStart front)
  | @term _ _ _ taken _ _ _ _ named unrelated continued =>
    exact .term named (relation?_eq_none_of_sameFront (front.append taken) unrelated)
      (Ahead.read_append (ahead_bareTerm _ _ _) continued front)
  | done ends => exact .done (operator?_eq_none_of_sameFront front ends)
  | link modified operand others operandIh othersIh =>
    obtain ⟨sameSign, sameRest⟩ := List.cons.inj same
    obtain ⟨spelling, rfl⟩ := Token.keyword_of_lower sameSign
    have sameStart := Token.map_lower_append.1 sameRest
    have sameLater := operand.map_lower sameStart
    have frontLater := others.sameFront sameLater front
    exact .link rfl
      (Ahead.read_append ahead_modifiers modified (operand.sameFront sameStart frontLater))
      (operandIh sameStart frontLater) (othersIh sameLater front)

end Respells

end Grammar

/-! ## Texts in other letter case -/

/-- Whether other tokens than those of a query differ from them only where an operator, the keyword
in front of the sort keys or, if that is allowed, a named relation stands. -/
inductive Query.Respelled (settings : Settings) (relations : Bool) (tokens other : List Token) :
    Prop
  | unsorted {clause : Clause}
    (read : Respells settings relations .group (settings.maxDepth + 1) {} tokens clause [] other [])
  | sorted {clause : Clause} {spelling : String} {respelled : Token} {keys : List Token}
    (read : Respells settings relations .group (settings.maxDepth + 1) {} tokens clause
      (.sortBy spelling :: keys) other (respelled :: keys))

/-- Whether a text is another one but for the letter case of its operators, of the keyword in front
of the sort keys and, if that is allowed, of its named relations. -/
structure Query.Recased (settings : Settings) (relations : Bool) (text other : String) : Prop where
  letters : other.toLower = text.toLower
  places : Respelled settings relations (Token.scan text.toList) (Token.scan other.toList)

namespace Query

variable {settings : Settings} {relations : Bool} {text other : String} {query : Query}

/-- Every text that is accepted differs in letter case nowhere from itself. -/
theorem Recased.refl (read : parse settings text = .ok query) :
    Recased settings relations text text := by
  obtain ⟨rest, derives, keys⟩ := ofTokens_eq_ok.1 (parse_eq_ok.1 read)
  refine ⟨rfl, ?_⟩
  unfold sorting at keys
  split at keys
  · exact .sorted (.refl derives)
  · obtain ⟨-, rfl⟩ := Prod.mk.inj (Except.ok.inj keys)
    exact .unsorted (.refl derives)

theorem exists_ofTokens {tokens others rest otherRest : List Token} {clause : Clause}
    (respells : Respells settings relations .group (settings.maxDepth + 1) {} tokens clause rest
      others otherRest) (same : others.map Token.lower = tokens.map Token.lower)
    (front : SameFront rest otherRest) (sorts : sorting otherRest = sorting rest)
    (read : ofTokens settings tokens = .ok query) {change : String → String}
    (caseless : relations = true → ∀ relation respelled : String,
      respelled.toLower = relation.toLower → change respelled = change relation) :
    ∃ again, ofTokens settings others = .ok again ∧
      again.withRelations change = query.withRelations change := by
  obtain ⟨behind, derives, keys⟩ := ofTokens_eq_ok.1 read
  obtain ⟨rfl, rfl⟩ := derives.unique respells.derives
  obtain ⟨clauseAgain, derivesAgain, clauses⟩ :=
    respells.derivesUpTo caseless same front {} rfl .group rfl
  refine ⟨⟨clauseAgain, query.sortKeys⟩, ofTokens_eq_ok.2 ⟨otherRest, derivesAgain, ?_⟩, ?_⟩
  · rw [sorts, keys]
  · rw [withRelations, clauses]
    rfl

/-- A text in other letter case is accepted too, as the same query but for the case of its
relations. -/
theorem exists_parse (read : parse settings text = .ok query)
    (recased : Recased settings relations text other) {change : String → String}
    (caseless : relations = true → ∀ relation respelled : String,
      respelled.toLower = relation.toLower → change respelled = change relation) :
    ∃ again, parse settings other = .ok again ∧
      again.withRelations change = query.withRelations change := by
  simp only [parse_eq_ok] at read ⊢
  have same := Token.map_lower_scan recased.letters
  cases recased.places with
  | unsorted respells => exact exists_ofTokens respells same (.refl []) rfl read caseless
  | sorted respells =>
    obtain ⟨spelling, rfl⟩ := Token.sortBy_of_lower (List.cons.inj (respells.map_lower same)).1
    exact exists_ofTokens respells same rfl rfl read caseless

/-- The letter case of operators and of the keyword in front of the sort keys does not matter. -/
theorem parse_of_recased (read : parse settings text = .ok query)
    (recased : Recased settings false text other) : parse settings other = .ok query := by
  obtain ⟨again, readAgain, same⟩ : ∃ again, parse settings other = .ok again ∧
      again.withRelations id = query.withRelations id :=
    exists_parse read recased fun allowed => Bool.noConfusion allowed
  rw [withRelations_eq_self fun _ _ => rfl, withRelations_eq_self fun _ _ => rfl] at same
  rw [readAgain, same]

end Query

/-! ## Translations -/

namespace Relation

/-- A relation that some field renders is in lower case. -/
theorem toLower_of_rendered {relation : String} (known : orDefault relation ∈ rendered) :
    relation.toLower = relation := by
  have lower : ∀ known ∈ rendered, known.toLower = known := by decide +kernel
  unfold orDefault at known
  split at known
  · next empty =>
    rw [String.isEmpty_iff.1 empty]
    decide +kernel
  · exact lower _ known

end Relation

namespace Definition

variable {definition : Definition} {query : Query} {first : Nat}

/-- A query with a relation that is not in lower case has no translation. -/
theorem lowered_of_translate {statement : Statement}
    (translated : definition.translate query first = .ok statement) : query.lowered = query := by
  obtain ⟨-, condition, assembled, -⟩ := translate_eq_ok_iff.1 translated
  refine Query.withRelations_eq_self fun search member => ?_
  obtain ⟨field, -, predicate, made⟩ := (renders_of_assemble assembled).2 search member
  exact Relation.toLower_of_rendered (Field.relation_mem made)

theorem translate_of_capitals (capitals : query.lowered ≠ query) :
    (definition.translate query first).toOption = none := by
  cases translated : definition.translate query first with
  | error failure => rfl
  | ok statement => exact absurd (lowered_of_translate translated) capitals

/-- A text in other letter case is accepted as the same query but for the case of its relations.
Where only the case of operators and of the keyword in front of the sort keys differs, it is the
same query.  A query with a relation that is not in lower case has no translation; if neither query has
one or both have, there is the same translation of both or none of either. -/
theorem translate_recased {settings : Settings} {relations : Bool} {text other : String}
    (read : Query.parse settings text = .ok query)
    (recased : Query.Recased settings relations text other) :
    ∃ again, Query.parse settings other = .ok again ∧ again.lowered = query.lowered ∧
      (relations = false → again = query) ∧
      ∀ (definition : Definition) (first : Nat),
        (again.lowered ≠ again → (definition.translate again first).toOption = none) ∧
        ((again.lowered = again ↔ query.lowered = query) →
          (definition.translate again first).toOption =
            (definition.translate query first).toOption) := by
  obtain ⟨again, readAgain, lowers⟩ := Query.exists_parse read recased fun _ _ _ same => same
  refine ⟨again, readAgain, lowers, ?_, fun definition first => ⟨translate_of_capitals, ?_⟩⟩
  · rintro rfl
    rw [Query.parse_of_recased read recased] at readAgain
    exact (Except.ok.inj readAgain).symm
  · intro alike
    by_cases capitals : query.lowered = query
    · have same : again = query := (alike.2 capitals).symm.trans (lowers.trans capitals)
      rw [same]
    · rw [translate_of_capitals capitals, translate_of_capitals (mt alike.1 capitals)]

/-- An operator in capitals in front of the same word as a term. -/
theorem translate_recased_operator :
    let definition := (Definition.empty.insert "a" (.text (.withExact { column := "a" }))).insert
      "cql.serverChoice" (.text (.withExact { column := "words" }))
    let text := "a exact x or or"
    let other := "a exact x OR or"
    let first : SearchClause := { index := "a", relation := "exact", term := "x" }
    let query : Query := { clause := .joined (.search [] first) .or (.search [] { term := "or" }) }
    let statement : Statement := ⟨"a = $1 OR words = $2", [.text "x", .text "or"]⟩
    Query.parse {} text = .ok query ∧ Query.Recased {} false text other ∧
      Query.parse {} other = .ok query ∧ definition.translate query 1 = .ok statement := by
  intro definition text other first query statement
  have parsed : Query.parse {} text = .ok query := eq_ok_of_toOption (by decide +kernel)
  have translated : definition.translate query 1 = .ok statement :=
    eq_ok_of_toOption (by decide +kernel)
  have tokens : Token.scan text.toList =
      [.word "a", .namedRelation "exact", .word "x", .keyword .or "or", .keyword .or "or"] := by
    decide +kernel
  have others : Token.scan other.toList =
      [.word "a", .namedRelation "exact", .word "x", .keyword .or "OR", .keyword .or "or"] := by
    decide +kernel
  have letters : other.toLower = text.toLower := by
    rw [← String.toList_inj, Relation.toList_toLower, Relation.toList_toLower]
    decide
  have left : Respells {} false .clause 256 (({} : Scope).relating "a" "exact" [])
      [.word "x", .keyword .or "or", .keyword .or "or"] (.search [] first)
      [.keyword .or "or", .keyword .or "or"] [.word "x", .keyword .or "OR", .keyword .or "or"]
      [.keyword .or "OR", .keyword .or "or"] :=
    @Respells.term _ _ _ _ _ [] _ _ _ _ rfl rfl (by decide +kernel)
  have right : Respells {} false .clause 257 {} [.keyword .or "or"]
      (.search [] { term := "or" }) [] [.keyword .or "or"] [] :=
    @Respells.term _ _ _ _ _ [] _ _ _ _ rfl rfl (by decide +kernel)
  have places : Query.Respelled {} false (Token.scan text.toList) (Token.scan other.toList) := by
    rw [tokens, others]
    exact .unsorted (@Respells.group _ _ _ _ _ [] _ _ _ _ _ _ _ _ _ rfl
      (@Respells.relation _ _ _ _ _ _ _ [] _ _ _ _ _ _ _ _ rfl rfl rfl
        (fun changed => absurd rfl changed) left)
      (@Respells.link _ _ _ _ _ _ _ _ _ [] _ _ _ _ _ _ _ _ _ rfl right (.done rfl)))
  obtain ⟨again, parsedAgain, -, same, -⟩ := translate_recased parsed ⟨letters, places⟩
  obtain rfl := same rfl
  exact ⟨parsed, ⟨letters, places⟩, parsedAgain, translated⟩

/-- With a named relation in capitals a query has no translation, which it has in lower case. -/
theorem exists_recased_untranslated :
    ∃ (settings : Settings) (text other : String) (query again : Query) (definition : Definition)
      (statement : Statement),
      Query.parse settings text = .ok query ∧ Query.Recased settings true text other ∧
      Query.parse settings other = .ok again ∧
      definition.translate query 1 = .ok statement ∧
      (definition.translate again 1).toOption = none := by
  let definition := Definition.empty.insert "a" (.text (.withExact { column := "a" }))
  let query : Query := { clause := .search [] { index := "a", relation := "exact", term := "x" } }
  let again : Query := { clause := .search [] { index := "a", relation := "EXACT", term := "x" } }
  let statement : Statement := ⟨"a = $1", [.text "x"]⟩
  have parsed : Query.parse {} "a exact x" = .ok query := eq_ok_of_toOption (by decide +kernel)
  have parsedAgain : Query.parse {} "a EXACT x" = .ok again :=
    eq_ok_of_toOption (by decide +kernel)
  have translated : definition.translate query 1 = .ok statement :=
    eq_ok_of_toOption (by decide +kernel)
  have untranslated : (definition.translate again 1).toOption = none := by decide +kernel
  have tokens : Token.scan "a exact x".toList =
      [.word "a", .namedRelation "exact", .word "x"] := by decide +kernel
  have others : Token.scan "a EXACT x".toList =
      [.word "a", .namedRelation "EXACT", .word "x"] := by decide +kernel
  have term : Respells {} true .clause 256 (({} : Scope).relating "a" "exact" []) [.word "x"]
      (.search [] { index := "a", relation := "exact", term := "x" }) [] [.word "x"] [] :=
    @Respells.term _ _ _ _ _ [] _ _ _ _ rfl rfl (by decide +kernel)
  have places : Query.Respelled {} true (Token.scan "a exact x".toList)
      (Token.scan "a EXACT x".toList) := by
    rw [tokens, others]
    exact .unsorted (@Respells.group _ _ _ _ _ [] _ _ _ _ _ _ _ _ _ rfl
      (@Respells.relation _ _ _ _ _ _ _ [] _ _ _ _ _ _ _ _ rfl rfl rfl (fun _ => ⟨rfl, _, rfl⟩)
        term) (.done rfl))
  have letters : "a EXACT x".toLower = "a exact x".toLower := by
    rw [← String.toList_inj, Relation.toList_toLower, Relation.toList_toLower]
    decide
  exact ⟨{}, _, _, query, again, definition, statement, parsed, ⟨letters, places⟩, parsedAgain,
    translated, untranslated⟩

end Definition
end ContextualQuery
