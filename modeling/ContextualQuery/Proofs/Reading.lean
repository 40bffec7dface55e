import ContextualQuery.Proofs.Results
import ContextualQuery.Proofs.Spelling

/-!
# Reading canonical text

The grammar reads the tokens of a query back to its normal form.  The left spine of a clause is one
chain: its declarations stand in front of it, each right operand is read on its own, and what was
read so far is the left operand of the operator that follows.
-/

namespace ContextualQuery

open Grammar

/-! ## Scopes -/

namespace Scope

/-- The scope behind a declaration that was written. -/
def declare (scope : Scope) (declared : Prefix) : Scope :=
  if declared.name.isEmpty then scope.allowAnyWord else scope.bind declared.name

/-- The scope behind several declarations. -/
def within (scope : Scope) (declared : List Prefix) : Scope := declared.foldl declare scope

/-- Whether bare terms fall under no index, relation or modifiers. -/
def IsPlain (scope : Scope) : Prop :=
  scope.index = "" ∧ scope.relation = "" ∧ scope.modifiers = []

/-- Whether a relation that is written as it is counts as one in the scope. -/
def Accepts (scope : Scope) (relation : String) : Prop :=
  ∀ rest, relation? scope (Relation.token relation :: rest) = some (relation, rest)

/-- Whether a scope holds what the declarations around a clause make of it once they are
written. -/
structure Covers (scope : Scope) (declared : List Prefix) : Prop where
  standard : "cql" ∈ scope.names
  names : ∀ outer ∈ declared, outer.name ≠ "" → reread outer.name ∈ scope.names
  /-- A declaration without a name allows any word. -/
  custom : ∀ outer ∈ declared, outer.name = "" → scope.custom = true

theorem Covers.subset {scope : Scope} {declared fewer : List Prefix} (covers : scope.Covers declared)
    (among : ∀ outer ∈ fewer, outer ∈ declared) : scope.Covers fewer where
  standard := covers.standard
  names outer member := covers.names outer (among outer member)
  custom outer member := covers.custom outer (among outer member)

theorem covers_root : Scope.Covers {} [] where
  standard := by simp
  names := by simp
  custom := by simp

theorem Covers.declare {scope : Scope} {declared : List Prefix} (covers : scope.Covers declared)
    (added : Prefix) : (scope.declare added.normal).Covers (declared ++ [added]) := by
  have empty : added.normal.name.isEmpty = added.name.isEmpty := isEmpty_reread _
  unfold Scope.declare
  rw [empty]
  cases named : added.name.isEmpty with
  | true =>
    refine ⟨covers.standard, ?_, fun _ _ _ => rfl⟩
    intro outer member named'
    rcases List.mem_append.1 member with before | last
    · exact covers.names outer before named'
    · rw [List.mem_singleton.1 last] at named'
      exact absurd (String.isEmpty_iff.1 named) named'
  | false =>
    refine ⟨List.mem_cons_of_mem _ covers.standard, ?_, ?_⟩
    · intro outer member named'
      rcases List.mem_append.1 member with before | last
      · exact List.mem_cons_of_mem _ (covers.names outer before named')
      · rw [List.mem_singleton.1 last]
        exact List.mem_cons_self
    · intro outer member unnamed
      rcases List.mem_append.1 member with before | last
      · exact covers.custom outer before unnamed
      · rw [List.mem_singleton.1 last, ← String.isEmpty_iff, named] at unnamed
        cases unnamed

theorem Covers.within {scope : Scope} {declared : List Prefix} (covers : scope.Covers declared)
    (added : List Prefix) :
    (scope.within (added.map Prefix.normal)).Covers (declared ++ added) := by
  induction added generalizing scope declared with
  | nil => simpa [Scope.within] using covers
  | cons first others ih =>
    have behind := ih (covers.declare first)
    rwa [List.append_assoc] at behind

theorem IsPlain.within {scope : Scope} (plain : scope.IsPlain) (added : List Prefix) :
    (scope.within added).IsPlain := by
  induction added generalizing scope with
  | nil => exact plain
  | cons first others ih =>
    apply ih
    unfold Scope.declare
    split <;> exact plain

end Scope

/-- Whether a relation that is written as it is reads as that relation under the declarations. -/
def Relation.ReadsUnder (declared : List Prefix) (relation : String) : Prop :=
  isSpelled relation = true ∧ ∀ scope : Scope, scope.Covers declared → scope.Accepts relation

/-! ## What may follow the tokens of a part -/

namespace Token

/-- Whether a token may follow a clause. -/
def endsClause : Token → Bool
  | .keyword _ _ | .sortBy _ | .rightParen => true
  | _ => false

/-- Whether a token may follow modifiers: any that makes no further modifier or value. -/
def endsModifiers : Token → Bool
  | .slash | .comparison _ => false
  | _ => true

theorem endsModifiers_of_term {token : Token} {text : String} (term : token.term? = some text) :
    token.endsModifiers = true := by
  cases token <;> first | rfl | cases term

end Token

/-- What follows the tokens of a part begins with a token of a kind, or is nothing. -/
def StartsWith (kind : Token → Bool) (rest : List Token) : Prop :=
  ∀ token ∈ rest.head?, kind token = true

theorem startsWith_nil (kind : Token → Bool) : StartsWith kind [] := by
  intro token first
  cases first

theorem startsWith_cons {kind : Token → Bool} {token : Token} {rest : List Token}
    (first : kind token = true) : StartsWith kind (token :: rest) := by
  intro other head
  cases head
  exact first

namespace Grammar

/-! ## Modifiers -/

theorem modifiers_flag {token : Token} {name : String} {rest : List Token}
    (named : token.term? = some name) (ends : ∀ symbol behind, rest ≠ .comparison symbol :: behind) :
    modifiers (.slash :: token :: rest) = cons { name } (modifiers rest) := by
  rw [modifiers]
  simp only [named]

theorem modifiers_valued {token token' : Token} {name value : String} {symbol : Comparison}
    {rest : List Token} (named : token.term? = some name) (valued : token'.term? = some value) :
    modifiers (.slash :: token :: .comparison symbol :: token' :: rest) =
      cons ⟨name, symbol.symbol, value⟩ (modifiers rest) := by
  rw [modifiers]
  simp only [named, valued]

theorem modifiers_done {rest : List Token} (ends : StartsWith Token.endsModifiers rest) :
    modifiers rest = .ok ([], rest) := by
  cases rest with
  | nil => rfl
  | cons token rest =>
    have := ends token rfl
    cases token <;> first | rfl | cases this

theorem modifiers_tokens {values : List Modifier}
    (compare : ∀ modifier ∈ values, modifier.Compares) {rest : List Token}
    (ends : StartsWith Token.endsModifiers rest) :
    modifiers (values.flatMap Modifier.tokens ++ rest) =
      .ok (values.map Modifier.normal, rest) := by
  induction values with
  | nil => exact modifiers_done ends
  | cons modifier others ih =>
    rw [List.forall_mem_cons] at compare
    obtain ⟨symbol, same⟩ := compare.1.exists_symbol
    rw [List.flatMap_cons, List.append_assoc, List.map_cons, Modifier.tokens, Modifier.normal, same,
      Relation.token_symbol]
    cases modifier.value.isEmpty with
    | true =>
      have behind : ∀ symbol behind,
          others.flatMap Modifier.tokens ++ rest ≠ .comparison symbol :: behind := by
        intro symbol behind split
        cases others with
        | nil =>
          have first : rest.head? = some (.comparison symbol) := congrArg List.head? split
          cases ends (.comparison symbol) first
        | cons next others => cases split
      simp only [if_true, List.cons_append, List.nil_append]
      rw [modifiers_flag (Token.term?_ofValue _) behind, ih compare.2]
      rfl
    | false =>
      simp only [Bool.false_eq_true, if_false, List.cons_append, List.nil_append]
      rw [modifiers_valued (Token.term?_ofValue _) (Token.term?_ofValue _), ih compare.2]
      rfl

/-! ## Declarations -/

theorem declarations_named {scope : Scope} {token token' : Token} {name uri : String}
    {rest : List Token} (named : token.term? = some name) (located : token'.term? = some uri) :
    declarations scope (.comparison .greater :: token :: .comparison .equal :: token' :: rest) = (do
      let (others, inner, rest) ← declarations (scope.bind name) rest
      .ok (⟨name, uri⟩ :: others, inner, rest)) := by
  rw [declarations]
  simp only [named, located]

theorem declarations_unnamed {scope : Scope} {token : Token} {uri : String} {rest : List Token}
    (located : token.term? = some uri) (ends : ∀ behind, rest ≠ .comparison .equal :: behind) :
    declarations scope (.comparison .greater :: token :: rest) = (do
      let (others, inner, rest) ← declarations scope.allowAnyWord rest
      .ok (⟨"", uri⟩ :: others, inner, rest)) := by
  rw [declarations]
  simp only [located]

theorem declarations_done {scope : Scope} {token : Token} {text : String} {rest : List Token}
    (term : token.term? = some text) :
    declarations scope (token :: rest) = .ok ([], scope, token :: rest) := by
  cases token <;> first | rfl | cases term

/-- Declarations are read up to the term behind them. -/
theorem declarations_tokens {scope : Scope} {declared : List Prefix} {token : Token}
    {text : String} {rest : List Token} (term : token.term? = some text) :
    declarations scope (declared.flatMap Prefix.tokens ++ token :: rest) =
      .ok (declared.map Prefix.normal, scope.within (declared.map Prefix.normal),
        token :: rest) := by
  induction declared generalizing scope with
  | nil => exact declarations_done term
  | cons first others ih =>
    have empty : first.normal.name.isEmpty = first.name.isEmpty := isEmpty_reread _
    rw [List.flatMap_cons, List.append_assoc, List.map_cons, Prefix.tokens, Scope.within,
      List.foldl_cons, ← Scope.within, Scope.declare, empty]
    cases named : first.name.isEmpty with
    | true =>
      have behind : ∀ behind, others.flatMap Prefix.tokens ++ token :: rest ≠
          .comparison .equal :: behind := by
        intro behind split
        cases others with
        | nil =>
          rw [List.flatMap_nil, List.nil_append, List.cons.injEq] at split
          rw [split.1] at term
          cases term
        | cons next others => cases split
      have unnamed : first.normal = ⟨"", reread first.uri⟩ := by
        rw [Prefix.normal, String.isEmpty_iff.1 named]
        rfl
      simp only [if_true, List.cons_append, List.nil_append]
      rw [declarations_unnamed (Token.term?_ofValue _) behind, ih, unnamed]
      rfl
    | false =>
      simp only [Bool.false_eq_true, if_false, List.cons_append, List.nil_append]
      rw [declarations_named (Token.term?_ofValue _) (Token.term?_ofValue _)]
      change (declarations (scope.bind first.normal.name) _ >>= _) = _
      rw [ih]
      rfl

/-! ## Clauses -/

theorem relation?_of_endsClause {scope : Scope} {rest : List Token}
    (ends : StartsWith Token.endsClause rest) : relation? scope rest = none := by
  cases rest with
  | nil => rfl
  | cons token rest =>
    have := ends token rfl
    cases token <;> first | rfl | cases this

theorem continuations_of_endsClause {rest : List Token}
    (ends : StartsWith Token.endsClause rest) : continuations rest = ([], rest) := by
  cases rest with
  | nil => rfl
  | cons token rest =>
    have := ends token rfl
    cases token <;> first | rfl | cases this

variable {settings : Settings} {scope : Scope} {rest : List Token}

theorem clause_term {token : Token} {term : String} (read : token.term? = some term)
    (ends : StartsWith Token.endsClause rest) (depth : Nat) :
    clause settings (depth + 1) scope (token :: rest) =
      .ok (.search [] (scope.search term), rest) := by
  have noRelation : relation? scope rest = none := relation?_of_endsClause ends
  have noWords : continuations rest = ([], rest) := continuations_of_endsClause ends
  cases token <;> cases read <;>
    simp [clause, Token.term?, noRelation, bareTerm, noWords, ok_bind]

theorem clause_relation {token : Token} {index relation : String} {behind : List Token}
    (read : token.term? = some index) (related : relation? scope rest = some (relation, behind))
    (depth : Nat) :
    clause settings (depth + 1) scope (token :: rest) = (do
      let (modifiers, rest) ← modifiers behind
      clause settings depth (scope.relating index relation modifiers) rest) := by
  cases token <;> cases read <;> simp [clause, Token.term?, related]

theorem clause_group {depth : Nat} {inner : Clause} {behind : List Token}
    (read : group settings.maxChain (clause settings depth) scope rest =
      .ok (inner, .rightParen :: behind)) :
    clause settings (depth + 1) scope (.leftParen :: rest) = .ok (inner, behind) := by
  rw [clause, read]
  rfl

/-- A search clause is read back to its normal form. -/
theorem clause_search {search : SearchClause} (plain : scope.IsPlain)
    (accepts : scope.Accepts search.relationOrDefault)
    (compare : ∀ modifier ∈ search.modifiers, modifier.Compares)
    (ends : StartsWith Token.endsClause rest) {depth : Nat} (deep : search.depth < depth) :
    clause settings depth scope (search.tokens ++ rest) = .ok (.search [] search.normal, rest) := by
  obtain ⟨depth, rfl⟩ := Nat.exists_eq_add_one_of_ne_zero (Nat.ne_zero_of_lt deep)
  unfold SearchClause.tokens SearchClause.normal
  unfold SearchClause.depth at deep
  cases bare : search.isBare with
  | true =>
    obtain ⟨index, relation, modifiers⟩ := plain
    simp only [if_true, List.cons_append, List.nil_append]
    rw [clause_term (Token.term?_ofValue _) ends, Scope.search, index, relation, modifiers]
    rfl
  | false =>
    simp only [bare, Bool.false_eq_true, if_false] at deep
    obtain ⟨depth, rfl⟩ := Nat.exists_eq_add_one_of_ne_zero (by omega : depth ≠ 0)
    have term := Token.term?_ofValue search.term
    simp only [Bool.false_eq_true, if_false, List.cons_append, List.append_assoc, List.nil_append]
    rw [clause_relation (Token.term?_ofValue _) (accepts _),
      modifiers_tokens compare (startsWith_cons (Token.endsModifiers_of_term term)), ok_bind]
    exact clause_term term ends depth

theorem clause_allRecords (plain : scope.IsPlain) (ends : StartsWith Token.endsClause rest)
    {depth : Nat} (deep : SearchClause.allRecords.depth < depth) :
    clause settings depth scope (SearchClause.allRecords.tokens ++ rest) =
      .ok (.search [] SearchClause.allRecords.normal, rest) := by
  apply clause_search plain (fun _ => rfl) _ ends deep
  intro modifier member
  cases member

/-! ## Chains and groups -/

theorem chain_done {operand : List Token → Except Failure (Clause × List Token)} {links : Nat}
    {left : Clause} (ends : operator? rest = none) :
    chain operand links left rest = .ok (left, rest) := by
  cases links <;> simp [chain, ends]

theorem chain_link {operand : List Token → Except Failure (Clause × List Token)}
    (links : Nat) (left : Clause) (operator : Operator) (spelling : String) :
    chain operand (links + 1) left (.keyword operator spelling :: rest) = (do
      let (modifiers, rest) ← modifiers rest
      let (right, rest) ← operand rest
      chain operand links (.boolean [] left operator modifiers right) rest) := by
  rfl

/-- The core of a clause begins with a term. -/
theorem coreTokens_eq_cons (clause : Clause) :
    ∃ token text tail, clause.coreTokens = token :: tail ∧ token.term? = some text := by
  induction clause with
  | search prefixes search =>
    rw [Clause.coreTokens, SearchClause.tokens]
    split
    · exact ⟨_, _, _, rfl, Token.term?_ofValue _⟩
    · exact ⟨_, _, _, rfl, Token.term?_ofValue _⟩
  | matchAll => exact ⟨_, _, _, rfl, Token.term?_ofValue _⟩
  | boolean prefixes left operator modifiers right leftCons =>
    obtain ⟨token, text, tail, split, term⟩ := leftCons
    rw [Clause.coreTokens, split]
    exact ⟨token, text, _, rfl, term⟩

/-- Reads a first operand and the chain behind it. -/
def linked (operand : List Token → Except Failure (Clause × List Token)) (links : Nat)
    (input : List Token) : Except Failure (Clause × List Token) := do
  let (first, rest) ← operand input
  chain operand links first rest

/-- A group is read back once the chain on its left spine is. -/
theorem group_of_linked {value : Clause} {depth : Nat}
    (spine : ∀ links, linked
      (clause settings depth (scope.within (value.leading.map Prefix.normal)))
      (value.links + links) (value.coreTokens ++ rest) =
      chain (clause settings depth (scope.within (value.leading.map Prefix.normal))) links
        value.core rest)
    (wide : value.links ≤ settings.maxChain) (ends : operator? rest = none) :
    group settings.maxChain (clause settings depth) scope (value.tokens ++ rest) =
      .ok (value.normal, rest) := by
  obtain ⟨links, total⟩ := Nat.exists_eq_add_of_le wide
  obtain ⟨token, text, tail, split, term⟩ := coreTokens_eq_cons value
  have declared : declarations scope (value.tokens ++ rest) =
      .ok (value.leading.map Prefix.normal, scope.within (value.leading.map Prefix.normal),
        value.coreTokens ++ rest) := by
    rw [Clause.tokens, List.append_assoc, split]
    exact declarations_tokens term
  have whole := spine links
  rw [chain_done ends, ← total, linked] at whole
  obtain ⟨⟨first, behind⟩, readFirst, readChain⟩ := bind_eq_ok.1 whole
  rw [group, declared, ok_bind]
  simp only [readFirst, ok_bind, readChain]
  rw [Clause.declaring, Clause.prefixes_core, List.append_nil, Clause.normal]

end Grammar

/-- Whether a clause under the declarations `outer` is written so that it can be read back. -/
structure Clause.Legible (clause : Clause) (outer : List Prefix) : Prop where
  relations : clause.EverySearch
    (fun declared search => Relation.ReadsUnder declared search.relationOrDefault) outer
  modifiers : ∀ modifier ∈ clause.allModifiers, modifier.Compares

theorem Clause.Legible.operands {prefixes outer : List Prefix} {left right : Clause}
    {operator : Operator} {modifiers : List Modifier}
    (legible : (boolean prefixes left operator modifiers right).Legible outer) :
    left.Legible (outer ++ prefixes) ∧ right.Legible (outer ++ prefixes) ∧
      ∀ modifier ∈ modifiers, modifier.Compares := by
  obtain ⟨⟨leftReads, rightReads⟩, compare⟩ := legible
  simp only [allModifiers, List.mem_append, or_imp, forall_and] at compare
  exact ⟨⟨leftReads, compare.1.1⟩, ⟨rightReads, compare.2⟩, compare.1.2⟩

namespace Grammar

variable {settings : Settings} {scope : Scope} {rest : List Token}

theorem endsModifiers_operandTokens (value : Clause) :
    StartsWith Token.endsModifiers (value.operandTokens ++ rest) := by
  obtain ⟨token, text, tail, split, term⟩ := coreTokens_eq_cons value
  unfold Clause.operandTokens
  cases brackets : value.needsBrackets with
  | true => exact startsWith_cons rfl
  | false =>
    rw [Clause.tokens, Clause.leading_eq_nil brackets, split]
    exact startsWith_cons (Token.endsModifiers_of_term term)

/-- A right operand is read back once the chain on its left spine is. -/
theorem clause_operandTokens {value : Clause} {outer : List Prefix} {depth : Nat}
    (spine : ∀ {scope : Scope} {depth : Nat} {rest : List Token},
      scope.Covers (outer ++ value.leading) → scope.IsPlain → value.depth < depth →
      StartsWith Token.endsClause rest → ∀ links,
      linked (clause settings depth scope) (value.links + links) (value.coreTokens ++ rest) =
        chain (clause settings depth scope) links value.core rest)
    (legible : value.Legible outer) (covers : scope.Covers outer) (plain : scope.IsPlain)
    (deep : value.operandDepth < depth) (wide : value.longestChain ≤ settings.maxChain)
    (ends : StartsWith Token.endsClause rest) :
    clause settings depth scope (value.operandTokens ++ rest) = .ok (value.normal, rest) := by
  unfold Clause.operandDepth at deep
  unfold Clause.operandTokens
  cases brackets : value.needsBrackets with
  | true =>
    rw [brackets, Bool.toNat_true] at deep
    obtain ⟨depth, rfl⟩ := Nat.exists_eq_add_one_of_ne_zero (Nat.ne_zero_of_lt deep)
    rw [if_pos rfl, List.cons_append, List.append_assoc]
    apply clause_group
    apply group_of_linked _ (Nat.le_trans value.links_le_longestChain wide) rfl
    exact spine (covers.within value.leading) (plain.within _) (Nat.lt_of_succ_lt_succ deep)
      (startsWith_cons rfl)
  | false =>
    rw [brackets, Bool.toNat_false, Nat.add_zero] at deep
    rw [if_neg Bool.false_ne_true, Clause.tokens, Clause.leading_eq_nil brackets, Clause.normal,
      Clause.leading_eq_nil brackets, List.map_nil, Clause.withPrefixes_core]
    cases value with
    | search prefixes search =>
      obtain rfl : prefixes = [] := Clause.leading_eq_nil brackets
      have reads := legible.relations
      rw [Clause.EverySearch, List.append_nil] at reads
      exact clause_search plain (reads.2 scope covers) legible.modifiers ends deep
    | matchAll => exact clause_allRecords plain ends deep
    | boolean => cases brackets

/-- The left spine of a clause is read as one chain. -/
theorem linked_coreTokens {value : Clause} {outer : List Prefix} {depth : Nat}
    (legible : value.Legible outer) (covers : scope.Covers (outer ++ value.leading))
    (plain : scope.IsPlain) (deep : value.depth < depth)
    (wide : value.longestChain ≤ settings.maxChain) (links : Nat)
    (ends : StartsWith Token.endsClause rest) :
    linked (clause settings depth scope) (value.links + links) (value.coreTokens ++ rest) =
      chain (clause settings depth scope) links value.core rest := by
  induction value generalizing outer scope depth links rest with
  | search prefixes search =>
    have accepts := legible.relations.2 scope covers
    rw [Clause.coreTokens, linked, clause_search plain accepts legible.modifiers ends deep,
      ok_bind, Clause.links, Nat.zero_add, Clause.core]
  | matchAll prefixes =>
    rw [Clause.coreTokens, linked, clause_allRecords plain ends deep, ok_bind, Clause.links,
      Nat.zero_add, Clause.core]
  | boolean prefixes left operator modifiers right leftChain rightChain =>
    obtain ⟨leftLegible, rightLegible, compare⟩ := legible.operands
    simp only [Clause.depth, Nat.max_lt] at deep
    simp only [Clause.longestChain, Nat.max_le] at wide
    rw [Clause.leading, ← List.append_assoc] at covers
    have operand : clause settings depth scope (right.operandTokens ++ rest) =
        .ok (right.normal, rest) := by
      apply clause_operandTokens _ rightLegible
        (covers.subset fun _ => List.mem_append_left _) plain deep.2 wide.2.2 ends
      intro scope depth rest covers plain deep ends links
      exact rightChain rightLegible covers plain deep wide.2.2 links ends
    rw [Clause.coreTokens_boolean, Clause.links, Nat.add_assoc, List.append_assoc,
      List.cons_append, leftChain leftLegible covers plain deep.1 wide.2.1 (1 + links)
        (startsWith_cons rfl), Nat.add_comm 1 links, chain_link, List.append_assoc,
      modifiers_tokens compare (endsModifiers_operandTokens right), ok_bind]
    simp only [operand, ok_bind]
    rfl

/-! ## Whole queries -/

theorem sortKeys_cons {token : Token} {index : String} {behind : List Token}
    {values : List Modifier} (term : token.term? = some index)
    (read : modifiers rest = .ok (values, behind)) :
    sortKeys (token :: rest) = cons ⟨index, values⟩ (sortKeys behind) := by
  rw [sortKeys]
  simp only [term]
  split
  · next failed => rw [read] at failed; cases failed
  · next taken =>
    rw [read] at taken
    cases taken
    rfl

theorem sortKeys_tokens {keys : List SortKey}
    (compare : ∀ key ∈ keys, ∀ modifier ∈ key.modifiers, modifier.Compares) :
    sortKeys (keys.flatMap SortKey.tokens) = .ok (keys.map SortKey.normal, []) := by
  induction keys with
  | nil => rw [List.flatMap_nil, sortKeys]; rfl
  | cons key others ih =>
    rw [List.forall_mem_cons] at compare
    have ends : StartsWith Token.endsModifiers (others.flatMap SortKey.tokens) := by
      cases others with
      | nil => exact startsWith_nil _
      | cons next => exact startsWith_cons (Token.endsModifiers_of_term (Token.term?_ofValue _))
    rw [List.flatMap_cons, SortKey.tokens, List.cons_append,
      sortKeys_cons (Token.term?_ofValue _) (modifiers_tokens compare.1 ends), ih compare.2]
    rfl

end Grammar

/-- Whether a query is written so that it can be read back. -/
structure Query.Legible (query : Query) : Prop where
  clause : query.clause.Legible []
  sorting : ∀ key ∈ query.sortKeys, ∀ modifier ∈ key.modifiers, modifier.Compares

/-- Whether the limits of a reader allow the text of a query. -/
structure Settings.Allows (settings : Settings) (query : Query) : Prop where
  /-- Nothing lies too deep. -/
  deep : query.clause.depth ≤ settings.maxDepth
  /-- No chain is too long. -/
  wide : query.clause.longestChain ≤ settings.maxChain

namespace Query

variable {settings : Settings} {query : Query}

/-- The tokens of a legible query are read as its normal form. -/
theorem ofTokens_tokens (legible : query.Legible) (allows : settings.Allows query) :
    ofTokens settings query.tokens = .ok query.normal := by
  have read {rest : List Token} (ends : StartsWith Token.endsClause rest)
      (stops : Grammar.operator? rest = none) :
      Grammar.group settings.maxChain (Grammar.clause settings (settings.maxDepth + 1)) {}
        (query.clause.tokens ++ rest) = .ok (query.clause.normal, rest) := by
    apply Grammar.group_of_linked _
      (Nat.le_trans query.clause.links_le_longestChain allows.wide) stops
    intro links
    exact Grammar.linked_coreTokens legible.clause (Scope.covers_root.within _)
      (Scope.IsPlain.within ⟨rfl, rfl, rfl⟩ _) (Nat.lt_succ_of_le allows.deep) allows.wide links ends
  unfold ofTokens tokens
  cases unsorted : query.sortKeys.isEmpty with
  | true =>
    rw [if_pos rfl, read (startsWith_nil _) rfl, normal, List.isEmpty_iff.1 unsorted]
    rfl
  | false =>
    rw [if_neg Bool.false_ne_true, read (startsWith_cons rfl) rfl]
    simp only [ok_bind, Grammar.sorting, Grammar.sortKeys_tokens legible.sorting]
    rfl

/-- Reading text is reading its tokens. -/
theorem parse_eq_ok {text : String} {value : Query} :
    parse settings text = .ok value ↔ ofTokens settings (Token.scan text.toList) = .ok value := by
  have lexemes : (Lexeme.ofBytes (Utf8.encode text)).map Lexeme.token =
      Token.scan text.toList := by
    rw [Lexeme.ofBytes, Utf8.decode_encode, Token.scan]
  rw [parse, parseBytes, lexemes]
  exact mapError_eq_ok

/-- Reading written characters is reading their tokens; no bytes are taken apart. -/
theorem parse_ofList {chars : List Char} {value : Query} :
    parse settings (String.ofList chars) = .ok value ↔
      ofTokens settings (Token.scan chars) = .ok value := by
  rw [parse_eq_ok, String.toList_ofList]

/-- Reading the text of a legible query gives its normal form. -/
theorem parse_text (legible : query.Legible) (allows : settings.Allows query) :
    parse settings query.text = .ok query.normal := by
  have relations := legible.clause.relations.mono fun _ _ reads => reads.1
  rw [parse_eq_ok, Token.scan_query relations legible.clause.modifiers legible.sorting,
    ofTokens_tokens legible allows]

end Query
end ContextualQuery
