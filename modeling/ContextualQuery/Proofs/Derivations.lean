import ContextualQuery.Proofs.Results
import ContextualQuery.Query.Grammar

/-!
# Derivations

The rules of the grammar as a relation between the tokens in front, the clause that they spell and
the tokens behind it.  A reader succeeds exactly where there is a derivation, so what every clause
has that is read can be shown rule by rule, and failures need not be looked at.
-/

namespace ContextualQuery
namespace Grammar

/-- The rules by which clauses are read. -/
inductive Rule
  /-- A chain of clauses with the declarations in front of it. -/
  | group
  | clause
  /-- Operators with their right operands behind a left operand, at most as many as given. -/
  | chain (links : Nat) (left : Clause)

/-- Reads a clause by a rule. -/
def Rule.read (settings : Settings) (depth : Nat) (scope : Scope) (input : List Token) :
    Rule → Except Failure (Clause × List Token)
  | .group => Grammar.group settings.maxChain (Grammar.clause settings depth) scope input
  | .clause => Grammar.clause settings depth scope input
  | .chain links left => Grammar.chain (Grammar.clause settings depth scope) links left input

/-- Whether tokens spell a clause by a rule in a scope, with the rest of the tokens behind it. -/
inductive Derives (settings : Settings) :
    Rule → Nat → Scope → List Token → Clause → List Token → Prop
  | group {depth : Nat} {scope inner : Scope} {input start behind rest : List Token}
    {prefixes : List Prefix} {first whole : Clause}
    (declared : declarations scope input = .ok (prefixes, inner, start))
    (operand : Derives settings .clause depth inner start first behind)
    (others : Derives settings (.chain settings.maxChain first) depth inner behind whole rest) :
    Derives settings .group depth scope input (whole.declaring prefixes) rest
  | brackets {depth : Nat} {scope : Scope} {input rest : List Token} {content : Clause}
    (inside : Derives settings .group depth scope input content (.rightParen :: rest)) :
    Derives settings .clause (depth + 1) scope (.leftParen :: input) content rest
  | relation {depth : Nat} {scope : Scope} {token : Token} {input behind start rest : List Token}
    {index relation : String} {values : List Modifier} {value : Clause}
    (named : token.term? = some index) (related : relation? scope input = some (relation, behind))
    (modified : modifiers behind = .ok (values, start))
    (operand : Derives settings .clause depth (scope.relating index relation values) start value
      rest) :
    Derives settings .clause (depth + 1) scope (token :: input) value rest
  | term {depth : Nat} {scope : Scope} {token : Token} {input rest : List Token}
    {first term : String}
    (named : token.term? = some first) (unrelated : relation? scope input = none)
    (continued : bareTerm settings.strict first (token :: input) input = .ok (term, rest)) :
    Derives settings .clause (depth + 1) scope (token :: input) (.search [] (scope.search term))
      rest
  | done {links depth : Nat} {left : Clause} {scope : Scope} {rest : List Token}
    (ends : operator? rest = none) :
    Derives settings (.chain links left) depth scope rest left rest
  | link {links depth : Nat} {left right whole : Clause} {scope : Scope}
    {input behind start later rest : List Token} {operator : Operator} {values : List Modifier}
    (joined : operator? input = some (operator, behind))
    (modified : modifiers behind = .ok (values, start))
    (operand : Derives settings .clause depth scope start right later)
    (others : Derives settings (.chain links (.boolean [] left operator values right)) depth scope
      later whole rest) :
    Derives settings (.chain (links + 1) left) depth scope input whole rest

variable {settings : Settings} {rule : Rule} {depth : Nat} {scope : Scope}
variable {input rest : List Token} {value : Clause}

theorem derives_chain
    (operands : ∀ {input rest : List Token} {value : Clause},
      clause settings depth scope input = .ok (value, rest) →
        Derives settings .clause depth scope input value rest)
    {links : Nat} {left : Clause}
    (read : chain (clause settings depth scope) links left input = .ok (value, rest)) :
    Derives settings (.chain links left) depth scope input value rest := by
  induction links generalizing left input with
  | zero =>
    unfold chain at read
    split at read
    · next ends =>
      cases read
      exact .done ends
    · cases read
  | succ links ih =>
    unfold chain at read
    split at read
    · next ends =>
      cases read
      exact .done ends
    · next joined =>
      obtain ⟨⟨values, start⟩, modified, read⟩ := bind_eq_ok.1 read
      obtain ⟨⟨right, later⟩, operand, others⟩ := bind_eq_ok.1 read
      exact .link joined modified (operands operand) (ih others)

theorem derives_group
    (operands : ∀ {scope : Scope} {input rest : List Token} {value : Clause},
      clause settings depth scope input = .ok (value, rest) →
        Derives settings .clause depth scope input value rest)
    (read : group settings.maxChain (clause settings depth) scope input = .ok (value, rest)) :
    Derives settings .group depth scope input value rest := by
  obtain ⟨⟨prefixes, inner, start⟩, declared, read⟩ := bind_eq_ok.1 read
  obtain ⟨⟨first, behind⟩, operand, read⟩ := bind_eq_ok.1 read
  obtain ⟨⟨whole, last⟩, others, done⟩ := bind_eq_ok.1 read
  cases done
  exact .group declared (operands operand) (derives_chain operands others)

theorem derives_clause (read : clause settings depth scope input = .ok (value, rest)) :
    Derives settings .clause depth scope input value rest := by
  induction depth generalizing scope input value rest with
  | zero => cases read
  | succ depth ih =>
    unfold clause at read
    split at read
    · obtain ⟨⟨content, behind⟩, inside, closed⟩ := bind_eq_ok.1 read
      simp only at closed
      split at closed
      · cases closed
        exact .brackets (derives_group ih inside)
      · cases closed
    · cases read
    · split at read
      · cases read
      · next named =>
        split at read
        · next related =>
          obtain ⟨⟨values, start⟩, modified, operand⟩ := bind_eq_ok.1 read
          exact .relation named related modified (ih operand)
        · next unrelated =>
          obtain ⟨⟨term, behind⟩, continued, done⟩ := bind_eq_ok.1 read
          cases done
          exact .term named unrelated continued

theorem Derives.read_eq_ok (derives : Derives settings rule depth scope input value rest) :
    rule.read settings depth scope input = .ok (value, rest) := by
  induction derives with
  | group declared _ _ operand others =>
    simp only [Rule.read] at operand others ⊢
    simp only [Grammar.group, declared, ok_bind, operand, others]
  | brackets _ inside =>
    simp only [Rule.read] at inside ⊢
    rw [clause, inside]
    rfl
  | @relation _ _ token _ _ _ _ _ _ _ _ named related modified _ operand =>
    simp only [Rule.read] at operand ⊢
    cases token <;> cases named <;>
      simp only [clause, Token.term?, related, modified, ok_bind, operand]
  | @term _ _ token _ _ _ _ named unrelated continued =>
    rw [Rule.read]
    cases token <;> cases named <;> simp only [clause, Token.term?, unrelated, continued, ok_bind]
  | @done links _ _ _ _ ends => cases links <;> rw [Rule.read, chain, ends]
  | link joined modified _ _ operand others =>
    simp only [Rule.read] at operand others ⊢
    rw [chain, joined]
    simp only [modified, ok_bind, operand, others]

/-- A rule reads a clause exactly where there is a derivation by it. -/
theorem read_eq_ok : rule.read settings depth scope input = .ok (value, rest) ↔
    Derives settings rule depth scope input value rest := by
  refine ⟨fun read => ?_, Derives.read_eq_ok⟩
  cases rule with
  | group => exact derives_group derives_clause read
  | clause => exact derives_clause read
  | chain => exact derives_chain derives_clause read

/-- The depth that a reader allows is where it starts; no rule looks at it again. -/
theorem Derives.with_maxDepth (derives : Derives settings rule depth scope input value rest)
    (maxDepth : Nat) : Derives { settings with maxDepth } rule depth scope input value rest := by
  induction derives with
  | group declared _ _ operand others => exact .group declared operand others
  | brackets _ inside => exact .brackets inside
  | relation named related modified _ operand => exact .relation named related modified operand
  | term named unrelated continued => exact .term named unrelated continued
  | done ends => exact .done ends
  | link joined modified _ _ operand others => exact .link joined modified operand others

/-! ## Tokens behind a rule -/

theorem modifiers_suffix {values : List Modifier} (read : modifiers input = .ok (values, rest)) :
    rest <:+ input := by
  fun_induction modifiers input generalizing values with
  | case1 | case2 | case3 | case4 => cases read
  | case5 _ _ _ _ _ _ _ _ ih =>
    obtain ⟨tail, readTail, rfl⟩ := cons_eq_ok.1 read
    exact (ih readTail).trans ⟨[_, _, _, _], rfl⟩
  | case6 _ _ _ _ _ ih =>
    obtain ⟨tail, readTail, rfl⟩ := cons_eq_ok.1 read
    exact (ih readTail).trans ⟨[_, _], rfl⟩
  | case7 =>
    cases read
    exact List.suffix_refl _

theorem declarations_suffix {inner : Scope} {prefixes : List Prefix}
    (read : declarations scope input = .ok (prefixes, inner, rest)) : rest <:+ input := by
  fun_induction declarations scope input generalizing prefixes with
  | case1 | case2 | case3 | case4 => cases read
  | case5 _ _ _ _ _ _ _ _ ih =>
    obtain ⟨⟨others, within, behind⟩, readOthers, done⟩ := bind_eq_ok.1 read
    cases done
    exact (ih readOthers).trans ⟨[_, _, _, _], rfl⟩
  | case6 _ _ _ _ _ _ ih =>
    obtain ⟨⟨others, within, behind⟩, readOthers, done⟩ := bind_eq_ok.1 read
    cases done
    exact (ih readOthers).trans ⟨[_, _], rfl⟩
  | case7 =>
    cases read
    exact List.suffix_refl _

theorem relation?_suffix {relation : String}
    (related : relation? scope input = some (relation, rest)) : rest <:+ input := by
  unfold relation? at related
  split at related
  · cases related
    exact List.suffix_cons _ _
  · cases related
    exact List.suffix_cons _ _
  · split at related
    · cases related
      exact List.suffix_cons _ _
    · cases related
  · split at related
    · cases related
      exact List.suffix_cons _ _
    · cases related
  · cases related

theorem continuations_suffix (input : List Token) : (continuations input).2 <:+ input := by
  fun_induction continuations input with
  | case1 => exact List.suffix_refl _
  | case2 token rest text taken others behind split ih =>
    rw [split] at ih
    exact ih.trans (List.suffix_cons _ _)
  | case3 => exact List.suffix_refl _

theorem bareTerm_suffix {strict : Bool} {first term : String} {input rest behind : List Token}
    (read : bareTerm strict first input rest = .ok (term, behind)) : behind <:+ rest := by
  unfold bareTerm at read
  simp only at read
  split at read
  · cases read
  · cases read
    exact continuations_suffix rest

theorem operator?_suffix {input rest : List Token} {operator : Operator}
    (found : operator? input = some (operator, rest)) : rest <:+ input := by
  cases input with
  | nil => cases found
  | cons token behind =>
    obtain ⟨_, _, same⟩ := Option.map_eq_some_iff.1 found
    cases same
    exact List.suffix_cons _ _

/-- What a rule leaves stands at the end of what it was given. -/
theorem Derives.suffix (derives : Derives settings rule depth scope input value rest) :
    rest <:+ input := by
  induction derives with
  | group declared _ _ behind last => exact (last.trans behind).trans (declarations_suffix declared)
  | brackets _ inside =>
    exact ((List.suffix_cons _ _).trans inside).trans (List.suffix_cons _ _)
  | relation _ related modified _ behind =>
    exact ((behind.trans (modifiers_suffix modified)).trans (relation?_suffix related)).trans
      (List.suffix_cons _ _)
  | term _ _ continued => exact (bareTerm_suffix continued).trans (List.suffix_cons _ _)
  | done => exact List.suffix_refl _
  | link joined modified _ _ later last =>
    exact ((last.trans later).trans (modifiers_suffix modified)).trans (operator?_suffix joined)

end Grammar

namespace Query

variable {settings : Settings} {input : List Token} {query : Query}

/-- A query is read from tokens exactly where they spell its clause in front of its sort keys. -/
theorem ofTokens_eq_ok : ofTokens settings input = .ok query ↔
    ∃ rest, Grammar.Derives settings .group (settings.maxDepth + 1) {} input query.clause rest ∧
      Grammar.sorting rest = .ok (query.sortKeys, []) := by
  constructor
  · intro read
    obtain ⟨⟨clause, behind⟩, readClause, read⟩ := bind_eq_ok.1 read
    obtain ⟨⟨keys, last⟩, readKeys, done⟩ := bind_eq_ok.1 read
    simp only at done
    split at done
    · cases done
      exact ⟨behind, Grammar.read_eq_ok.1 readClause, readKeys⟩
    · cases done
  · rintro ⟨behind, derives, readKeys⟩
    have readClause := derives.read_eq_ok
    rw [Grammar.Rule.read] at readClause
    rw [ofTokens, readClause, ok_bind]
    simp only [readKeys, ok_bind]

end Query
end ContextualQuery
