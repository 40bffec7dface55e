import ContextualQuery.Proofs.BooleanStructure
import ContextualQuery.Proofs.Derivations
import ContextualQuery.Proofs.Limits

/-!
# Strict and lenient readers

A strict reader takes no term of several words.  Step by step it does what a lenient reader does,
unless it stops at a second word, for which a lenient reader never stops; and the terms that it
takes are single tokens.
-/

namespace ContextualQuery

/-- Whether a result is not the fault of a second word. -/
def TakesWords {α : Type} (result : Except Failure α) : Prop :=
  ∀ rest, result ≠ .error ⟨.relationExpected, rest⟩

/-- Whether a strict result is also the lenient one, or was cut short by a second word, by which the
lenient one was not. -/
structure Loosens {α : Type} (strict lenient : Except Failure α) : Prop where
  agrees : AgreesUnless .relationExpected strict lenient
  takesWords : TakesWords lenient

section

variable {α β : Type} {result strict lenient : Except Failure α}

theorem takesWords_ok (value : α) : TakesWords (.ok value : Except Failure α) := by
  intro rest same
  cases same

theorem takesWords_fail {fault : Fault} (other : fault ≠ .relationExpected) (rest : List Token) :
    TakesWords (Grammar.fail fault rest : Except Failure α) := by
  intro behind same
  cases same
  exact other rfl

theorem TakesWords.bind {next : α → Except Failure β} (first : TakesWords result)
    (second : ∀ value, TakesWords (next value)) : TakesWords (result >>= next) := by
  intro rest failed
  rcases bind_eq_error.1 failed with failed | ⟨value, -, failed⟩
  · exact first rest failed
  · exact second value rest failed

namespace Loosens

theorem refl (takesWords : TakesWords result) : Loosens result result := ⟨.refl _, takesWords⟩

/-- Two steps loosen if the first does and every second does. -/
theorem bind {next after : α → Except Failure β} (first : Loosens strict lenient)
    (second : ∀ value, Loosens (next value) (after value)) :
    Loosens (strict >>= next) (lenient >>= after) where
  agrees := first.agrees.bind fun value => (second value).agrees
  takesWords := first.takesWords.bind fun value => (second value).takesWords

end Loosens

end

namespace Grammar

/-! ## Rules without terms -/

theorem takesWords_cons {α : Type} {value : α} {others : Except Failure (List α × List Token)}
    (rest : TakesWords others) : TakesWords (cons value others) :=
  fun behind failed => rest behind (map_eq_error.1 failed)

theorem takesWords_modifiers (input : List Token) : TakesWords (modifiers input) := by
  fun_induction modifiers input with
  | case1 | case2 | case3 | case4 => exact takesWords_fail (by decide) _
  | case5 _ _ _ _ _ _ _ _ ih => exact takesWords_cons ih
  | case6 _ _ _ _ _ ih => exact takesWords_cons ih
  | case7 => exact takesWords_ok _

theorem takesWords_declarations (scope : Scope) (input : List Token) :
    TakesWords (declarations scope input) := by
  fun_induction declarations scope input with
  | case1 | case2 | case3 | case4 => exact takesWords_fail (by decide) _
  | case5 _ _ _ _ _ _ _ _ ih => exact ih.bind fun _ => takesWords_ok _
  | case6 _ _ _ _ _ _ ih => exact ih.bind fun _ => takesWords_ok _
  | case7 => exact takesWords_ok _

theorem takesWords_sortKeys (input : List Token) : TakesWords (sortKeys input) := by
  fun_induction sortKeys input with
  | case1 | case2 => exact takesWords_ok _
  | case3 token rest _ _ failure failed =>
    intro behind same
    cases same
    exact takesWords_modifiers rest behind failed
  | case4 _ _ _ _ _ _ _ ih => exact takesWords_cons ih

theorem takesWords_sorting (input : List Token) : TakesWords (sorting input) := by
  unfold sorting
  split
  · exact takesWords_sortKeys _
  · exact takesWords_ok _

/-! ## Rules with terms -/

theorem loosens_bareTerm (first : String) (input rest : List Token) :
    Loosens (bareTerm true first input rest) (bareTerm false first input rest) := by
  refine ⟨?_, takesWords_ok _⟩
  unfold bareTerm
  simp only [Bool.true_and]
  split
  · exact .inr ⟨input, rfl⟩
  · exact .inl rfl

theorem loosens_chain {strict lenient : List Token → Except Failure (Clause × List Token)}
    (operands : ∀ input, Loosens (strict input) (lenient input)) (links : Nat) (left : Clause)
    (input : List Token) :
    Loosens (chain strict links left input) (chain lenient links left input) := by
  induction links generalizing left input with
  | zero =>
    unfold chain
    split
    · exact .refl (takesWords_ok _)
    · exact .refl (takesWords_fail (by decide) _)
  | succ links ih =>
    unfold chain
    split
    · exact .refl (takesWords_ok _)
    · refine (Loosens.refl (takesWords_modifiers _)).bind fun annotated => ?_
      refine (operands annotated.2).bind fun taken => ?_
      exact ih _ taken.2

theorem loosens_group {strict lenient : Scope → List Token → Except Failure (Clause × List Token)}
    (readers : ∀ scope input, Loosens (strict scope input) (lenient scope input)) (links : Nat)
    (scope : Scope) (input : List Token) :
    Loosens (group links strict scope input) (group links lenient scope input) := by
  refine (Loosens.refl (takesWords_declarations _ _)).bind fun declared => ?_
  refine (readers declared.2.1 declared.2.2).bind fun first => ?_
  refine (loosens_chain (readers declared.2.1) links first.1 first.2).bind fun whole => ?_
  exact .refl (takesWords_ok _)

theorem loosens_clause (settings : Settings) (depth : Nat) (scope : Scope) (input : List Token) :
    Loosens (clause { settings with strict := true } depth scope input)
      (clause { settings with strict := false } depth scope input) := by
  induction depth generalizing scope input with
  | zero => exact .refl (takesWords_fail (by decide) _)
  | succ depth ih =>
    unfold clause
    split
    · next rest =>
      refine (loosens_group ih settings.maxChain scope rest).bind fun ⟨inner, behind⟩ => .refl ?_
      simp only
      split
      · exact takesWords_ok _
      · exact takesWords_fail (by decide) _
    · exact .refl (takesWords_fail (by decide) _)
    · next token rest _ =>
      split
      · exact .refl (takesWords_fail (by decide) _)
      · split
        · refine (Loosens.refl (takesWords_modifiers _)).bind fun annotated => ?_
          exact ih _ annotated.2
        · refine (loosens_bareTerm _ _ _).bind fun taken => ?_
          exact .refl (takesWords_ok _)

/-! ## Terms of single tokens -/

variable {settings : Settings} {rule : Rule} {depth : Nat} {scope : Scope}
variable {input rest : List Token} {value : Clause}

theorem bareTerm_strict {first term : String} {start : List Token}
    (read : bareTerm true first start input = .ok (term, rest)) : term = first := by
  unfold bareTerm at read
  simp only [Bool.true_and] at read
  split at read
  · cases read
  · next single =>
    have none_more : (continuations input).1 = [] := by simpa using single
    rw [none_more] at read
    cases read
    rfl

/-- The search clauses that were read by a rule so far. -/
def Rule.searches : Rule → List SearchClause
  | .group | .clause => []
  | .chain _ left => left.searches

theorem searches_declaring (prefixes : List Prefix) (clause : Clause) :
    (clause.declaring prefixes).searches = clause.searches := by
  cases clause <;> rfl

/-- A strict reader takes each term from one token. -/
theorem Derives.single_token (derives : Derives settings rule depth scope input value rest)
    (strict : settings.strict = true) {tokens : List Token} (among : input ⊆ tokens)
    (before : ∀ search ∈ rule.searches, ∃ token ∈ tokens, token.term? = some search.term) :
    ∀ search ∈ value.searches, ∃ token ∈ tokens, token.term? = some search.term := by
  induction derives with
  | group declared operand _ first whole =>
    have toStart := declarations_suffix declared
    have toBehind := operand.suffix.trans toStart
    rw [searches_declaring]
    exact whole (List.Subset.trans toBehind.subset among)
      (first (List.Subset.trans toStart.subset among) (List.forall_mem_nil _))
  | brackets _ inside =>
    exact inside (List.subset_of_cons_subset among) (List.forall_mem_nil _)
  | relation _ related modified _ operand =>
    have toStart := (modifiers_suffix modified).trans (relation?_suffix related)
    exact operand (List.Subset.trans toStart.subset (List.subset_of_cons_subset among))
      (List.forall_mem_nil _)
  | term named _ continued =>
    rw [strict] at continued
    rw [bareTerm_strict continued]
    exact List.forall_mem_singleton.2 ⟨_, among List.mem_cons_self, named⟩
  | done => exact before
  | link joined modified operand _ second others =>
    have toStart := (modifiers_suffix modified).trans (operator?_suffix joined)
    have toLater := operand.suffix.trans toStart
    have right := second (List.Subset.trans toStart.subset among) (List.forall_mem_nil _)
    exact others (List.Subset.trans toLater.subset among)
      (List.forall_mem_append.2 ⟨before, right⟩)

end Grammar

namespace Query

/-! ## Both readers -/

theorem loosens_ofTokens (settings : Settings) (input : List Token) :
    Loosens (ofTokens { settings with strict := true } input)
      (ofTokens { settings with strict := false } input) := by
  refine (Grammar.loosens_group (Grammar.loosens_clause settings _) _ {} input).bind fun first => ?_
  refine (Loosens.refl (Grammar.takesWords_sorting _)).bind fun ⟨sortKeys, rest⟩ => .refl ?_
  simp only
  split
  · exact takesWords_ok _
  · exact takesWords_fail (by decide) _

/-- What a strict reader accepts, a lenient one with the same limits reads as the same query, and
each term of it is one token; any other error than that of a second word is the lenient reader's
too, and a lenient reader never has that one. -/
theorem parseBytes_strict (settings : Settings) (input : List UInt8) :
    let strict : Settings := { settings with strict := true }
    let lenient : Settings := { settings with strict := false }
    (∀ query, parseBytes strict input = .ok query → parseBytes lenient input = .ok query ∧
      ∀ search ∈ query.clause.searches, ∃ token ∈ (Lexeme.ofBytes input).map Lexeme.token,
        token.text = search.term) ∧
    (∀ error, parseBytes strict input = .error error → error.message ≠ "relation expected" →
      parseBytes lenient input = .error error) ∧
    ∀ error, parseBytes lenient input = .error error → error.message ≠ "relation expected" := by
  intro strict lenient
  have loosens := loosens_ofTokens settings ((Lexeme.ofBytes input).map Lexeme.token)
  refine ⟨?_, ?_, ?_⟩
  · intro query read
    have spelled := mapError_eq_ok.1 read
    refine ⟨mapError_eq_ok.2 (loosens.agrees.eq_ok spelled), ?_⟩
    obtain ⟨rest, derives, -⟩ := ofTokens_eq_ok.1 spelled
    intro search member
    obtain ⟨token, among, named⟩ := derives.single_token rfl (List.Subset.refl _)
      (List.forall_mem_nil _) search member
    exact ⟨token, among, Token.text_of_term? named⟩
  · exact fun error failed other => loosens.agrees.mapError_eq_error failed other
  · intro error failed isRelation
    obtain ⟨⟨fault, rest⟩, found, rfl⟩ := mapError_eq_error.1 failed
    obtain rfl : fault = .relationExpected := Fault.eq_of_message_eq isRelation
    exact loosens.takesWords rest found

/-- A keyword and a quoted string are single tokens; a bracket is missed by both readers, and a
second word in front of that by the strict one alone. -/
theorem parseBytes_strict_keywords :
    let strict : Settings := { strict := true }
    let lenient : Settings := { strict := false }
    let input := Utf8.encode "i any \"x y\" and (or not b)"
    let first : Clause := .search [] { index := "i", relation := "any", term := "x y" }
    let second : Clause :=
      .boolean [] (.search [] { term := "or" }) .not [] (.search [] { term := "b" })
    let query : Query := { clause := .boolean [] first .and [] second }
    let unclosed := Utf8.encode "(or not b"
    let error : ParseError := { input := unclosed, message := "missing )", position := 9 }
    let words := Utf8.encode "(a b"
    parseBytes strict input = .ok query ∧ parseBytes lenient input = .ok query ∧
      (∃ token ∈ (Lexeme.ofBytes input).map Lexeme.token, token.text = "x y") ∧
      parseBytes strict unclosed = .error error ∧ error.message ≠ "relation expected" ∧
      parseBytes lenient unclosed = .error error ∧
      parseBytes strict words = .error ⟨words, "relation expected", 3⟩ ∧
      parseBytes lenient words = .error ⟨words, "missing )", 4⟩ ∧
      "missing )" ≠ "relation expected" := by
  intro strict lenient input first second query unclosed error words
  have read : parseBytes strict input = .ok query := by decide +kernel
  have failed : parseBytes strict unclosed = .error error := by decide +kernel
  have other : error.message ≠ "relation expected" := by decide
  have stopped : parseBytes strict words = .error ⟨words, "relation expected", 3⟩ := by
    decide +kernel
  have goesOn : parseBytes lenient words = .error ⟨words, "missing )", 4⟩ := by decide +kernel
  obtain ⟨same, single⟩ := (parseBytes_strict {} input).1 query read
  have quoted := single { index := "i", relation := "any", term := "x y" } List.mem_cons_self
  have failsAgain := (parseBytes_strict {} unclosed).2.1 error failed other
  have apart := (parseBytes_strict {} words).2.2 _ goesOn
  exact ⟨read, same, quoted, failed, other, failsAgain, stopped, goesOn, apart⟩

end Query
end ContextualQuery
