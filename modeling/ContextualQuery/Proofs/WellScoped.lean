import ContextualQuery.Proofs.Accepted

/-!
# Well-scoped queries

The declarations of a query hold inward, and a relation holds for the terms inside the brackets
behind it.  The tree that is read from any bytes, stray ones among them, shows both: each relation
is one by itself or by a declaration in front of the clause or of one around it.
-/

namespace ContextualQuery

open Utf8 (Piece)
open Grammar

/-! ## Tokens of any input -/

namespace Token

/-- Whether a token that may stand for a relation has the word for it.  A dot that is escaped counts
as one here, since a stray byte between the backslash and the dot leaves no trace. -/
def IsApt : Token → Prop
  | .namedRelation spelling => Relation.named.contains spelling.toLower = true
  | .dotted spelling => '.' ∈ spelling.toList
  | _ => True

theorem dot_mem_run {ends : Char → Bool} {input : List Piece}
    (dotted : (run ends input).dotted = true) : '.' ∈ (run ends input).text := by
  fun_induction run ends input with
  | case1 | case2 | case3 | case4 => cases dotted
  | case5 _ _ _ ih => exact List.mem_cons_of_mem _ (ih dotted)
  | case6 _ _ _ _ ih => exact List.mem_cons_of_mem _ (List.mem_cons_of_mem _ (ih dotted))
  | case7 c rest _ _ _ ih =>
    rcases Bool.or_eq_true _ _ ▸ dotted with here | behind
    · rw [beq_iff_eq.1 here]
      exact List.mem_cons_self
    · exact List.mem_cons_of_mem _ (ih behind)

theorem isApt_ofWord {spelling : String} {dotted : Bool}
    (shown : dotted = true → '.' ∈ spelling.toList) : (ofWord spelling dotted).IsApt := by
  unfold ofWord
  split
  · trivial
  · split
    · trivial
    · split
      · next isDotted => exact shown isDotted
      · split
        · next known => exact known
        · trivial

theorem isApt_sign? {first : Char} {rest behind : List Piece} {token : Token}
    (taken : sign? first rest = some (token, behind)) : token.IsApt := by
  revert taken
  unfold sign?
  split <;> rintro ⟨⟩ <;> trivial

theorem isApt_starting (first : Char) (rest : List Piece) : (starting first rest).1.IsApt := by
  unfold starting
  split
  · next found => exact isApt_sign? found
  · split
    · trivial
    · apply isApt_ofWord
      rw [String.toList_ofList]
      exact dot_mem_run

theorem isApt_next? {input rest : List Piece} {token : Token}
    (taken : next? input = some (token, rest)) : token.IsApt := by
  unfold next? at taken
  split at taken
  · cases taken
  · cases taken
    trivial
  · next first others _ =>
    obtain ⟨rfl, rfl⟩ := Prod.ext_iff.1 (Option.some.inj taken)
    exact isApt_starting first others

theorem isApt_ofBytes (bytes : List UInt8) :
    ∀ token ∈ (Lexeme.ofBytes bytes).map Lexeme.token, token.IsApt := by
  rw [Lexeme.ofBytes, List.forall_mem_map]
  fun_induction Lexeme.scan (Utf8.decode bytes) with
  | case1 => simp
  | case2 _ _ _ taken ih => exact List.forall_mem_cons.2 ⟨isApt_next? taken, ih⟩

end Token

/-! ## Trees in scope -/

/-- The relations that a search clause may have under declarations. -/
inductive Relation.Scoped (declared : List Prefix) : String → Prop
  | comparison (symbol : Comparison) : Scoped declared symbol.symbol
  /-- A named relation in any letter case. -/
  | named {spelling : String} (isNamed : Relation.named.contains spelling.toLower = true) :
    Scoped declared spelling
  /-- A word whose part in front of its first dot is declared. -/
  | dotted {spelling : String} (dot : '.' ∈ spelling.toList)
    (known : Scope.qualifier spelling = "cql" ∨
      ∃ outer ∈ declared, outer.name = Scope.qualifier spelling) : Scoped declared spelling
  /-- Any word, where a declaration has no name. -/
  | custom (text : String) (unnamed : ∃ outer ∈ declared, outer.name = "") : Scoped declared text

/-- Whether a search clause has nothing but its term, or a relation that is one under the
declarations, and no modifier that is cut short. -/
structure SearchClause.WellScoped (declared : List Prefix) (search : SearchClause) : Prop where
  complete : ∀ modifier ∈ search.modifiers, modifier.IsComplete
  relation : search.index = "" ∧ search.relation = "" ∧ search.modifiers = [] ∨
    Relation.Scoped declared search.relation

/-- Whether a clause under the declarations `outer` is made of well-scoped search clauses alone,
joined by operators without a modifier that is cut short.  A match-all clause is not. -/
inductive Clause.WellScoped : List Prefix → Clause → Prop
  | search {outer prefixes : List Prefix} {content : SearchClause}
    (holds : content.WellScoped (outer ++ prefixes)) : WellScoped outer (.search prefixes content)
  | boolean {outer prefixes : List Prefix} {left right : Clause} {operator : Operator}
    {modifiers : List Modifier} (first : WellScoped (outer ++ prefixes) left)
    (complete : ∀ modifier ∈ modifiers, modifier.IsComplete)
    (second : WellScoped (outer ++ prefixes) right) :
    WellScoped outer (.boolean prefixes left operator modifiers right)

/-- Whether all parts of a query are well scoped. -/
structure Query.WellScoped (query : Query) : Prop where
  clause : query.clause.WellScoped []
  sorting : ∀ key ∈ query.sortKeys, ∀ modifier ∈ key.modifiers, modifier.IsComplete

section

variable {declared further : List Prefix}

theorem Relation.Scoped.subset {relation : String} (holds : Scoped declared relation)
    (among : ∀ outer ∈ declared, outer ∈ further) : Scoped further relation := by
  have wider {name : String} : (∃ outer ∈ declared, outer.name = name) →
      ∃ outer ∈ further, outer.name = name :=
    fun ⟨outer, member, same⟩ => ⟨outer, among outer member, same⟩
  cases holds with
  | comparison symbol => exact .comparison symbol
  | named isNamed => exact .named isNamed
  | dotted dot known => exact .dotted dot (known.imp id wider)
  | custom _ unnamed => exact .custom _ (wider unnamed)

theorem SearchClause.WellScoped.subset {search : SearchClause}
    (wellScoped : search.WellScoped declared) (among : ∀ outer ∈ declared, outer ∈ further) :
    search.WellScoped further where
  complete := wellScoped.complete
  relation := wellScoped.relation.imp id fun holds => holds.subset among

/-- Declarations that a group puts in front of its clause hold for it as those around it do. -/
theorem Clause.WellScoped.declaring {clause : Clause} {prefixes : List Prefix}
    (wellScoped : clause.WellScoped (declared ++ prefixes)) :
    (clause.declaring prefixes).WellScoped declared := by
  cases wellScoped with
  | search holds =>
    rw [List.append_assoc] at holds
    exact .search holds
  | boolean first complete second =>
    rw [List.append_assoc] at first second
    exact .boolean first complete second

end

/-! ## Scopes of clauses -/

/-- Whether a scope comes about under declarations: it knows no other names, and what bare terms
stand under is well scoped. -/
structure Scope.Arises (scope : Scope) (declared : List Prefix) : Prop where
  /-- The names and whether any word may be a relation, apart from what bare terms stand under. -/
  under : (scope.relating "" "" []).Under declared
  search : ∀ term, (scope.search term).WellScoped declared

namespace Scope.Arises

variable {scope inner : Scope} {declared prefixes : List Prefix} {input rest : List Token}

theorem root : Scope.Arises {} [] where
  under := under_root
  search _ := ⟨List.forall_mem_nil _, .inl ⟨rfl, rfl, rfl⟩⟩

theorem bind (arises : scope.Arises declared) (name uri : String) :
    (scope.bind name).Arises (declared ++ [⟨name, uri⟩]) where
  under := arises.under.bind name uri
  search term := (arises.search term).subset fun _ => List.mem_append_left _

theorem allowAnyWord (arises : scope.Arises declared) (uri : String) :
    scope.allowAnyWord.Arises (declared ++ [⟨"", uri⟩]) where
  under := arises.under.allowAnyWord uri
  search term := (arises.search term).subset fun _ => List.mem_append_left _

theorem relating (arises : scope.Arises declared) (index : String) {relation : String}
    {modifiers : List Modifier} (holds : Relation.Scoped declared relation)
    (complete : ∀ modifier ∈ modifiers, modifier.IsComplete) :
    (scope.relating index relation modifiers).Arises declared where
  under := arises.under
  search _ := ⟨complete, .inr holds⟩

theorem declarations (arises : scope.Arises declared)
    (read : Grammar.declarations scope input = .ok (prefixes, inner, rest)) :
    inner.Arises (declared ++ prefixes) := by
  fun_induction Grammar.declarations scope input generalizing declared prefixes with
  | case1 | case2 | case3 | case4 => cases read
  | case5 _ _ first _ _ _ uri _ ih =>
    obtain ⟨⟨others, within, behind⟩, readOthers, done⟩ := bind_eq_ok.1 read
    cases done
    have whole := ih (arises.bind first uri) readOthers
    rwa [List.append_assoc] at whole
  | case6 _ _ uri _ _ _ ih =>
    obtain ⟨⟨others, within, behind⟩, readOthers, done⟩ := bind_eq_ok.1 read
    cases done
    have whole := ih (arises.allowAnyWord uri) readOthers
    rwa [List.append_assoc] at whole
  | case7 =>
    cases read
    rwa [List.append_nil]

theorem relation (arises : scope.Arises declared) (apt : ∀ token ∈ input, token.IsApt)
    {found : String} (related : relation? scope input = some (found, rest)) :
    Relation.Scoped declared found := by
  unfold relation? at related
  split at related
  · cases related
    exact .comparison _
  · cases related
    exact .named (apt _ List.mem_cons_self)
  · split at related
    · next allowed =>
      cases related
      rcases Bool.or_eq_true _ _ ▸ allowed with isCustom | bound
      · exact .custom _ (arises.under.custom isCustom)
      · exact .dotted (apt _ List.mem_cons_self)
          (arises.under.names _ (List.contains_iff_mem.1 bound))
    · cases related
  · split at related
    · next isCustom =>
      cases related
      exact .custom _ (arises.under.custom isCustom)
    · cases related
  · cases related

end Scope.Arises

/-! ## What is read -/

/-- Whether what was read by a rule so far is well scoped. -/
def Grammar.Rule.WellScoped (declared : List Prefix) : Rule → Prop
  | .group | .clause => True
  | .chain _ left => left.WellScoped declared

variable {settings : Settings}

/-- Every rule reads a well-scoped clause. -/
theorem Grammar.Derives.wellScoped {rule : Rule} {depth : Nat} {scope : Scope}
    {input rest : List Token} {value : Clause} {declared : List Prefix}
    (derives : Derives settings rule depth scope input value rest)
    (arises : scope.Arises declared) (apt : ∀ token ∈ input, token.IsApt)
    (left : rule.WellScoped declared) : value.WellScoped declared := by
  induction derives generalizing declared with
  | group prefixes operand _ first whole =>
    have inner := arises.declarations prefixes
    have toStart := declarations_suffix prefixes
    have toBehind := operand.suffix.trans toStart
    have operand := first inner (fun _ member => apt _ (toStart.subset member)) trivial
    exact (whole inner (fun _ member => apt _ (toBehind.subset member)) operand).declaring
  | brackets _ inside =>
    exact inside arises (fun _ member => apt _ (List.mem_cons_of_mem _ member)) trivial
  | relation _ related modified _ operand =>
    have later := fun token member => apt token (List.mem_cons_of_mem _ member)
    have toStart := (modifiers_suffix modified).trans (relation?_suffix related)
    exact operand (arises.relating _ (arises.relation later related) (modifiers_eq_ok modified))
      (fun _ member => later _ (toStart.subset member)) trivial
  | term =>
    refine .search ?_
    rw [List.append_nil]
    exact arises.search _
  | done => exact left
  | link joined modified operand _ second others =>
    have toStart := (modifiers_suffix modified).trans (operator?_suffix joined)
    have toLater := operand.suffix.trans toStart
    have right := second arises (fun _ member => apt _ (toStart.subset member)) trivial
    refine others arises (fun _ member => apt _ (toLater.subset member)) (.boolean ?_ ?_ ?_)
    · rwa [List.append_nil]
    · exact modifiers_eq_ok modified
    · rwa [List.append_nil]

/-- Every query that is read, be it from stray bytes, is well scoped. -/
theorem Query.wellScoped_of_parseBytes {input : List UInt8} {query : Query}
    (read : parseBytes settings input = .ok query) : query.WellScoped := by
  rw [parseBytes] at read
  obtain ⟨rest, derives, sorted⟩ := ofTokens_eq_ok.1 (mapError_eq_ok.1 read)
  exact ⟨derives.wellScoped .root (Token.isApt_ofBytes input) trivial,
    Grammar.sorting_eq_ok sorted⟩

/-- A name and the relation that it qualifies, each with a backslash in front of a stray byte. -/
theorem Query.wellScoped_of_parseBytes_stray :
    let input := Utf8.encode "> u\\" ++ 255 :: Utf8.encode " = v ti u\\" ++
      255 :: Utf8.encode ".like/m<2 (a or b) sortby k/d"
    let member (term : String) : Clause :=
      .search [] { index := "ti", relation := "u\\.like", modifiers := [⟨"m", "<", "2"⟩], term }
    let query : Query :=
      { clause := .boolean [⟨"u\\", "v"⟩] (member "a") .or [] (member "b")
        sortKeys := [{ index := "k", modifiers := [⟨"d", "", ""⟩] }] }
    parseBytes {} input = .ok query ∧ query.WellScoped := by
  intro input member query
  have read : parseBytes {} input = .ok query := eq_ok_of_toOption (by decide +kernel)
  exact ⟨read, wellScoped_of_parseBytes read⟩

end ContextualQuery
