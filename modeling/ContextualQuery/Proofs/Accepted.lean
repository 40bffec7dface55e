import ContextualQuery.Proofs.Derivations
import ContextualQuery.Proofs.RoundTrip

/-!
# Accepted queries

What holds of every query that is read from a text: each relation was taken for one under the
declarations in front of it, each relation of a modifier is a comparison, and its own text lies no
deeper than the text it was read from.
-/

namespace ContextualQuery

open Utf8 (Piece)

/-! ## Tokens of a text -/

namespace Token

/-- Whether a token is of the kind that its word is read as. -/
def Faithful : Token → Prop
  | .namedRelation spelling => Relation.named.contains spelling.toLower = true
  | .dotted spelling => Relation.isReserved spelling = false ∧ Quoted.hasDot spelling.toList = true
  | _ => True

theorem faithful_ofWord (spelling : String) :
    (ofWord spelling (Quoted.hasDot spelling.toList)).Faithful := by
  unfold ofWord
  split
  · trivial
  · next notOperator =>
    split
    · trivial
    · next notSort =>
      split
      · next dotted =>
        refine ⟨?_, dotted⟩
        rw [Relation.isReserved, notOperator, Bool.eq_false_iff.2 notSort]
        rfl
      · split
        · next known => exact known
        · trivial

theorem run_rest_suffix (ends : Char → Bool) (input : List Piece) :
    (run ends input).rest <:+ input := by
  fun_induction run ends input with
  | case1 => exact List.suffix_refl _
  | case2 => exact List.suffix_refl _
  | case3 => exact List.suffix_refl _
  | case4 => exact List.nil_suffix
  | case5 _ _ _ ih => exact (ih.trans (List.suffix_cons _ _)).trans (List.suffix_cons _ _)
  | case6 _ _ _ _ ih => exact (ih.trans (List.suffix_cons _ _)).trans (List.suffix_cons _ _)
  | case7 _ _ _ _ _ ih => exact ih.trans (List.suffix_cons _ _)

theorem run_dotted {ends : Char → Bool} {input : List Piece} (unbroken : .stray ∉ input) :
    (run ends input).dotted = Quoted.hasDot (run ends input).text := by
  fun_induction run ends input with
  | case1 => rfl
  | case2 => rfl
  | case3 => rfl
  | case4 => rfl
  | case5 => simp at unbroken
  | case6 rest _ escaped _ ih =>
    rw [List.mem_cons, List.mem_cons, not_or, not_or] at unbroken
    exact ih unbroken.2.2
  | case7 c rest _ noBackslash _ ih =>
    rw [List.mem_cons, not_or] at unbroken
    rw [ih unbroken.2, Quoted.hasDot_cons _ noBackslash]

theorem sign?_suffix {first : Char} {rest behind : List Piece} {token : Token}
    (taken : sign? first rest = some (token, behind)) : token.Faithful ∧ behind <:+ rest := by
  revert taken
  unfold sign?
  split <;> rintro ⟨⟩ <;> simp [Faithful, List.suffix_cons]

theorem starting_suffix {first : Char} {rest : List Piece} (unbroken : .stray ∉ rest) :
    (starting first rest).1.Faithful ∧ (starting first rest).2 <:+ .char first :: rest := by
  unfold starting
  split
  · next taken found =>
    obtain ⟨faithful, suffix⟩ := sign?_suffix found
    exact ⟨faithful, suffix.trans (List.suffix_cons _ _)⟩
  · split
    · refine ⟨trivial, ?_⟩
      have content := run_rest_suffix (· == '"') rest
      have behind : afterQuote (run (· == '"') rest).rest <:+ (run (· == '"') rest).rest := by
        unfold afterQuote
        split
        · next split => exact split ▸ List.suffix_cons _ _
        · exact List.suffix_refl _
      exact (behind.trans content).trans (List.suffix_cons _ _)
    · refine ⟨?_, run_rest_suffix _ _⟩
      have unbroken' : Piece.stray ∉ Piece.char first :: rest := by simpa using unbroken
      rw [bareWord, run_dotted unbroken']
      have faithful := faithful_ofWord
        (String.ofList (run Quoted.endsWord (.char first :: rest)).text)
      rwa [String.toList_ofList] at faithful

theorem next?_suffix {input rest : List Piece} {token : Token} (unbroken : .stray ∉ input)
    (taken : next? input = some (token, rest)) : token.Faithful ∧ rest <:+ input := by
  have dropped := List.dropWhile_suffix isBlank (l := input)
  unfold next? at taken
  split at taken
  · cases taken
  · next others remaining =>
    rw [remaining] at dropped
    exact absurd (dropped.subset List.mem_cons_self) unbroken
  · next first others remaining =>
    rw [remaining] at dropped
    have later : Piece.stray ∉ others := fun member =>
      unbroken (dropped.subset (List.mem_cons_of_mem _ member))
    obtain ⟨faithful, suffix⟩ := starting_suffix later
    obtain ⟨rfl, rfl⟩ := Prod.ext_iff.1 (Option.some.inj taken)
    exact ⟨faithful, suffix.trans dropped⟩

theorem faithful_scan (text : List Char) : ∀ token ∈ scan text, token.Faithful := by
  have pieces {input : List Piece} (unbroken : .stray ∉ input) :
      ∀ lexeme ∈ Lexeme.scan input, lexeme.token.Faithful := by
    fun_induction Lexeme.scan input with
    | case1 => simp
    | case2 input token rest taken ih =>
      obtain ⟨faithful, suffix⟩ := next?_suffix unbroken taken
      rw [List.forall_mem_cons]
      exact ⟨faithful, ih fun member => unbroken (suffix.subset member)⟩
  intro token member
  obtain ⟨lexeme, among, rfl⟩ := List.mem_map.1 member
  exact pieces (by simp) lexeme among

end Token

/-! ## Relations and scopes -/

/-- The relations that are taken for one under the declarations. -/
inductive Relation.Taken (declared : List Prefix) : String → Prop
  | comparison (symbol : Comparison) : Taken declared symbol.symbol
  | named {spelling : String} (isNamed : Relation.named.contains spelling.toLower = true) :
    Taken declared spelling
  /-- A dotted word whose qualifier is declared. -/
  | dotted {spelling : String} (free : Relation.isReserved spelling = false)
    (dotted : Quoted.hasDot spelling.toList = true)
    (known : Scope.qualifier spelling = "cql" ∨
      ∃ outer ∈ declared, outer.name = Scope.qualifier spelling) : Taken declared spelling
  /-- Any word or string, where a declaration has no name. -/
  | custom (text : String) (unnamed : ∃ outer ∈ declared, outer.name = "") : Taken declared text

theorem Relation.Taken.subset {declared further : List Prefix} {relation : String}
    (taken : Taken declared relation) (among : ∀ outer ∈ declared, outer ∈ further) :
    Taken further relation := by
  cases taken with
  | comparison symbol => exact .comparison symbol
  | named isNamed => exact .named isNamed
  | dotted free dotted known =>
    refine .dotted free dotted (known.imp id ?_)
    rintro ⟨outer, member, same⟩
    exact ⟨outer, among outer member, same⟩
  | custom _ unnamed =>
    obtain ⟨outer, member, empty⟩ := unnamed
    exact .custom _ ⟨outer, among outer member, empty⟩

/-- Whether a scope holds only what the declarations and relations around a clause put there. -/
structure Scope.Under (scope : Scope) (declared : List Prefix) : Prop where
  /-- Every name is the standard one or declared. -/
  names : ∀ name ∈ scope.names, name = "cql" ∨ ∃ outer ∈ declared, outer.name = name
  /-- Any word is allowed only by a declaration without a name. -/
  custom : scope.custom = true → ∃ outer ∈ declared, outer.name = ""
  relation : scope.relation = "" ∨ Relation.Taken declared scope.relation
  modifiers : ∀ modifier ∈ scope.modifiers, modifier.Compares

namespace Scope

variable {scope : Scope} {declared : List Prefix}

theorem under_root : Scope.Under {} [] where
  names := by simp
  custom := by simp
  relation := .inl rfl
  modifiers := by simp

theorem Under.subset {further : List Prefix} (under : scope.Under declared)
    (among : ∀ outer ∈ declared, outer ∈ further) : scope.Under further where
  names name member := (under.names name member).imp id fun ⟨outer, inner, same⟩ =>
    ⟨outer, among outer inner, same⟩
  custom custom := by
    obtain ⟨outer, inner, empty⟩ := under.custom custom
    exact ⟨outer, among outer inner, empty⟩
  relation := under.relation.imp id fun taken => taken.subset among
  modifiers := under.modifiers

theorem Under.bind (under : scope.Under declared) (name uri : String) :
    (scope.bind name).Under (declared ++ [⟨name, uri⟩]) := by
  have wider := under.subset fun outer (member : outer ∈ declared) =>
    List.mem_append_left [(⟨name, uri⟩ : Prefix)] member
  refine ⟨?_, wider.custom, wider.relation, wider.modifiers⟩
  intro other member
  rcases List.mem_cons.1 member with rfl | before
  · exact .inr ⟨⟨other, uri⟩, by simp, rfl⟩
  · exact wider.names other before

theorem Under.allowAnyWord (under : scope.Under declared) (uri : String) :
    scope.allowAnyWord.Under (declared ++ [⟨"", uri⟩]) := by
  have wider := under.subset fun outer (member : outer ∈ declared) =>
    List.mem_append_left [(⟨"", uri⟩ : Prefix)] member
  exact ⟨wider.names, fun _ => ⟨⟨"", uri⟩, by simp, rfl⟩, wider.relation, wider.modifiers⟩

theorem Under.relating (under : scope.Under declared) (index : String) {relation : String}
    {modifiers : List Modifier} (taken : Relation.Taken declared relation)
    (compare : ∀ modifier ∈ modifiers, modifier.Compares) :
    (scope.relating index relation modifiers).Under declared :=
  ⟨under.names, under.custom, .inr taken, compare⟩

end Scope

/-! ## Parts of a query -/

/-- Whether a modifier is a name alone or compares it to a value. -/
def Modifier.IsComplete (modifier : Modifier) : Prop :=
  modifier.relation = "" ∧ modifier.value = "" ∨
    ∃ symbol : Comparison, modifier.relation = symbol.symbol

theorem Modifier.IsComplete.compares {modifier : Modifier} (complete : modifier.IsComplete) :
    modifier.Compares :=
  complete.imp And.left id

namespace Grammar

theorem modifiers_eq_ok {input rest : List Token} {values : List Modifier}
    (read : modifiers input = .ok (values, rest)) : ∀ modifier ∈ values, modifier.IsComplete := by
  fun_induction modifiers input generalizing values with
  | case1 | case2 | case3 | case4 => cases read
  | case5 _ _ _ symbol _ _ _ _ ih =>
    obtain ⟨tail, readTail, rfl⟩ := cons_eq_ok.1 read
    exact List.forall_mem_cons.2 ⟨.inr ⟨symbol, rfl⟩, ih readTail⟩
  | case6 _ _ _ _ _ ih =>
    obtain ⟨tail, readTail, rfl⟩ := cons_eq_ok.1 read
    exact List.forall_mem_cons.2 ⟨.inl ⟨rfl, rfl⟩, ih readTail⟩
  | case7 =>
    cases read
    simp

theorem declarations_eq_ok {scope inner : Scope} {declared prefixes : List Prefix}
    {input rest : List Token} (under : scope.Under declared)
    (read : declarations scope input = .ok (prefixes, inner, rest)) :
    inner.Under (declared ++ prefixes) ∧ (scope.IsPlain → inner.IsPlain) := by
  fun_induction declarations scope input generalizing declared prefixes with
  | case1 | case2 | case3 | case4 => cases read
  | case5 scope token first named token' rest uri located ih =>
    obtain ⟨⟨others, inner', rest'⟩, readOthers, done⟩ := bind_eq_ok.1 read
    cases done
    have within := ih (under.bind first uri) readOthers
    rwa [List.append_assoc] at within
  | case6 scope token first located rest unnamed ih =>
    obtain ⟨⟨others, inner', rest'⟩, readOthers, done⟩ := bind_eq_ok.1 read
    cases done
    have within := ih (under.allowAnyWord first) readOthers
    rwa [List.append_assoc] at within
  | case7 =>
    cases read
    rw [List.append_nil]
    exact ⟨under, id⟩

theorem relation?_eq_some {scope : Scope} {declared : List Prefix} {relation : String}
    {input rest : List Token} (under : scope.Under declared)
    (faithful : ∀ token ∈ input, token.Faithful)
    (found : relation? scope input = some (relation, rest)) : Relation.Taken declared relation := by
  unfold relation? at found
  split at found
  · cases found
    exact .comparison _
  · cases found
    exact .named (faithful _ List.mem_cons_self)
  · next spelling behind =>
    split at found
    · next allowed =>
      cases found
      rcases Bool.or_eq_true _ _ ▸ allowed with custom | bound
      · exact .custom _ (under.custom custom)
      · obtain ⟨free, dotted⟩ := faithful _ List.mem_cons_self
        exact .dotted free dotted (under.names _ (List.contains_iff_mem.1 bound))
    · cases found
  · split at found
    · next custom =>
      cases found
      exact .custom _ (under.custom custom)
    · cases found
  · cases found

end Grammar

/-! ## Accepted clauses -/

/-- Whether a match-all clause stands anywhere in a clause. -/
def Clause.hasMatchAll : Clause → Bool
  | .search _ _ => false
  | .matchAll _ => true
  | .boolean _ left _ _ right => left.hasMatchAll || right.hasMatchAll

/-- Whether every relation of a clause under the declarations `outer` was taken for one, and every
modifier's relation for a comparison. -/
structure Clause.Accepted (clause : Clause) (outer : List Prefix) : Prop where
  relations : clause.EverySearch (fun declared search =>
    search.relation = "" ∨ Relation.Taken declared search.relation) outer
  modifiers : ∀ modifier ∈ clause.allModifiers, modifier.Compares
  /-- Only a query under construction can ask for every record without an index. -/
  searches : clause.hasMatchAll = false

namespace Clause

theorem everySearch_declaring {holds : List Prefix → SearchClause → Prop}
    (prefixes outer : List Prefix) (clause : Clause) :
    (clause.declaring prefixes).EverySearch holds outer ↔
      clause.EverySearch holds (outer ++ prefixes) := by
  cases clause <;>
    simp [declaring, withPrefixes, EverySearch, Clause.prefixes, List.append_assoc]

theorem Accepted.declaring {clause : Clause} {prefixes outer : List Prefix}
    (accepted : clause.Accepted (outer ++ prefixes)) :
    (clause.declaring prefixes).Accepted outer := by
  refine ⟨(everySearch_declaring _ _ _).2 accepted.relations, ?_, ?_⟩
  · have same : (clause.declaring prefixes).allModifiers = clause.allModifiers := by
      cases clause <;> rfl
    rw [same]
    exact accepted.modifiers
  · have same : (clause.declaring prefixes).hasMatchAll = clause.hasMatchAll := by
      cases clause <;> rfl
    rw [same]
    exact accepted.searches

theorem Accepted.boolean {left right : Clause} {operator : Operator} {outer : List Prefix}
    {modifiers : List Modifier} (leftAccepted : left.Accepted outer)
    (compare : ∀ modifier ∈ modifiers, modifier.Compares) (rightAccepted : right.Accepted outer) :
    (Clause.boolean [] left operator modifiers right).Accepted outer := by
  refine ⟨?_, ?_, ?_⟩
  · rw [EverySearch, List.append_nil]
    exact ⟨leftAccepted.relations, rightAccepted.relations⟩
  · simp only [allModifiers, List.mem_append, or_imp, forall_and]
    exact ⟨⟨leftAccepted.modifiers, compare⟩, rightAccepted.modifiers⟩
  · rw [hasMatchAll, leftAccepted.searches, rightAccepted.searches]
    rfl

theorem depth_declaring (prefixes : List Prefix) (clause : Clause) :
    (clause.declaring prefixes).depth = clause.depth := by
  cases clause <;> rfl

theorem operandDepth_le (clause : Clause) : clause.operandDepth ≤ clause.depth + 1 := by
  rw [operandDepth]
  exact Nat.add_le_add_left (Bool.toNat_le _) _

end Clause

namespace Grammar

theorem search_accepted {scope : Scope} {outer : List Prefix} (under : scope.Under outer)
    (term : String) : (Clause.search [] (scope.search term)).Accepted outer := by
  refine ⟨?_, under.modifiers, rfl⟩
  rw [Clause.EverySearch, List.append_nil]
  exact under.relation

/-- A bare term lies at depth one at most, and at no depth where it falls under no relation. -/
theorem operandDepth_search {scope : Scope} {spare : Nat}
    (spares : spare = 0 ∨ spare = 1 ∧ scope.IsPlain) (term : String) :
    (Clause.search [] (scope.search term)).operandDepth + spare ≤ 1 := by
  change (scope.search term).depth + 0 + spare ≤ 1
  rcases spares with rfl | ⟨rfl, index, relation, modifiers⟩
  · unfold SearchClause.depth
    split <;> decide
  · rw [Scope.search, index, relation, modifiers]
    exact Nat.le_refl 1

/-- Whether what a rule starts from is accepted and leaves a depth to spare. -/
def Rule.StartsAccepted (outer : List Prefix) (depth spare : Nat) : Rule → Prop
  | .chain _ left => left.Accepted outer ∧ left.depth + spare ≤ depth
  | _ => True

/-- The depth of what a rule reads, with the brackets around an operand. -/
def Rule.depthOf (value : Clause) : Rule → Nat
  | .clause => value.operandDepth
  | .group | .chain _ _ => value.depth

/-- What a rule reads is accepted and at most as deep as allowed.  One level is to spare where bare
terms fall under no relation; below a relation none is, but the relation takes one itself. -/
theorem Derives.accepted {settings : Settings} {rule : Rule} {depth spare : Nat} {scope : Scope}
    {outer : List Prefix} {input rest : List Token} {value : Clause}
    (derives : Derives settings rule depth scope input value rest) (under : scope.Under outer)
    (spares : spare = 0 ∨ spare = 1 ∧ scope.IsPlain) (faithful : ∀ token ∈ input, token.Faithful)
    (starts : rule.StartsAccepted outer depth spare) :
    value.Accepted outer ∧ rule.depthOf value + spare ≤ depth := by
  induction derives generalizing outer spare with
  | @group _ _ inner _ _ _ _ _ first whole declared operand _ operandIh othersIh =>
    obtain ⟨within, plain⟩ := declarations_eq_ok under declared
    have spares' : spare = 0 ∨ spare = 1 ∧ inner.IsPlain := spares.imp id (And.imp id plain)
    have toStart := declarations_suffix declared
    have toBehind := operand.suffix.trans toStart
    obtain ⟨firstAccepted, firstDeep⟩ := operandIh within spares'
      (fun _ member => faithful _ (toStart.subset member)) trivial
    have shallow : first.depth + spare ≤ _ :=
      Nat.le_trans (Nat.add_le_add_right (Nat.le_add_right _ _) _) firstDeep
    obtain ⟨wholeAccepted, wholeDeep⟩ := othersIh within spares'
      (fun _ member => faithful _ (toBehind.subset member)) ⟨firstAccepted, shallow⟩
    refine ⟨wholeAccepted.declaring, ?_⟩
    rwa [Rule.depthOf, Clause.depth_declaring]
  | @brackets _ _ _ _ content _ inside =>
    obtain ⟨accepted, deep⟩ := inside under spares
      (fun _ member => faithful _ (List.mem_cons_of_mem _ member)) trivial
    have bracketed := content.operandDepth_le
    simp only [Rule.depthOf] at deep ⊢
    exact ⟨accepted, by omega⟩
  | relation _ related modified _ operandIh =>
    have later := fun token member => faithful token (List.mem_cons_of_mem _ member)
    have toStart := (modifiers_suffix modified).trans (relation?_suffix related)
    have compare := fun modifier member => (modifiers_eq_ok modified modifier member).compares
    obtain ⟨accepted, deep⟩ := operandIh
      (under.relating _ (relation?_eq_some under later related) compare) (.inl rfl)
      (fun _ member => later _ (toStart.subset member)) trivial
    simp only [Rule.depthOf] at deep ⊢
    exact ⟨accepted, by omega⟩
  | term =>
    refine ⟨search_accepted under _, ?_⟩
    exact Nat.le_trans (operandDepth_search spares _) (Nat.le_add_left _ _)
  | done => exact starts
  | @link _ _ left right _ _ _ _ _ _ _ operator values joined modified operand _ operandIh
      othersIh =>
    obtain ⟨leftAccepted, leftDeep⟩ := starts
    have compare := fun modifier member => (modifiers_eq_ok modified modifier member).compares
    have toStart := (modifiers_suffix modified).trans (operator?_suffix joined)
    have toLater := operand.suffix.trans toStart
    obtain ⟨rightAccepted, rightDeep⟩ := operandIh under spares
      (fun _ member => faithful _ (toStart.subset member)) trivial
    refine othersIh under spares (fun _ member => faithful _ (toLater.subset member))
      ⟨leftAccepted.boolean compare rightAccepted, ?_⟩
    rw [Rule.depthOf, Clause.operandDepth] at rightDeep
    rw [Clause.depth]
    omega

theorem sortKeys_eq_ok {input rest : List Token} {keys : List SortKey}
    (read : sortKeys input = .ok (keys, rest)) :
    ∀ key ∈ keys, ∀ modifier ∈ key.modifiers, modifier.IsComplete := by
  fun_induction sortKeys input generalizing keys with
  | case1 =>
    cases read
    simp
  | case2 =>
    cases read
    simp
  | case3 => cases read
  | case4 _ _ _ _ values later taken ih =>
    obtain ⟨tail, readTail, rfl⟩ := cons_eq_ok.1 read
    rw [List.forall_mem_cons]
    exact ⟨modifiers_eq_ok taken, ih readTail⟩

theorem sorting_eq_ok {input rest : List Token} {keys : List SortKey}
    (read : sorting input = .ok (keys, rest)) :
    ∀ key ∈ keys, ∀ modifier ∈ key.modifiers, modifier.IsComplete := by
  unfold sorting at read
  split at read
  · exact sortKeys_eq_ok read
  · cases read
    simp

end Grammar

/-- What holds of every query that is read from a text. -/
structure Query.Accepted (settings : Settings) (query : Query) : Prop where
  clause : query.clause.Accepted []
  sorting : ∀ key ∈ query.sortKeys, ∀ modifier ∈ key.modifiers, modifier.Compares
  deep : query.clause.depth ≤ settings.maxDepth

theorem Query.accepted_of_parse {settings : Settings} {text : String} {query : Query}
    (parsed : parse settings text = .ok query) : query.Accepted settings := by
  obtain ⟨rest, derives, readKeys⟩ := ofTokens_eq_ok.1 (parse_eq_ok.1 parsed)
  obtain ⟨accepted, deep⟩ := derives.accepted Scope.under_root (.inr ⟨rfl, rfl, rfl, rfl⟩)
    (Token.faithful_scan _) trivial
  have compare := fun key member modifier among =>
    (Grammar.sorting_eq_ok readKeys key member modifier among).compares
  exact ⟨accepted, compare, Nat.le_of_succ_le_succ deep⟩

end ContextualQuery
