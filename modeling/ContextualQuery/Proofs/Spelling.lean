import ContextualQuery.Proofs.NormalForm

/-!
# The tokens of canonical text

Canonical text is scanned into the tokens of its parts, provided that relations, which are written
as they are, can be read without quotes, and that the relations of modifiers are comparisons.
-/

namespace ContextualQuery

namespace Comparison

/-- Every comparison. -/
def all : List Comparison :=
  [.equal, .exactlyEqual, .less, .lessOrEqual, .greater, .greaterOrEqual, .notEqual]

/-- The comparison with a spelling. -/
def ofSymbol? (text : String) : Option Comparison := all.find? fun symbol => symbol.symbol == text

@[simp]
theorem ofSymbol?_symbol (symbol : Comparison) : ofSymbol? symbol.symbol = some symbol := by
  cases symbol <;> decide

theorem symbol_of_ofSymbol? {text : String} {symbol : Comparison}
    (found : ofSymbol? text = some symbol) : text = symbol.symbol := by
  have same := List.find?_some found
  exact (beq_iff_eq.1 same).symm

end Comparison

namespace Relation

/-- Whether a relation is read as one token where it is written as it is. -/
def isSpelled (relation : String) : Bool :=
  (Comparison.ofSymbol? relation).isSome || Quoted.isBareWord relation

/-- The token of a relation that is written as it is. -/
def token (relation : String) : Token :=
  match Comparison.ofSymbol? relation with
  | some symbol => .comparison symbol
  | none => .ofWord relation (Quoted.hasDot relation.toList)

@[simp]
theorem token_symbol (symbol : Comparison) : token symbol.symbol = .comparison symbol := by
  rw [token, Comparison.ofSymbol?_symbol]

theorem isSpelled_symbol (symbol : Comparison) : isSpelled symbol.symbol = true := by
  rw [isSpelled, Comparison.ofSymbol?_symbol]
  rfl

end Relation

/-- Whether the relation of a modifier is left out or a comparison. -/
def Modifier.Compares (modifier : Modifier) : Prop :=
  modifier.relation = "" ∨ ∃ symbol : Comparison, modifier.relation = symbol.symbol

/-- The relation of a modifier with a value is written as a comparison. -/
theorem Modifier.Compares.exists_symbol {modifier : Modifier} (compares : modifier.Compares) :
    ∃ symbol : Comparison, Relation.orDefault modifier.relation = symbol.symbol := by
  rcases compares with empty | ⟨symbol, same⟩
  · exact ⟨.equal, by rw [empty]; rfl⟩
  · refine ⟨symbol, ?_⟩
    rw [same]
    cases symbol <;> rfl

namespace Clause

/-- A property of every search clause and the declarations that it stands under, the outermost
first, where `outer` are those around the whole clause. -/
def EverySearch (holds : List Prefix → SearchClause → Prop) : Clause → List Prefix → Prop
  | .search prefixes clause, outer => holds (outer ++ prefixes) clause
  | .matchAll _, _ => True
  | .boolean prefixes left _ _ right, outer =>
    left.EverySearch holds (outer ++ prefixes) ∧ right.EverySearch holds (outer ++ prefixes)

/-- The modifiers of all relations and operators. -/
def allModifiers : Clause → List Modifier
  | .search _ clause => clause.modifiers
  | .matchAll _ => []
  | .boolean _ left _ modifiers right => left.allModifiers ++ modifiers ++ right.allModifiers

theorem EverySearch.mono {holds implied : List Prefix → SearchClause → Prop}
    (implies : ∀ declared search, holds declared search → implied declared search)
    {clause : Clause} {outer : List Prefix} (every : clause.EverySearch holds outer) :
    clause.EverySearch implied outer := by
  induction clause generalizing outer with
  | search prefixes search => exact implies _ _ every
  | matchAll => trivial
  | boolean prefixes left operator modifiers right leftEvery rightEvery =>
    exact ⟨leftEvery every.1, rightEvery every.2⟩

end Clause

/-! ## The tokens of each part -/

/-- The tokens of a modifier. -/
def Modifier.tokens (modifier : Modifier) : List Token :=
  .slash :: .ofValue modifier.name ::
    if modifier.value.isEmpty then []
    else [Relation.token (Relation.orDefault modifier.relation), .ofValue modifier.value]

/-- The tokens of a declaration. -/
def Prefix.tokens (declared : Prefix) : List Token :=
  .comparison .greater ::
    if declared.name.isEmpty then [.ofValue declared.uri]
    else [.ofValue declared.name, .comparison .equal, .ofValue declared.uri]

/-- The tokens of a search clause. -/
def SearchClause.tokens (search : SearchClause) : List Token :=
  if search.isBare then [.ofValue search.term]
  else .ofValue search.indexOrDefault :: Relation.token search.relationOrDefault ::
    (search.modifiers.flatMap Modifier.tokens ++ [.ofValue search.term])

namespace Clause

/-- The tokens of a clause behind its leading declarations. -/
def coreTokens : Clause → List Token
  | .search _ clause => clause.tokens
  | .matchAll _ => SearchClause.allRecords.tokens
  | .boolean _ left operator modifiers right =>
    let operand := right.leading.flatMap Prefix.tokens ++ right.coreTokens
    left.coreTokens ++ .keyword operator operator.keyword :: (modifiers.flatMap Modifier.tokens ++
      if right.needsBrackets then .leftParen :: (operand ++ [.rightParen]) else operand)

/-- The tokens of a clause. -/
def tokens (clause : Clause) : List Token :=
  clause.leading.flatMap Prefix.tokens ++ clause.coreTokens

/-- The tokens of a clause where it is a right operand. -/
def operandTokens (clause : Clause) : List Token :=
  if clause.needsBrackets then .leftParen :: (clause.tokens ++ [.rightParen]) else clause.tokens

theorem coreTokens_boolean (prefixes : List Prefix) (left : Clause) (operator : Operator)
    (modifiers : List Modifier) (right : Clause) :
    (boolean prefixes left operator modifiers right).coreTokens =
      left.coreTokens ++ .keyword operator operator.keyword ::
        (modifiers.flatMap Modifier.tokens ++ right.operandTokens) := rfl

theorem tokens_boolean (prefixes : List Prefix) (left : Clause) (operator : Operator)
    (modifiers : List Modifier) (right : Clause) :
    (boolean prefixes left operator modifiers right).tokens =
      prefixes.flatMap Prefix.tokens ++ left.tokens ++
        .keyword operator operator.keyword ::
          (modifiers.flatMap Modifier.tokens ++ right.operandTokens) := by
  simp only [tokens, leading, coreTokens_boolean, List.flatMap_append, List.append_assoc]

end Clause

/-- The tokens of a sort key. -/
def SortKey.tokens (key : SortKey) : List Token :=
  .ofValue key.index :: key.modifiers.flatMap Modifier.tokens

/-- The tokens of a query. -/
def Query.tokens (query : Query) : List Token :=
  query.clause.tokens ++
    if query.sortKeys.isEmpty then []
    else .sortBy "sortBy" :: query.sortKeys.flatMap SortKey.tokens

/-! ## Scanning each part -/

namespace Token

theorem breaks_space (rest : List Char) : Breaks (' ' :: rest) := breaks_cons rfl

theorem breaks_symbol (symbol : Comparison) (rest : List Char) :
    Breaks (symbol.symbol.toList ++ rest) := by
  cases symbol <;> exact breaks_cons rfl

/-- A value begins with a quote or with a character of a bare word. -/
theorem endsSign_quote (value : String) (rest : List Char) :
    EndsSign ((quote value).toList ++ rest) := by
  rw [quote, String.toList_ofList, Quoted.encode]
  split
  · exact endsSign_cons (by decide) (by decide)
  · next bare =>
    obtain ⟨nonempty, inner, -⟩ := Quoted.needsQuotes_eq_false (by simpa using bare)
    rw [← Quoted.any_guardQuotes (by decide)] at inner
    cases kept : Quoted.guardQuotes value.toList with
    | nil => exact absurd (Quoted.guardQuotes_eq_nil.1 kept) nonempty
    | cons first word =>
      rw [kept, List.any_cons, Bool.or_eq_false_iff] at inner
      apply endsSign_cons
      · rintro rfl
        cases inner.1
      · rintro rfl
        cases inner.1

/-- A relation in front of the text is scanned as its token. -/
theorem scan_relation {relation : String} (spelled : Relation.isSpelled relation = true)
    {rest : List Char} (breaks : Breaks rest) (ends : EndsSign rest) :
    scan (relation.toList ++ rest) = Relation.token relation :: scan rest := by
  cases found : Comparison.ofSymbol? relation with
  | some symbol =>
    rw [Comparison.symbol_of_ofSymbol? found, Relation.token_symbol]
    exact scan_comparison symbol ends
  | none =>
    rw [Relation.isSpelled, found, Option.isSome_none, Bool.false_or] at spelled
    rw [Relation.token, found]
    exact scan_bareWord relation spelled breaks

theorem scan_modifier {modifier : Modifier} (compares : modifier.Compares) {rest : List Char}
    (breaks : Breaks rest) :
    scan (("/" ++ modifier.text).toList ++ rest) = modifier.tokens ++ scan rest := by
  obtain ⟨symbol, same⟩ := compares.exists_symbol
  unfold Modifier.text Modifier.tokens
  rw [same]
  split
  · simp only [String.toList_append, String.reduceToList, List.cons_append, List.nil_append,
      scan_slash]
    rw [scan_value _ breaks]
  · simp only [String.toList_append, String.reduceToList, List.cons_append, List.nil_append,
      List.append_assoc, scan_slash]
    rw [scan_value _ (breaks_symbol symbol _), scan_comparison symbol (endsSign_quote _ _),
      scan_value _ breaks, Relation.token_symbol]

/-- Modifiers begin with a slash. -/
theorem breaks_modifiers (modifiers : List Modifier) {rest : List Char} (breaks : Breaks rest) :
    Breaks ((Modifier.listText modifiers).toList ++ rest) := by
  cases modifiers with
  | nil => simpa [Modifier.listText] using breaks
  | cons modifier others =>
    simp only [Modifier.listText, List.map_cons, String.join_cons, String.toList_append,
      List.append_assoc]
    exact breaks_cons rfl

theorem endsSign_modifiers (modifiers : List Modifier) {rest : List Char} (ends : EndsSign rest) :
    EndsSign ((Modifier.listText modifiers).toList ++ rest) := by
  cases modifiers with
  | nil => simpa [Modifier.listText] using ends
  | cons modifier others =>
    simp only [Modifier.listText, List.map_cons, String.join_cons, String.toList_append,
      List.append_assoc]
    exact endsSign_cons (by decide) (by decide)

theorem scan_modifiers {modifiers : List Modifier}
    (compare : ∀ modifier ∈ modifiers, modifier.Compares) {rest : List Char}
    (breaks : Breaks rest) :
    scan ((Modifier.listText modifiers).toList ++ rest) =
      modifiers.flatMap Modifier.tokens ++ scan rest := by
  induction modifiers with
  | nil => simp [Modifier.listText]
  | cons modifier others ih =>
    rw [List.forall_mem_cons] at compare
    have split : Modifier.listText (modifier :: others) =
        ("/" ++ modifier.text) ++ Modifier.listText others := by
      simp [Modifier.listText]
    rw [split, String.toList_append, List.append_assoc,
      scan_modifier compare.1 (breaks_modifiers others breaks), ih compare.2, List.flatMap_cons,
      List.append_assoc]

theorem scan_prefix (declared : Prefix) (rest : List Char) :
    scan ((declared.text ++ " ").toList ++ rest) = declared.tokens ++ scan rest := by
  unfold Prefix.text Prefix.tokens
  have greater (behind : List Char) :
      scan ('>' :: ' ' :: behind) = .comparison .greater :: scan behind := by
    change scan (Comparison.greater.symbol.toList ++ ' ' :: behind) = _
    rw [scan_comparison .greater (endsSign_cons (by decide) (by decide)), scan_space]
  have equal (behind : List Char) :
      scan (' ' :: '=' :: ' ' :: behind) = .comparison .equal :: scan behind := by
    change scan (' ' :: (Comparison.equal.symbol.toList ++ ' ' :: behind)) = _
    rw [scan_space, scan_comparison .equal (endsSign_cons (by decide) (by decide)), scan_space]
  split
  · simp only [String.toList_append, String.reduceToList, List.cons_append, List.nil_append,
      List.append_assoc, greater]
    rw [scan_value _ (breaks_space rest), scan_space]
  · simp only [String.toList_append, String.reduceToList, List.cons_append, List.nil_append,
      List.append_assoc, greater]
    rw [scan_value _ (breaks_space _), equal, scan_value _ (breaks_space rest), scan_space]

theorem scan_prefixes (prefixes : List Prefix) (rest : List Char) :
    scan ((Prefix.listText prefixes).toList ++ rest) =
      prefixes.flatMap Prefix.tokens ++ scan rest := by
  induction prefixes with
  | nil => simp [Prefix.listText]
  | cons declared others ih =>
    have split : Prefix.listText (declared :: others) =
        (declared.text ++ " ") ++ Prefix.listText others := by
      simp [Prefix.listText]
    rw [split, String.toList_append, List.append_assoc, scan_prefix, ih, List.flatMap_cons,
      List.append_assoc]

theorem scan_search {search : SearchClause}
    (spelled : Relation.isSpelled search.relationOrDefault = true)
    (compare : ∀ modifier ∈ search.modifiers, modifier.Compares) {rest : List Char}
    (breaks : Breaks rest) :
    scan (search.text.toList ++ rest) = search.tokens ++ scan rest := by
  unfold SearchClause.text SearchClause.tokens
  split
  · exact scan_value _ breaks
  · have behind : EndsSign (' ' :: ((quote search.term).toList ++ rest)) :=
      endsSign_cons (by decide) (by decide)
    simp only [String.toList_append, String.reduceToList, List.cons_append, List.nil_append,
      List.append_assoc]
    rw [scan_value _ (breaks_space _), scan_space,
      scan_relation spelled (breaks_modifiers _ (breaks_space _)) (endsSign_modifiers _ behind),
      scan_modifiers compare (breaks_space _), scan_space, scan_value _ breaks]

theorem ofWord_keyword (operator : Operator) :
    ofWord operator.keyword false = .keyword operator operator.keyword := by
  cases operator <;> decide +kernel

theorem scan_keyword (operator : Operator) {rest : List Char} (breaks : Breaks rest) :
    scan (operator.keyword.toList ++ rest) = .keyword operator operator.keyword :: scan rest := by
  have bare : Quoted.isBareWord operator.keyword = true := by cases operator <;> decide
  have undotted : Quoted.hasDot operator.keyword.toList = false := by cases operator <;> decide
  rw [scan_bareWord _ bare breaks, undotted, ofWord_keyword]

/-- The text of a clause, wherever it stands, is scanned into the tokens of the clause. -/
theorem scan_clause {clause : Clause} {outer : List Prefix}
    (spelled : clause.EverySearch
      (fun _ search => Relation.isSpelled search.relationOrDefault = true) outer)
    (compare : ∀ modifier ∈ clause.allModifiers, modifier.Compares) {rest : List Char}
    (breaks : Breaks rest) :
    scan (clause.text.toList ++ rest) = clause.tokens ++ scan rest := by
  induction clause generalizing outer rest with
  | search prefixes search =>
    rw [Clause.text, String.toList_append, List.append_assoc, scan_prefixes,
      scan_search spelled compare breaks, Clause.tokens, List.append_assoc]
    rfl
  | matchAll prefixes =>
    have plain : ∀ modifier ∈ SearchClause.allRecords.modifiers, modifier.Compares := by
      intro modifier member
      cases member
    rw [Clause.text, String.toList_append, List.append_assoc, scan_prefixes,
      scan_search rfl plain breaks, Clause.tokens, List.append_assoc]
    rfl
  | boolean prefixes left operator modifiers right leftScan rightScan =>
    obtain ⟨leftSpelled, rightSpelled⟩ := spelled
    simp only [Clause.allModifiers, List.mem_append, or_imp, forall_and] at compare
    obtain ⟨⟨leftCompare, operatorCompare⟩, rightCompare⟩ := compare
    rw [Clause.text, Clause.tokens_boolean]
    simp only [String.toList_append, String.reduceToList, List.cons_append, List.nil_append,
      List.append_assoc]
    rw [scan_prefixes, leftScan leftSpelled leftCompare (breaks_space _), scan_space,
      scan_keyword operator (breaks_modifiers _ (breaks_space _)),
      scan_modifiers operatorCompare (breaks_space _), scan_space, Clause.operandTokens]
    cases right.needsBrackets with
    | true =>
      simp only [if_true, String.toList_append, String.reduceToList, List.cons_append,
        List.nil_append, List.append_assoc, scan_leftParen]
      rw [rightScan rightSpelled rightCompare (breaks_cons rfl), scan_rightParen]
    | false =>
      simp only [Bool.false_eq_true, if_false]
      rw [rightScan rightSpelled rightCompare breaks]

theorem scan_sortKeys {keys : List SortKey}
    (compare : ∀ key ∈ keys, ∀ modifier ∈ key.modifiers, modifier.Compares) :
    Breaks (String.join (keys.map fun key => " " ++ key.text)).toList ∧
      scan (String.join (keys.map fun key => " " ++ key.text)).toList =
        keys.flatMap SortKey.tokens := by
  induction keys with
  | nil => exact ⟨breaks_nil, scan_nil⟩
  | cons key others ih =>
    rw [List.forall_mem_cons] at compare
    obtain ⟨breaks, read⟩ := ih compare.2
    rw [List.map_cons, String.join_cons, List.flatMap_cons, SortKey.text, SortKey.tokens]
    simp only [String.toList_append, String.reduceToList, List.cons_append, List.nil_append,
      List.append_assoc]
    refine ⟨breaks_space _, ?_⟩
    rw [scan_space, scan_value _ (breaks_modifiers _ breaks), scan_modifiers compare.1 breaks, read]

/-- Canonical text is scanned into the tokens of the query. -/
theorem scan_query {query : Query}
    (spelled : query.clause.EverySearch
      (fun _ search => Relation.isSpelled search.relationOrDefault = true) [])
    (compare : ∀ modifier ∈ query.clause.allModifiers, modifier.Compares)
    (sortCompare : ∀ key ∈ query.sortKeys, ∀ modifier ∈ key.modifiers, modifier.Compares) :
    scan query.text.toList = query.tokens := by
  obtain ⟨breaks, keys⟩ := scan_sortKeys sortCompare
  rw [Query.text, Query.tokens, String.toList_append, SortKey.listText]
  split
  · change scan (query.clause.text.toList ++ []) = _
    rw [scan_clause spelled compare breaks_nil, scan_nil]
  · rw [String.toList_append]
    change scan (query.clause.text.toList ++ ' ' :: ("sortBy".toList ++ _)) = _
    rw [scan_clause spelled compare (breaks_space _), scan_space,
      scan_bareWord "sortBy" (by decide) breaks, keys]
    exact congrArg (_ ++ · :: _) (show ofWord "sortBy" false = .sortBy "sortBy" by decide +kernel)

end Token
end ContextualQuery
