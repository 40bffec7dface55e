import ContextualQuery.Proofs.Reading

/-!
# Reading inverts writing

A relation is written as it is, so it must be a word that the grammar takes for a relation where it
stands: a comparison, a named relation, or a dotted word whose qualifier is declared.  A query all
of whose relations are of this kind is read back to its normal form.
-/

namespace ContextualQuery
namespace Quoted

theorem keepsTogether_of_plain {word : List Char}
    (plain : ∀ c ∈ word, endsWord c = false ∧ c ≠ '\\') : keepsTogether word = true := by
  induction word with
  | nil => rfl
  | cons c rest ih =>
    rw [List.forall_mem_cons] at plain
    rw [keepsTogether_cons rest plain.1.2, plain.1.1, ih plain.2]
    rfl

theorem hasDot_of_mem {word : List Char} (noBackslash : '\\' ∉ word) (dot : '.' ∈ word) :
    hasDot word = true := by
  induction word with
  | nil => cases dot
  | cons c rest ih =>
    rw [List.mem_cons, not_or] at noBackslash
    rw [hasDot_cons rest (Ne.symm noBackslash.1), Bool.or_eq_true, beq_iff_eq]
    rcases List.mem_cons.1 dot with same | behind
    · exact .inl same.symm
    · exact .inr (ih noBackslash.2 behind)

theorem mem_of_hasDot {word : List Char} (dotted : hasDot word = true) : '.' ∈ word := by
  fun_induction hasDot word with
  | case1 => cases dotted
  | case2 escaped rest ih => exact List.mem_cons_of_mem _ (List.mem_cons_of_mem _ (ih dotted))
  | case3 c rest _ ih =>
    rw [Bool.or_eq_true, beq_iff_eq] at dotted
    rcases dotted with rfl | behind
    · exact List.mem_cons_self
    · exact List.mem_cons_of_mem _ (ih behind)

theorem isBareWord_of_plain {word : String} (nonempty : word ≠ "")
    (plain : ∀ c ∈ word.toList, endsWord c = false ∧ c ≠ '"' ∧ c ≠ '\\') :
    isBareWord word = true := by
  have together := keepsTogether_of_plain fun c member =>
    ⟨(plain c member).1, (plain c member).2.2⟩
  rw [isBareWord, together]
  cases split : word.toList with
  | nil => exact absurd (String.toList_eq_nil_iff.1 split) nonempty
  | cons c rest =>
    have noQuote : c ≠ '"' := (plain c (by simp [split])).2.1
    simp [noQuote]

end Quoted

/-! ## Relations that read as themselves -/

namespace Relation

/-- Whether a word is a keyword rather than a relation. -/
def isReserved (word : String) : Bool :=
  (Operator.ofKeyword? word).isSome || word.toLower == "sortby"

theorem ofWord_of_free {word : String} (free : isReserved word = false) (dotted : Bool) :
    Token.ofWord word dotted =
      if dotted then .dotted word
      else if named.contains word.toLower then .namedRelation word else .word word := by
  rw [isReserved, Bool.or_eq_false_iff, Option.isSome_eq_false_iff, Option.isNone_iff_eq_none]
    at free
  rw [Token.ofWord, free.1]
  simp only [free.2, Bool.false_eq_true, if_false]

theorem toList_toLower (word : String) : word.toLower.toList = word.toList.map Char.toLower :=
  String.toList_map

theorem isReserved_of_dot {word : String} (dot : '.' ∈ word.toList) : isReserved word = false := by
  have kept : '.' ∈ word.toLower.toList := by
    rw [toList_toLower]
    exact List.mem_map.2 ⟨'.', dot, by decide⟩
  have other {text : String} (undotted : '.' ∉ text.toList) : text ≠ word.toLower := by
    rintro rfl
    exact undotted kept
  have notSort : (word.toLower == "sortby") = false := beq_false_of_ne (other (by decide)).symm
  rw [isReserved, notSort, Bool.or_false, Operator.ofKeyword?, Option.isSome_eq_false_iff,
    Option.isNone_iff_eq_none, List.find?_eq_none]
  intro operator _ same
  refine other ?_ (beq_iff_eq.1 same)
  cases operator <;> decide

/-- A word that is all letters in lower case needs no quotes. -/
theorem plain_of_toLower {word : String} (letters : ∀ d ∈ word.toLower.toList, d.isLower = true) :
    ∀ c ∈ word.toList, Quoted.endsWord c = false ∧ c ≠ '"' ∧ c ≠ '\\' ∧ c ≠ '.' := by
  intro c member
  have lower : c.toLower.isLower = true := by
    apply letters
    rw [toList_toLower]
    exact List.mem_map_of_mem member
  have avoids {d : Char} (same : d.toLower = d) (other : d.isLower = false) : c ≠ d := by
    rintro rfl
    rw [same, other] at lower
    cases lower
  refine ⟨?_, avoids rfl rfl, avoids rfl rfl, avoids rfl rfl⟩
  have blank : c ≠ ' ' ∧ c ≠ '\t' ∧ c ≠ '\r' ∧ c ≠ '\n' := by
    refine ⟨?_, ?_, ?_, ?_⟩ <;> exact avoids rfl rfl
  have structural : c ≠ '(' ∧ c ≠ ')' ∧ c ≠ '=' ∧ c ≠ '<' ∧ c ≠ '>' ∧ c ≠ '/' := by
    refine ⟨?_, ?_, ?_, ?_, ?_, ?_⟩ <;> exact avoids rfl rfl
  simp [Quoted.endsWord, Quoted.isBlank, Quoted.isStructural, blank, structural]

theorem plain_of_named {word : String} (isNamed : named.contains word.toLower = true) :
    ∀ c ∈ word.toList, Quoted.endsWord c = false ∧ c ≠ '"' ∧ c ≠ '\\' ∧ c ≠ '.' := by
  have letters : ∀ lower ∈ named, lower.toList.all Char.isLower = true := by decide
  have known := List.contains_iff_mem.1 isNamed
  exact plain_of_toLower (List.all_eq_true.1 (letters _ known))

theorem isReserved_of_named {word : String} (isNamed : named.contains word.toLower = true) :
    isReserved word = false := by
  have known := List.contains_iff_mem.1 isNamed
  unfold isReserved Operator.ofKeyword?
  generalize word.toLower = lower at known
  revert lower
  decide

variable {declared : List Prefix}

theorem readsUnder_symbol (symbol : Comparison) : ReadsUnder declared symbol.symbol := by
  refine ⟨isSpelled_symbol symbol, fun scope _ rest => ?_⟩
  rw [token_symbol]
  rfl

/-- A bare word reads as itself once its token is taken for a relation. -/
theorem readsUnder_of_bareWord {word : String} (bare : Quoted.isBareWord word = true)
    (taken : ∀ scope : Scope, scope.Covers declared → ∀ rest,
      Grammar.relation? scope (.ofWord word (Quoted.hasDot word.toList) :: rest) =
        some (word, rest)) : ReadsUnder declared word := by
  cases found : Comparison.ofSymbol? word with
  | some symbol =>
    rw [Comparison.symbol_of_ofSymbol? found]
    exact readsUnder_symbol symbol
  | none =>
    refine ⟨by rw [isSpelled, bare, Bool.or_true], fun scope covers rest => ?_⟩
    rw [token, found]
    exact taken scope covers rest

theorem ne_empty_of_named {word : String} (isNamed : named.contains word.toLower = true) :
    word ≠ "" := by
  rintro rfl
  revert isNamed
  decide +kernel

theorem readsUnder_of_named {word : String} (isNamed : named.contains word.toLower = true) :
    ReadsUnder declared word := by
  have plain := plain_of_named isNamed
  have undotted : Quoted.hasDot word.toList = false := by
    rw [← Bool.not_eq_true]
    intro dotted
    exact (plain '.' (Quoted.mem_of_hasDot dotted)).2.2.2 rfl
  apply readsUnder_of_bareWord
  · exact Quoted.isBareWord_of_plain (ne_empty_of_named isNamed) fun c member =>
      ⟨(plain c member).1, (plain c member).2.1, (plain c member).2.2.1⟩
  · intro scope covers rest
    rw [undotted, ofWord_of_free (isReserved_of_named isNamed), isNamed]
    rfl

/-- Under a declaration without a name every bare word but a keyword reads as itself. -/
theorem readsUnder_of_unnamed {word : String} (bare : Quoted.isBareWord word = true)
    (free : isReserved word = false) (unnamed : ∃ outer ∈ declared, outer.name = "") :
    ReadsUnder declared word := by
  obtain ⟨outer, member, empty⟩ := unnamed
  apply readsUnder_of_bareWord bare
  intro scope covers rest
  have custom := covers.custom outer member empty
  rw [ofWord_of_free free]
  split
  · simp [Grammar.relation?, custom]
  · split
    · rfl
    · simp [Grammar.relation?, custom]

/-- A dotted word reads as itself where its qualifier is declared. -/
theorem readsUnder_of_qualifier {word : String} (bare : Quoted.isBareWord word = true)
    (free : isReserved word = false) (dotted : Quoted.hasDot word.toList = true)
    (known : Scope.qualifier word = "cql" ∨
      ∃ outer ∈ declared, outer.name ≠ "" ∧ reread outer.name = Scope.qualifier word) :
    ReadsUnder declared word := by
  apply readsUnder_of_bareWord bare
  intro scope covers rest
  have bound : scope.binds word = true := by
    rw [Scope.binds, List.contains_iff_mem]
    rcases known with standard | ⟨outer, member, nonempty, same⟩
    · rw [standard]
      exact covers.standard
    · rw [← same]
      exact covers.names outer member nonempty
  rw [dotted, ofWord_of_free free]
  simp [Grammar.relation?, bound]

end Relation

/-! ## Printable queries -/

/-- The relations that are read back under the declarations. -/
inductive Relation.Printable (declared : List Prefix) : String → Prop
  | left_out : Printable declared ""
  | comparison (symbol : Comparison) : Printable declared symbol.symbol
  /-- A named relation in any letter case. -/
  | named {word : String} (isNamed : Relation.named.contains word.toLower = true) :
    Printable declared word
  /-- A dotted word whose qualifier is declared, or any where a declaration has no name. -/
  | dotted {word : String}
    (plain : ∀ c ∈ word.toList, Quoted.endsWord c = false ∧ c ≠ '"' ∧ c ≠ '\\')
    (dot : '.' ∈ word.toList)
    (known : Scope.qualifier word = "cql" ∨
      ∃ outer ∈ declared, outer.name = Scope.qualifier word ∨ outer.name = "") :
    Printable declared word

/-- Whether every relation of a query is read back where it stands. -/
structure Query.Printable (query : Query) : Prop where
  relations : query.clause.EverySearch
    (fun declared search => Relation.Printable declared search.relation) []
  modifiers : ∀ modifier ∈ query.clause.allModifiers, modifier.Compares
  sorting : ∀ key ∈ query.sortKeys, ∀ modifier ∈ key.modifiers, modifier.Compares

namespace Relation

theorem orDefault_of_nonempty {relation : String} (nonempty : relation ≠ "") :
    orDefault relation = relation := by
  rw [orDefault, if_neg]
  rwa [String.isEmpty_iff]

theorem Printable.readsUnder {declared : List Prefix} {relation : String}
    (printable : Printable declared relation) : ReadsUnder declared (orDefault relation) := by
  cases printable with
  | left_out => exact readsUnder_symbol .equal
  | comparison symbol =>
    rw [orDefault_of_nonempty (by cases symbol <;> decide)]
    exact readsUnder_symbol symbol
  | named isNamed =>
    rw [orDefault_of_nonempty (ne_empty_of_named isNamed)]
    exact readsUnder_of_named isNamed
  | dotted plain dot known =>
    have nonempty : relation ≠ "" := by
      rintro rfl
      cases dot
    have bare := Quoted.isBareWord_of_plain nonempty plain
    have free := isReserved_of_dot dot
    have noBackslash : '\\' ∉ relation.toList := fun member => (plain _ member).2.2 rfl
    rw [orDefault_of_nonempty nonempty]
    by_cases unnamed : ∃ outer ∈ declared, outer.name = ""
    · exact readsUnder_of_unnamed bare free unnamed
    · apply readsUnder_of_qualifier bare free (Quoted.hasDot_of_mem noBackslash dot)
      rcases known with standard | ⟨outer, member, same | empty⟩
      · exact .inl standard
      · refine .inr ⟨outer, member, fun empty => unnamed ⟨outer, member, empty⟩, ?_⟩
        have among : ∀ c ∈ outer.name.toList, c ∈ relation.toList := by
          rw [same, Scope.qualifier, String.toList_ofList]
          exact (List.takeWhile_sublist _).subset
        rw [reread_of_plain (fun member => noBackslash (among _ member))
          (fun member => (plain _ (among _ member)).2.1 rfl), same]
      · exact absurd ⟨outer, member, empty⟩ unnamed

end Relation

namespace Query

theorem Printable.legible {query : Query} (printable : query.Printable) : query.Legible where
  clause := ⟨printable.relations.mono fun _ _ relation => relation.readsUnder, printable.modifiers⟩
  sorting := printable.sorting

/-- Reading the text of a printable query gives its normal form. -/
theorem parse_text_of_printable {settings : Settings} {query : Query}
    (printable : query.Printable) (allows : settings.Allows query) :
    parse settings query.text = .ok query.normal :=
  parse_text printable.legible allows

theorem parse_text_of_nested :
    let query : Query :=
      { clause := .boolean [⟨"u", "info:u"⟩]
          (.search [⟨"", "x y"⟩] { term := "and" }) .not [⟨"near", "<", "3"⟩]
          (.boolean [] (.matchAll []) .or []
            (.search [⟨"v", ""⟩]
              { index := "ti(tle", relation := "u.like", modifiers := [⟨"m", "", "\\"⟩]
                term := "say \"hi\" \\" }))
        sortKeys := [{ index := "sortby", modifiers := [⟨"desc", "", ""⟩] }] }
    let settings : Settings := { strict := true, maxDepth := 3, maxChain := 1 }
    query.Printable ∧ settings.Allows query ∧
      parse settings query.text = .ok query.normal := by
  intro query settings
  have plain : ∀ c ∈ "u.like".toList, Quoted.endsWord c = false ∧ c ≠ '"' ∧ c ≠ '\\' := by
    simp [Quoted.endsWord, Quoted.isBlank, Quoted.isStructural]
  have printable : query.Printable := by
    refine ⟨⟨.left_out, trivial, .dotted plain (by decide) ?_⟩, ?_, ?_⟩
    · exact .inr ⟨⟨"u", "info:u"⟩, by decide, .inl (by decide)⟩
    · intro modifier member
      change modifier ∈ [(⟨"near", "<", "3"⟩ : Modifier), ⟨"m", "", "\\"⟩] at member
      simp only [List.mem_cons, List.not_mem_nil, or_false] at member
      rcases member with rfl | rfl
      · exact .inr ⟨.less, rfl⟩
      · exact .inl rfl
    · intro key member modifier among
      rw [List.mem_singleton.1 member] at among
      rw [List.mem_singleton.1 among]
      exact .inl rfl
  have allows : settings.Allows query := ⟨by decide, by decide⟩
  exact ⟨printable, allows, parse_text_of_printable printable allows⟩

end Query
end ContextualQuery
