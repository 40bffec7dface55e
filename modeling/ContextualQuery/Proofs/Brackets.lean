import ContextualQuery.Proofs.ClosedText
import ContextualQuery.Proofs.Derivations
import ContextualQuery.Proofs.RoundTrip

/-!
# Queries in brackets

What a reader takes from tokens to their end it takes as well in front of a closing bracket.  So the
texts of two queries, each in brackets, can be joined by an operator: each side is read as it is on
its own, and nothing that one side declares or relates holds for the other.
-/

namespace ContextualQuery
namespace Grammar

/-! ## Tokens in front of a closing bracket -/

variable {scope inner : Scope} {input rest : List Token}

/-- A bracket makes no comparison of what is in front of it. -/
theorem closing_ne_comparison {symbol : Comparison}
    (other : ∀ behind, rest ≠ .comparison symbol :: behind) (tail behind : List Token) :
    rest ++ .rightParen :: tail ≠ .comparison symbol :: behind := by
  intro split
  cases rest with
  | nil => cases split
  | cons token rest =>
    cases split
    exact other rest rfl

theorem modifiers_closing {values : List Modifier} (read : modifiers input = .ok (values, rest))
    (tail : List Token) : modifiers (input ++ .rightParen :: tail) =
      .ok (values, rest ++ .rightParen :: tail) := by
  fun_induction modifiers input generalizing values with
  | case1 | case2 | case3 | case4 => cases read
  | case5 _ _ named _ _ _ _ valued ih =>
    obtain ⟨others, readOthers, rfl⟩ := cons_eq_ok.1 read
    simp only [List.cons_append]
    rw [modifiers_valued named valued, ih readOthers]
    rfl
  | case6 _ _ named rest unvalued ih =>
    obtain ⟨others, readOthers, rfl⟩ := cons_eq_ok.1 read
    simp only [List.cons_append]
    rw [modifiers_flag named fun symbol => closing_ne_comparison (unvalued symbol) tail,
      ih readOthers]
    rfl
  | case7 _ unmodified =>
    cases read
    cases rest with
    | nil => rfl
    | cons token rest =>
      cases token with
      | slash => exact (unmodified rest rfl).elim
      | _ => rfl

theorem declarations_closing {prefixes : List Prefix}
    (read : declarations scope input = .ok (prefixes, inner, rest)) (tail : List Token) :
    declarations scope (input ++ .rightParen :: tail) =
      .ok (prefixes, inner, rest ++ .rightParen :: tail) := by
  fun_induction declarations scope input generalizing prefixes with
  | case1 | case2 | case3 | case4 => cases read
  | case5 _ _ _ named _ _ _ located ih =>
    obtain ⟨⟨others, within, behind⟩, readOthers, done⟩ := bind_eq_ok.1 read
    cases done
    simp only [List.cons_append]
    rw [declarations_named named located, ih readOthers]
    rfl
  | case6 _ _ _ located rest unnamed ih =>
    obtain ⟨⟨others, within, behind⟩, readOthers, done⟩ := bind_eq_ok.1 read
    cases done
    simp only [List.cons_append]
    rw [declarations_unnamed located (closing_ne_comparison unnamed tail), ih readOthers]
    rfl
  | case7 _ _ undeclared =>
    cases read
    cases rest with
    | nil => rfl
    | cons token rest =>
      cases token with
      | comparison symbol =>
        cases symbol with
        | greater => exact (undeclared rest rfl).elim
        | _ => rfl
      | _ => rfl

theorem operator?_append {operator : Operator} (joined : operator? input = some (operator, rest))
    (tail : List Token) : operator? (input ++ tail) = some (operator, rest ++ tail) := by
  cases input with
  | nil => cases joined
  | cons token input =>
    obtain ⟨found, same, pair⟩ := Option.map_eq_some_iff.1 joined
    cases pair
    rw [List.cons_append, operator?, same]
    rfl

theorem operator?_closing (ends : operator? input = none) (tail : List Token) :
    operator? (input ++ .rightParen :: tail) = none := by
  cases input with
  | nil => rfl
  | cons token input =>
    rw [operator?, Option.map_eq_none_iff] at ends
    rw [List.cons_append, operator?, ends]
    rfl

theorem relation?_append {relation : String}
    (related : relation? scope input = some (relation, rest))
    (tail : List Token) : relation? scope (input ++ tail) = some (relation, rest ++ tail) := by
  revert related
  fun_cases relation? scope input <;> intro related <;> cases related <;> simp_all [relation?]

theorem relation?_closing (unrelated : relation? scope input = none) (tail : List Token) :
    relation? scope (input ++ .rightParen :: tail) = none := by
  cases input with
  | nil => rfl
  | cons token input => cases token <;> simp_all [relation?]

theorem continuations_closing (input tail : List Token) :
    continuations (input ++ .rightParen :: tail) =
      ((continuations input).1, (continuations input).2 ++ .rightParen :: tail) := by
  induction input with
  | nil => rfl
  | cons token input ih =>
    simp only [List.cons_append, continuations]
    cases continuation? token with
    | none => rfl
    | some text => rw [ih]

theorem bareTerm_closing {strict : Bool} {first term : String} {start start' : List Token}
    (continued : bareTerm strict first start input = .ok (term, rest)) (tail : List Token) :
    bareTerm strict first start' (input ++ .rightParen :: tail) =
      .ok (term, rest ++ .rightParen :: tail) := by
  unfold bareTerm at continued ⊢
  rw [continuations_closing]
  simp only at continued ⊢
  split at continued
  · cases continued
  · next allowed =>
    cases continued
    rw [if_neg allowed]

variable {settings : Settings} {rule : Rule} {depth : Nat} {value : Clause}

/-- What is read up to the end of the tokens is read as well in front of a closing bracket. -/
theorem Derives.closing (derives : Derives settings rule depth scope input value rest)
    (tail : List Token) : Derives settings rule depth scope (input ++ .rightParen :: tail) value
      (rest ++ .rightParen :: tail) := by
  induction derives with
  | group declared _ _ operand others =>
    exact .group (declarations_closing declared tail) operand others
  | brackets _ inside => exact .brackets inside
  | relation named related modified _ operand =>
    exact .relation named (relation?_append related _) (modifiers_closing modified tail) operand
  | term named unrelated continued =>
    exact .term named (relation?_closing unrelated tail) (bareTerm_closing continued tail)
  | done ends => exact .done (operator?_closing ends tail)
  | link joined modified _ _ operand others =>
    exact .link (operator?_append joined _) (modifiers_closing modified tail) operand others

/-! ## Groups in brackets -/

theorem Derives.bracketed (derives : Derives settings .group depth scope input value [])
    (tail : List Token) : Derives settings .clause (depth + 1) scope
      (.leftParen :: (input ++ .rightParen :: tail)) value tail :=
  .brackets (derives.closing tail)

/-- A group in brackets stands alone as well. -/
theorem Derives.group_bracketed (derives : Derives settings .group depth scope input value []) :
    Derives settings .group (depth + 1) scope (.leftParen :: (input ++ [.rightParen])) value [] := by
  rw [← Clause.declaring_nil value]
  exact .group rfl (derives.bracketed []) (.done rfl)

/-- Two groups in brackets are joined by an operator, whatever each of them declares. -/
theorem Derives.group_joined {left right : Clause} {input' : List Token}
    (first : Derives settings .group depth scope input left [])
    (second : Derives settings .group depth scope input' right [])
    (wide : 1 ≤ settings.maxChain) (operator : Operator) (spelling : String) :
    Derives settings .group (depth + 1) scope
      (.leftParen :: (input ++ .rightParen :: .keyword operator spelling ::
        .leftParen :: (input' ++ [.rightParen])))
      (.boolean [] left operator [] right) [] := by
  obtain ⟨links, some_link⟩ := Nat.exists_eq_add_of_le' wide
  have others : Derives settings (.chain settings.maxChain left) (depth + 1) scope
      (.keyword operator spelling :: .leftParen :: (input' ++ [.rightParen]))
      (.boolean [] left operator [] right) [] := by
    rw [some_link]
    exact .link rfl rfl (second.bracketed []) (.done rfl)
  rw [← Clause.declaring_nil (.boolean [] left operator [] right)]
  exact .group rfl (first.bracketed _) others

end Grammar

/-! ## Texts in brackets -/

namespace Token

variable {text : String}

/-- The tokens of a closed text stand between those of the brackets around it. -/
theorem scan_bracketed (closed : IsClosed text) (rest : List Char) :
    scan ('(' :: (text.toList ++ ')' :: rest)) =
      .leftParen :: (scan text.toList ++ .rightParen :: scan rest) := by
  rw [scan_leftParen, scan_append closed (breaks_cons rfl) (endsSign_cons (by decide) (by decide)),
    scan_rightParen]

/-- The keyword of an operator in any letter case is scanned as one token. -/
theorem scan_ofKeyword {word : String} {operator : Operator}
    (keyword : Operator.ofKeyword? word = some operator) {rest : List Char} (breaks : Breaks rest) :
    scan (word.toList ++ rest) = .keyword operator word :: scan rest := by
  rw [Operator.ofKeyword?] at keyword
  have known := List.find?_some keyword
  rw [beq_iff_eq] at known
  have letters : ∀ d ∈ word.toLower.toList, d.isLower = true := by
    rw [← known, ← List.all_eq_true]
    cases operator <;> decide
  have nonempty : word ≠ "" := by
    rintro rfl
    cases operator <;> exact absurd known (by decide +kernel)
  have bare := Quoted.isBareWord_of_plain nonempty fun c member =>
    ⟨(Relation.plain_of_toLower letters c member).1,
      (Relation.plain_of_toLower letters c member).2.1,
      (Relation.plain_of_toLower letters c member).2.2.1⟩
  rw [scan_bareWord word bare breaks, ofWord, Operator.ofKeyword?, keyword]

end Token

namespace Query

variable {settings : Settings} {text : String} {query : Query}

/-- Whether the clause of a text is followed by `sortby`, be it with keys or without. -/
def HasSorting (settings : Settings) (text : String) : Prop :=
  ∃ clause spelling rest, Grammar.group settings.maxChain
    (Grammar.clause settings (settings.maxDepth + 1)) {} (Token.scan text.toList) =
      .ok (clause, .sortBy spelling :: rest)

instance : Decidable (HasSorting settings text) :=
  match found : Grammar.group settings.maxChain (Grammar.clause settings (settings.maxDepth + 1)) {}
      (Token.scan text.toList) with
  | .ok (clause, .sortBy spelling :: rest) => isTrue ⟨clause, spelling, rest, found⟩
  | .ok (_, []) | .ok (_, .comparison _ :: _) | .ok (_, .keyword _ _ :: _)
  | .ok (_, .namedRelation _ :: _) | .ok (_, .dotted _ :: _) | .ok (_, .word _ :: _)
  | .ok (_, .slash :: _) | .ok (_, .leftParen :: _) | .ok (_, .rightParen :: _)
  | .ok (_, .malformed :: _) | .error _ =>
    isFalse fun ⟨_, _, _, read⟩ => by
      rw [found] at read
      cases read

/-- A text without `sortby` is read as a group to its end. -/
theorem derives_of_parse (read : parse settings text = .ok query)
    (unsorted : ¬ HasSorting settings text) :
    Grammar.Derives settings .group (settings.maxDepth + 1) {} (Token.scan text.toList)
      query.clause [] := by
  obtain ⟨rest, derives, sorted⟩ := ofTokens_eq_ok.1 (parse_eq_ok.1 read)
  cases rest with
  | nil => exact derives
  | cons token rest =>
    cases token with
    | sortBy spelling => exact absurd ⟨_, _, _, derives.read_eq_ok⟩ unsorted
    | _ => simp [Grammar.sorting] at sorted

theorem parse_of_derives {clause : Clause}
    (derives : Grammar.Derives settings .group (settings.maxDepth + 1) {} (Token.scan text.toList)
      clause []) : parse settings text = .ok { clause } :=
  parse_eq_ok.2 (ofTokens_eq_ok.2 ⟨[], derives, rfl⟩)

/-- Two closed texts in brackets, joined by an operator, are read as their clauses joined by it, and
each in brackets alone as its clause, by a reader that allows one more level of depth. -/
theorem parse_joined {first second word : String} {left right : Query} {operator : Operator}
    (wide : 1 ≤ settings.maxChain)
    (readFirst : parse settings first = .ok left) (unsortedFirst : ¬ HasSorting settings first)
    (closedFirst : IsClosed first)
    (readSecond : parse settings second = .ok right) (unsortedSecond : ¬ HasSorting settings second)
    (closedSecond : IsClosed second)
    (keyword : Operator.ofKeyword? word = some operator) :
    let deeper := { settings with maxDepth := settings.maxDepth + 1 }
    parse deeper ("(" ++ first ++ ") " ++ word ++ " (" ++ second ++ ")") =
        .ok { clause := .boolean [] left.clause operator [] right.clause } ∧
      parse deeper ("(" ++ first ++ ")") = .ok { clause := left.clause } := by
  have derivesFirst := derives_of_parse readFirst unsortedFirst
  have derivesSecond := derives_of_parse readSecond unsortedSecond
  intro deeper
  constructor
  · apply parse_of_derives
    have tokens : Token.scan ("(" ++ first ++ ") " ++ word ++ " (" ++ second ++ ")").toList =
        Token.leftParen :: (Token.scan first.toList ++ Token.rightParen ::
          Token.keyword operator word :: Token.leftParen ::
            (Token.scan second.toList ++ [Token.rightParen])) := by
      have text : ("(" ++ first ++ ") " ++ word ++ " (" ++ second ++ ")").toList =
          '(' :: (first.toList ++ ')' :: ' ' :: (word.toList ++ ' ' :: '(' ::
            (second.toList ++ [')']))) := by
        simp
      rw [text, Token.scan_bracketed closedFirst, Token.scan_space,
        Token.scan_ofKeyword keyword (breaks_cons rfl), Token.scan_space,
        Token.scan_bracketed closedSecond, Token.scan_nil]
    rw [tokens]
    exact (derivesFirst.group_joined derivesSecond wide operator word).with_maxDepth _
  · apply parse_of_derives
    have tokens : Token.scan ("(" ++ first ++ ")").toList =
        Token.leftParen :: (Token.scan first.toList ++ [Token.rightParen]) := by
      have text : ("(" ++ first ++ ")").toList = '(' :: (first.toList ++ [')']) := by simp
      rw [text, Token.scan_bracketed closedFirst, Token.scan_nil]
    rw [tokens]
    exact derivesFirst.group_bracketed.with_maxDepth _

/-- The first text lets any word be a relation, which it then is not in the second. -/
theorem parse_joined_apart :
    let settings : Settings := { maxDepth := 1, maxChain := 1 }
    let deeper := { settings with maxDepth := settings.maxDepth + 1 }
    let first := "> \"x y\" t near2 \"c) \\\" d\""
    let second := "> u = v t near2 d"
    let left : Query :=
      { clause := .search [⟨"", "x y"⟩]
          { index := "t", relation := "near2", term := "c) \\\" d" } }
    let right : Query := { clause := .search [⟨"u", "v"⟩] { term := "t near2 d" } }
    parse settings first = .ok left ∧ ¬ HasSorting settings first ∧ IsClosed first ∧
      parse settings second = .ok right ∧ ¬ HasSorting settings second ∧ IsClosed second ∧
      Operator.ofKeyword? "pRoX" = some .prox ∧
      parse deeper ("(" ++ first ++ ") " ++ "pRoX" ++ " (" ++ second ++ ")") =
        .ok { clause := .boolean [] left.clause .prox [] right.clause } ∧
      parse deeper ("(" ++ first ++ ")") = .ok { clause := left.clause } := by
  intro settings deeper first second left right
  have readFirst : parse settings first = .ok left :=
    parse_ofList.2 (eq_ok_of_toOption (by decide +kernel))
  have unsortedFirst : ¬ HasSorting settings first := by decide +kernel
  have closedFirst : IsClosed first := by decide +kernel
  have readSecond : parse settings second = .ok right :=
    parse_ofList.2 (eq_ok_of_toOption (by decide +kernel))
  have unsortedSecond : ¬ HasSorting settings second := by decide +kernel
  have closedSecond : IsClosed second := by decide +kernel
  have keyword : Operator.ofKeyword? "pRoX" = some .prox := by decide +kernel
  exact ⟨readFirst, unsortedFirst, closedFirst, readSecond, unsortedSecond, closedSecond, keyword,
    parse_joined (by decide) readFirst unsortedFirst closedFirst readSecond unsortedSecond
      closedSecond keyword⟩

end Query
end ContextualQuery
