import ContextualQuery.Proofs.Strictness

/-!
# One token ahead

What a rule does depends on the tokens that it takes and on the kind of the one token behind them,
on nothing further: with other tokens from there on it does the same.  This holds of failures too,
which stand at the token looked at; only the fault of a second word is found behind the place at
which it is reported.
-/

namespace ContextualQuery

namespace Token

/-- The token without its spelling, where its kind alone decides how it is looked at. -/
def outline : Token → Token
  | .keyword operator _ => .keyword operator ""
  | .sortBy _ => .sortBy ""
  | .namedRelation _ => .namedRelation ""
  | token => token

variable {token other : Token}

theorem isTerm_outline (token : Token) : token.outline.isTerm = token.isTerm := by
  cases token <;> rfl

theorem operator?_outline (token : Token) : token.outline.operator? = token.operator? := by
  cases token <;> rfl

theorem eq_comparison_of_outline {symbol : Comparison}
    (same : token.outline = .comparison symbol) : token = .comparison symbol := by
  cases token <;> first | exact same | cases same

theorem term?_eq_none_of_outline (same : other.outline = token.outline)
    (noTerm : token.term? = none) : other.term? = none := by
  refine eq_none_of_isSome_eq ?_ noTerm
  rw [← isTerm, ← isTerm_outline, same, isTerm_outline, isTerm]

end Token

/-- Whether tokens begin with a token of the same outline as others, or both are none. -/
def SameFront (rest other : List Token) : Prop :=
  other.head?.map Token.outline = rest.head?.map Token.outline

namespace SameFront

variable {rest other : List Token} {token : Token}

theorem refl (rest : List Token) : SameFront rest rest := rfl

theorem eq_nil (same : SameFront [] other) : other = [] := by
  cases other with
  | nil => rfl
  | cons token other => cases same

theorem eq_cons (same : SameFront (token :: rest) other) :
    ∃ first behind, other = first :: behind ∧ first.outline = token.outline := by
  cases other with
  | nil => cases same
  | cons first behind => exact ⟨first, behind, rfl, Option.some.inj same⟩

/-- Tokens in front decide how the whole begins. -/
theorem append (same : SameFront rest other) (front : List Token) :
    SameFront (front ++ rest) (front ++ other) := by
  cases front with
  | nil => exact same
  | cons token front => rfl

/-- A token that is all outline stands in front of both or of neither. -/
theorem ne_cons (same : SameFront rest other) {sign : Token}
    (plain : ∀ token : Token, token.outline = sign.outline → token = sign)
    (without : ∀ behind, rest ≠ sign :: behind) (behind : List Token) : other ≠ sign :: behind := by
  rintro rfl
  cases rest with
  | nil => cases same
  | cons token rest =>
    obtain rfl : token = sign := plain token (Option.some.inj same).symm
    exact without rest rfl

theorem ne_comparison (same : SameFront rest other) {symbol : Comparison}
    (without : ∀ behind, rest ≠ .comparison symbol :: behind) (behind : List Token) :
    other ≠ .comparison symbol :: behind :=
  same.ne_cons (fun _ => Token.eq_comparison_of_outline) without behind

theorem ne_slash (same : SameFront rest other) (without : ∀ behind, rest ≠ .slash :: behind)
    (behind : List Token) : other ≠ .slash :: behind := by
  refine same.ne_cons (fun token same => ?_) without behind
  cases token <;> first | rfl | cases same

end SameFront

namespace Grammar

variable {α β : Type}

/-- The tokens that a rule leaves, or stops at. -/
def remainder : Except Failure (α × List Token) → List Token
  | .ok (_, rest) => rest
  | .error failure => failure.rest

/-- The same result in front of other tokens. -/
def withRemainder (other : List Token) :
    Except Failure (α × List Token) → Except Failure (α × List Token)
  | .ok (value, _) => .ok (value, other)
  | .error failure => .error ⟨failure.fault, other⟩

/-- Whether a rule has this result on an input because of the tokens it takes and the outline of the
one behind them, unless it stops at a second word. -/
def Ahead (read : List Token → Except Failure (α × List Token)) (input : List Token)
    (result : Except Failure (α × List Token)) : Prop :=
  TakesWords result → ∃ taken, input = taken ++ remainder result ∧
    ∀ other, SameFront (remainder result) other → read (taken ++ other) = withRemainder other result

theorem takesWords_error {failure : Failure} :
    TakesWords (.error failure : Except Failure α) ↔ failure.fault ≠ .relationExpected := by
  constructor
  · intro takesWords isWord
    exact takesWords failure.rest (by rw [← isWord])
  · intro apart
    exact takesWords_fail apart failure.rest

variable {read : List Token → Except Failure (α × List Token)}
variable {input rest : List Token} {result : Except Failure (α × List Token)}

namespace Ahead

theorem ok {value : α} (ahead : Ahead read input (.ok (value, rest))) :
    ∃ taken, input = taken ++ rest ∧
      ∀ other, SameFront rest other → read (taken ++ other) = .ok (value, other) :=
  ahead (takesWords_ok _)

theorem error {fault : Fault} (ahead : Ahead read input (.error ⟨fault, rest⟩))
    (apart : fault ≠ .relationExpected) : ∃ taken, input = taken ++ rest ∧
      ∀ other, SameFront rest other → read (taken ++ other) = .error ⟨fault, other⟩ :=
  ahead (takesWords_fail apart rest)

/-- What is read from some tokens is read from them with another rest that begins alike. -/
theorem read_append (ahead : ∀ input, Ahead read input (read input)) {taken : List Token}
    {value : α} (found : read (taken ++ rest) = .ok (value, rest)) {other : List Token}
    (alike : SameFront rest other) : read (taken ++ other) = .ok (value, other) := by
  have here := ahead (taken ++ rest)
  rw [found] at here
  obtain ⟨front, split, same⟩ := here.ok
  rw [List.append_cancel_right split]
  exact same other alike

/-- A rule that takes nothing decides by what is in front. -/
theorem stays (same : ∀ other, SameFront (remainder result) other →
    read other = withRemainder other result) : Ahead read (remainder result) result :=
  fun _ => ⟨[], rfl, same⟩

/-- A rule that refuses a token because of its outline, behind tokens that it takes. -/
theorem refuses {fault : Fault} {token : Token} (front : List Token)
    (refused : ∀ first behind, first.outline = token.outline →
      read (front ++ first :: behind) = .error ⟨fault, first :: behind⟩) (rest : List Token) :
    Ahead read (front ++ token :: rest) (.error ⟨fault, token :: rest⟩) := by
  intro _
  refine ⟨front, rfl, fun other alike => ?_⟩
  obtain ⟨first, behind, rfl, same⟩ := alike.eq_cons
  exact refused first behind same

/-- At the end there is nothing to look at. -/
theorem atEnd (ends : remainder (read input) = []) : Ahead read input (read input) := by
  intro _
  refine ⟨input, by rw [ends, List.append_nil], fun other alike => ?_⟩
  rw [ends] at alike
  rw [alike.eq_nil, List.append_nil]
  cases found : read input with
  | error failure =>
    rw [found] at ends
    rw [withRemainder, ← ends, remainder]
  | ok value =>
    rw [found] at ends
    rw [withRemainder, ← ends, remainder]

/-- A rule whose value is changed. -/
theorem map (ahead : Ahead read input result) (change : α → β) :
    Ahead (fun input => (read input).map fun taken => (change taken.1, taken.2)) input
      (result.map fun taken => (change taken.1, taken.2)) := by
  intro takesWords
  cases result with
  | error failure =>
    obtain ⟨taken, split, same⟩ := ahead (takesWords_error.2 (takesWords_error.1 takesWords))
    exact ⟨taken, split, fun other alike => congrArg _ (same other alike)⟩
  | ok found =>
    obtain ⟨taken, split, same⟩ := ahead (takesWords_ok _)
    exact ⟨taken, split, fun other alike => congrArg _ (same other alike)⟩

/-- A rule that takes some tokens and goes on by another one. -/
theorem behind {after : List Token → Except Failure (α × List Token)}
    (ahead : Ahead read rest result) (front : List Token)
    (goesOn : ∀ other, SameFront rest other → after (front ++ other) = read other) :
    Ahead after (front ++ rest) result := by
  intro takesWords
  obtain ⟨taken, split, same⟩ := ahead takesWords
  refine ⟨front ++ taken, by rw [List.append_assoc, ← split], fun other alike => ?_⟩
  have alike : SameFront rest (taken ++ other) := split ▸ alike.append taken
  rw [List.append_assoc, goesOn _ alike, same other ‹_›]

/-- One rule behind another. -/
theorem bind (first : Ahead read input (read input))
    (next : α → List Token → Except Failure (β × List Token))
    (second : ∀ value mid, read input = .ok (value, mid) →
      Ahead (next value) mid (next value mid)) :
    Ahead (fun input => read input >>= fun taken => next taken.1 taken.2) input
      (read input >>= fun taken => next taken.1 taken.2) := by
  intro takesWords
  cases found : read input with
  | error failure =>
    rw [found] at first takesWords
    obtain ⟨taken, rfl, same⟩ := first (takesWords_error.2 (takesWords_error.1 takesWords))
    refine ⟨taken, rfl, fun other alike => ?_⟩
    simp only
    rw [same other alike]
    rfl
  | ok pair =>
    obtain ⟨value, mid⟩ := pair
    rw [found] at first takesWords
    obtain ⟨taken, rfl, same⟩ := first.ok
    obtain ⟨later, split, sameLater⟩ := second value mid found takesWords
    refine ⟨taken ++ later, ?_, fun other alike => ?_⟩
    · rw [List.append_assoc]
      exact congrArg _ split
    have front : SameFront mid (later ++ other) := split ▸ alike.append later
    simp only
    rw [List.append_assoc, same _ front, ok_bind]
    exact sameLater other alike

end Ahead

/-! ## Modifiers, declarations and sort keys -/

theorem ahead_modifiers (input : List Token) : Ahead modifiers input (modifiers input) := by
  fun_induction modifiers input with
  | case1 =>
    change Ahead modifiers [.slash] (modifiers [.slash])
    exact Ahead.atEnd rfl
  | case2 token rest unnamed =>
    refine Ahead.refuses [.slash] (fun first behind same => ?_) rest
    simp only [List.cons_append, List.nil_append, modifiers,
      Token.term?_eq_none_of_outline same unnamed]
    rfl
  | case3 token name named symbol =>
    have unread : modifiers [.slash, token, .comparison symbol] =
        .error ⟨.modifierValueMissing, []⟩ := by
      simp only [modifiers, named]
      rfl
    rw [fail, ← unread]
    exact Ahead.atEnd (by rw [unread]; rfl)
  | case4 token name named symbol value rest unvalued =>
    refine Ahead.refuses [.slash, token, .comparison symbol] (fun first behind same => ?_) rest
    simp only [List.cons_append, List.nil_append, modifiers, named,
      Token.term?_eq_none_of_outline same unvalued]
    rfl
  | case5 token name named symbol value rest text valued ih =>
    exact (ih.map (⟨name, symbol.symbol, text⟩ :: ·)).behind
      [.slash, token, .comparison symbol, value] fun other _ => modifiers_valued named valued
  | case6 token name named rest unvalued ih =>
    exact (ih.map ({ name } :: ·)).behind [.slash, token] fun other alike =>
      modifiers_flag named fun symbol => alike.ne_comparison (unvalued symbol)
  | case7 rest unmodified =>
    refine Ahead.stays fun other alike => ?_
    have noSlash := alike.ne_slash fun behind split => unmodified behind split
    cases other with
    | nil => rfl
    | cons token behind =>
      cases token with
      | slash => exact absurd rfl (noSlash behind)
      | _ => rfl

/-- Declarations with the scope behind them as one value. -/
def declared (scope : Scope) (input : List Token) :
    Except Failure ((List Prefix × Scope) × List Token) :=
  (declarations scope input).map fun (prefixes, inner, rest) => ((prefixes, inner), rest)

theorem declared_named {scope : Scope} {token token' : Token} {name uri : String}
    (named : token.term? = some name) (located : token'.term? = some uri) (rest : List Token) :
    declared scope (.comparison .greater :: token :: .comparison .equal :: token' :: rest) =
      (declared (scope.bind name) rest).map fun taken =>
        ((⟨name, uri⟩ :: taken.1.1, taken.1.2), taken.2) := by
  unfold declared
  rw [declarations_named named located]
  cases declarations (scope.bind name) rest <;> rfl

theorem declared_unnamed {scope : Scope} {token : Token} {uri : String} {rest : List Token}
    (located : token.term? = some uri) (ends : ∀ behind, rest ≠ .comparison .equal :: behind) :
    declared scope (.comparison .greater :: token :: rest) =
      (declared scope.allowAnyWord rest).map fun taken =>
        ((⟨"", uri⟩ :: taken.1.1, taken.1.2), taken.2) := by
  unfold declared
  rw [declarations_unnamed located ends]
  cases declarations scope.allowAnyWord rest <;> rfl

theorem declared_of_no_word {token : Token} (unnamed : token.term? = none) (scope : Scope)
    (rest : List Token) : declared scope (.comparison .greater :: token :: rest) =
      .error ⟨.prefixOrUriExpected, token :: rest⟩ := by
  simp only [declared, declarations, unnamed]
  rfl

theorem declared_of_no_uri {token value : Token} {name : String} (named : token.term? = some name)
    (unlocated : value.term? = none) (scope : Scope) (rest : List Token) :
    declared scope (.comparison .greater :: token :: .comparison .equal :: value :: rest) =
      .error ⟨.uriExpected, value :: rest⟩ := by
  simp only [declared, declarations, named, unlocated]
  rfl

theorem declared_at_end {token : Token} {name : String} (named : token.term? = some name)
    (scope : Scope) : declared scope [.comparison .greater, token, .comparison .equal] =
      .error ⟨.uriExpected, []⟩ := by
  simp only [declared, declarations, named]
  rfl

theorem declared_done {rest : List Token}
    (undeclared : ∀ behind, rest ≠ .comparison .greater :: behind) (scope : Scope) :
    declared scope rest = .ok (([], scope), rest) := by
  unfold declared declarations
  split
  · exact absurd rfl (undeclared _)
  · rfl

theorem ahead_declared (scope : Scope) (input : List Token) :
    Ahead (declared scope) input (declared scope input) := by
  fun_induction declarations scope input with
  | case1 => exact Ahead.atEnd rfl
  | case2 scope token rest unnamed =>
    rw [declared_of_no_word unnamed]
    refine Ahead.refuses [.comparison .greater] (fun first behind same => ?_) rest
    exact declared_of_no_word (Token.term?_eq_none_of_outline same unnamed) scope behind
  | case3 scope token name named =>
    exact Ahead.atEnd (by rw [declared_at_end named]; rfl)
  | case4 scope token name named value rest unlocated =>
    rw [declared_of_no_uri named unlocated]
    refine Ahead.refuses [.comparison .greater, token, .comparison .equal]
      (fun first behind same => ?_) rest
    exact declared_of_no_uri named (Token.term?_eq_none_of_outline same unlocated) scope behind
  | case5 scope token name named value rest uri located ih =>
    rw [declared_named named located]
    exact (ih.map fun found => (⟨name, uri⟩ :: found.1, found.2)).behind
      [.comparison .greater, token, .comparison .equal, value] fun other _ =>
        declared_named named located other
  | case6 scope token uri located rest unlocated ih =>
    rw [declared_unnamed located unlocated]
    exact (ih.map fun found => (⟨"", uri⟩ :: found.1, found.2)).behind
      [.comparison .greater, token] fun other alike =>
        declared_unnamed located (alike.ne_comparison unlocated)
  | case7 scope rest undeclared =>
    rw [declared_done undeclared]
    exact Ahead.stays fun other alike => declared_done (alike.ne_comparison undeclared) scope

theorem sortKeys_of_term {token : Token} {index : String} (named : token.term? = some index)
    (rest : List Token) : sortKeys (token :: rest) =
      (modifiers rest >>= fun found =>
        cons { index, modifiers := found.1 } (sortKeys found.2)) := by
  rw [sortKeys]
  simp only [named]
  split
  · next failed =>
    rw [failed]
    rfl
  · next taken =>
    rw [taken]
    rfl

theorem ahead_sortKeys_of_term {token : Token} {index : String} {rest : List Token}
    (named : token.term? = some index)
    (others : ∀ values behind, modifiers rest = .ok (values, behind) →
      Ahead sortKeys behind (sortKeys behind)) :
    Ahead sortKeys (token :: rest) (sortKeys (token :: rest)) := by
  rw [sortKeys_of_term named]
  refine ((ahead_modifiers rest).bind (fun values behind =>
    cons { index, modifiers := values } (sortKeys behind)) fun values behind taken => ?_).behind
      [token] fun other _ => sortKeys_of_term named other
  exact (others values behind taken).map ({ index, modifiers := values } :: ·)

theorem ahead_sortKeys (input : List Token) : Ahead sortKeys input (sortKeys input) := by
  fun_induction sortKeys input with
  | case1 =>
    have done : sortKeys [] = .ok ([], []) := by rw [sortKeys]
    rw [← done]
    exact Ahead.atEnd (by rw [done]; rfl)
  | case2 token rest unnamed =>
    refine Ahead.stays fun other alike => ?_
    obtain ⟨first, behind, rfl, same⟩ := alike.eq_cons
    rw [sortKeys]
    simp only [Token.term?_eq_none_of_outline same unnamed]
    rfl
  | case3 token rest index named failure failed =>
    have ahead := ahead_sortKeys_of_term named fun values behind taken => by
      rw [failed] at taken
      cases taken
    rwa [sortKeys_of_term named, failed] at ahead
  | case4 token rest index named values behind taken ih =>
    have ahead := ahead_sortKeys_of_term named fun others later read => by
      rw [taken] at read
      cases read
      exact ih
    rwa [sortKeys_cons named taken] at ahead

theorem ahead_sorting (input : List Token) : Ahead sorting input (sorting input) := by
  cases input with
  | nil => exact Ahead.atEnd rfl
  | cons token rest =>
    cases token with
    | sortBy spelling => exact (ahead_sortKeys rest).behind [.sortBy spelling] fun _ _ => rfl
    | _ =>
      refine Ahead.stays fun other alike => ?_
      obtain ⟨first, behind, rfl, same⟩ := alike.eq_cons
      cases first <;> first | rfl | cases same

/-! ## Clauses -/

theorem operator?_of_sameFront {rest other : List Token} (alike : SameFront rest other) :
    (operator? other).map Prod.fst = (operator? rest).map Prod.fst := by
  cases rest with
  | nil => rw [alike.eq_nil]
  | cons token rest =>
    obtain ⟨first, behind, rfl, same⟩ := alike.eq_cons
    have joins : first.operator? = token.operator? := by
      rw [← Token.operator?_outline, same, Token.operator?_outline]
    simp only [operator?, joins, Option.map_map]
    rfl

theorem operator?_eq_none_of_sameFront {rest other : List Token} (alike : SameFront rest other)
    (ends : operator? rest = none) : operator? other = none := by
  have joins := operator?_of_sameFront alike
  rw [ends] at joins
  exact Option.map_eq_none_iff.1 joins

theorem isSome_relation?_outline (scope : Scope) (token : Token) (rest : List Token) :
    (relation? scope (token :: rest)).isSome = (relation? scope [token.outline]).isSome := by
  cases token with
  | dotted spelling | word spelling =>
    simp only [relation?, Token.outline]
    split <;> rfl
  | _ => rfl

theorem relation?_eq_none_of_sameFront {scope : Scope} {rest other : List Token}
    (alike : SameFront rest other) (unrelated : relation? scope rest = none) :
    relation? scope other = none := by
  cases rest with
  | nil =>
    rw [alike.eq_nil]
    rfl
  | cons token rest =>
    obtain ⟨first, behind, rfl, same⟩ := alike.eq_cons
    refine eq_none_of_isSome_eq ?_ unrelated
    rw [isSome_relation?_outline, same, ← isSome_relation?_outline]

theorem relation?_eq_some_cons {scope : Scope} {input rest : List Token} {relation : String}
    (related : relation? scope input = some (relation, rest)) :
    ∃ token, input = token :: rest ∧
      ∀ other, relation? scope (token :: other) = some (relation, other) := by
  cases input with
  | nil => cases related
  | cons token behind =>
    cases token with
    | comparison | namedRelation =>
      cases related
      exact ⟨_, rfl, fun _ => rfl⟩
    | dotted | word =>
      obtain ⟨allowed, same⟩ := Option.ite_none_right_eq_some.1 related
      cases same
      exact ⟨_, rfl, fun _ => if_pos allowed⟩
    | _ => cases related

theorem isSome_continuation?_outline (token : Token) :
    (continuation? token.outline).isSome = (continuation? token).isSome := by
  cases token <;> rfl

theorem continuation?_eq_none_of_outline {token other : Token}
    (same : other.outline = token.outline) (ends : continuation? token = none) :
    continuation? other = none := by
  refine eq_none_of_isSome_eq ?_ ends
  rw [← isSome_continuation?_outline, same, isSome_continuation?_outline]

/-- The words that continue a term end at a token whose kind tells. -/
theorem continuations_ahead (input : List Token) :
    ∃ taken, input = taken ++ (continuations input).2 ∧
      ∀ other, SameFront (continuations input).2 other →
        continuations (taken ++ other) = ((continuations input).1, other) := by
  fun_induction continuations input with
  | case1 =>
    refine ⟨[], rfl, fun other alike => ?_⟩
    rw [alike.eq_nil]
    rfl
  | case2 token rest text continues others behind found ih =>
    rw [found] at ih
    obtain ⟨taken, rfl, same⟩ := ih
    refine ⟨token :: taken, rfl, fun other alike => ?_⟩
    simp only [List.cons_append, continuations, continues, same other alike]
  | case3 token rest ends =>
    refine ⟨[], rfl, fun other alike => ?_⟩
    obtain ⟨first, behind, rfl, same⟩ := alike.eq_cons
    simp only [List.nil_append, continuations, continuation?_eq_none_of_outline same ends]

theorem ahead_bareTerm (strict : Bool) (first : String) (token : Token) (rest : List Token) :
    Ahead (fun rest => bareTerm strict first (token :: rest) rest) rest
      (bareTerm strict first (token :: rest) rest) := by
  intro takesWords
  obtain ⟨taken, split, same⟩ := continuations_ahead rest
  have single : (strict && !(continuations rest).1.isEmpty) = false := by
    by_contra several
    apply takesWords (token :: rest)
    simp only [bareTerm, eq_true_of_ne_false several, if_true]
    rfl
  have read : bareTerm strict first (token :: rest) rest =
      .ok (" ".intercalate (first :: (continuations rest).1), (continuations rest).2) := by
    simp only [bareTerm, single, Bool.false_eq_true, if_false]
  rw [read]
  refine ⟨taken, split, fun other alike => ?_⟩
  simp only [bareTerm, same other alike, single, Bool.false_eq_true, if_false]
  rfl

theorem operator?_eq_some {input rest : List Token} {operator : Operator}
    (joined : operator? input = some (operator, rest)) :
    ∃ spelling, input = .keyword operator spelling :: rest := by
  cases input with
  | nil => cases joined
  | cons token behind =>
    obtain ⟨found, joins, same⟩ := Option.map_eq_some_iff.1 joined
    cases same
    cases token <;> cases joins
    exact ⟨_, rfl⟩

theorem ahead_chain_done {operand : List Token → Except Failure (Clause × List Token)} {links : Nat}
    {left : Clause} {input : List Token} (ends : operator? input = none) :
    Ahead (chain operand links left) input (chain operand links left input) := by
  rw [chain_done ends]
  exact Ahead.stays fun other alike => chain_done (operator?_eq_none_of_sameFront alike ends)

theorem ahead_chain {operand : List Token → Except Failure (Clause × List Token)}
    (operands : ∀ input, Ahead operand input (operand input)) (links : Nat) (left : Clause)
    (input : List Token) :
    Ahead (chain operand links left) input (chain operand links left input) := by
  induction links generalizing left input with
  | zero =>
    cases joined : operator? input with
    | none => exact ahead_chain_done joined
    | some found =>
      obtain ⟨spelling, rfl⟩ := operator?_eq_some joined
      have stops (rest : List Token) (joins : operator? rest ≠ none) :
          chain operand 0 left rest = .error ⟨.nestingTooDeep, rest⟩ := by
        unfold chain
        split
        · next ends => exact absurd ends joins
        · rfl
      rw [stops _ (by rw [joined]; exact Option.some_ne_none _)]
      refine Ahead.stays fun other alike => stops other fun ends => ?_
      have joins := operator?_of_sameFront alike
      rw [ends] at joins
      cases joins
  | succ links ih =>
    cases joined : operator? input with
    | none => exact ahead_chain_done joined
    | some found =>
      obtain ⟨operator, behind⟩ := found
      obtain ⟨spelling, rfl⟩ := operator?_eq_some joined
      refine ((ahead_modifiers behind).bind (fun values start => operand start >>= fun right =>
        chain operand links (.boolean [] left operator values right.1) right.2)
          fun values start _ => ?_).behind [.keyword operator spelling] fun other _ => rfl
      exact (operands start).bind (fun right later =>
        chain operand links (.boolean [] left operator values right) later)
          fun right later _ => ih _ later

theorem ahead_group {reader : Scope → List Token → Except Failure (Clause × List Token)}
    (readers : ∀ scope input, Ahead (reader scope) input (reader scope input)) (links : Nat)
    (scope : Scope) (input : List Token) :
    Ahead (group links reader scope) input (group links reader scope input) := by
  have reads (input : List Token) : group links reader scope input =
      (declared scope input >>= fun found => reader found.1.2 found.2 >>= fun first =>
        (chain (reader found.1.2) links first.1 first.2).map fun whole =>
          (whole.1.declaring found.1.1, whole.2)) := by
    unfold group declared
    cases declarations scope input with
    | error failure => rfl
    | ok found =>
      simp only [Except.map, ok_bind]
      rfl
  rw [reads]
  refine ((ahead_declared scope input).bind (fun found start =>
    reader found.2 start >>= fun first =>
        (chain (reader found.2) links first.1 first.2).map fun whole =>
          (whole.1.declaring found.1, whole.2)) fun found start _ => ?_).behind [] fun other _ =>
            reads other
  refine (readers found.2 start).bind (fun first behind =>
    (chain (reader found.2) links first behind).map fun whole =>
      (whole.1.declaring found.1, whole.2)) fun first behind _ => ?_
  exact (ahead_chain (readers found.2) links first behind).map (Clause.declaring found.1)

/-- The closing bracket behind the content of a group. -/
def closed (content : Clause) : List Token → Except Failure (Clause × List Token)
  | .rightParen :: rest => .ok (content, rest)
  | rest => fail .groupNotClosed rest

theorem ahead_closed (content : Clause) (input : List Token) :
    Ahead (closed content) input (closed content input) := by
  cases input with
  | nil => exact Ahead.atEnd rfl
  | cons token rest =>
    cases token with
    | rightParen => exact fun _ => ⟨[.rightParen], rfl, fun _ _ => rfl⟩
    | _ =>
      refine Ahead.refuses [] (fun first behind same => ?_) rest
      cases first <;> first | rfl | cases same

theorem clause_brackets (settings : Settings) (depth : Nat) (scope : Scope) (rest : List Token) :
    clause settings (depth + 1) scope (.leftParen :: rest) =
      (group settings.maxChain (clause settings depth) scope rest >>= fun inner =>
        closed inner.1 inner.2) := by
  rw [clause]
  rfl

theorem clause_bareTerm {token : Token} {first : String} {rest : List Token} {scope : Scope}
    (named : token.term? = some first) (unrelated : relation? scope rest = none)
    (settings : Settings) (depth : Nat) :
    clause settings (depth + 1) scope (token :: rest) =
      (bareTerm settings.strict first (token :: rest) rest).map fun found =>
        (.search [] (scope.search found.1), found.2) := by
  cases token <;> cases named <;> simp only [clause, Token.term?, unrelated] <;> rfl

theorem clause_unnamed {token : Token} (unnamed : token.term? = none) (other : token ≠ .leftParen)
    (settings : Settings) (depth : Nat) (scope : Scope) (rest : List Token) :
    clause settings (depth + 1) scope (token :: rest) = .error ⟨.termExpected, token :: rest⟩ := by
  cases token with
  | leftParen => exact absurd rfl other
  | _ => first | rfl | cases unnamed

theorem ahead_clause (settings : Settings) (depth : Nat) (scope : Scope) (input : List Token) :
    Ahead (clause settings depth scope) input (clause settings depth scope input) := by
  induction depth generalizing scope input with
  | zero => exact Ahead.stays fun _ _ => rfl
  | succ depth ih =>
    cases input with
    | nil => exact Ahead.atEnd rfl
    | cons token rest =>
      cases named : token.term? with
      | none =>
        by_cases opens : token = .leftParen
        · subst opens
          rw [clause_brackets]
          exact ((ahead_group ih settings.maxChain scope rest).bind closed fun content behind _ =>
            ahead_closed content behind).behind [.leftParen] fun other _ =>
              clause_brackets settings depth scope other
        · rw [clause_unnamed named opens]
          refine Ahead.refuses [] (fun first behind same => ?_) rest
          have apart : first ≠ .leftParen := by
            rintro rfl
            cases token <;> first | exact opens rfl | cases same
          exact clause_unnamed (Token.term?_eq_none_of_outline same named) apart ..
      | some first =>
        cases related : relation? scope rest with
        | none =>
          rw [clause_bareTerm named related]
          refine ((ahead_bareTerm settings.strict first token rest).map fun term =>
            Clause.search [] (scope.search term)).behind [token] fun other alike => ?_
          exact clause_bareTerm named (relation?_eq_none_of_sameFront alike related) ..
        | some found =>
          obtain ⟨relation, behind⟩ := found
          obtain ⟨sign, rfl, relates⟩ := relation?_eq_some_cons related
          rw [clause_relation named related]
          exact ((ahead_modifiers behind).bind (fun values start =>
            clause settings depth (scope.relating first relation values) start)
              fun values start _ => ih _ start).behind [token, sign] fun other _ =>
                clause_relation named (relates other) depth

/-- The end of a query. -/
def ended (query : Query) : List Token → Except Failure (Query × List Token)
  | [] => .ok (query, [])
  | rest => fail .endExpected rest

theorem ahead_ended (query : Query) (input : List Token) :
    Ahead (ended query) input (ended query input) := by
  cases input with
  | nil => exact Ahead.atEnd rfl
  | cons token rest =>
    exact Ahead.refuses [] (fun _ _ _ => rfl) rest

end Grammar

namespace Query

open Grammar

/-- The query that the tokens spell, with nothing behind it. -/
def wholeOfTokens (settings : Settings) (input : List Token) :
    Except Failure (Query × List Token) := do
  let (clause, rest) ←
    Grammar.group settings.maxChain (Grammar.clause settings (settings.maxDepth + 1)) {} input
  let (sortKeys, rest) ← sorting rest
  ended { clause, sortKeys } rest

theorem ofTokens_eq_map (settings : Settings) (input : List Token) :
    ofTokens settings input = (wholeOfTokens settings input).map Prod.fst := by
  unfold ofTokens wholeOfTokens
  cases Grammar.group settings.maxChain (Grammar.clause settings (settings.maxDepth + 1)) {}
    input with
  | error failure => rfl
  | ok found =>
    simp only [ok_bind]
    cases sorting found.2 with
    | error failure => rfl
    | ok sorted =>
      obtain ⟨keys, rest⟩ := sorted
      cases rest <;> rfl

theorem ahead_wholeOfTokens (settings : Settings) (input : List Token) :
    Ahead (wholeOfTokens settings) input (wholeOfTokens settings input) := by
  refine (ahead_group (ahead_clause settings _) _ {} input).bind (fun clause rest => do
    let (sortKeys, rest) ← sorting rest
    ended { clause, sortKeys } rest) fun clause rest _ => ?_
  exact (ahead_sorting rest).bind (fun sortKeys rest => ended { clause, sortKeys } rest)
    fun sortKeys rest _ => ahead_ended _ rest

/-- A failure at a token, if it is not one at a second word, is due to the tokens in front and to
this one, whatever follows. -/
theorem ofTokens_eq_error_of_front {settings : Settings} {tokens behind : List Token}
    {token : Token} {fault : Fault}
    (failed : ofTokens settings tokens = .error ⟨fault, token :: behind⟩)
    (apart : fault ≠ .relationExpected) :
    ∃ taken, tokens = taken ++ token :: behind ∧
      ∀ other, ofTokens settings (taken ++ token :: other) = .error ⟨fault, token :: other⟩ := by
  rw [ofTokens_eq_map, map_eq_error] at failed
  have ahead := ahead_wholeOfTokens settings tokens
  rw [failed] at ahead
  obtain ⟨taken, split, same⟩ := ahead.error apart
  refine ⟨taken, split, fun other => ?_⟩
  rw [ofTokens_eq_map, same (token :: other) rfl]
  rfl

end Query
end ContextualQuery
