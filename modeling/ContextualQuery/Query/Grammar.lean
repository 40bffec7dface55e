import ContextualQuery.Query
import ContextualQuery.Query.ParseError
import ContextualQuery.Query.Scope
import ContextualQuery.Token

/-!
# The grammar over tokens

```text
query       := group ("sortby" (term modifier*)*)?
group       := (">" term ("=" term)?)* clause (operator modifier* clause)*
clause      := "(" group ")" | term relation modifier* clause | term word*
modifier    := "/" term (comparison term)?
```

Chains associate to the left.  Each rule takes tokens and gives what it read with the tokens that
are left, or a fault with the tokens at which it was found; positions are no concern of the
grammar.  Depth and chain length are budgets that count down.
-/

namespace ContextualQuery

/-- What a reader of queries allows. -/
structure Settings where
  /-- Whether a term is one word only. -/
  strict : Bool := false
  /-- How deep groups and relations may lie inside one another. -/
  maxDepth : Nat := 256
  /-- How many operators one chain may have. -/
  maxChain : Nat := 4096
deriving DecidableEq, Repr

/-- A fault with the tokens that were left when it was found. -/
structure Failure where
  fault : Fault
  /-- The tokens from the faulty one on. -/
  rest : List Token
deriving DecidableEq, Repr

namespace Grammar

/-- A rule that fails at the tokens given. -/
def fail {α : Type} (fault : Fault) (rest : List Token) : Except Failure α :=
  .error ⟨fault, rest⟩

/-- Puts a value in front of those that a rule reads. -/
def cons {α : Type} (value : α) (others : Except Failure (List α × List Token)) :
    Except Failure (List α × List Token) :=
  others.map fun (values, rest) => (value :: values, rest)

/-- Reads modifiers as long as a slash announces one. -/
def modifiers : List Token → Except Failure (List Modifier × List Token)
  | .slash :: rest =>
    match rest with
    | [] => fail .modifierNameMissing []
    | token :: rest =>
      match token.term? with
      | none => fail .modifierNameMissing (token :: rest)
      | some name =>
        match rest with
        | .comparison symbol :: rest =>
          match rest with
          | [] => fail .modifierValueMissing []
          | token :: rest =>
            match token.term? with
            | none => fail .modifierValueMissing (token :: rest)
            | some value => cons ⟨name, symbol.symbol, value⟩ (modifiers rest)
        | rest => cons { name } (modifiers rest)
  | rest => .ok ([], rest)

/-- Reads declarations as long as a greater-than sign announces one, and gives the scope in which
the clause behind them stands. -/
def declarations (scope : Scope) :
    List Token → Except Failure (List Prefix × Scope × List Token)
  | .comparison .greater :: rest =>
    match rest with
    | [] => fail .prefixOrUriExpected []
    | token :: rest =>
      match token.term? with
      | none => fail .prefixOrUriExpected (token :: rest)
      | some first =>
        match rest with
        | .comparison .equal :: rest =>
          match rest with
          | [] => fail .uriExpected []
          | token :: rest =>
            match token.term? with
            | none => fail .uriExpected (token :: rest)
            | some uri => do
              let (others, inner, rest) ← declarations (scope.bind first) rest
              .ok (⟨first, uri⟩ :: others, inner, rest)
        | rest => do
          let (others, inner, rest) ← declarations scope.allowAnyWord rest
          .ok (⟨"", first⟩ :: others, inner, rest)
  | rest => .ok ([], scope, rest)

/-- The operator in front, if there is one, and the tokens behind it. -/
def operator? : List Token → Option (Operator × List Token)
  | [] => none
  | token :: rest => token.operator?.map fun operator => (operator, rest)

/-- Reads operators and right operands behind a left operand, as many operators as the budget
allows. -/
def chain (operand : List Token → Except Failure (Clause × List Token)) :
    Nat → Clause → List Token → Except Failure (Clause × List Token)
  | 0, left, rest =>
    match operator? rest with
    | none => .ok (left, rest)
    | some _ => fail .nestingTooDeep rest
  | links + 1, left, rest =>
    match operator? rest with
    | none => .ok (left, rest)
    | some (operator, rest) => do
      let (modifiers, rest) ← modifiers rest
      let (right, rest) ← operand rest
      chain operand links (.boolean [] left operator modifiers right) rest

/-- Reads declarations and the chain of clauses that they hold for. -/
def group (maxChain : Nat) (clause : Scope → List Token → Except Failure (Clause × List Token))
    (scope : Scope) (input : List Token) : Except Failure (Clause × List Token) := do
  let (prefixes, scope, rest) ← declarations scope input
  let (first, rest) ← clause scope rest
  let (whole, rest) ← chain (clause scope) maxChain first rest
  .ok (whole.declaring prefixes, rest)

/-- The relation in front, if the token there may be one in this scope, and the tokens behind
it. -/
def relation? (scope : Scope) : List Token → Option (String × List Token)
  | .comparison symbol :: rest => some (symbol.symbol, rest)
  | .namedRelation spelling :: rest => some (spelling, rest)
  | .dotted spelling :: rest =>
    if scope.custom || scope.binds spelling then some (spelling, rest) else none
  | .word text :: rest => if scope.custom then some (text, rest) else none
  | _ => none

/-- The text of a token that continues a term, which no keyword does. -/
def continuation? : Token → Option String
  | .word text | .dotted text | .namedRelation text => some text
  | _ => none

/-- The words behind a term that continue it, and the tokens behind them. -/
def continuations : List Token → List String × List Token
  | [] => ([], [])
  | token :: rest =>
    match continuation? token with
    | some text =>
      let (others, rest) := continuations rest
      (text :: others, rest)
    | none => ([], token :: rest)

/-- Reads the rest of a bare term.  A strict reader takes no second word; it reports the first. -/
def bareTerm (strict : Bool) (first : String) (input rest : List Token) :
    Except Failure (String × List Token) :=
  let (others, rest) := continuations rest
  if strict && !others.isEmpty then fail .relationExpected input
  else .ok (" ".intercalate (first :: others), rest)

/-- Reads one clause, at most as deep as the budget allows. -/
def clause (settings : Settings) :
    Nat → Scope → List Token → Except Failure (Clause × List Token)
  | 0, _, input => fail .nestingTooDeep input
  | depth + 1, scope, input =>
    match input with
    | .leftParen :: rest => do
      let (inner, rest) ← group settings.maxChain (clause settings depth) scope rest
      match rest with
      | .rightParen :: rest => .ok (inner, rest)
      | rest => fail .groupNotClosed rest
    | [] => fail .termExpected []
    | token :: rest =>
      match token.term? with
      | none => fail .termExpected (token :: rest)
      | some first =>
        match relation? scope rest with
        | some (relation, rest) => do
          let (modifiers, rest) ← modifiers rest
          clause settings depth (scope.relating first relation modifiers) rest
        | none => do
          let (term, rest) ← bareTerm settings.strict first (token :: rest) rest
          .ok (.search [] (scope.search term), rest)

theorem cons_eq_ok {α : Type} {value : α} {others : Except Failure (List α × List Token)}
    {values : List α} {rest : List Token} :
    cons value others = .ok (values, rest) ↔
      ∃ tail, others = .ok (tail, rest) ∧ values = value :: tail := by
  cases others with
  | error => simp [cons, Except.map]
  | ok taken =>
    simp only [cons, Except.map, Except.ok.injEq, Prod.ext_iff]
    constructor
    · rintro ⟨rfl, rfl⟩
      exact ⟨taken.1, ⟨rfl, rfl⟩, rfl⟩
    · rintro ⟨tail, ⟨rfl, rfl⟩, rfl⟩
      exact ⟨rfl, rfl⟩

/-- Modifiers leave no more tokens than there were. -/
theorem length_modifiers_le {input rest : List Token} {values : List Modifier}
    (taken : modifiers input = .ok (values, rest)) : rest.length ≤ input.length := by
  fun_induction modifiers input generalizing values with
  | case1 | case2 | case3 | case4 => cases taken
  | case5 _ _ _ _ _ _ _ _ ih =>
    obtain ⟨tail, read, -⟩ := cons_eq_ok.1 taken
    exact Nat.le_trans (ih read) (by simp +arith)
  | case6 _ _ _ _ _ ih =>
    obtain ⟨tail, read, -⟩ := cons_eq_ok.1 taken
    exact Nat.le_trans (ih read) (by simp +arith)
  | case7 =>
    cases taken
    exact Nat.le_refl _

/-- Reads sort keys as long as a term begins one. -/
def sortKeys (input : List Token) : Except Failure (List SortKey × List Token) :=
  match input with
  | [] => .ok ([], [])
  | token :: rest =>
    match token.term? with
    | none => .ok ([], token :: rest)
    | some index =>
      match _taken : modifiers rest with
      | .error failure => .error failure
      | .ok (modifiers, rest) => cons { index, modifiers } (sortKeys rest)
termination_by input.length
decreasing_by exact Nat.lt_succ_of_le (length_modifiers_le ‹_›)

/-- Reads the sort keys behind their keyword, if it is there. -/
def sorting : List Token → Except Failure (List SortKey × List Token)
  | .sortBy _ :: rest => sortKeys rest
  | rest => .ok ([], rest)

end Grammar

namespace Query

/-- The query that the tokens spell. -/
def ofTokens (settings : Settings) (input : List Token) : Except Failure Query := do
  let (clause, rest) ←
    Grammar.group settings.maxChain (Grammar.clause settings (settings.maxDepth + 1)) {} input
  let (sortKeys, rest) ← Grammar.sorting rest
  match rest with
  | [] => .ok { clause, sortKeys }
  | rest => Grammar.fail .endExpected rest

end Query
end ContextualQuery
