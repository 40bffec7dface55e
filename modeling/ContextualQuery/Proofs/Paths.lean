import ContextualQuery.Proofs.Derivations
import ContextualQuery.Proofs.Limits

/-!
# Paths through a tree

The limits of a reader count brackets, relations and the operators of a chain.  They reject and
never reshape: wider limits give the same query, or the same error unless it was a limit.  And they
bound the tree, although they look at tokens only.  A path from the root to a leaf leaves the chain
that it is in only for brackets, so it passes one chain for each level of depth, and it turns to a
boolean right operand only where brackets begin.
-/

namespace ContextualQuery

/-- Whether some path from a clause to one without operands passes so many boolean clauses, and goes
so many times from one of them to a right operand that is boolean too. -/
inductive Clause.HasPath : Clause → Nat → Nat → Prop
  | search (prefixes : List Prefix) (content : SearchClause) :
    HasPath (.search prefixes content) 0 0
  | matchAll (prefixes : List Prefix) : HasPath (.matchAll prefixes) 0 0
  | left {prefixes : List Prefix} {left right : Clause} {operator : Operator}
    {modifiers : List Modifier} {booleans turns : Nat} (path : HasPath left booleans turns) :
    HasPath (.boolean prefixes left operator modifiers right) (booleans + 1) turns
  | right {prefixes : List Prefix} {left right : Clause} {operator : Operator}
    {modifiers : List Modifier} {booleans turns : Nat} (path : HasPath right booleans turns) :
    HasPath (.boolean prefixes left operator modifiers right) (booleans + 1)
      (turns + right.isBoolean.toNat)

/-- Whether every path through a clause could pass `links` more boolean clauses and make `turns`
more turns, with at most `booleans` of the one and less than `depth` of the other in all. -/
def Clause.LeavesRoom (clause : Clause) (links turns booleans depth : Nat) : Prop :=
  ∀ ⦃passed turned : Nat⦄, clause.HasPath passed turned →
    passed + links ≤ booleans ∧ turned + turns < depth

namespace Clause

variable {clause left right : Clause} {prefixes : List Prefix} {links turns booleans depth : Nat}

theorem HasPath.of_declaring {passed turned : Nat}
    (path : (clause.declaring prefixes).HasPath passed turned) : clause.HasPath passed turned := by
  cases clause <;> cases path
  · exact .search _ _
  · next path => exact .left path
  · next path => exact .right path
  · exact .matchAll _

theorem leavesRoom_search (content : SearchClause) (enough : links ≤ booleans)
    (positive : 0 < depth) :
    (Clause.search prefixes content).LeavesRoom links 0 booleans depth := by
  intro passed turned path
  cases path
  exact ⟨by omega, positive⟩

theorem LeavesRoom.mono (room : clause.LeavesRoom links turns booleans depth)
    {links' turns' booleans' depth' : Nat} (fewerLinks : links' + booleans ≤ links + booleans')
    (fewerTurns : turns' + depth ≤ turns + depth') :
    clause.LeavesRoom links' turns' booleans' depth' := by
  intro passed turned path
  obtain ⟨enough, shallow⟩ := room path
  exact ⟨by omega, by omega⟩

/-- One more operator takes one more boolean clause on every path, and a turn where its right
operand is boolean. -/
theorem LeavesRoom.boolean {operator : Operator} {modifiers : List Modifier}
    (first : left.LeavesRoom (links + 1) 0 booleans depth)
    (second : right.LeavesRoom (links + 1) right.isBoolean.toNat booleans depth) :
    (Clause.boolean prefixes left operator modifiers right).LeavesRoom links 0 booleans depth := by
  intro passed turned path
  cases path with
  | left path =>
    obtain ⟨enough, shallow⟩ := first path
    exact ⟨by omega, shallow⟩
  | right path =>
    obtain ⟨enough, shallow⟩ := second path
    exact ⟨by omega, shallow⟩

end Clause

namespace Grammar

variable {settings : Settings} {rule : Rule} {depth : Nat} {scope : Scope}
variable {input rest : List Token} {value : Clause}

/-- Whether what was read by a rule so far leaves room for the operators that are still allowed. -/
def Rule.LeavesRoom (maxChain depth : Nat) : Rule → Prop
  | .group | .clause => True
  | .chain links left => links ≤ maxChain ∧ left.LeavesRoom links 0 (depth * maxChain) depth

/-- The room that a rule leaves: a clause may become the operand of a whole chain and take a
turn. -/
def Rule.Bounds (maxChain depth : Nat) (value : Clause) : Rule → Prop
  | .group | .chain _ _ => value.LeavesRoom 0 0 (depth * maxChain) depth
  | .clause => value.LeavesRoom maxChain value.isBoolean.toNat (depth * maxChain) depth

/-- Every rule bounds the paths through what it reads; brackets add a level, and with it room for
one more chain and one more turn. -/
theorem Derives.bounds (derives : Derives settings rule depth scope input value rest)
    (left : rule.LeavesRoom settings.maxChain depth) :
    rule.Bounds settings.maxChain depth value := by
  induction derives with
  | group _ _ _ operand others =>
    intro passed turned path
    exact others ⟨Nat.le_refl _, (operand trivial).mono (by omega) (by omega)⟩ path.of_declaring
  | @brackets _ _ _ _ content _ inside =>
    have oneTurn := Bool.toNat_le content.isBoolean
    exact (inside trivial).mono (by rw [Nat.succ_mul]; omega) (by omega)
  | relation _ _ _ _ operand =>
    exact (operand trivial).mono (by rw [Nat.succ_mul]; omega) (by omega)
  | term =>
    exact Clause.leavesRoom_search _ (by rw [Nat.succ_mul]; omega) (Nat.succ_pos _)
  | done => exact left.2.mono (by omega) (by omega)
  | link _ _ _ _ operand others =>
    obtain ⟨within, room⟩ := left
    have second := (operand trivial).mono (Nat.add_le_add_right within _) (Nat.le_refl _)
    exact others ⟨Nat.le_of_succ_le within, room.boolean second⟩

end Grammar

namespace Query

variable {settings wide : Settings} {input : List UInt8}

/-- Whatever is read within the limits is read within wider ones, as the same query or with the same
error, and every path through the query has at most as many turns as the depth that is allowed and
at most as many boolean clauses as one chain for each level. -/
theorem parseBytes_of_within (within : settings.Within wide) (input : List UInt8) :
    (∀ query, parseBytes settings input = .ok query →
      parseBytes wide input = .ok query ∧
        ∀ booleans turns, query.clause.HasPath booleans turns →
          turns ≤ settings.maxDepth ∧
            booleans ≤ (settings.maxDepth + 1) * settings.maxChain) ∧
    ∀ error, parseBytes settings input = .error error → error.message ≠ "nesting too deep" →
      parseBytes wide input = .error error := by
  have stands := stands_ofTokens within ((Lexeme.ofBytes input).map Lexeme.token)
  constructor
  · intro query read
    have spelled := mapError_eq_ok.1 read
    refine ⟨mapError_eq_ok.2 (stands.eq_ok spelled), ?_⟩
    intro booleans turns path
    obtain ⟨rest, derives, -⟩ := ofTokens_eq_ok.1 spelled
    obtain ⟨enough, shallow⟩ := derives.bounds trivial path
    exact ⟨Nat.le_of_lt_succ shallow, enough⟩
  · intro error failed other
    exact AgreesUnless.mapError_eq_error stands failed other

/-- Both limits are used up by a query, and a bracket is missing in another input. -/
theorem parseBytes_of_within_full :
    let settings : Settings := { maxDepth := 1, maxChain := 2 }
    let term (word : String) : Clause := .search [] { term := word }
    let inner : Clause := .boolean [] (.boolean [] (term "b") .and [] (term "c")) .not [] (term "d")
    let query : Query :=
      { clause := .boolean [] (.boolean [] (term "a") .or [] inner) .or [] (term "e") }
    let input := Utf8.encode "a or (b and c not d) or e"
    let broken := Utf8.encode "(a or b"
    let error : ParseError := { input := broken, message := "missing )", position := 7 }
    settings.Within {} ∧ parseBytes settings input = .ok query ∧ parseBytes {} input = .ok query ∧
      query.clause.HasPath 4 1 ∧ 1 ≤ settings.maxDepth ∧
      4 ≤ (settings.maxDepth + 1) * settings.maxChain ∧
      parseBytes settings broken = .error error ∧ error.message ≠ "nesting too deep" ∧
      parseBytes {} broken = .error error := by
  intro settings term inner query input broken error
  have within : settings.Within {} := ⟨rfl, by decide, by decide⟩
  have read : parseBytes settings input = .ok query := eq_ok_of_toOption (by decide +kernel)
  have path : query.clause.HasPath 4 1 := .left (.right (.left (.left (.search _ _))))
  have failed : parseBytes settings broken = .error error := by decide +kernel
  have other : error.message ≠ "nesting too deep" := by decide
  obtain ⟨same, bounded⟩ := (parseBytes_of_within within input).1 query read
  obtain ⟨shallow, enough⟩ := bounded 4 1 path
  have failsAgain := (parseBytes_of_within within broken).2 error failed other
  exact ⟨within, read, same, path, shallow, enough, failed, other, failsAgain⟩

end Query
end ContextualQuery
