import ContextualQuery.Proofs.Reading

/-!
# Limits of a reader

How deep clauses may lie and how long chains may be are limits of a reader, not of the grammar.  A
reader with wider limits does what a narrower one does, step by step, unless the narrower one is
stopped by a limit.
-/

namespace ContextualQuery

/-- Whether one reader is at most as strictly limited as another and otherwise the same. -/
structure Settings.Within (settings wide : Settings) : Prop where
  strict : settings.strict = wide.strict
  maxDepth : settings.maxDepth ≤ wide.maxDepth
  maxChain : settings.maxChain ≤ wide.maxChain

/-- Whether a result is the other one as well, or was cut short by a fault. -/
def AgreesUnless (fault : Fault) {α : Type} (result other : Except Failure α) : Prop :=
  result = other ∨ ∃ rest, result = .error ⟨fault, rest⟩

namespace AgreesUnless

variable {α β : Type} {fault : Fault} {result other : Except Failure α}

theorem refl (result : Except Failure α) : AgreesUnless fault result result := .inl rfl

/-- Two steps agree if the first does and every second does. -/
theorem bind {next after : α → Except Failure β} (first : AgreesUnless fault result other)
    (second : ∀ value, AgreesUnless fault (next value) (after value)) :
    AgreesUnless fault (result >>= next) (other >>= after) := by
  rcases first with rfl | ⟨rest, rfl⟩
  · cases result with
    | error failure => exact .inl rfl
    | ok value => exact second value
  · exact .inr ⟨rest, rfl⟩

theorem eq_ok (agrees : AgreesUnless fault result other) {value : α} (read : result = .ok value) :
    other = .ok value := by
  rcases agrees with rfl | ⟨rest, rfl⟩
  · exact read
  · cases read

/-- An error with another message than the fault's is an error of both. -/
theorem mapError_eq_error {input : List UInt8} {lexemes : List Lexeme} {error : ParseError}
    (agrees : AgreesUnless fault result other)
    (failed : result.mapError (ParseError.ofFailure input lexemes) = .error error)
    (apart : error.message ≠ fault.message) :
    other.mapError (ParseError.ofFailure input lexemes) = .error error := by
  rcases agrees with rfl | ⟨rest, rfl⟩
  · exact failed
  · cases failed
    exact absurd rfl apart

end AgreesUnless

namespace Grammar

variable {settings wide : Settings}

theorem stands_chain {operand wideOperand : List Token → Except Failure (Clause × List Token)}
    (operands : ∀ input, AgreesUnless .nestingTooDeep (operand input) (wideOperand input))
    {links wideLinks : Nat} (more : links ≤ wideLinks) (left : Clause) (input : List Token) :
    AgreesUnless .nestingTooDeep (chain operand links left input)
      (chain wideOperand wideLinks left input) := by
  induction links generalizing wideLinks left input with
  | zero =>
    cases found : operator? input with
    | none =>
      rw [chain_done found, chain_done found]
      exact .refl _
    | some taken =>
      rw [chain, found]
      exact .inr ⟨input, rfl⟩
  | succ links ih =>
    obtain ⟨wideLinks, rfl⟩ := Nat.exists_eq_add_one_of_ne_zero
      (Nat.ne_zero_of_lt (Nat.lt_of_lt_of_le (Nat.succ_pos links) more))
    rw [chain, chain]
    split
    · exact .refl _
    · refine (AgreesUnless.refl _).bind fun annotated => ?_
      refine (operands annotated.2).bind fun taken => ?_
      exact ih (Nat.le_of_succ_le_succ more) _ taken.2

theorem stands_group {reader wideReader : Scope → List Token → Except Failure (Clause × List Token)}
    (readers : ∀ scope input,
      AgreesUnless .nestingTooDeep (reader scope input) (wideReader scope input))
    {links wideLinks : Nat} (more : links ≤ wideLinks) (scope : Scope) (input : List Token) :
    AgreesUnless .nestingTooDeep (group links reader scope input)
      (group wideLinks wideReader scope input) := by
  refine (AgreesUnless.refl _).bind fun declared => ?_
  refine (readers declared.2.1 declared.2.2).bind fun first => ?_
  exact (stands_chain (readers declared.2.1) more first.1 first.2).bind fun _ => .refl _

theorem stands_clause (within : settings.Within wide) {depth wideDepth : Nat}
    (deeper : depth ≤ wideDepth) (scope : Scope) (input : List Token) :
    AgreesUnless .nestingTooDeep (clause settings depth scope input)
      (clause wide wideDepth scope input) := by
  induction depth generalizing wideDepth scope input with
  | zero => exact .inr ⟨input, rfl⟩
  | succ depth ih =>
    obtain ⟨wideDepth, rfl⟩ := Nat.exists_eq_add_one_of_ne_zero
      (Nat.ne_zero_of_lt (Nat.lt_of_lt_of_le (Nat.succ_pos depth) deeper))
    have inner (scope : Scope) (input : List Token) :=
      ih (Nat.le_of_succ_le_succ deeper) scope input
    unfold clause
    split
    · next rest =>
      exact (stands_group inner within.maxChain scope rest).bind fun _ => .refl _
    · exact .refl _
    · next token rest _ =>
      split
      · exact .refl _
      · split
        · refine (AgreesUnless.refl _).bind fun annotated => ?_
          exact inner _ annotated.2
        · rw [within.strict]
          exact .refl _

end Grammar

namespace Query

variable {settings wide : Settings}

theorem stands_ofTokens (within : settings.Within wide) (input : List Token) :
    AgreesUnless .nestingTooDeep (ofTokens settings input) (ofTokens wide input) :=
  (Grammar.stands_group
    (Grammar.stands_clause within (Nat.succ_le_succ within.maxDepth)) within.maxChain {} input).bind
    fun _ => .refl _

/-- What a reader accepts, one with wider limits reads as the same query. -/
theorem parse_of_within (within : settings.Within wide) {text : String} {query : Query}
    (parsed : parse settings text = .ok query) : parse wide text = .ok query :=
  parse_eq_ok.2 ((stands_ofTokens within _).eq_ok (parse_eq_ok.1 parsed))

end Query
end ContextualQuery
