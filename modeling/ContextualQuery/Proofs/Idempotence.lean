import ContextualQuery.Proofs.Accepted

/-!
# Canonical text is stable

The canonical text of an accepted query is read back to a query with the same text.  Three things
can stand in the way.  Brackets around a left operand are dropped, so its chain grows into the one
around it and may become too long.  A relation that was written in quotes is printed without them.
And a declared name with a quote in it is escaped where it is declared but not in a relation.
-/

namespace ContextualQuery
namespace Relation

/-- Whether a relation can do without quotes and, where a dotted one depends on a declared name,
the name can do without escapes. -/
structure Unquoted (declared : List Prefix) (relation : String) : Prop where
  /-- The relation is a comparison or one bare word. -/
  spelled : isSpelled relation = true
  free : isReserved relation = false
  /-- Its qualifier is read back as it is, unless any word may be a relation. -/
  qualified : Quoted.hasDot relation.toList = true →
    (∃ outer ∈ declared, outer.name = "") ∨
      reread (Scope.qualifier relation) = Scope.qualifier relation

/-- A relation that was taken for one reads as itself if it can do without quotes. -/
theorem Unquoted.readsUnder {declared : List Prefix} {relation : String}
    (unquoted : Unquoted declared relation) (taken : Taken declared relation) :
    ReadsUnder declared relation := by
  cases found : Comparison.ofSymbol? relation with
  | some symbol =>
    rw [Comparison.symbol_of_ofSymbol? found]
    exact readsUnder_symbol symbol
  | none =>
    have bare : Quoted.isBareWord relation = true := by
      have spelled := unquoted.spelled
      rwa [isSpelled, found, Option.isSome_none, Bool.false_or] at spelled
    by_cases unnamed : ∃ outer ∈ declared, outer.name = ""
    · exact readsUnder_of_unnamed bare unquoted.free unnamed
    · cases taken with
      | comparison symbol => exact readsUnder_symbol symbol
      | named isNamed => exact readsUnder_of_named isNamed
      | dotted free dotted known =>
        apply readsUnder_of_qualifier bare free dotted
        refine known.imp id ?_
        rintro ⟨outer, member, same⟩
        refine ⟨outer, member, fun empty => unnamed ⟨outer, member, empty⟩, ?_⟩
        rw [same]
        exact (unquoted.qualified dotted).resolve_left unnamed
      | custom _ allowed => exact absurd allowed unnamed

end Relation

namespace Clause

theorem EverySearch.and {first second : List Prefix → SearchClause → Prop} {clause : Clause}
    {outer : List Prefix} (one : clause.EverySearch first outer)
    (other : clause.EverySearch second outer) :
    clause.EverySearch (fun declared search => first declared search ∧ second declared search)
      outer := by
  induction clause generalizing outer with
  | search => exact ⟨one, other⟩
  | matchAll => trivial
  | boolean prefixes left operator modifiers right leftAnd rightAnd =>
    exact ⟨leftAnd one.1 other.1, rightAnd one.2 other.2⟩

end Clause

namespace Query

theorem Accepted.legible {settings : Settings} {query : Query} (accepted : query.Accepted settings)
    (unquoted : query.clause.EverySearch (fun declared search =>
      Relation.Unquoted declared search.relationOrDefault) []) : query.Legible where
  clause := by
    refine ⟨(accepted.clause.relations.and unquoted).mono ?_, accepted.clause.modifiers⟩
    rintro declared search ⟨empty | taken, unquoted⟩
    · rw [SearchClause.relationOrDefault, empty]
      exact Relation.readsUnder_symbol .equal
    · apply unquoted.readsUnder
      unfold SearchClause.relationOrDefault Relation.orDefault
      split
      · exact .comparison .equal
      · exact taken
  sorting := accepted.sorting

/-- The canonical text of an accepted query is accepted under the same settings and is its own
canonical text. -/
theorem text_of_parse_text {settings : Settings} {text : String} {query : Query}
    (parsed : parse settings text = .ok query)
    (unquoted : query.clause.EverySearch (fun declared search =>
      Relation.Unquoted declared search.relationOrDefault) [])
    (wide : query.clause.longestChain ≤ settings.maxChain) :
    ∃ again, parse settings query.text = .ok again ∧ again.text = query.text := by
  have accepted := accepted_of_parse parsed
  exact ⟨query.normal, parse_text (accepted.legible unquoted) ⟨accepted.deep, wide⟩,
    query.text_normal⟩

theorem text_of_parse_text_distributed :
    let settings : Settings := { strict := true, maxDepth := 3, maxChain := 1 }
    let query : Query :=
      { clause := .boolean [⟨"u", "x"⟩]
          (.search [] { index := "t", relation := "u.r", modifiers := [⟨"m", "", ""⟩], term := "a" })
          .or []
          (.search [⟨"", "y"⟩]
            { index := "t", relation := "u.r", modifiers := [⟨"m", "", ""⟩], term := "b c" }) }
    parse settings "> u = x t u.r/m (a or (> y \"b c\"))" = .ok query ∧
      ∃ again, parse settings query.text = .ok again ∧ again.text = query.text := by
  intro settings query
  have parsed : parse settings "> u = x t u.r/m (a or (> y \"b c\"))" = .ok query :=
    parse_ofList.2 (eq_ok_of_toOption (by decide +kernel))
  have unquoted (declared : List Prefix) : Relation.Unquoted declared "u.r" :=
    ⟨by decide, by decide +kernel, fun _ => .inr (by decide)⟩
  exact ⟨parsed, text_of_parse_text parsed ⟨unquoted _, unquoted _⟩ (by decide)⟩

/-- Text whose relations are quoted or whose chains are bracketed on the left need not stay
canonical. -/
theorem exists_unstable_text :
    (∃ query, parse { maxChain := 1 } "(a or b) or c" = .ok query ∧
      (parse { maxChain := 1 } query.text).isOk = false) ∧
    (∃ query, parse {} "> u a \"x y\" b" = .ok query ∧ (parse {} query.text).isOk = false) ∧
    (∃ query again, parse {} "> a\"b = u x a\"b.c y" = .ok query ∧
      parse {} query.text = .ok again ∧ again.text ≠ query.text) := by
  refine ⟨?chain, ?quoted, ?escaped⟩
  case chain =>
    let term (text : String) : Clause := .search [] { term := text }
    refine ⟨{ clause := .joined (.joined (term "a") .or (term "b")) .or (term "c") }, ?_, ?_⟩
    · exact parse_ofList.2 (eq_ok_of_toOption (by decide +kernel))
    · decide +kernel
  case quoted =>
    refine ⟨{ clause := .search [⟨"", "u"⟩] { index := "a", relation := "x y", term := "b" } },
      ?_, ?_⟩
    · exact parse_ofList.2 (eq_ok_of_toOption (by decide +kernel))
    · decide +kernel
  case escaped =>
    refine ⟨{ clause := .search [⟨"a\"b", "u"⟩] { index := "x", relation := "a\"b.c", term := "y" } },
      { clause := .search [⟨"a\\\"b", "u"⟩] { term := "x a\"b.c y" } }, ?_, ?_, ?_⟩
    · exact parse_ofList.2 (eq_ok_of_toOption (by decide +kernel))
    · exact eq_ok_of_toOption (by decide +kernel)
    · decide +kernel

end Query
end ContextualQuery
