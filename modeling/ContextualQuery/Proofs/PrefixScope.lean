import ContextualQuery.Proofs.Idempotence
import ContextualQuery.Proofs.Limits

/-!
# The scope of declarations in canonical text

A declaration holds for the clause that it precedes and for all inside it, and the nearest one of a
name is in force.  Canonical text has no brackets around a left operand, so the declarations of a
left operand stand in front of the right operand too.  Every word is still resolved as before where
none of those comes between it and the declaration in force.
-/

namespace ContextualQuery

/-! ## Resolving words -/

/-- The identifier of the context set that a dotted word belongs to: that of the last declaration of
the part in front of its first dot. -/
def Prefix.resolve (declared : List Prefix) (word : String) : Option String :=
  if '.' ∈ word.toList then
    (declared.filter (·.name = Scope.qualifier word)).getLast?.map Prefix.uri
  else none

/-- A declaration that stands in front of a search clause in canonical text. -/
structure Standing where
  declared : Prefix
  /-- Whether it precedes a clause that the search clause is in, not a left operand beside it. -/
  inForce : Bool
deriving DecidableEq, Repr

/-- A search clause with the declarations in front of it, the outermost first. -/
structure Leaf where
  search : SearchClause
  front : List Standing
deriving DecidableEq, Repr

namespace Leaf

/-- The declarations that hold for the search clause, the outermost first. -/
def declared (leaf : Leaf) : List Prefix :=
  (leaf.front.filter (·.inForce)).map (·.declared)

def resolve (leaf : Leaf) (word : String) : Option String := Prefix.resolve leaf.declared word

/-- Whether a dotted word is resolved as before when it is written so in canonical text. -/
structure Keeps (leaf : Leaf) (word written : String) : Prop where
  /-- Escaping neither joins nor separates the part in front of the first dot and a name. -/
  names : '.' ∈ word.toList → ∀ standing ∈ leaf.front,
    reread standing.declared.name = Scope.qualifier written ↔
      standing.declared.name = Scope.qualifier word
  /-- The nearest declaration of the name is in force. -/
  nearest : '.' ∈ word.toList → ∀ standing ∈
    (leaf.front.filter (·.declared.name = Scope.qualifier word)).getLast?, standing.inForce = true

end Leaf

/-- The search clauses from left to right, each with the declarations in front of it, under those
that stand in front of the whole. -/
def Clause.leaves (front : List Standing) : Clause → List Leaf
  | .search prefixes clause => [⟨clause, front ++ prefixes.map (⟨·, true⟩)⟩]
  | .matchAll _ => []
  | .boolean prefixes left _ _ right =>
    left.leaves (front ++ prefixes.map (⟨·, true⟩)) ++
      right.leaves (front ++ prefixes.map (⟨·, true⟩) ++ left.leading.map (⟨·, false⟩))

def Query.leaves (query : Query) : List Leaf := query.clause.leaves []

/-! ## The leaves of a normal form -/

/-- A declaration as it is read back, in force for all behind it. -/
def Standing.settled (standing : Standing) : Standing := ⟨standing.declared.normal, true⟩

/-- A search clause as it is read back. -/
def Leaf.settled (leaf : Leaf) : Leaf := ⟨leaf.search.normal, leaf.front.map Standing.settled⟩

namespace Clause

@[simp]
theorem leading_core (clause : Clause) : clause.core.leading = [] := by
  induction clause with
  | search | matchAll => rfl
  | boolean prefixes left operator modifiers right leftNone _ => rw [core, leading, leftNone]; rfl

theorem leaves_withPrefixes {clause : Clause} (bare : clause.prefixes = [])
    (declared : List Prefix) (front : List Standing) :
    (clause.withPrefixes declared).leaves front =
      clause.leaves (front ++ declared.map (⟨·, true⟩)) := by
  cases clause with
  | search prefixes search | matchAll prefixes =>
    obtain rfl : prefixes = [] := bare
    simp [withPrefixes, leaves]
  | boolean prefixes left operator modifiers right =>
    obtain rfl : prefixes = [] := bare
    simp [withPrefixes, leaves]

/-- Behind its leading declarations, the clause that is read back has the same search clauses with
the same declarations in front of them, all in force. -/
theorem leaves_core {clause : Clause} (searches : clause.hasMatchAll = false)
    (front : List Standing) :
    clause.core.leaves
      (front.map Standing.settled ++ (clause.leading.map Prefix.normal).map (⟨·, true⟩)) =
      (clause.leaves front).map Leaf.settled := by
  induction clause generalizing front with
  | search prefixes search =>
    simp [core, leaves, leading, Leaf.settled, Standing.settled, Function.comp_def]
  | matchAll => cases searches
  | boolean prefixes left operator modifiers right leftLeaves rightLeaves =>
    rw [hasMatchAll, Bool.or_eq_false_iff] at searches
    have onLeft := leftLeaves searches.1 (front ++ prefixes.map (⟨·, true⟩))
    have onRight := rightLeaves searches.2
      (front ++ prefixes.map (⟨·, true⟩) ++ left.leading.map (⟨·, false⟩))
    rw [core, leaves, leaves, leaves_withPrefixes right.prefixes_core, leading_core, List.map_append,
      ← onLeft, ← onRight]
    simp [leading, Standing.settled, Function.comp_def]

theorem leaves_normal {clause : Clause} (searches : clause.hasMatchAll = false) :
    clause.normal.leaves [] = (clause.leaves []).map Leaf.settled := by
  rw [normal, leaves_withPrefixes clause.prefixes_core]
  exact leaves_core searches []

end Clause

/-! ## Words that are read back -/

/-- Dropping what fails a test does not change the last element if that passes it. -/
theorem getLast?_filter {α : Type} {test : α → Bool} {values : List α}
    (last : ∀ value ∈ values.getLast?, test value = true) :
    (values.filter test).getLast? = values.getLast? := by
  rcases List.eq_nil_or_concat values with rfl | ⟨before, value, rfl⟩
  · rfl
  · have passes := last value (by simp)
    simp [List.filter_append, passes]

namespace Leaf

variable {leaf : Leaf} {word written : String}

/-- Under the declarations that are read back, a word belongs to the context set that it did. -/
theorem resolve_settled (sameDot : '.' ∈ written.toList ↔ '.' ∈ word.toList)
    (keeps : leaf.Keeps word written) :
    leaf.settled.resolve written = (leaf.resolve word).map reread := by
  unfold Leaf.resolve Prefix.resolve
  simp only [sameDot]
  split
  · next dotted =>
    have declared : leaf.settled.declared = leaf.front.map (·.declared.normal) := by
      simp [Leaf.declared, settled, Standing.settled, List.filter_map, Function.comp_def]
    have same : leaf.front.filter (fun standing => reread standing.declared.name =
        Scope.qualifier written) =
        leaf.front.filter (fun standing => standing.declared.name = Scope.qualifier word) :=
      List.filter_congr fun standing member => by simp [keeps.names dotted standing member]
    have nearest := getLast?_filter (keeps.nearest dotted)
    rw [List.filter_comm] at nearest
    rw [declared, Leaf.declared, List.filter_map, List.filter_map, List.getLast?_map,
      List.getLast?_map]
    simp only [Function.comp_def, Prefix.normal, same, nearest, Option.map_map]
  · rfl

end Leaf

theorem dot_mem_reread {word : String} : '.' ∈ (reread word).toList ↔ '.' ∈ word.toList := by
  rw [toList_reread]
  fun_induction Quoted.guardQuotes word.toList with
  | case1 => rfl
  | case2 => simp
  | case3 c rest ih => simp [ih]
  | case4 rest ih => simp [ih]
  | case5 c rest _ _ _ ih => simp [ih]

theorem SearchClause.dot_mem_relation {search : SearchClause} :
    '.' ∈ search.normal.relationOrDefault.toList ↔ '.' ∈ search.relationOrDefault.toList := by
  rcases search.relationOrDefault_normal with same | ⟨choice, default⟩
  · rw [same]
  · rw [choice, default]
    decide

namespace Query

/-- An accepted query has no match-all clauses, and is read back from its canonical text, if at all,
as its normal form. -/
theorem eq_normal_of_parse_text {settings other : Settings} {text : String} {query again : Query}
    (parsed : parse settings text = .ok query)
    (unquoted : query.clause.EverySearch (fun declared search =>
      Relation.Unquoted declared search.relationOrDefault) [])
    (parsedAgain : parse other query.text = .ok again) : again = query.normal := by
  have accepted := accepted_of_parse parsed
  let wide : Settings :=
    { strict := other.strict
      maxDepth := max other.maxDepth settings.maxDepth
      maxChain := max other.maxChain query.clause.longestChain }
  have within : other.Within wide := ⟨rfl, Nat.le_max_left _ _, Nat.le_max_left _ _⟩
  have allows : wide.Allows query :=
    ⟨Nat.le_trans accepted.deep (Nat.le_max_right _ _), Nat.le_max_right _ _⟩
  have normal := parse_text (accepted.legible unquoted) allows
  rw [parse_of_within within parsedAgain] at normal
  exact Except.ok.inj normal

/-- The search clauses of a query are read back in order from its canonical text, whatever the
limits, and an index or relation that is kept there belongs to the context set that it did, whose
identifier is written with its quotes escaped.  What is left out counts as its default. -/
theorem leaves_of_parse_text {settings other : Settings} {text : String} {query again : Query}
    (parsed : parse settings text = .ok query)
    (unquoted : query.clause.EverySearch (fun declared search =>
      Relation.Unquoted declared search.relationOrDefault) [])
    (parsedAgain : parse other query.text = .ok again) :
    List.Forall₂ (fun before after : Leaf =>
      after.search = before.search.normal ∧
      (before.Keeps before.search.indexOrDefault after.search.indexOrDefault →
        after.resolve after.search.indexOrDefault =
          (before.resolve before.search.indexOrDefault).map reread) ∧
      (before.Keeps before.search.relationOrDefault after.search.relationOrDefault →
        after.resolve after.search.relationOrDefault =
          (before.resolve before.search.relationOrDefault).map reread))
      query.leaves again.leaves := by
  have searches := (accepted_of_parse parsed).clause.searches
  rw [eq_normal_of_parse_text parsed unquoted parsedAgain, leaves, leaves, normal,
    Clause.leaves_normal searches, List.forall₂_map_right_iff, List.forall₂_same]
  intro leaf _
  refine ⟨rfl, Leaf.resolve_settled ?_, Leaf.resolve_settled SearchClause.dot_mem_relation⟩
  change '.' ∈ leaf.search.normal.indexOrDefault.toList ↔ _
  rw [SearchClause.indexOrDefault_normal, dot_mem_reread]

theorem leaves_of_parse_text_shadowed :
    let tight : Settings := { strict := true, maxDepth := 2, maxChain := 1 }
    let query : Query :=
      { clause := .boolean [⟨"dc", "u"⟩]
          (.search [⟨"dc", "v"⟩] { index := "dc.x", relation := "=", term := "1" }) .or []
          (.boolean [⟨"dc", "w"⟩] (.search [] { index := "dc.y", relation := "=", term := "2" }) .and
            [] (.search [] { index := "dc.z", relation := "dc.r", term := "3" })) }
    parse {} "> dc = u (> dc = v dc.x = 1) or (> dc = w dc.y = 2 and dc.z dc.r 3)" = .ok query ∧
      ∃ again, parse tight query.text = .ok again ∧
        again.leaves.map (fun leaf => (leaf.resolve leaf.search.indexOrDefault,
          leaf.resolve leaf.search.relationOrDefault)) =
          [(some "v", none), (some "w", none), (some "w", some "w")] := by
  intro tight query
  have parsed : parse {} "> dc = u (> dc = v dc.x = 1) or (> dc = w dc.y = 2 and dc.z dc.r 3)" =
      .ok query := parse_ofList.2 (eq_ok_of_toOption (by decide +kernel))
  have equal (declared : List Prefix) : Relation.Unquoted declared "=" :=
    ⟨by decide, by decide +kernel, fun dotted => absurd dotted (by decide)⟩
  have dotted (declared : List Prefix) : Relation.Unquoted declared "dc.r" :=
    ⟨by decide, by decide +kernel, fun _ => .inr (by decide)⟩
  have written : query.text =
      "> dc = u > dc = v dc.x = 1 or (> dc = w dc.y = 2 and dc.z dc.r 3)" := by decide +kernel
  have parsedAgain : parse tight query.text = .ok query.normal := by
    rw [written]
    exact parse_ofList.2 (eq_ok_of_toOption (by decide +kernel))
  have leaves := leaves_of_parse_text parsed ⟨equal _, equal _, dotted _⟩ parsedAgain
  refine ⟨parsed, query.normal, parsedAgain, ?_⟩
  let leaf (own : List Standing) (search : SearchClause) : Leaf := ⟨search, ⟨⟨"dc", "u"⟩, true⟩ :: own⟩
  have split : query.leaves =
      [leaf [⟨⟨"dc", "v"⟩, true⟩] { index := "dc.x", relation := "=", term := "1" },
        leaf [⟨⟨"dc", "v"⟩, false⟩, ⟨⟨"dc", "w"⟩, true⟩]
          { index := "dc.y", relation := "=", term := "2" },
        leaf [⟨⟨"dc", "v"⟩, false⟩, ⟨⟨"dc", "w"⟩, true⟩]
          { index := "dc.z", relation := "dc.r", term := "3" }] := rfl
  have splitAgain : query.normal.leaves = query.leaves.map Leaf.settled := rfl
  rw [splitAgain, split] at leaves
  simp only [List.map_cons, List.map_nil, List.forall₂_cons] at leaves
  obtain ⟨⟨-, inner, -⟩, ⟨-, beside, -⟩, ⟨-, index, relation⟩, -⟩ := leaves
  rw [splitAgain, split]
  simp only [List.map_cons, List.map_nil]
  rw [inner ⟨by decide +kernel, by decide +kernel⟩, beside ⟨by decide +kernel, by decide +kernel⟩,
    index ⟨by decide +kernel, by decide +kernel⟩, relation ⟨by decide +kernel, by decide +kernel⟩]
  decide +kernel

/-- Canonical text need not keep the scope of a declaration: one in front of a left operand reaches
the right one, and one whose name or identifier has a quote in it is another once that is escaped.
A relation that was written in quotes may even be read back as several clauses. -/
theorem exists_rescoped_text :
    let sets (query : Query) := query.leaves.map fun leaf => leaf.resolve leaf.search.indexOrDefault
    (∃ query again, parse {} "(> dc = u dc.x = 1) or dc.y = 2" = .ok query ∧
      parse {} query.text = .ok again ∧
      sets query = [some "u", none] ∧ sets again = [some "u", some "u"]) ∧
    (∃ query again, parse {} "> dc = a\"b dc.x = 1" = .ok query ∧
      parse {} query.text = .ok again ∧
      sets query = [some "a\"b"] ∧ sets again = [some "a\\\"b"]) ∧
    (∃ query again, parse {} "> \"a\\\"b\" = u > a\"b = v a\\\"b.c = x" = .ok query ∧
      parse {} query.text = .ok again ∧ sets query = [some "u"] ∧ sets again = [some "v"]) ∧
    (∃ query again, parse {} "> u a \"= b or c =\" d" = .ok query ∧
      parse {} query.text = .ok again ∧ query.leaves.length = 1 ∧ again.leaves.length = 2) := by
  intro sets
  refine ⟨?leak, ?identifier, ?name, ?relation⟩
  case leak =>
    let query : Query :=
      { clause := .joined (.search [⟨"dc", "u"⟩] { index := "dc.x", relation := "=", term := "1" })
          .or (.equating "dc.y" "2") }
    refine ⟨query, query.normal, ?_, ?_, by decide, by decide⟩
    · exact parse_ofList.2 (eq_ok_of_toOption (by decide +kernel))
    · exact parse_eq_ok.2 (eq_ok_of_toOption (by decide +kernel))
  case identifier =>
    let query : Query :=
      { clause := .search [⟨"dc", "a\"b"⟩] { index := "dc.x", relation := "=", term := "1" } }
    refine ⟨query, query.normal, ?_, ?_, by decide, by decide⟩
    · exact parse_ofList.2 (eq_ok_of_toOption (by decide +kernel))
    · exact parse_eq_ok.2 (eq_ok_of_toOption (by decide +kernel))
  case name =>
    let query : Query :=
      { clause := .search [⟨"a\\\"b", "u"⟩, ⟨"a\"b", "v"⟩]
          { index := "a\\\"b.c", relation := "=", term := "x" } }
    refine ⟨query, query.normal, ?_, ?_, by decide, by decide⟩
    · exact parse_ofList.2 (eq_ok_of_toOption (by decide +kernel))
    · exact parse_eq_ok.2 (eq_ok_of_toOption (by decide +kernel))
  case relation =>
    let again : Query :=
      { clause := .boolean [⟨"", "u"⟩] (.equating "a" "b") .or [] (.equating "c" "d") }
    refine ⟨{ clause := .search [⟨"", "u"⟩] { index := "a", relation := "= b or c =", term := "d" } },
      again, ?_, ?_, rfl, rfl⟩
    · exact parse_ofList.2 (eq_ok_of_toOption (by decide +kernel))
    · exact parse_eq_ok.2 (eq_ok_of_toOption (by decide +kernel))

end Query
end ContextualQuery
