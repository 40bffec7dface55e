import ContextualQuery.Proofs.Lexing
import ContextualQuery.Query.Canonical

/-!
# The normal form of a query

Writing a query forgets some of its shape: which defaults were spelled out, where on a left spine
a declaration stood, whether a quote was escaped.  The normal form is what is left, the tree that
canonical text is read back to.  A query and its normal form are written alike.
-/

namespace ContextualQuery
namespace Quoted

/-- Guarding quotes changes a value only by adding backslashes. -/
theorem guardQuotes_eq_self {value : List Char} (noBackslash : '\\' ∉ guardQuotes value) :
    guardQuotes value = value := by
  fun_induction guardQuotes value with
  | case1 => rfl
  | case2 | case3 | case4 => simp at noBackslash
  | case5 c rest _ _ _ ih =>
    rw [List.mem_cons, not_or] at noBackslash
    rw [ih noBackslash.2]

theorem guardQuotes_of_plain {value : List Char} (noBackslash : '\\' ∉ value)
    (noQuote : '"' ∉ value) : guardQuotes value = value := by
  induction value with
  | nil => rfl
  | cons c rest ih =>
    rw [List.mem_cons, not_or] at noBackslash noQuote
    rw [guardQuotes_cons rest (Ne.symm noBackslash.1) (Ne.symm noQuote.1),
      ih noBackslash.2 noQuote.2]

end Quoted

/-- The text that is read back where a value was written. -/
def reread (value : String) : String := String.ofList (Quoted.guardQuotes value.toList)

@[simp]
theorem toList_reread (value : String) :
    (reread value).toList = Quoted.guardQuotes value.toList := by
  rw [reread, String.toList_ofList]

@[simp]
theorem reread_reread (value : String) : reread (reread value) = reread value := by
  rw [reread, toList_reread, Quoted.guardQuotes_guardQuotes, reread]

@[simp]
theorem quote_reread (value : String) : quote (reread value) = quote value := by
  rw [quote, quote, toList_reread, Quoted.encode, Quoted.encode, Quoted.needsQuotes_guardQuotes,
    Quoted.guardQuotes_guardQuotes]

@[simp]
theorem isEmpty_reread (value : String) : (reread value).isEmpty = value.isEmpty := by
  rw [Bool.eq_iff_iff, String.isEmpty_iff, String.isEmpty_iff, ← String.toList_eq_nil_iff,
    ← String.toList_eq_nil_iff, toList_reread, Quoted.guardQuotes_eq_nil]

/-- A value without quotes and backslashes is read back as it is. -/
theorem reread_of_plain {value : String} (noBackslash : '\\' ∉ value.toList)
    (noQuote : '"' ∉ value.toList) : reread value = value := by
  rw [reread, Quoted.guardQuotes_of_plain noBackslash noQuote, String.ofList_toList]

/-- What is read back has no backslash only if nothing had to be escaped. -/
theorem eq_of_reread_eq {value plain : String} (noBackslash : '\\' ∉ plain.toList)
    (same : reread value = plain) : value = plain := by
  rw [← same, toList_reread] at noBackslash
  rw [← same, reread, Quoted.guardQuotes_eq_self noBackslash, String.ofList_toList]

theorem reread_serverChoice : reread Index.serverChoice = Index.serverChoice :=
  reread_of_plain (by decide) (by decide)

/-- The modifier that is read back: a relation only where there is a value. -/
def Modifier.normal (modifier : Modifier) : Modifier :=
  if modifier.value.isEmpty then { name := reread modifier.name }
  else ⟨reread modifier.name, Relation.orDefault modifier.relation, reread modifier.value⟩

/-- The declaration that is read back. -/
def Prefix.normal (declared : Prefix) : Prefix := ⟨reread declared.name, reread declared.uri⟩

/-- The search clause that is read back: nothing but the term where only the term is written, and
every default spelled out where index and relation are written too. -/
def SearchClause.normal (search : SearchClause) : SearchClause :=
  if search.isBare then { term := reread search.term }
  else
    { index := reread search.indexOrDefault
      relation := search.relationOrDefault
      modifiers := search.modifiers.map Modifier.normal
      term := reread search.term }

/-- The sort key that is read back. -/
def SortKey.normal (key : SortKey) : SortKey :=
  { index := reread key.index, modifiers := key.modifiers.map Modifier.normal }

namespace Clause

/-- The declarations written in front of a clause's first operand: its own, then those of its left
operand, and so on. -/
def leading : Clause → List Prefix
  | .search prefixes _ => prefixes
  | .matchAll prefixes => prefixes
  | .boolean prefixes left _ _ _ => prefixes ++ left.leading

/-- The clause that is read back behind the leading declarations. -/
def core : Clause → Clause
  | .search _ clause => .search [] clause.normal
  | .matchAll _ => .search [] SearchClause.allRecords.normal
  | .boolean _ left operator modifiers right =>
    .boolean [] left.core operator (modifiers.map Modifier.normal)
      (right.core.withPrefixes (right.leading.map Prefix.normal))

/-- The clause that is read back. -/
def normal (clause : Clause) : Clause :=
  clause.core.withPrefixes (clause.leading.map Prefix.normal)

end Clause

/-- The query that is read back. -/
def Query.normal (query : Query) : Query :=
  { clause := query.clause.normal, sortKeys := query.sortKeys.map SortKey.normal }

/-! ## What a reader of the canonical text must allow -/

/-- How deep a search clause lies in its own text: one deeper for its relation, if it is written. -/
def SearchClause.depth (search : SearchClause) : Nat := if search.isBare then 0 else 1

namespace Clause

/-- How deep brackets and relations lie inside one another in the text of a clause. -/
def depth : Clause → Nat
  | .search _ clause => clause.depth
  | .matchAll _ => SearchClause.allRecords.depth
  | .boolean _ left _ _ right => max left.depth (right.depth + right.needsBrackets.toNat)

/-- How deep a clause lies where it is a right operand. -/
def operandDepth (clause : Clause) : Nat := clause.depth + clause.needsBrackets.toNat

/-- The number of operators in the chain that a clause is written as. -/
def links : Clause → Nat
  | .search _ _ => 0
  | .matchAll _ => 0
  | .boolean _ left _ _ _ => left.links + 1

/-- The number of operators in the longest chain in the text of a clause. -/
def longestChain : Clause → Nat
  | .search _ _ => 0
  | .matchAll _ => 0
  | .boolean _ left _ _ right => max (left.links + 1) (max left.longestChain right.longestChain)

theorem links_le_longestChain (clause : Clause) : clause.links ≤ clause.longestChain := by
  cases clause with
  | search | matchAll => exact Nat.le_refl 0
  | boolean => exact Nat.le_max_left _ _

end Clause

/-! ## A query and its normal form are written alike -/

theorem Relation.isEmpty_orDefault (relation : String) :
    (Relation.orDefault relation).isEmpty = false := by
  unfold Relation.orDefault
  split
  · rfl
  · next nonempty => simpa using nonempty

@[simp]
theorem Relation.orDefault_orDefault (relation : String) :
    Relation.orDefault (Relation.orDefault relation) = Relation.orDefault relation := by
  rw [Relation.orDefault, Relation.isEmpty_orDefault]
  rfl

theorem Modifier.text_normal (modifier : Modifier) : modifier.normal.text = modifier.text := by
  unfold Modifier.normal
  split
  · next flag => simp [Modifier.text, flag]
  · next valued => simp [Modifier.text, valued]

theorem Modifier.listText_normal (modifiers : List Modifier) :
    Modifier.listText (modifiers.map Modifier.normal) = Modifier.listText modifiers := by
  simp [Modifier.listText, Function.comp_def, Modifier.text_normal]

theorem Prefix.text_normal (declared : Prefix) : declared.normal.text = declared.text := by
  simp [Prefix.text, Prefix.normal]

theorem Prefix.listText_normal (prefixes : List Prefix) :
    Prefix.listText (prefixes.map Prefix.normal) = Prefix.listText prefixes := by
  simp [Prefix.listText, Function.comp_def, Prefix.text_normal]

theorem Prefix.listText_append (outer inner : List Prefix) :
    Prefix.listText (outer ++ inner) = Prefix.listText outer ++ Prefix.listText inner := by
  simp [Prefix.listText, String.join_append]

theorem SortKey.text_normal (key : SortKey) : key.normal.text = key.text := by
  simp [SortKey.text, SortKey.normal, Modifier.listText_normal]

theorem SortKey.listText_normal (keys : List SortKey) :
    SortKey.listText (keys.map SortKey.normal) = SortKey.listText keys := by
  simp [SortKey.listText, Function.comp_def, SortKey.text_normal]

namespace SearchClause

theorem isEmpty_indexOrDefault (search : SearchClause) : search.indexOrDefault.isEmpty = false := by
  unfold indexOrDefault
  split
  · rfl
  · next nonempty => simpa using nonempty

theorem normal_of_full {search : SearchClause} (full : search.isBare = false) :
    search.normal.indexOrDefault = reread search.indexOrDefault ∧
      search.normal.relationOrDefault = search.relationOrDefault ∧
      search.normal.modifiers = search.modifiers.map Modifier.normal := by
  have index : (reread search.indexOrDefault).isEmpty = false := by
    rw [isEmpty_reread, isEmpty_indexOrDefault]
  refine ⟨?_, ?_, ?_⟩
  · simp only [normal, full, Bool.false_eq_true, if_false]
    rw [indexOrDefault, index]
    rfl
  · simp only [normal, full, Bool.false_eq_true, if_false]
    exact Relation.orDefault_orDefault _
  · simp only [normal, full, Bool.false_eq_true, if_false]

theorem indexOrDefault_normal (search : SearchClause) :
    search.normal.indexOrDefault = reread search.indexOrDefault := by
  cases bare : search.isBare with
  | false => exact (normal_of_full bare).1
  | true =>
    have index : search.indexOrDefault = Index.serverChoice := by
      simp only [isBare, Bool.and_eq_true, beq_iff_eq] at bare
      exact bare.1.1
    rw [normal, if_pos bare, index, reread_serverChoice]
    rfl

/-- The relation is read back as it is, unless it is the server's choice and left out. -/
theorem relationOrDefault_normal (search : SearchClause) :
    search.normal.relationOrDefault = search.relationOrDefault ∨
      search.relationOrDefault = Relation.serverChoice ∧
        search.normal.relationOrDefault = Relation.default := by
  cases bare : search.isBare with
  | false => exact .inl (normal_of_full bare).2.1
  | true =>
    have relation : search.normal.relationOrDefault = Relation.default := by
      rw [normal, if_pos bare]
      rfl
    simp only [isBare, Bool.and_eq_true, Bool.or_eq_true, beq_iff_eq] at bare
    rcases bare.1.2 with default | choice
    · exact .inl (by rw [relation, default])
    · exact .inr ⟨choice, relation⟩

theorem term_normal (search : SearchClause) : search.normal.term = reread search.term := by
  unfold normal
  split <;> rfl

/-- A clause is written as its term alone exactly if its normal form is. -/
theorem isBare_normal (search : SearchClause) : search.normal.isBare = search.isBare := by
  cases bare : search.isBare with
  | true =>
    rw [normal, if_pos bare]
    rfl
  | false =>
    obtain ⟨index, relation, modifiers⟩ := normal_of_full bare
    have sameIndex : (reread search.indexOrDefault == Index.serverChoice) =
        (search.indexOrDefault == Index.serverChoice) := by
      rw [Bool.eq_iff_iff, beq_iff_eq, beq_iff_eq]
      constructor
      · exact eq_of_reread_eq (by decide)
      · intro same
        rw [same, reread_serverChoice]
    rw [← bare, isBare, isBare, index, relation, modifiers, sameIndex, List.isEmpty_map]

theorem text_normal (search : SearchClause) : search.normal.text = search.text := by
  rw [text, text, isBare_normal]
  cases bare : search.isBare with
  | true => simp [term_normal]
  | false =>
    obtain ⟨index, relation, modifiers⟩ := normal_of_full bare
    simp [index, relation, modifiers, term_normal, Modifier.listText_normal]

end SearchClause

namespace Clause

@[simp]
theorem prefixes_core (clause : Clause) : clause.core.prefixes = [] := by
  cases clause <;> rfl

@[simp]
theorem prefixes_normal (clause : Clause) :
    clause.normal.prefixes = clause.leading.map Prefix.normal :=
  prefixes_withPrefixes _ _

theorem text_withPrefixes (declared : List Prefix) (clause : Clause) :
    (clause.withPrefixes declared).text =
      Prefix.listText declared ++ (clause.withPrefixes []).text := by
  cases clause <;> simp [withPrefixes, text, Prefix.listText, String.append_assoc]

theorem withPrefixes_core (clause : Clause) : clause.core.withPrefixes [] = clause.core := by
  rw [← prefixes_core clause, withPrefixes_prefixes]

/-- A right operand without brackets has no declarations in front. -/
theorem leading_eq_nil {clause : Clause} (unbracketed : clause.needsBrackets = false) :
    clause.leading = [] := by
  cases clause with
  | search prefixes | matchAll prefixes =>
    simpa [needsBrackets, isBoolean, Clause.prefixes, leading] using unbracketed
  | boolean => simp [needsBrackets, isBoolean] at unbracketed

theorem needsBrackets_normal (clause : Clause) :
    clause.normal.needsBrackets = clause.needsBrackets := by
  cases clause <;> simp [needsBrackets, normal, core, withPrefixes, leading, isBoolean, prefixes]

/-- The text of a clause is its leading declarations and its core. -/
theorem text_eq (clause : Clause) :
    clause.text = Prefix.listText clause.leading ++ clause.core.text := by
  induction clause with
  | search declared search => simp [text, leading, core, SearchClause.text_normal, Prefix.listText]
  | matchAll declared => simp [text, leading, core, SearchClause.text_normal, Prefix.listText]
  | boolean declared left operator modifiers right leftEq rightEq =>
    have rightText : right.normal.text = right.text := by
      rw [normal, text_withPrefixes, withPrefixes_core, Prefix.listText_normal, ← rightEq]
    have brackets := needsBrackets_normal right
    rw [normal] at rightText brackets
    simp only [text, leading, core, leftEq, rightText, brackets, Prefix.listText_append,
      Modifier.listText_normal]
    simp [Prefix.listText, String.append_assoc]

theorem text_normal (clause : Clause) : clause.normal.text = clause.text := by
  rw [normal, text_withPrefixes, withPrefixes_core, Prefix.listText_normal, ← text_eq]

end Clause

/-- A query and its normal form have the same canonical text. -/
theorem Query.text_normal (query : Query) : query.normal.text = query.text := by
  rw [text, text, normal, Clause.text_normal, SortKey.listText_normal]

end ContextualQuery
