import ContextualQuery.Proofs.NormalForm
import ContextualQuery.Sql.Field

/-!
# Literal terms

A term that is to match literally has a backslash in front of every character that quotes, escapes
or masks.  It is read back as it is, and a column that compares whole values takes it for the value
that it was made from.
-/

namespace ContextualQuery

theorem Glyph.ofChars_cons {c : Char} (plain : isEscapable c = false) (rest : List Char) :
    ofChars (c :: rest) = .plain c :: ofChars rest := by
  rw [ofChars]
  case x_2 => rintro _ _ rfl; cases plain
  all_goals rintro rfl; cases plain

namespace Escape

/-- A character as it stands in a term that is to match literally. -/
def literally (c : Char) : List Char := if Glyph.isEscapable c then ['\\', c] else [c]

theorem toList_masking_special (value : String) :
    (masking (special value)).toList = value.toList.flatMap literally := by
  rw [masking, special, String.toList_ofList, String.toList_ofList, List.flatMap_assoc]
  refine congrArg (value.toList.flatMap ·) (funext fun c => ?_)
  by_cases special : c == '\\' || c == '"'
  · rcases Bool.or_eq_true _ _ ▸ special with same | same <;>
      rw [beq_iff_eq.1 same] <;> rfl
  · have plain := Bool.eq_false_iff.2 special
    rw [Bool.or_eq_false_iff] at plain
    simp [literally, Glyph.isEscapable, plain]

variable {value : List Char}

theorem literally_of_escapable {c : Char} (escapable : Glyph.isEscapable c = true) :
    literally c = ['\\', c] := if_pos escapable

theorem literally_of_plain {c : Char} (plain : Glyph.isEscapable c = false) :
    literally c = [c] := by
  rw [literally, plain]
  rfl

theorem ne_of_plain {c d : Char} (plain : Glyph.isEscapable c = false)
    (escapable : Glyph.isEscapable d = true) : c ≠ d := by
  rintro rfl
  rw [plain] at escapable
  cases escapable

/-- Nothing is left to guard in a literal term. -/
theorem guardQuotes_literally (value : List Char) :
    Quoted.guardQuotes (value.flatMap literally) = value.flatMap literally := by
  induction value with
  | nil => rfl
  | cons c rest ih =>
    rw [List.flatMap_cons]
    cases kind : Glyph.isEscapable c with
    | true =>
      rw [literally_of_escapable kind, List.cons_append, List.cons_append, List.nil_append,
        Quoted.guardQuotes, ih]
    | false =>
      rw [literally_of_plain kind, List.cons_append, List.nil_append,
        Quoted.guardQuotes_cons _ (ne_of_plain kind (by decide)) (ne_of_plain kind (by decide)), ih]

/-- Every glyph of a literal term is a character. -/
theorem ofChars_literally (value : List Char) :
    Glyph.ofChars (value.flatMap literally) =
      value.map fun c => if Glyph.isEscapable c then .escaped c else .plain c := by
  induction value with
  | nil => rfl
  | cons c rest ih =>
    rw [List.flatMap_cons, List.map_cons, ← ih]
    cases kind : Glyph.isEscapable c with
    | true =>
      rw [literally_of_escapable kind, List.cons_append, List.cons_append, List.nil_append,
        Glyph.ofChars, kind]
      rfl
    | false =>
      rw [literally_of_plain kind, List.cons_append, List.nil_append, Glyph.ofChars_cons kind]
      rfl

end Escape

/-- A term as it is written to match literally. -/
def literalTerm (term : String) : String := Escape.masking (Escape.special term)

theorem reread_literalTerm (term : String) : reread (literalTerm term) = literalTerm term := by
  rw [reread, literalTerm, Escape.toList_masking_special, Escape.guardQuotes_literally,
    ← Escape.toList_masking_special, String.ofList_toList]

theorem isEmpty_literalTerm {term : String} (nonempty : term ≠ "") :
    (literalTerm term).isEmpty = false := by
  rw [← Bool.not_eq_true, String.isEmpty_iff, ← String.toList_eq_nil_iff, literalTerm,
    Escape.toList_masking_special]
  cases split : term.toList with
  | nil => exact absurd (String.toList_eq_nil_iff.1 split) nonempty
  | cons c rest =>
    rw [List.flatMap_cons, Escape.literally]
    split <;> simp

theorem ofTerm_literalTerm (term : String) :
    Glyph.ofTerm (literalTerm term) =
      term.toList.map fun c => if Glyph.isEscapable c then .escaped c else .plain c := by
  rw [Glyph.ofTerm, literalTerm, Escape.toList_masking_special, Escape.ofChars_literally]

namespace Masking

theorem exactTerm_literalTerm (term : String) : exactTerm (literalTerm term) = .ok term := by
  rw [exactTerm, exactText, ofTerm_literalTerm, List.mapM_map]
  have each : Glyph.exact ∘ (fun c => if Glyph.isEscapable c then .escaped c else .plain c) =
      fun c => pure c := by
    funext c
    rw [Function.comp_apply]
    split <;> rfl
  rw [each, List.mapM_pure, List.map_id']
  change Except.ok (String.ofList term.toList) = _
  rw [String.ofList_toList]

/-- A literal term has a pattern, as no glyph in it anchors and no escape in it is bad. -/
theorem exists_likePattern_literalTerm (term : String) :
    ∃ pattern, likePattern (literalTerm term) = .ok pattern := by
  refine ⟨String.ofList (term.toList.map fun c =>
    if c == '\\' || c == '%' || c == '_' then ['\\', c] else [c]).flatten, ?_⟩
  rw [likePattern, ofTerm_literalTerm, List.mapM_map]
  have each : Glyph.likePattern ∘
      (fun c => if Glyph.isEscapable c then .escaped c else .plain c) =
      fun c => pure (if c == '\\' || c == '%' || c == '_' then ['\\', c] else [c]) := by
    funext c
    rw [Function.comp_apply]
    cases kind : Glyph.isEscapable c with
    | true =>
      simp only [Glyph.isEscapable, Bool.or_eq_true, beq_iff_eq] at kind
      rcases kind with (((rfl | rfl) | rfl) | rfl) | rfl <;> rfl
    | false =>
      rw [beq_false_of_ne (Escape.ne_of_plain kind (by decide)), Bool.false_or]
      rfl
  rw [each, List.mapM_pure]
  rfl

theorem isMasked_literalTerm (term : String) : isMasked (literalTerm term) = false := by
  rw [isMasked, ofTerm_literalTerm, List.any_map, List.any_eq_false]
  intro c _
  rw [Function.comp_apply]
  split <;> simp [Glyph.isMask]

end Masking

namespace TextField

/-- Whether the field compares whole values and at most takes patterns besides: no full-text
search, no lists of words. -/
def ComparesWhole (field : TextField) : Prop :=
  field = withExact { column := field.column } ∨ field = withLike { column := field.column }

/-- A literal term is compared as the value that it was made from, never as a pattern. -/
theorem predicate_of_literalTerm {field : TextField} {search : SearchClause} {term : String}
    (valid : isIdentifier field.column = true) (compares : field.ComparesWhole)
    (default : search.relationOrDefault = Relation.default) (nonempty : term ≠ "")
    (literal : search.term = literalTerm term) :
    field.predicate search = .ok (.compare field.column .equal (.text term)) := by
  have asks : search.asksForAny = false := by
    rw [SearchClause.asksForAny, literal, isEmpty_literalTerm nonempty, Bool.false_and]
  have plain : field.language = none ∧ field.split = false ∧ field.exact = true := by
    rcases compares with same | same <;> rw [same] <;> exact ⟨rfl, rfl, rfl⟩
  obtain ⟨noLanguage, noSplit, exact⟩ := plain
  have whole : field.whole Relation.default (literalTerm term) =
      .ok (.compare field.column .equal (.text term)) := by
    rw [TextField.whole, Masking.exactTerm_literalTerm]
    rfl
  obtain ⟨pattern, hasPattern⟩ := Masking.exists_likePattern_literalTerm term
  have either : field.wholeOrPattern Relation.default (literalTerm term) =
      .ok (.compare field.column .equal (.text term)) := by
    rw [wholeOrPattern, hasPattern, Masking.isMasked_literalTerm, whole]
    split <;> rfl
  have noFullText : field.fullText? Relation.default = none := by
    rw [fullText?, noLanguage]
    rfl
  simp only [predicate, checkColumn, valid, default, literal, asks, noFullText, noSplit, exact,
    if_true, Bool.false_and, Bool.false_eq_true, if_false]
  exact either

end TextField
end ContextualQuery
