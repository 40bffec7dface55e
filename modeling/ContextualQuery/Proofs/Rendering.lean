import ContextualQuery.Proofs.Results
import ContextualQuery.Sql.Field

/-!
# What fields render

Every predicate that a field makes of a search clause, with what the clause and the field must be
like for it.  The cases follow the order in which a field looks at its features, so each one holds
what the features before it left over.
-/

namespace ContextualQuery

theorem checkColumn_eq_ok {column : String} :
    checkColumn column = .ok () ↔ isIdentifier column = true := by
  unfold checkColumn
  split
  · next valid => exact iff_of_true rfl valid
  · next invalid => exact iff_of_false (by rintro ⟨⟩) invalid

theorem SearchClause.asksForAny_iff {search : SearchClause} : search.asksForAny = true ↔
    search.relationOrDefault = "=" ∧ search.term = "" := by
  rw [asksForAny, Bool.and_eq_true, beq_iff_eq, String.isEmpty_iff, and_comm]
  rfl

theorem Comparator.relation_of_unordered? {relation : String} {comparator : Comparator}
    (related : Comparator.unordered? relation = some comparator) :
    comparator = .equal ∧ (relation = "==" ∨ relation = "exact" ∨ relation = "=") ∨
      comparator = .notEqual ∧ relation = "<>" := by
  unfold Comparator.unordered? at related
  split at related <;> cases related <;> simp

namespace Glyph

theorem stretches_ne_nil (glyphs : List Glyph) : stretches glyphs ≠ [] := by
  cases glyphs with
  | nil => exact List.cons_ne_nil _ _
  | cons glyph glyphs =>
    rw [stretches]
    split
    · exact List.cons_ne_nil _ _
    · split <;> exact List.cons_ne_nil _ _

theorem stretches_cons {glyph : Glyph} (noSpace : glyph.isSpace = false) (rest : List Glyph) :
    stretches (glyph :: rest) = (stretches rest).modifyHead (glyph :: ·) := by
  rw [stretches, if_neg (Bool.eq_false_iff.1 noSpace)]
  split
  · next nothing => exact absurd nothing (stretches_ne_nil rest)
  · next split => rw [split, List.modifyHead_cons]

theorem words_ne_nil (glyphs : List Glyph) : words glyphs ≠ [] := by
  unfold words
  split <;> exact List.cons_ne_nil _ _

end Glyph

namespace TextField

/-- Whether a clause gets as far as the comparison of the whole value. -/
structure TakesWhole (field : TextField) (search : SearchClause) : Prop where
  asks : search.asksForAny = false
  noFullText : field.fullText? search.relationOrDefault = none
  /-- The term is not taken for a list of words. -/
  unsplit : field.split = true →
    search.relationOrDefault ≠ "any" ∧ search.relationOrDefault ≠ "<>"
  exact : field.exact = true

/-- The predicates that a text field with a valid column makes of a search clause. -/
inductive Renders (field : TextField) (search : SearchClause) : Predicate → Prop
  | notNull (asks : search.asksForAny = true) : Renders field search (.notNull field.column)
  | fullText {language operator : String} {words : List String}
    (asks : search.asksForAny = false)
    (searches : field.fullText? search.relationOrDefault = some (language, operator))
    (valid : isIdentifier language = true) (read : Masking.exactWords search.term = .ok words) :
    Renders field search (.fullText field.column language (TextQuery.ofWords operator words))
  /-- A term that is a list of words. -/
  | memberOf {negated : Bool} {words : List String} (asks : search.asksForAny = false)
    (noFullText : field.fullText? search.relationOrDefault = none) (split : field.split = true)
    (relation : search.relationOrDefault = if negated then "<>" else "any")
    (read : Masking.exactWords search.term = .ok words) :
    Renders field search (.memberOf field.column negated words)
  /-- A term with masks, where the field takes patterns. -/
  | like {pattern : String} (whole : field.TakesWhole search)
    (takes : field.takesPattern search.relationOrDefault = true)
    (masked : Masking.isMasked search.term = true)
    (read : Masking.likePattern search.term = .ok pattern) :
    Renders field search (.like field.column (search.relationOrDefault == "<>") pattern)
  | compare {comparator : Comparator} {value : String} (whole : field.TakesWhole search)
    (unmasked : field.takesPattern search.relationOrDefault = true →
      Masking.isMasked search.term = false ∧
        ∃ pattern, Masking.likePattern search.term = .ok pattern)
    (related : Comparator.unordered? search.relationOrDefault = some comparator)
    (read : Masking.exactTerm search.term = .ok value) :
    Renders field search (.compare field.column comparator (.text value))

variable {field : TextField} {search : SearchClause} {predicate : Predicate}

theorem takesPattern_iff {relation : String} : field.takesPattern relation = true ↔
    field.like = true ∧ (relation = "=" ∨ relation = "exact" ∨ relation = "<>") := by
  simp only [takesPattern, Bool.and_eq_true, Bool.or_eq_true, beq_iff_eq, or_assoc]

theorem fullText_eq_ok {language operator term : String} :
    field.fullText language operator term = .ok predicate ↔ isIdentifier language = true ∧
      ∃ words, Masking.exactWords term = .ok words ∧
        predicate = .fullText field.column language (TextQuery.ofWords operator words) := by
  unfold fullText
  split
  · next valid =>
    simp only [valid, true_and, bind_eq_ok, mapError_eq_ok, Except.ok.injEq,
      @eq_comm _ predicate]
  · next invalid => exact iff_of_false (by rintro ⟨⟩) fun ⟨valid, _⟩ => invalid valid

theorem memberOf_eq_ok {negated : Bool} {term : String} :
    field.memberOf negated term = .ok predicate ↔
      ∃ words, Masking.exactWords term = .ok words ∧
        predicate = .memberOf field.column negated words := by
  simp only [memberOf, bind_eq_ok, mapError_eq_ok, Except.ok.injEq, @eq_comm _ predicate]

theorem whole_eq_ok {relation term : String} :
    field.whole relation term = .ok predicate ↔ ∃ comparator value,
      Comparator.unordered? relation = some comparator ∧ Masking.exactTerm term = .ok value ∧
        predicate = .compare field.column comparator (.text value) := by
  simp only [whole, bind_eq_ok, mapError_eq_ok]
  constructor
  · rintro ⟨value, read, made⟩
    split at made
    · next comparator related =>
      cases made
      exact ⟨comparator, value, related, read, rfl⟩
    · cases made
  · rintro ⟨comparator, value, related, read, rfl⟩
    exact ⟨value, read, by rw [related]⟩

theorem wholeOrPattern_eq_ok {relation term : String} :
    field.wholeOrPattern relation term = .ok predicate ↔
      (field.takesPattern relation = true ∧ Masking.isMasked term = true ∧
        ∃ pattern, Masking.likePattern term = .ok pattern ∧
          predicate = .like field.column (relation == "<>") pattern) ∨
      ((field.takesPattern relation = true → Masking.isMasked term = false ∧
          ∃ pattern, Masking.likePattern term = .ok pattern) ∧
        field.whole relation term = .ok predicate) := by
  unfold wholeOrPattern
  cases takes : field.takesPattern relation with
  | false => simp
  | true =>
    simp only [if_true, bind_eq_ok, mapError_eq_ok, true_and, true_implies]
    cases masked : Masking.isMasked term with
    | true => simp [eq_comm]
    | false => simp

/-- A clause that gets to the whole value is compared with it or takes a pattern. -/
theorem predicate_of_takesWhole (valid : isIdentifier field.column = true)
    (whole : field.TakesWhole search) :
    field.predicate search = field.wholeOrPattern search.relationOrDefault search.term := by
  obtain ⟨asks, noFullText, unsplit, exact⟩ := whole
  have notAny : (field.split && search.relationOrDefault == "any") = false := by
    rw [Bool.and_eq_false_imp, beq_eq_false_iff_ne]
    exact fun split => (unsplit split).1
  have notOther : (field.split && search.relationOrDefault == "<>") = false := by
    rw [Bool.and_eq_false_imp, beq_eq_false_iff_ne]
    exact fun split => (unsplit split).2
  rw [TextField.predicate, checkColumn_eq_ok.2 valid, ok_bind]
  simp only [asks, noFullText, notAny, notOther, exact, Bool.false_eq_true, if_false, if_true]

theorem renders_of_predicate (made : field.predicate search = .ok predicate) :
    field.Renders search predicate := by
  obtain ⟨_, -, made⟩ := bind_eq_ok.1 made
  simp only at made
  split at made
  · next asks =>
    cases made
    exact .notNull asks
  · next asks =>
    have asks := Bool.eq_false_iff.2 asks
    split at made
    · next language operator searches =>
      obtain ⟨valid, words, read, rfl⟩ := fullText_eq_ok.1 made
      exact .fullText asks searches valid read
    · next noFullText =>
      split at made
      · next listed =>
        obtain ⟨split, relation⟩ := Bool.and_eq_true_iff.1 listed
        obtain ⟨words, read, rfl⟩ := memberOf_eq_ok.1 made
        exact .memberOf asks noFullText split (beq_iff_eq.1 relation) read
      · next notAny =>
        split at made
        · next listed =>
          obtain ⟨split, relation⟩ := Bool.and_eq_true_iff.1 listed
          obtain ⟨words, read, rfl⟩ := memberOf_eq_ok.1 made
          exact .memberOf asks noFullText split (beq_iff_eq.1 relation) read
        · next notOther =>
          split at made
          · next exact =>
            have whole : field.TakesWhole search := by
              refine ⟨asks, noFullText, fun split => ⟨?_, ?_⟩, exact⟩
              · simpa [split] using notAny
              · simpa [split] using notOther
            rcases wholeOrPattern_eq_ok.1 made with
              ⟨takes, masked, pattern, read, rfl⟩ | ⟨unmasked, made⟩
            · exact .like whole takes masked read
            · obtain ⟨comparator, value, related, read, rfl⟩ := whole_eq_ok.1 made
              exact .compare whole unmasked related read
          · cases made

theorem predicate_of_renders (valid : isIdentifier field.column = true)
    (renders : field.Renders search predicate) : field.predicate search = .ok predicate := by
  cases renders with
  | notNull asks =>
    rw [TextField.predicate, checkColumn_eq_ok.2 valid, ok_bind]
    simp only [asks, if_true]
  | fullText asks searches language read =>
    rw [TextField.predicate, checkColumn_eq_ok.2 valid, ok_bind]
    simp only [asks, searches, Bool.false_eq_true, if_false]
    exact fullText_eq_ok.2 ⟨language, _, read, rfl⟩
  | @memberOf negated words asks noFullText split relation read =>
    rw [TextField.predicate, checkColumn_eq_ok.2 valid, ok_bind]
    have made : field.memberOf negated search.term =
        .ok (.memberOf field.column negated words) := memberOf_eq_ok.2 ⟨words, read, rfl⟩
    simp only [asks, noFullText, Bool.false_eq_true, if_false]
    cases negated with
    | true => rw [relation, split, if_neg (by decide), if_pos (by decide), made]
    | false => rw [relation, split, if_pos (by decide), made]
  | like whole takes masked read =>
    rw [predicate_of_takesWhole valid whole]
    exact wholeOrPattern_eq_ok.2 (.inl ⟨takes, masked, _, read, rfl⟩)
  | compare whole unmasked related read =>
    rw [predicate_of_takesWhole valid whole]
    exact wholeOrPattern_eq_ok.2 (.inr ⟨unmasked, whole_eq_ok.2 ⟨_, _, related, read, rfl⟩⟩)

/-- A text field makes a predicate exactly in the cases of `Renders`. -/
theorem predicate_eq_ok :
    field.predicate search = .ok predicate ↔
      isIdentifier field.column = true ∧ field.Renders search predicate := by
  constructor
  · intro made
    obtain ⟨⟨⟩, checked, -⟩ := bind_eq_ok.1 made
    exact ⟨checkColumn_eq_ok.1 checked, renders_of_predicate made⟩
  · rintro ⟨valid, renders⟩
    exact predicate_of_renders valid renders

end TextField

namespace NumberField

/-- The predicates that a number field with a valid column makes of a search clause. -/
inductive Renders (column : String) (search : SearchClause) : Predicate → Prop
  | notNull (asks : search.asksForAny = true) : Renders column search (.notNull column)
  | compare {comparator : Comparator} {value : Decimal} (asks : search.asksForAny = false)
    (related : Comparator.ordered? search.relationOrDefault = some comparator)
    (read : Decimal.ofString? search.term = some value) :
    Renders column search (.compare column comparator (.number value))

/-- A number field makes a predicate exactly in the cases of `Renders`. -/
theorem predicate_eq_ok {column : String} {search : SearchClause} {predicate : Predicate} :
    NumberField.predicate column search = .ok predicate ↔
      isIdentifier column = true ∧ Renders column search predicate := by
  constructor
  · intro made
    obtain ⟨⟨⟩, checked, made⟩ := bind_eq_ok.1 made
    refine ⟨checkColumn_eq_ok.1 checked, ?_⟩
    split at made
    · next asks =>
      cases made
      exact .notNull asks
    · next asks =>
      split at made
      · cases made
      · next comparator related =>
        split at made
        · cases made
        · next value read =>
          cases made
          exact .compare (Bool.eq_false_iff.2 asks) related read
  · rintro ⟨valid, renders⟩
    rw [NumberField.predicate, checkColumn_eq_ok.2 valid, ok_bind]
    cases renders with
    | notNull asks => simp only [asks, if_true]
    | compare asks related read => simp only [asks, related, read, Bool.false_eq_true, if_false]

end NumberField
end ContextualQuery
