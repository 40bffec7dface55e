import ContextualQuery.Proofs.Placeholders
import ContextualQuery.Proofs.TermMeaning

/-!
# What text fields match

What the predicate of a text field says of a row: its text is read as a test of one column, the
placeholders are looked up among the arguments, and a `LIKE` pattern is matched character by
character.  A search clause says which values it matches by its relation and its term alone.  The
two agree on every clause that a field without full-text search renders.
-/

namespace ContextualQuery

/-! ## Tests of a column -/

/-- What a predicate asks of the value of a column. -/
inductive Test
  | notNull
  | equal
  | notEqual
  | like (negated : Bool)
  | memberOf (negated : Bool)
deriving DecidableEq, Repr

namespace Test

def all : List Test :=
  [.notNull, .equal, .notEqual, .like false, .like true, .memberOf false, .memberOf true]

/-- What stands between the column and the first placeholder. -/
def opening : Test → String
  | .notNull => " IS NOT NULL"
  | .equal => " = "
  | .notEqual => " <> "
  | .like negated => if negated then " NOT LIKE " else " LIKE "
  | .memberOf negated => if negated then " NOT IN(" else " IN("

/-- What stands behind the last placeholder. -/
def closing : Test → String
  | .memberOf _ => ")"
  | _ => ""

/-- A test with its placeholders as it stands behind a column. -/
def text (signs : List String) (test : Test) : String :=
  test.opening ++ ", ".intercalate signs ++ test.closing

/-- The column, the test and the placeholders in the text of a predicate. -/
def read? (text : String) : Option (String × Test × List String) :=
  let signs := Placeholders.signs text.toList
  let behind := text.toList.dropWhile (· != ' ')
  (all.find? fun test => (test.text signs).toList == behind).map fun test =>
    (String.ofList (text.toList.takeWhile (· != ' ')), test, signs)

/-- The argument that a placeholder stands for, where they are numbered from `first` on. -/
def argument? (first : Nat) : List Value → String → Option Value
  | [], _ => none
  | argument :: others, sign =>
    if sign = placeholder first then some argument else argument? (first + 1) others sign

/-- Whether a value passes a test with these arguments; none where their number is not the test's
or a pattern is refused. -/
def passes? : Test → List Value → String → Option Bool
  | .notNull, [], _ => some true
  | .equal, [argument], value => some (.text value == argument)
  | .notEqual, [argument], value => some (.text value != argument)
  | .like negated, [.text pattern], value =>
    (Wildcard.ofLike? pattern.toList).map fun pattern =>
      Wildcard.accepts pattern value.toList != negated
  | .memberOf negated, first :: others, value =>
    some ((first :: others).contains (.text value) != negated)
  | _, _, _ => none

end Test

/-- Whether a row of columns that are not null passes the test that a text holds, with arguments for
the placeholders from `first` on. -/
def holds? (text : String) (first : Nat) (arguments : List Value) (row : String → String) :
    Option Bool := do
  let (column, test, signs) ← Test.read? text
  let values ← signs.mapM (Test.argument? first arguments)
  test.passes? values (row column)

/-- Whether a search clause on the field matches a value. -/
def TextField.admits (field : TextField) (search : SearchClause) (value : String) : Bool :=
  let pattern := Wildcard.ofTerm field.like search.term.toList
  if search.relationOrDefault = "=" ∧ search.term = "" then true
  else if field.split = true ∧ search.relationOrDefault = "any" then search.words.contains value
  else if field.split = true ∧ search.relationOrDefault = "<>" then !search.words.contains value
  else match search.relationOrDefault with
    | "=" | "exact" => Wildcard.accepts pattern value.toList
    | "==" => value.toList == Quoted.unescape search.term.toList
    | "<>" => !Wildcard.accepts pattern value.toList
    | _ => false

namespace Test

theorem mem_all (test : Test) : test ∈ all := by
  cases test with
  | like negated | memberOf negated => cases negated <;> decide
  | notNull | equal | notEqual => decide

/-- No test's opening begins another's. -/
theorem eq_of_opening_begins {test other : Test}
    (begins : test.opening.toList <+: other.opening.toList) : test = other := by
  have apart : ∀ test ∈ all, ∀ other ∈ all,
      test.opening.toList <+: other.opening.toList → test = other := by decide +kernel
  exact apart test (mem_all test) other (mem_all other) begins

theorem toList_text (signs : List String) (test : Test) : (test.text signs).toList =
    test.opening.toList ++ ((", ".intercalate signs).toList ++ test.closing.toList) := by
  rw [text, String.toList_append, String.toList_append, List.append_assoc]

theorem eq_of_text_eq {test other : Test} {signs : List String}
    (same : (test.text signs).toList = (other.text signs).toList) : test = other := by
  have one := List.prefix_append test.opening.toList
    ((", ".intercalate signs).toList ++ test.closing.toList)
  have another := List.prefix_append other.opening.toList
    ((", ".intercalate signs).toList ++ other.closing.toList)
  rw [← toList_text] at one another
  rw [← same] at another
  rcases List.prefix_or_prefix_of_prefix one another with begins | begins
  · exact eq_of_opening_begins begins
  · exact (eq_of_opening_begins begins).symm

theorem text_begins (signs : List String) (test : Test) :
    ∃ rest, (test.text signs).toList = ' ' :: rest := by
  have blank : ∃ rest, test.opening.toList = ' ' :: rest := by
    cases test with
    | like negated | memberOf negated => cases negated <;> exact ⟨_, by simp [opening]; rfl⟩
    | notNull | equal | notEqual => exact ⟨_, by simp [opening]; rfl⟩
  obtain ⟨rest, split⟩ := blank
  exact ⟨_, by rw [toList_text, split, List.cons_append]⟩

/-- A test behind a column is read back. -/
theorem read?_append {column : String} {signs : List String} {test : Test} {text : String}
    (noBlank : ∀ c ∈ column.toList, (c != ' ') = true)
    (found : Placeholders.signs text.toList = signs) (split : text = column ++ test.text signs) :
    read? text = some (column, test, signs) := by
  obtain ⟨rest, begins⟩ := text_begins signs test
  have whole : text.toList = column.toList ++ ' ' :: rest := by
    rw [split, String.toList_append, begins]
  have name : text.toList.takeWhile (· != ' ') = column.toList := by
    rw [whole, List.takeWhile_append_of_pos noBlank, List.takeWhile_cons_of_neg (by decide),
      List.append_nil]
  have behind : text.toList.dropWhile (· != ' ') = (test.text signs).toList := by
    rw [whole, List.dropWhile_append_of_pos noBlank, List.dropWhile_cons_of_neg (by decide), begins]
  have only : all.find? (fun other => (other.text signs).toList == (test.text signs).toList) =
      some test := by
    cases first : all.find? (fun other => (other.text signs).toList == (test.text signs).toList) with
    | none => exact absurd (beq_self_eq_true _) (List.find?_eq_none.1 first test (mem_all test))
    | some other =>
      have same := List.find?_some first
      rw [beq_iff_eq] at same
      rw [eq_of_text_eq same]
  rw [read?, found, name, behind, only, String.ofList_toList]
  rfl

theorem argument?_append (first : Nat) (before : List Value) (argument : Value)
    (behind : List Value) :
    argument? first (before ++ argument :: behind) (placeholder (first + before.length)) =
      some argument := by
  induction before generalizing first with
  | nil => rw [List.nil_append, argument?, List.length_nil, Nat.add_zero, if_pos rfl]
  | cons other before ih =>
    have later : first + (other :: before).length = first + 1 + before.length := by
      rw [List.length_cons]
      omega
    have different : placeholder (first + 1 + before.length) ≠ placeholder first := by
      intro same
      have := placeholder_injective same
      omega
    rw [List.cons_append, argument?, later, if_neg different, ih]

/-- Consecutive placeholders stand for the arguments in order. -/
theorem mapM_argument? (first : Nat) (before arguments : List Value) :
    ((List.range' (first + before.length) arguments.length).map placeholder).mapM
      (argument? first (before ++ arguments)) = some arguments := by
  induction arguments generalizing before with
  | nil => rfl
  | cons argument arguments ih =>
    have later := ih (before ++ [argument])
    rw [List.append_assoc, List.length_append, List.singleton_append, List.length_singleton,
      ← Nat.add_assoc] at later
    rw [List.length_cons, List.range'_succ, List.map_cons, List.mapM_cons, argument?_append, later]
    rfl

end Test

/-! ## The texts of predicates as tests -/

namespace Predicate

theorem text_memberOf (first : Nat) (column : String) (negated : Bool) (words : List String) :
    text first (.memberOf column negated words) = column ++
      (Test.memberOf negated).text ((List.range' first words.length).map placeholder) := by
  unfold text Test.text Test.opening Test.closing
  simp only [String.append_assoc]

theorem text_like (first : Nat) (column : String) (negated : Bool) (pattern : String) :
    text first (.like column negated pattern) =
      column ++ (Test.like negated).text [placeholder first] := by
  unfold text Test.text Test.opening Test.closing
  simp [String.append_assoc]

theorem text_equal (first : Nat) (column : String) (argument : Value) :
    text first (.compare column .equal argument) =
      column ++ Test.equal.text [placeholder first] := by
  unfold text Test.text Test.opening Test.closing
  simp [Comparator.symbol, String.append_assoc]

theorem text_notEqual (first : Nat) (column : String) (argument : Value) :
    text first (.compare column .notEqual argument) =
      column ++ Test.notEqual.text [placeholder first] := by
  unfold text Test.text Test.opening Test.closing
  simp [Comparator.symbol, String.append_assoc]

/-- A predicate whose text is a test behind a column asks for that test of the column. -/
theorem holds?_text {predicate : Predicate} (named : predicate.IsNamed) {first : Nat}
    {column : String} (valid : isIdentifier column = true) {test : Test}
    (split : predicate.text first = column ++
      test.text ((List.range' first predicate.arguments.length).map placeholder))
    (row : String → String) :
    holds? (predicate.text first) first predicate.arguments row =
      test.passes? predicate.arguments (row column) := by
  have found := (named.numbered first).signs_append [] Placeholders.stops_nil
  rw [List.append_nil, Placeholders.signs, List.append_nil] at found
  have noBlank : ∀ c ∈ column.toList, (c != ' ') = true := fun c member =>
    bne_iff_ne.2 ((isWord_of_isIdentifier valid).2 c member).1
  have values := Test.mapM_argument? first [] predicate.arguments
  rw [List.length_nil, Nat.add_zero, List.nil_append] at values
  rw [holds?, Test.read?_append noBlank found split]
  simp only [Option.bind_eq_bind, Option.bind_some, values]

end Predicate

namespace TextField

variable {field : TextField} {search : SearchClause} {predicate : Predicate}

theorem contains_map_text (words : List String) (value : String) :
    (words.map Value.text).contains (.text value) = words.contains value := by
  rw [Bool.eq_iff_iff, List.contains_iff_mem, List.contains_iff_mem]
  exact List.mem_map_of_injective fun _ _ same => Value.text.inj same

theorem passes?_memberOf {negated : Bool} {words : List String} (nonempty : words ≠ [])
    (value : String) : (Test.memberOf negated).passes? (words.map .text) value =
      some (words.contains value != negated) := by
  rw [← contains_map_text]
  cases words with
  | nil => exact absurd rfl nonempty
  | cons => rfl

/-- A list of words is matched as such. -/
theorem admits_of_memberOf {negated : Bool} (split : field.split = true)
    (relation : search.relationOrDefault = if negated then "<>" else "any") (value : String) :
    field.admits search value = (search.words.contains value != negated) := by
  cases negated with
  | true => simp [admits, relation, split]
  | false => simp [admits, relation, split]

/-- Where the whole value is compared, the relation alone says how. -/
theorem admits_of_takesWhole (whole : field.TakesWhole search) (value : String) :
    field.admits search value = match search.relationOrDefault with
      | "=" | "exact" => Wildcard.accepts (Wildcard.ofTerm field.like search.term.toList) value.toList
      | "==" => value.toList == Quoted.unescape search.term.toList
      | "<>" => !Wildcard.accepts (Wildcard.ofTerm field.like search.term.toList) value.toList
      | _ => false := by
  have asks : ¬(search.relationOrDefault = "=" ∧ search.term = "") := by
    rw [← SearchClause.asksForAny_iff, whole.asks]
    exact Bool.false_ne_true
  have notAny : ¬(field.split = true ∧ search.relationOrDefault = "any") :=
    fun ⟨split, relation⟩ => (whole.unsplit split).1 relation
  have notOther : ¬(field.split = true ∧ search.relationOrDefault = "<>") :=
    fun ⟨split, relation⟩ => (whole.unsplit split).2 relation
  rw [admits, if_neg asks, if_neg notAny, if_neg notOther]

/-- A clause whose term is a pattern matches what the pattern matches. -/
theorem admits_of_takesPattern (whole : field.TakesWhole search)
    (takes : field.takesPattern search.relationOrDefault = true) (value : String) :
    field.admits search value =
      (Wildcard.accepts (Wildcard.ofTerm true search.term.toList) value.toList !=
        (search.relationOrDefault == "<>")) := by
  obtain ⟨like, relation | relation | relation⟩ := takesPattern_iff.1 takes <;>
    simp [admits_of_takesWhole whole, relation, like]

/-- A clause whose term spells a value matches that value. -/
theorem admits_of_exactTerm (whole : field.TakesWhole search) {comparator : Comparator}
    (related : Comparator.unordered? search.relationOrDefault = some comparator)
    {spelled : String} (read : Masking.exactTerm search.term = .ok spelled) (value : String) :
    field.admits search value = ((value == spelled) != decide (comparator = .notEqual)) := by
  obtain ⟨spells, each, rfl⟩ := map_eq_ok.1 read
  obtain ⟨rfl, means⟩ := Wildcard.ofTerm_of_mapM each
  have same : (value.toList == Quoted.unescape search.term.toList) =
      (value == String.ofList (Quoted.unescape search.term.toList)) := by
    rw [Bool.eq_iff_iff, beq_iff_eq, beq_iff_eq, ← String.toList_inj, String.toList_ofList]
  rcases Comparator.relation_of_unordered? related with
    ⟨rfl, relation | relation | relation⟩ | ⟨rfl, relation⟩ <;>
    simp [admits_of_takesWhole whole, relation, means, Wildcard.accepts_map_char, same]

/-- What a field without full-text search renders holds of a row exactly when the search clause
matches the value of the column. -/
theorem holds_of_predicate (plain : field.language = none)
    (made : field.predicate search = .ok predicate) (first : Nat) (row : String → String) :
    holds? (predicate.text first) first predicate.arguments row =
      some (field.admits search (row field.column)) := by
  have named := TextField.isNamed made
  obtain ⟨valid, renders⟩ := TextField.predicate_eq_ok.1 made
  cases renders with
  | notNull asks =>
    have split : Predicate.text first (.notNull field.column) =
        field.column ++ Test.notNull.text [] := rfl
    rw [Predicate.holds?_text named valid split, admits, if_pos (SearchClause.asksForAny_iff.1 asks)]
    rfl
  | fullText _ searches _ _ =>
    rw [fullText?, plain] at searches
    cases searches
  | @memberOf negated words asks _ split relation read =>
    have written := Predicate.text_memberOf first field.column negated words
    rw [← List.length_map Value.text] at written
    rw [Predicate.holds?_text named valid written, admits_of_memberOf split relation,
      ← Masking.exactWords_eq read]
    exact passes?_memberOf named.2 _
  | @like pattern whole takes masked read =>
    have written := Predicate.text_like first field.column (search.relationOrDefault == "<>") pattern
    rw [Predicate.holds?_text named valid written, admits_of_takesPattern whole takes]
    simp only [Predicate.arguments, Test.passes?, Wildcard.ofLike?_of_likePattern read,
      Option.map_some]
  | @compare comparator value whole unmasked related read =>
    rw [admits_of_exactTerm whole related read]
    rcases Comparator.relation_of_unordered? related with ⟨rfl, -⟩ | ⟨rfl, -⟩
    · have written := Predicate.text_equal first field.column (.text value)
      rw [Predicate.holds?_text named valid written]
      simp [Predicate.arguments, Test.passes?]
    · have written := Predicate.text_notEqual first field.column (.text value)
      rw [Predicate.holds?_text named valid written]
      simp [Predicate.arguments, Test.passes?, bne]

theorem holds_of_predicate_masked :
    let field := TextField.withLike { column := "title" }
    let search : SearchClause := { index := "t", relation := "<>", term := "\\*5%?*" }
    let row (_ : String) := "*5% ab"
    field.language = none ∧
      field.predicate search = .ok (.like "title" true "*5\\%_%") ∧
      holds? "title NOT LIKE $3" 3 [.text "*5\\%_%"] row = some false := by
  intro field search row
  have made : field.predicate search = .ok (.like "title" true "*5\\%_%") :=
    eq_ok_of_toOption (by decide +kernel)
  have plain : field.language = none := rfl
  have holds := holds_of_predicate plain made 3 row
  have admits : field.admits search (row "title") = false := by decide +kernel
  rw [admits] at holds
  exact ⟨plain, made, holds⟩

end TextField
end ContextualQuery
