import ContextualQuery.Proofs.BooleanStructure
import Mathlib.Data.List.Nodup

/-!
# The numbering of placeholders

The placeholders of a condition are found in its text alone: every dollar sign with the digits
behind it, and for every list those up to its closing bracket.  A text is numbered when its
placeholders are consecutive and none of its lists is empty; pieces of text that are numbered one
behind the other make a whole that is.
-/

namespace ContextualQuery

/-! ## Finding placeholders -/

namespace Placeholders

/-- The placeholders of a text from left to right. -/
def signs : List Char → List String
  | [] => []
  | c :: rest =>
    if c = '$' then String.ofList ('$' :: rest.takeWhile Char.isDigit) :: signs rest
    else signs rest

/-- The placeholders of each list of a text. -/
def lists : List Char → List (List String)
  | [] => []
  | c :: rest =>
    if "IN(".toList.isPrefixOf (c :: rest) then
      signs (rest.takeWhile (· != ')')) :: lists rest
    else lists rest

/-- What may stand behind a number or a name: it neither goes on with them nor opens a list. -/
def Stops (rest : List Char) : Prop := ∀ c ∈ rest.head?, c ≠ '(' ∧ c ≠ 'N' ∧ c.isDigit = false

/-- Whether a text holds as many consecutive placeholders as are counted, and no empty list. -/
structure Numbered (text : List Char) (first count : Nat) : Prop where
  signs_append (rest : List Char) : Stops rest →
    signs (text ++ rest) = (List.range' first count).map placeholder ++ signs rest
  lists_append (rest : List Char) : Stops rest → [] ∉ lists rest → [] ∉ lists (text ++ rest)

theorem stops_nil : Stops [] := by
  intro c first
  cases first

theorem stops_cons {c : Char} (noOpen : c ≠ '(') (noName : c ≠ 'N') (noDigit : c.isDigit = false)
    (rest : List Char) : Stops (c :: rest) := by
  intro d first
  cases first
  exact ⟨noOpen, noName, noDigit⟩

theorem signs_append_of_notMem {text : List Char} (noSign : '$' ∉ text) (rest : List Char) :
    signs (text ++ rest) = signs rest := by
  induction text with
  | nil => rfl
  | cons c text ih =>
    rw [List.mem_cons, not_or] at noSign
    rw [List.cons_append, signs, if_neg (Ne.symm noSign.1), ih noSign.2]

theorem lists_cons {c : Char} (other : c ≠ 'I') (rest : List Char) :
    lists (c :: rest) = lists rest := by
  have different : ('I' == c) = false := beq_false_of_ne other.symm
  rw [lists, if_neg (by simp [List.isPrefixOf, different])]

/-- No list opens in a text without brackets, whatever stops behind it: its keyword, the bracket
included, would have to begin inside the text. -/
theorem lists_append_of_notMem {text : List Char} (noOpen : '(' ∉ text) {rest : List Char}
    (stops : Stops rest) : lists (text ++ rest) = lists rest := by
  induction text with
  | nil => rfl
  | cons c text ih =>
    rw [List.mem_cons, not_or] at noOpen
    rw [List.cons_append, lists, ih noOpen.2, if_neg]
    intro opens
    obtain ⟨more, same⟩ := List.isPrefixOf_iff_prefix.1 opens
    rcases text with _ | ⟨d, _ | ⟨e, text⟩⟩
    · rcases rest with _ | ⟨d, rest⟩
      · simp at same
      · simp only [String.reduceToList, List.cons_append, List.nil_append, List.cons.injEq] at same
        exact (stops d rfl).2.1 same.2.1.symm
    · rcases rest with _ | ⟨e, rest⟩
      · simp at same
      · simp only [String.reduceToList, List.cons_append, List.nil_append, List.cons.injEq] at same
        exact (stops e rfl).1 same.2.2.1.symm
    · simp only [String.reduceToList, List.cons_append, List.cons.injEq] at same
      exact noOpen.2 (by simp [← same.2.2.1])

/-! ## Numbered texts -/

variable {text other : List Char} {first count more : Nat}

theorem Numbered.append (one : Numbered text first count)
    (behind : Numbered other (first + count) more) (stops : ∀ rest, Stops (other ++ rest)) :
    Numbered (text ++ other) first (count + more) where
  signs_append rest ends := by
    rw [List.append_assoc, one.signs_append _ (stops rest), behind.signs_append _ ends,
      ← List.append_assoc, ← List.map_append, List.range'_append_1]
  lists_append rest ends none := by
    rw [List.append_assoc]
    exact one.lists_append _ (stops rest) (behind.lists_append _ ends none)

/-- A text without placeholders or brackets. -/
theorem numbered_plain (plain : ∀ c ∈ text, c ≠ '$' ∧ c ≠ '(') (first : Nat) :
    Numbered text first 0 where
  signs_append rest _ := signs_append_of_notMem (fun member => (plain _ member).1 rfl) rest
  lists_append rest stops none := by
    rwa [lists_append_of_notMem (fun member => (plain _ member).2 rfl) stops]

/-- A text without placeholders or brackets stands in front of what stops it. -/
theorem Numbered.after (plain : ∀ c ∈ text, c ≠ '$' ∧ c ≠ '(')
    (stops : ∀ rest, Stops (other ++ rest)) (numbered : Numbered other first count) :
    Numbered (text ++ other) first count := by
  rw [← Nat.zero_add count]
  exact (numbered_plain plain first).append numbered stops

/-- A text in which no list can open stands in front of anything. -/
theorem Numbered.behind (silent : ∀ c ∈ text, c ≠ '$' ∧ c ≠ 'I')
    (numbered : Numbered other first count) : Numbered (text ++ other) first count := by
  induction text with
  | nil => exact numbered
  | cons c text ih =>
    rw [List.forall_mem_cons] at silent
    obtain ⟨signs, lists⟩ := ih silent.2
    refine ⟨fun rest stops => ?_, fun rest stops none => ?_⟩
    · rw [List.cons_append, List.cons_append, Placeholders.signs, if_neg silent.1.1]
      exact signs rest stops
    · rw [List.cons_append, List.cons_append, lists_cons silent.1.2]
      exact lists rest stops none

theorem takeWhile_isDigit_append {digits rest : List Char} (isDigit : ∀ c ∈ digits, c.isDigit)
    (stops : Stops rest) : (digits ++ rest).takeWhile Char.isDigit = digits := by
  rw [List.takeWhile_append_of_pos isDigit]
  cases rest with
  | nil => simp
  | cons c rest => simp [(stops c rfl).2.2]

theorem numbered_placeholder (number : Nat) : Numbered (placeholder number).toList number 1 := by
  have split : (placeholder number).toList = '$' :: Nat.toDigits 10 number := by
    rw [placeholder, String.toList_append, ← Nat.toList_repr]
    rfl
  have isDigit : ∀ c ∈ Nat.toDigits 10 number, c.isDigit := fun c member =>
    Nat.isDigit_of_mem_toDigits (by decide) (by decide) member
  have noSign : '$' ∉ Nat.toDigits 10 number := fun member => by
    cases isDigit _ member
  have noOpen : '(' ∉ (placeholder number).toList := fun member =>
    (isWord_placeholder number _ member).2.1 rfl
  refine ⟨fun rest stops => ?_, fun rest stops none => ?_⟩
  · rw [split, List.cons_append, signs, if_pos rfl, takeWhile_isDigit_append isDigit stops,
      signs_append_of_notMem noSign, ← split, String.ofList_toList]
    rfl
  · rwa [lists_append_of_notMem noOpen stops]

/-- The placeholders of a list, which commas divide. -/
theorem numbered_placeholders (first count : Nat) :
    Numbered (", ".intercalate ((List.range' first count).map placeholder)).toList first count := by
  induction count generalizing first with
  | zero => exact numbered_plain (by simp) first
  | succ count ih =>
    cases count with
    | zero =>
      rw [List.range'_one, List.map_singleton, String.intercalate_singleton]
      exact numbered_placeholder first
    | succ count =>
      have comma : ∀ c ∈ ", ".toList, c ≠ '$' ∧ c ≠ 'I' := by simp
      have later := (ih (first + 1)).behind comma
      rw [List.range'_succ, List.map_cons, List.range'_succ, List.map_cons,
        String.intercalate_cons_cons, String.toList_append, String.toList_append,
        List.append_assoc]
      rw [List.range'_succ, List.map_cons] at later
      have all := (numbered_placeholder first).append later fun rest =>
        stops_cons (by decide) (by decide) (by decide) _
      rwa [Nat.add_comm 1] at all

/-- A list of placeholders in brackets, behind its keyword. -/
theorem numbered_list (nonempty : 0 < count) (noClose : ')' ∉ text)
    (numbered : Numbered text first count) :
    Numbered ("IN(".toList ++ (text ++ [')'])) first count := by
  have stops (rest : List Char) : Stops (')' :: rest) :=
    stops_cons (by decide) (by decide) (by decide) rest
  refine ⟨fun rest _ => ?_, fun rest _ none => ?_⟩
  · have silent : '$' ∉ "IN(".toList := by simp
    rw [List.append_assoc, signs_append_of_notMem silent, List.append_assoc, List.singleton_append,
      numbered.signs_append _ (stops rest)]
    rfl
  · have opens : "IN(".toList.isPrefixOf ('I' :: (('N' :: '(' :: text) ++ ')' :: rest)) = true := by
      simp [List.isPrefixOf]
    have inside : (('N' :: '(' :: text) ++ ')' :: rest).takeWhile (· != ')') =
        'N' :: '(' :: text := by
      have open' : ∀ c ∈ 'N' :: '(' :: text, (c != ')') = true := by
        intro c member
        rw [bne_iff_ne]
        rintro rfl
        simp [noClose] at member
      rw [List.takeWhile_append_of_pos open', List.takeWhile_cons_of_neg (by decide),
        List.append_nil]
    have found : signs ('N' :: '(' :: text) = (List.range' first count).map placeholder := by
      have alone := numbered.signs_append [] stops_nil
      rw [List.append_nil, signs, List.append_nil] at alone
      rw [← alone]
      rfl
    have later : [] ∉ lists (('N' :: '(' :: text) ++ ')' :: rest) := by
      rw [List.cons_append, List.cons_append, lists_cons (by decide), lists_cons (by decide)]
      apply numbered.lists_append _ (stops rest)
      rwa [lists_cons (by decide)]
    have split : "IN(".toList ++ (text ++ [')']) ++ rest =
        'I' :: (('N' :: '(' :: text) ++ ')' :: rest) := by simp
    rw [split, lists, if_pos opens, inside, found, List.mem_cons, not_or]
    refine ⟨fun empty => ?_, later⟩
    rw [eq_comm, List.map_eq_nil_iff, List.range'_eq_nil_iff] at empty
    exact Nat.ne_of_gt nonempty empty

end Placeholders

/-! ## The texts of predicates -/

open Placeholders

/-- Whether the names in a predicate are identifiers and a list in it has a word. -/
def Predicate.IsNamed : Predicate → Prop
  | .notNull column | .compare column _ _ | .like column _ _ => isIdentifier column = true
  | .memberOf column _ words => isIdentifier column = true ∧ words ≠ []
  | .fullText column language _ => isIdentifier column = true ∧ isIdentifier language = true

namespace Predicate

theorem stops_placeholder (number : Nat) (rest : List Char) :
    Stops ((placeholder number).toList ++ rest) := by
  obtain ⟨digits, split⟩ := toList_placeholder number
  rw [split, List.cons_append]
  exact stops_cons (by decide) (by decide) (by decide) _

/-- A name stands in front of a text that no name goes on with. -/
theorem numbered_name {name : String} (valid : isIdentifier name = true) {c : Char}
    (other : c = ' ' ∨ c = '\'' ∨ c = ')') {text : List Char} {first count : Nat}
    (behind : Numbered (c :: text) first count) :
    Numbered (name.toList ++ c :: text) first count := by
  have plain : ∀ d ∈ name.toList, d ≠ '$' ∧ d ≠ '(' := by
    intro d member
    refine ⟨?_, ?_⟩ <;>
    · rintro rfl
      rcases mem_of_isIdentifier valid _ member with alphanum | underscore | dot <;> contradiction
  refine behind.after plain fun rest => ?_
  rcases other with rfl | rfl | rfl <;> exact stops_cons (by decide) (by decide) (by decide) _

/-- The sign of a comparison stands between blanks, behind it one placeholder. -/
theorem numbered_sign {sign : List Char} (plain : ∀ c ∈ sign, c ≠ '$' ∧ c ≠ '(') (first : Nat) :
    Numbered (' ' :: (sign ++ ' ' :: (placeholder first).toList)) first 1 := by
  have blanks : ∀ c ∈ ' ' :: (sign ++ [' ']), c ≠ '$' ∧ c ≠ '(' := by
    simp only [List.forall_mem_cons, List.forall_mem_append]
    exact ⟨by decide, plain, by decide, List.forall_mem_nil _⟩
  have behind := (numbered_placeholder first).after blanks (stops_placeholder first)
  rwa [List.cons_append, List.append_assoc] at behind

theorem numbered_searchArguments {language value : String} {rest : List Char} {first count : Nat}
    (valid : isIdentifier language = true)
    (behind : Numbered (value.toList ++ ')' :: rest) first count) :
    Numbered (searchArguments language value ++ rest) first count := by
  have split : searchArguments language value ++ rest =
      "('".toList ++ (language.toList ++ ("', ".toList ++ (value.toList ++ ')' :: rest))) := by
    simp [searchArguments]
  have comma : ∀ c ∈ "', ".toList, c ≠ '$' ∧ c ≠ 'I' := by simp
  have onLanguage := numbered_name valid (.inr (.inl rfl)) (behind.behind comma)
  rw [split]
  exact onLanguage.behind (by simp)

/-- A predicate has as many placeholders as arguments, and no empty list. -/
theorem IsNamed.numbered {predicate : Predicate} (named : predicate.IsNamed) (first : Nat) :
    Numbered (predicate.text first).toList first predicate.arguments.length := by
  cases predicate with
  | notNull column =>
    have keyword : ∀ c ∈ " IS NOT NULL".toList, c ≠ '$' ∧ c ≠ '(' := by simp
    rw [toList_text_notNull]
    exact numbered_name named (.inl rfl) (numbered_plain keyword first)
  | compare column comparator argument =>
    have plain : ∀ c ∈ comparator.symbol.toList, c ≠ '$' ∧ c ≠ '(' := by
      cases comparator <;> simp [Comparator.symbol]
    rw [toList_text_compare]
    exact numbered_name named (.inl rfl) (numbered_sign plain first)
  | like column negated pattern =>
    have plain : ∀ c ∈ (if negated then "NOT LIKE" else "LIKE").toList, c ≠ '$' ∧ c ≠ '(' := by
      cases negated <;> simp
    rw [toList_text_like]
    exact numbered_name named (.inl rfl) (numbered_sign plain first)
  | memberOf column negated words =>
    obtain ⟨valid, nonempty⟩ := named
    have noClose : ')' ∉
        (", ".intercalate ((List.range' first words.length).map placeholder)).toList :=
      fun member => (no_bracket_placeholders first words.length _ member).2 rfl
    have list := numbered_list (List.length_pos_iff.2 nonempty) noClose
      (numbered_placeholders first words.length)
    have silent : ∀ c ∈ ' ' :: (if negated then "NOT " else "").toList, c ≠ '$' ∧ c ≠ 'I' := by
      cases negated <;> simp
    rw [toList_text_memberOf, arguments, List.length_map]
    exact numbered_name valid (.inl rfl) (list.behind silent)
  | fullText column language query =>
    obtain ⟨columnValid, languageValid⟩ := named
    have close : Numbered [')'] (first + 1) 0 := numbered_plain (by simp) _
    have closed := (numbered_placeholder first).append close fun rest =>
      stops_cons (by decide) (by decide) (by decide) rest
    have onQuery := numbered_searchArguments languageValid closed
    have call : ∀ c ∈ ") @@ to_tsquery".toList, c ≠ '$' ∧ c ≠ 'I' := by simp
    have onColumn := numbered_name columnValid (.inr (.inr rfl)) (onQuery.behind call)
    have onLanguage := numbered_searchArguments languageValid onColumn
    have vector : ∀ c ∈ "to_tsvector".toList, c ≠ '$' ∧ c ≠ 'I' := by simp
    rw [toList_text_fullText, ← List.append_nil (searchArguments language (placeholder first))]
    exact onLanguage.behind vector

end Predicate

/-! ## The texts of conditions -/

namespace Condition

theorem numbered_bracketed {text : String} {first count : Nat}
    (numbered : Numbered text.toList first count) (brackets : Bool) :
    Numbered (bracketed brackets text).toList first count := by
  cases brackets with
  | false => exact numbered
  | true =>
    have split : (bracketed true text).toList = "(".toList ++ (text.toList ++ ")".toList) := by
      simp [bracketed]
    have close : Numbered ")".toList (first + count) 0 := numbered_plain (by simp) _
    have closed := numbered.append close fun rest =>
      stops_cons (by decide) (by decide) (by decide) rest
    rw [split]
    exact closed.behind (by simp)

/-- A joined condition is numbered as its operands are, one behind the other. -/
theorem numbered_text {condition : Condition}
    (named : ∀ predicate ∈ condition.predicates, predicate.IsNamed) (first : Nat) :
    Numbered (condition.text first).toList first condition.arguments.length := by
  induction condition generalizing first with
  | always =>
    have plain : ∀ c ∈ "TRUE".toList, c ≠ '$' ∧ c ≠ '(' := by simp
    exact numbered_plain plain first
  | atom predicate =>
    rw [arguments_atom]
    exact (named predicate List.mem_cons_self).numbered first
  | join left joiner right leftNumbered rightNumbered =>
    rw [predicates, List.forall_mem_append] at named
    have onLeft := numbered_bracketed (leftNumbered named.1 first) left.isJoin
    have onRight := numbered_bracketed
      (rightNumbered named.2 (first + left.arguments.length)) right.isJoin
    have silent : ∀ c ∈ ' ' :: (joiner.keyword.toList ++ [' ']), c ≠ '$' ∧ c ≠ 'I' := by
      cases joiner <;> simp [Joiner.keyword]
    have split : (text first (.join left joiner right)).toList =
        (bracketed left.isJoin (left.text first)).toList ++
          (' ' :: (joiner.keyword.toList ++ [' ']) ++ (bracketed right.isJoin
            (right.text (first + left.arguments.length))).toList) := by
      rw [text]
      simp
    rw [split, arguments_join, List.length_append]
    exact onLeft.append (onRight.behind silent) fun rest =>
      stops_cons (by decide) (by decide) (by decide) _

end Condition

/-! ## Rendered predicates -/

theorem Masking.exactWords_ne_nil {term : String} {words : List String}
    (read : exactWords term = .ok words) : words ≠ [] := by
  rintro rfl
  exact Glyph.words_ne_nil _ (List.forall₂_nil_right_iff.1 (mapM_eq_ok.1 read))

theorem TextField.isNamed {field : TextField} {search : SearchClause} {predicate : Predicate}
    (made : field.predicate search = .ok predicate) : predicate.IsNamed := by
  obtain ⟨valid, renders⟩ := TextField.predicate_eq_ok.1 made
  cases renders with
  | fullText _ _ language _ => exact ⟨valid, language⟩
  | memberOf _ _ _ _ read => exact ⟨valid, Masking.exactWords_ne_nil read⟩
  | notNull | like | compare => exact valid

theorem Field.isNamed {field : Field} {search : SearchClause} {predicate : Predicate}
    (made : field.predicate search = .ok predicate) : predicate.IsNamed := by
  cases field with
  | text field => exact TextField.isNamed made
  | number column =>
    obtain ⟨valid, renders⟩ := NumberField.predicate_eq_ok.1 made
    cases renders with
    | notNull | compare => exact valid

namespace Statement

/-- The placeholders in the text of a statement, from left to right. -/
def placeholders (statement : Statement) : List String := signs statement.text.toList

/-- The placeholders of each list in the text of a statement. -/
def lists (statement : Statement) : List (List String) := Placeholders.lists statement.text.toList

end Statement

theorem placeholder_injective : Function.Injective placeholder := by
  intro number other same
  have digits : Nat.toDigits 10 number = Nat.toDigits 10 other := by
    have written := congrArg String.toList same
    rw [placeholder, placeholder, String.toList_append, String.toList_append] at written
    simpa only [Nat.toString_eq_repr, Nat.toList_repr] using List.append_cancel_left written
  have read := congrArg (Nat.ofDigitChars 10 · 0) digits
  simpa using read

namespace Definition

variable {definition : Definition}

/-- The placeholders of a translation are numbered from the first argument on without a gap, each
standing once, as many as there are arguments; and no list is empty. -/
theorem placeholders_of_translate {query : Query} {first : Nat} {statement : Statement}
    (translated : definition.translate query first = .ok statement) :
    statement.placeholders = (List.range' first statement.arguments.length).map placeholder ∧
      statement.placeholders.Nodup ∧ [] ∉ statement.lists := by
  obtain ⟨-, condition, assembled, rfl⟩ := translate_eq_ok_iff.1 translated
  have named : ∀ predicate ∈ condition.predicates, predicate.IsNamed := by
    intro predicate member
    obtain ⟨_, field, search, -, made⟩ := predicate_of_assemble assembled predicate member
    exact Field.isNamed made
  have numbered := Condition.numbered_text named first
  have consecutive := numbered.signs_append [] stops_nil
  have noEmpty := numbered.lists_append [] stops_nil List.not_mem_nil
  rw [List.append_nil] at consecutive noEmpty
  rw [signs, List.append_nil] at consecutive
  refine ⟨consecutive, ?_, noEmpty⟩
  rw [Statement.placeholders, consecutive]
  exact List.Nodup.map placeholder_injective List.nodup_range'

theorem placeholders_of_translate_lists :
    let definition := (Definition.empty.insert "tag"
      (.text (TextField.withSplit (.withExact { column := "tags" })))).insert "year"
      (.number "y")
    let query : Query :=
      { clause := .joined (.joined (.relating "tag" "any" "a b c") .and (.relating "year" ">=" "9"))
          .not (.joined (.equating "tag" "") .or (.relating "tag" "<>" "d")) }
    let statement : Statement :=
      ⟨"(tags IN($5, $6, $7) AND y >= $8) AND NOT (tags IS NOT NULL OR tags NOT IN($9))",
        [.text "a", .text "b", .text "c", .number ⟨false, 9, 0, by decide, by decide⟩, .text "d"]⟩
    definition.translate query 5 = .ok statement ∧
      statement.placeholders = ["$5", "$6", "$7", "$8", "$9"] ∧
      statement.lists = [["$5", "$6", "$7"], ["$9"]] ∧ [] ∉ statement.lists := by
  intro definition query statement
  have translated : definition.translate query 5 = .ok statement :=
    eq_ok_of_toOption (by decide +kernel)
  obtain ⟨consecutive, -, noEmpty⟩ := placeholders_of_translate translated
  exact ⟨translated, consecutive, by decide +kernel, noEmpty⟩

end Definition
end ContextualQuery
