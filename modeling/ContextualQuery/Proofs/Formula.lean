import ContextualQuery.Sql.Condition
import ContextualQuery.Sql.Field

/-!
# Reading conditions

How SQL reads the text of a condition: `NOT` binds tighter than `AND`, `AND` tighter than `OR`,
brackets group, and whatever else stands between operators is one predicate, brackets of its own
included.  Keywords are those in upper case, as conditions are written with them.

```text
expression  := conjunction (" OR " conjunction)*
conjunction := operand (" AND " operand)*
operand     := "NOT " operand | "(" expression ")" | predicate
```
-/

namespace ContextualQuery

/-- A boolean expression over the texts of predicates. -/
inductive Formula
  | always
  | atom (text : String)
  | not (operand : Formula)
  | and (left right : Formula)
  | or (left right : Formula)
deriving DecidableEq, Repr

namespace Formula

/-- The expression that the text of a predicate or `TRUE` stands for. -/
def ofText (text : List Char) : Formula :=
  if text = "TRUE".toList then .always else .atom (String.ofList text)

/-- The number of predicates. -/
def size : Formula → Nat
  | .always => 0
  | .atom _ => 1
  | .not operand => operand.size
  | .and left right | .or left right => left.size + right.size

/-- Whether the expression holds when the predicates, numbered from left to right from `start` on,
have the truth values given. -/
def holds (truth : Nat → Bool) (start : Nat) : Formula → Bool
  | .always => true
  | .atom _ => truth start
  | .not operand => !operand.holds truth start
  | .and left right => left.holds truth start && right.holds truth (start + left.size)
  | .or left right => left.holds truth start || right.holds truth (start + left.size)

/-! ## The reader -/

/-- What is left of a text behind an operator with a blank on either side. -/
def behind? (keyword : String) (text : List Char) : Option (List Char) :=
  let written := ' ' :: keyword.toList ++ [' ']
  if written.isPrefixOf text then some (text.drop written.length) else none

/-- Whether a predicate ends in front of a text: at an operator or at the end of a group. -/
def endsPredicate (text : List Char) : Bool :=
  text.head? == some ')' || (behind? "AND" text).isSome || (behind? "OR" text).isSome

/-- Takes a predicate off a text, with the number of brackets that are open in it. -/
def predicate : Nat → List Char → List Char × List Char
  | _, [] => ([], [])
  | opened, c :: rest =>
    if opened = 0 && endsPredicate (c :: rest) then ([], c :: rest)
    else
      let opened := if c = '(' then opened + 1 else if c = ')' then opened - 1 else opened
      let (text, behind) := predicate opened rest
      (c :: text, behind)

/-- Reads an operand, with a reader for what stands in a group. -/
def operand (group : List Char → Option (Formula × List Char)) :
    List Char → Option (Formula × List Char)
  | 'N' :: 'O' :: 'T' :: ' ' :: rest => do
    let (inner, rest) ← operand group rest
    some (.not inner, rest)
  | '(' :: rest => do
    match ← group rest with
    | (inner, ')' :: rest) => some (inner, rest)
    | _ => none
  | input =>
    match predicate 0 input with
    | ([], _) => none
    | (text, rest) => some (ofText text, rest)

/-- Reads operators of one kind and the parts behind them, as many as the budget allows. -/
def chain (keyword : String) (join : Formula → Formula → Formula)
    (part : List Char → Option (Formula × List Char)) :
    Nat → Formula → List Char → Option (Formula × List Char)
  | 0, left, rest => some (left, rest)
  | links + 1, left, rest =>
    match behind? keyword rest with
    | none => some (left, rest)
    | some rest => do
      let (right, rest) ← part rest
      chain keyword join part links (join left right) rest

/-- Reads parts joined by operators of one kind, which associate to the left. -/
def sequence (keyword : String) (join : Formula → Formula → Formula)
    (part : List Char → Option (Formula × List Char)) (input : List Char) :
    Option (Formula × List Char) := do
  let (first, rest) ← part input
  chain keyword join part rest.length first rest

/-- Reads an expression whose groups lie at most as deep as the budget allows. -/
def expression : Nat → List Char → Option (Formula × List Char)
  | 0, _ => none
  | depth + 1, input =>
    sequence "OR" .or (sequence "AND" .and (operand (expression depth))) input

/-- Reads the text of a condition.  No group lies deeper than the text is long. -/
def read (text : String) : Option Formula :=
  match expression (text.length + 1) text.toList with
  | some (formula, []) => some formula
  | _ => none

example : read "a = $1 OR b IN($2, $3) AND NOT (TRUE OR NOT LIKE $4)" =
    some (.or (.atom "a = $1") (.and (.atom "b IN($2, $3)")
      (.not (.or .always (.not (.atom "LIKE $4")))))) := by decide +kernel

/-! ## Reading operators -/

/-- Where an expression ends: at the end of the text or of a group. -/
def Closes (rest : List Char) : Prop := ∀ c ∈ rest.head?, c = ')'

theorem closes_nil : Closes [] := by
  intro c first
  cases first

theorem closes_paren (rest : List Char) : Closes (')' :: rest) := by
  intro c first
  cases first
  rfl

theorem behind?_eq_none {keyword : String} {rest : List Char} (other : rest.head? ≠ some ' ') :
    behind? keyword rest = none := by
  unfold behind?
  cases rest with
  | nil => rfl
  | cons c rest =>
    have different : (' ' == c) = false := by
      rw [beq_eq_false_iff_ne]
      rintro rfl
      exact other rfl
    simp [List.isPrefixOf, different]

theorem Closes.behind?_eq_none {rest : List Char} (closes : Closes rest) (keyword : String) :
    behind? keyword rest = none := by
  apply Formula.behind?_eq_none
  intro blank
  cases closes ' ' blank

theorem behind?_self (keyword : String) (rest : List Char) :
    behind? keyword (' ' :: (keyword.toList ++ ' ' :: rest)) = some rest := by
  have split : ' ' :: (keyword.toList ++ ' ' :: rest) =
      (' ' :: keyword.toList ++ [' ']) ++ rest := by simp
  have begins : (' ' :: keyword.toList ++ [' ']).isPrefixOf
      ((' ' :: keyword.toList ++ [' ']) ++ rest) = true := by
    rw [List.isPrefixOf_iff_prefix]
    exact List.prefix_append _ _
  rw [split, behind?]
  simp only [begins, if_true, List.drop_left]

variable {part : List Char → Option (Formula × List Char)} {keyword : String}
  {join : Formula → Formula → Formula} {left right : Formula} {rest later : List Char}

theorem chain_done (ends : behind? keyword rest = none) (links : Nat) :
    chain keyword join part links left rest = some (left, rest) := by
  cases links with
  | zero => rfl
  | succ links => rw [chain, ends]

/-- One operator with its right operand, behind which the chain ends. -/
theorem chain_one (read : part rest = some (right, later)) (ends : behind? keyword later = none) :
    chain keyword join part (' ' :: (keyword.toList ++ ' ' :: rest)).length left
      (' ' :: (keyword.toList ++ ' ' :: rest)) = some (join left right, later) := by
  rw [List.length_cons, chain, behind?_self]
  simp only [read, Option.bind_eq_bind, Option.bind_some]
  exact chain_done ends _

theorem sequence_done {input : List Char} (read : part input = some (left, rest))
    (ends : behind? keyword rest = none) :
    sequence keyword join part input = some (left, rest) := by
  rw [sequence, read]
  exact chain_done ends _

theorem sequence_one {input : List Char}
    (readLeft : part input = some (left, ' ' :: (keyword.toList ++ ' ' :: rest)))
    (readRight : part rest = some (right, later)) (ends : behind? keyword later = none) :
    sequence keyword join part input = some (join left right, later) := by
  rw [sequence, readLeft]
  exact chain_one readRight ends

/-! ## Reading predicates -/

/-- Whether a text inside so many brackets belongs to the predicate as a whole. -/
def Passes (opened : Nat) (text : List Char) : Prop :=
  ∀ rest, predicate opened (text ++ rest) =
    (text ++ (predicate opened rest).1, (predicate opened rest).2)

theorem passes_append {opened : Nat} {first second : List Char} (one : Passes opened first)
    (other : Passes opened second) : Passes opened (first ++ second) := by
  intro rest
  rw [List.append_assoc, one, other, List.append_assoc]

/-- A character outside brackets that neither ends the predicate nor is a bracket. -/
theorem predicate_cons {opened : Nat} {c : Char} {rest : List Char}
    (continues : opened = 0 → endsPredicate (c :: rest) = false) (noOpen : c ≠ '(')
    (noClose : c ≠ ')') :
    predicate opened (c :: rest) = (c :: (predicate opened rest).1, (predicate opened rest).2) := by
  rw [predicate, if_neg, if_neg noOpen, if_neg noClose]
  rw [Bool.and_eq_true, decide_eq_true_eq]
  rintro ⟨outside, ends⟩
  rw [continues outside] at ends
  cases ends

theorem endsPredicate_eq_false {c : Char} {rest : List Char} (noClose : c ≠ ')')
    (noBlank : c ≠ ' ') : endsPredicate (c :: rest) = false := by
  have other : (c :: rest).head? ≠ some ' ' := by simpa using noBlank
  rw [endsPredicate, behind?_eq_none other, behind?_eq_none other]
  simp [noClose]

/-- Words pass anywhere. -/
theorem passes_word {text : List Char} (word : ∀ c ∈ text, c ≠ ' ' ∧ c ≠ '(' ∧ c ≠ ')')
    (opened : Nat) : Passes opened text := by
  induction text with
  | nil => exact fun rest => rfl
  | cons c text ih =>
    rw [List.forall_mem_cons] at word
    intro rest
    rw [List.cons_append, predicate_cons (fun _ => endsPredicate_eq_false word.1.2.2 word.1.1)
      word.1.2.1 word.1.2.2, ih word.2]
    rfl

/-- Inside brackets everything but brackets passes. -/
theorem passes_inside {text : List Char} (inner : ∀ c ∈ text, c ≠ '(' ∧ c ≠ ')') (opened : Nat) :
    Passes (opened + 1) text := by
  induction text with
  | nil => exact fun rest => rfl
  | cons c text ih =>
    rw [List.forall_mem_cons] at inner
    intro rest
    rw [List.cons_append, predicate_cons (fun outside => absurd outside (Nat.succ_ne_zero _))
      inner.1.1 inner.1.2, ih inner.2]
    rfl

theorem passes_group {text : List Char} (inner : ∀ c ∈ text, c ≠ '(' ∧ c ≠ ')') :
    Passes 0 ('(' :: (text ++ [')'])) := by
  intro rest
  have opening : endsPredicate ('(' :: (text ++ [')'] ++ rest)) = false :=
    endsPredicate_eq_false (by decide) (by decide)
  rw [List.cons_append, predicate, opening, Bool.and_false]
  simp only [Bool.false_eq_true, if_false, if_true]
  rw [List.append_assoc, passes_inside inner 0, List.singleton_append, predicate]
  simp

/-- A blank passes where no operator follows it. -/
theorem passes_blank {c : Char} {text : List Char} (noAnd : c ≠ 'A') (noOr : c ≠ 'O')
    (passes : Passes 0 (c :: text)) : Passes 0 (' ' :: c :: text) := by
  intro rest
  have continues : endsPredicate (' ' :: (c :: text ++ rest)) = false := by
    have notAnd : ('A' == c) = false := beq_false_of_ne noAnd.symm
    have notOr : ('O' == c) = false := beq_false_of_ne noOr.symm
    simp [endsPredicate, behind?, List.isPrefixOf, notAnd, notOr]
  rw [List.cons_append, predicate_cons (fun _ => continues) (by decide) (by decide), passes]
  rfl

/-- A text that passes is a predicate in front of what ends one. -/
theorem Passes.predicate_eq {text rest : List Char} (passes : Passes 0 text)
    (ends : rest = [] ∨ endsPredicate rest = true) : predicate 0 (text ++ rest) = (text, rest) := by
  have stops : predicate 0 rest = ([], rest) := by
    cases rest with
    | nil => rfl
    | cons c rest =>
      rcases ends with nothing | ends
      · cases nothing
      · rw [predicate, ends]
        rfl
  rw [passes, stops, List.append_nil]

/-- A predicate in front of what ends one is read as an operand, unless it looks like a negated
one. -/
theorem operand_of_passes {group : List Char → Option (Formula × List Char)}
    {text rest : List Char} (passes : Passes 0 text) (nonempty : text ≠ [])
    (noGroup : '(' ∉ text.head?)
    (noNegation : ∀ more, text ++ rest ≠ 'N' :: 'O' :: 'T' :: ' ' :: more)
    (ends : rest = [] ∨ endsPredicate rest = true) :
    operand group (text ++ rest) = some (ofText text, rest) := by
  have taken := passes.predicate_eq ends
  cases text with
  | nil => exact absurd rfl nonempty
  | cons c text =>
    have noOpen : c ≠ '(' := by
      rintro rfl
      exact noGroup rfl
    unfold operand
    split
    · next more split => exact absurd split (noNegation more)
    · next more split => exact absurd (List.cons.inj split).1 noOpen
    · rw [taken]

end Formula

/-! ## The texts of predicates -/

/-- Whether a text holds neither blanks nor brackets. -/
def IsWord (text : List Char) : Prop := ∀ c ∈ text, c ≠ ' ' ∧ c ≠ '(' ∧ c ≠ ')'

/-- What stands in front of the first blank or opening bracket is determined. -/
theorem eq_of_word_append {word other tail more : List Char} {c d : Char} (isWord : IsWord word)
    (isOther : IsWord other) (stops : c = ' ' ∨ c = '(') (stops' : d = ' ' ∨ d = '(')
    (same : word ++ c :: tail = other ++ d :: more) : word = other ∧ c = d := by
  induction word generalizing other with
  | nil =>
    cases other with
    | nil => exact ⟨rfl, (List.cons.inj same).1⟩
    | cons e other =>
      obtain ⟨noBlank, noOpen, -⟩ := isOther e List.mem_cons_self
      rw [← (List.cons.inj same).1] at noBlank noOpen
      exact absurd stops (not_or.2 ⟨noBlank, noOpen⟩)
  | cons e word ih =>
    obtain ⟨noBlank, noOpen, -⟩ := isWord e List.mem_cons_self
    cases other with
    | nil =>
      rw [(List.cons.inj same).1] at noBlank noOpen
      exact absurd stops' (not_or.2 ⟨noBlank, noOpen⟩)
    | cons f other =>
      obtain ⟨rfl, behind⟩ := List.cons.inj same
      obtain ⟨rfl, stop⟩ := ih (fun c member => isWord c (List.mem_cons_of_mem _ member))
        (fun c member => isOther c (List.mem_cons_of_mem _ member)) behind
      exact ⟨rfl, stop⟩

theorem mem_of_isIdentifier {text : String} (valid : isIdentifier text = true) :
    ∀ c ∈ text.toList, c.isAlphanum = true ∨ c = '_' ∨ c = '.' := by
  unfold isIdentifier at valid
  cases split : text.toList with
  | nil => simp
  | cons first rest =>
    rw [split] at valid
    simp only [Bool.and_eq_true, Bool.or_eq_true, beq_iff_eq, List.all_eq_true] at valid
    rw [List.forall_mem_cons]
    refine ⟨?_, fun c member => or_assoc.1 (valid.2 c member)⟩
    rcases valid.1 with alpha | underscore
    · exact .inl (by rw [Char.isAlphanum, alpha, Bool.true_or])
    · exact .inr (.inl underscore)

theorem isWord_of_isIdentifier {text : String} (valid : isIdentifier text = true) :
    text.toList ≠ [] ∧ IsWord text.toList := by
  refine ⟨fun empty => ?_, fun c member => ?_⟩
  · unfold isIdentifier at valid
    rw [empty] at valid
    cases valid
  · rcases mem_of_isIdentifier valid c member with alphanum | rfl | rfl
    · refine ⟨?_, ?_, ?_⟩ <;>
      · rintro rfl
        cases alphanum
    · decide
    · decide

theorem isWord_placeholder (number : Nat) : IsWord (placeholder number).toList := by
  intro c member
  rw [placeholder, String.toList_append, List.mem_append] at member
  rcases member with dollar | digit
  · rw [List.mem_singleton.1 dollar]
    decide
  · change c ∈ number.repr.toList at digit
    rw [Nat.toList_repr] at digit
    have isDigit := Nat.isDigit_of_mem_toDigits (by decide) (by decide) digit
    refine ⟨?_, ?_, ?_⟩ <;>
    · rintro rfl
      cases isDigit

theorem mem_intercalate {separator : String} {parts : List String} {c : Char}
    (member : c ∈ (separator.intercalate parts).toList) :
    c ∈ separator.toList ∨ ∃ part ∈ parts, c ∈ part.toList := by
  induction parts with
  | nil => cases member
  | cons first others ih =>
    cases others with
    | nil => exact .inr ⟨first, List.mem_cons_self, by simpa using member⟩
    | cons second others =>
      rw [String.intercalate_cons_cons, String.toList_append, String.toList_append,
        List.mem_append, List.mem_append] at member
      rcases member with (inFirst | inSeparator) | behind
      · exact .inr ⟨first, List.mem_cons_self, inFirst⟩
      · exact .inl inSeparator
      · rcases ih behind with inSeparator | ⟨part, among, inside⟩
        · exact .inl inSeparator
        · exact .inr ⟨part, List.mem_cons_of_mem _ among, inside⟩

theorem no_bracket_placeholders (first count : Nat) :
    ∀ c ∈ (", ".intercalate ((List.range' first count).map placeholder)).toList,
      c ≠ '(' ∧ c ≠ ')' := by
  intro c member
  rcases mem_intercalate member with inSeparator | ⟨part, among, inside⟩
  · simp only [String.reduceToList, List.mem_cons, List.not_mem_nil, or_false] at inSeparator
    rcases inSeparator with rfl | rfl <;> decide
  · obtain ⟨number, -, rfl⟩ := List.mem_map.1 among
    exact (isWord_placeholder number c inside).2

/-- Whether the column and the language of a predicate are identifiers and the predicate does not
begin like a negated one. -/
def Predicate.IsReadable : Predicate → Prop
  | .notNull column | .compare column _ _ | .like column _ _ | .memberOf column _ _ =>
    isIdentifier column = true ∧ column ≠ "NOT"
  | .fullText column language _ => isIdentifier column = true ∧ isIdentifier language = true

namespace Predicate

open Formula

theorem toList_placeholder (number : Nat) :
    ∃ digits, (placeholder number).toList = '$' :: digits := by
  refine ⟨(toString number).toList, ?_⟩
  rw [placeholder, String.toList_append]
  rfl

theorem passes_blank_placeholder (number : Nat) :
    Passes 0 (' ' :: (placeholder number).toList) := by
  have word := passes_word (isWord_placeholder number) 0
  obtain ⟨digits, split⟩ := toList_placeholder number
  rw [split] at word ⊢
  exact passes_blank (by decide) (by decide) word

theorem passes_blank_symbol (comparator : Comparator) :
    Passes 0 (' ' :: comparator.symbol.toList) := by
  cases comparator <;> exact fun _ => rfl

theorem passes_column {column : String} {behind : List Char}
    (valid : isIdentifier column = true ∧ column ≠ "NOT") (passes : Passes 0 behind) :
    Passes 0 (column.toList ++ behind) :=
  passes_append (passes_word (isWord_of_isIdentifier valid.1).2 0) passes

theorem toList_text_notNull (first : Nat) (column : String) :
    (text first (.notNull column)).toList = column.toList ++ " IS NOT NULL".toList :=
  String.toList_append

theorem toList_text_compare (first : Nat) (column : String) (comparator : Comparator)
    (argument : Value) : (text first (.compare column comparator argument)).toList =
      column.toList ++ ' ' :: (comparator.symbol.toList ++ ' ' :: (placeholder first).toList) := by
  unfold text
  simp

theorem toList_text_like (first : Nat) (column : String) (negated : Bool) (pattern : String) :
    (text first (.like column negated pattern)).toList = column.toList ++
      ' ' :: ((if negated then "NOT LIKE" else "LIKE").toList ++
        ' ' :: (placeholder first).toList) := by
  unfold text
  cases negated <;> simp

theorem toList_text_memberOf (first : Nat) (column : String) (negated : Bool)
    (words : List String) : (text first (.memberOf column negated words)).toList =
      column.toList ++ ' ' :: ((if negated then "NOT " else "").toList ++ ("IN(".toList ++
        ((", ".intercalate ((List.range' first words.length).map placeholder)).toList ++
          [')']))) := by
  unfold text
  cases negated <;> simp

/-- The arguments of a text search function, in brackets. -/
def searchArguments (language value : String) : List Char :=
  "('".toList ++ (language.toList ++ ("', ".toList ++ (value.toList ++ [')'])))

theorem toList_text_fullText (first : Nat) (column language query : String) :
    (text first (.fullText column language query)).toList =
      "to_tsvector".toList ++ (searchArguments language column ++
        (" @@ to_tsquery".toList ++ searchArguments language (placeholder first))) := by
  unfold text
  simp [searchArguments]

/-- The arguments of a text search function pass, brackets included. -/
theorem passes_searchArguments {language value : String} (languageWord : IsWord language.toList)
    (word : IsWord value.toList) : Passes 0 (searchArguments language value) := by
  have split : searchArguments language value =
      '(' :: (('\'' :: language.toList ++ '\'' :: ',' :: ' ' :: value.toList) ++ [')']) := by
    simp [searchArguments]
  rw [split]
  apply passes_group
  simp only [List.forall_mem_append, List.forall_mem_cons]
  exact ⟨⟨by decide, fun c member => (languageWord c member).2⟩, by decide, by decide, by decide,
    fun c member => (word c member).2⟩

/-- The text of a predicate with legible names is one predicate. -/
theorem IsReadable.passes {predicate : Predicate} (readable : predicate.IsReadable) (first : Nat) :
    Passes 0 (predicate.text first).toList := by
  cases predicate with
  | notNull column =>
    have behind : Passes 0 " IS NOT NULL".toList := fun _ => rfl
    rw [toList_text_notNull]
    exact passes_column readable behind
  | compare column comparator argument =>
    rw [toList_text_compare]
    exact passes_column readable
      (passes_append (passes_blank_symbol comparator) (passes_blank_placeholder first))
  | like column negated pattern =>
    have keyword : Passes 0 (' ' :: (if negated then "NOT LIKE" else "LIKE").toList) := by
      cases negated <;> exact fun _ => rfl
    rw [toList_text_like]
    exact passes_column readable (passes_append keyword (passes_blank_placeholder first))
  | memberOf column negated words =>
    have keyword : Passes 0 (' ' :: ((if negated then "NOT " else "").toList ++ "IN".toList)) := by
      cases negated <;> exact fun _ => rfl
    have list := passes_group (no_bracket_placeholders first words.length)
    have behind := passes_append keyword list
    rw [List.cons_append, List.append_assoc] at behind
    rw [toList_text_memberOf]
    exact passes_column readable behind
  | fullText column language query =>
    obtain ⟨-, columnWord⟩ := isWord_of_isIdentifier readable.1
    obtain ⟨-, languageWord⟩ := isWord_of_isIdentifier readable.2
    have vector : Passes 0 "to_tsvector".toList := fun _ => rfl
    have matches' : Passes 0 " @@ to_tsquery".toList := fun _ => rfl
    have onQuery := passes_searchArguments languageWord (isWord_placeholder first)
    rw [toList_text_fullText]
    exact passes_append vector (passes_append (passes_searchArguments languageWord columnWord)
      (passes_append matches' onQuery))

/-- A predicate begins with a word, behind which stands a bracket, or a blank if the word is not the
keyword of a negation. -/
theorem IsReadable.begins {predicate : Predicate} (readable : predicate.IsReadable) (first : Nat) :
    ∃ word c tail, (predicate.text first).toList = word ++ c :: tail ∧ IsWord word ∧ word ≠ [] ∧
      (c = '(' ∨ c = ' ' ∧ word ≠ ['N', 'O', 'T']) := by
  have column {name : String} (valid : isIdentifier name = true ∧ name ≠ "NOT") :
      IsWord name.toList ∧ name.toList ≠ [] ∧
        (' ' = '(' ∨ ' ' = ' ' ∧ name.toList ≠ ['N', 'O', 'T']) := by
    obtain ⟨nonempty, word⟩ := isWord_of_isIdentifier valid.1
    refine ⟨word, nonempty, .inr ⟨rfl, fun same => valid.2 ?_⟩⟩
    rw [← String.ofList_toList (s := name), same]
  cases predicate with
  | notNull name =>
    refine ⟨name.toList, ' ', "IS NOT NULL".toList, ?_, column readable⟩
    exact String.toList_append
  | compare name comparator argument =>
    refine ⟨name.toList, ' ', comparator.symbol.toList ++ ' ' :: (placeholder first).toList, ?_,
      column readable⟩
    unfold text
    simp
  | like name negated pattern =>
    refine ⟨name.toList, ' ', (if negated then "NOT LIKE " else "LIKE ").toList ++
      (placeholder first).toList, ?_, column readable⟩
    unfold text
    cases negated <;> simp
  | memberOf name negated words =>
    refine ⟨name.toList, ' ', (if negated then "NOT IN(" else "IN(").toList ++
      (", ".intercalate ((List.range' first words.length).map placeholder)).toList ++ [')'], ?_,
      column readable⟩
    unfold text
    cases negated <;> simp
  | fullText name language query =>
    refine ⟨"to_tsvector".toList, '(', ("'" ++ language ++ "', " ++ name ++ ") @@ to_tsquery('" ++
      language ++ "', " ++ placeholder first ++ ")").toList, ?_, ?_, by decide, .inl rfl⟩
    · unfold text
      simp
    · simp [IsWord]

/-- A predicate with legible names is read as an operand. -/
theorem IsReadable.operand_text {predicate : Predicate} (readable : predicate.IsReadable)
    (first : Nat) {group : List Char → Option (Formula × List Char)} {rest : List Char}
    (ends : rest = [] ∨ endsPredicate rest = true) :
    operand group ((predicate.text first).toList ++ rest) =
      some (.atom (predicate.text first), rest) := by
  obtain ⟨word, c, tail, split, isWord, nonempty, behind⟩ := readable.begins first
  have isAtom : ofText (predicate.text first).toList = .atom (predicate.text first) := by
    rw [ofText, if_neg, String.ofList_toList]
    intro same
    have member : c ∈ "TRUE".toList := by
      rw [← same, split]
      simp
    rcases behind with rfl | ⟨rfl, -⟩ <;> revert member <;> decide
  rw [← isAtom]
  apply operand_of_passes (readable.passes first) _ _ _ ends
  · rw [split]
    simp
  · intro opens
    rw [split, List.head?_append, Option.or_of_isSome (by simpa using nonempty)] at opens
    exact (isWord _ (List.mem_of_mem_head? opens)).2.1 rfl
  · intro more negated
    rw [split, List.append_assoc] at negated
    have stops : c = ' ' ∨ c = '(' := behind.symm.imp And.left id
    have keyword : IsWord ['N', 'O', 'T'] := by simp [IsWord]
    obtain ⟨sameWord, rfl⟩ := eq_of_word_append isWord keyword stops (.inl rfl) negated
    rcases behind with bracket | ⟨-, other⟩
    · cases bracket
    · exact other sameWord

end Predicate

/-! ## Conditions -/

/-- The predicates of a condition from left to right. -/
def Condition.predicates : Condition → List Predicate
  | .always => []
  | .atom predicate => [predicate]
  | .join left _ right => left.predicates ++ right.predicates

theorem Condition.arguments_eq_flatMap (condition : Condition) :
    condition.arguments = condition.predicates.flatMap Predicate.arguments := by
  induction condition with
  | always => rfl
  | atom predicate => simp [predicates]
  | join left joiner right leftEq rightEq =>
    rw [arguments_join, leftEq, rightEq, predicates, List.flatMap_append]

end ContextualQuery
