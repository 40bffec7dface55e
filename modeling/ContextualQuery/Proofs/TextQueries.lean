import ContextualQuery.Proofs.TermMeaning

/-!
# Text queries

The text of a full-text query as PostgreSQL reads it.  Operands and operators take turns; between
quotes stands one word, in which a doubled quote is a quote, a backslash makes the next character
literal and a lone quote is the end.  Full-text search doubles the quotes of a word and leaves its
backslashes alone, so the words are read back exactly when none of them holds a backslash.
-/

namespace ContextualQuery
namespace TextQuery

/-- A token of a text query. -/
inductive Token
  /-- A word in quotes, with the weights or the star of the label behind it. -/
  | quoted (word label : List Char)
  | bare (word label : List Char)
  | not
  | opening
  | closing
  /-- The operands stand at this distance. -/
  | followedBy (distance : Nat)
  | and
  | or
deriving DecidableEq, Repr

/-- Whether an operand has to stand behind the token. -/
def Token.wantsOperand : Token → Bool
  | .quoted .. | .bare .. | .closing => false
  | _ => true

/-! ## The reader -/

def isBlank (c : Char) : Bool := c == ' ' || (9 ≤ c.toNat && c.toNat ≤ 13)

/-- Reads a word behind its opening quote. -/
def quoted? : List Char → Option (List Char × List Char)
  | [] => none
  | '\'' :: '\'' :: rest => (quoted? rest).map fun (word, behind) => ('\'' :: word, behind)
  | '\'' :: rest => some ([], rest)
  | ['\\'] => none
  | '\\' :: c :: rest => (quoted? rest).map fun (word, behind) => (c :: word, behind)
  | c :: rest => (quoted? rest).map fun (word, behind) => (c :: word, behind)

/-- Reads a word that is not in quotes, up to a blank, an operator or a label. -/
def bare? : List Char → Option (List Char × List Char)
  | [] => some ([], [])
  | ['\\'] => none
  | '\\' :: c :: rest => (bare? rest).map fun (word, behind) => (c :: word, behind)
  | c :: rest =>
    if isBlank c || "!&|():".toList.contains c then some ([], c :: rest)
    else (bare? rest).map fun (word, behind) => (c :: word, behind)

/-- A star asks for words that begin so, a letter for words of that weight. -/
def isMark (c : Char) : Bool := "*ABCDabcd".toList.contains c

/-- Takes the label behind a word, if there is one. -/
def label : List Char → List Char × List Char
  | ':' :: rest => (rest.takeWhile isMark, rest.dropWhile isMark)
  | text => ([], text)

def operand? : List Char → Option (Token × List Char)
  | '!' :: rest => some (.not, rest)
  | '(' :: rest => some (.opening, rest)
  | '\'' :: rest => do
    let (word, behind) ← quoted? rest
    some (.quoted word (label behind).1, (label behind).2)
  | text => do
    let (word, behind) ← bare? text
    if word.isEmpty then none else some (.bare word (label behind).1, (label behind).2)

def operatorSign? : List Char → Option (Token × List Char)
  | '&' :: rest => some (.and, rest)
  | '|' :: rest => some (.or, rest)
  | ')' :: rest => some (.closing, rest)
  | '<' :: '-' :: '>' :: rest => some (.followedBy 1, rest)
  | '<' :: d :: rest =>
    match d.isDigit, rest.dropWhile Char.isDigit with
    | true, '>' :: behind =>
      some (.followedBy (Nat.ofDigitChars 10 (d :: rest.takeWhile Char.isDigit) 0), behind)
    | _, _ => none
  | _ => none

/-- Reads the token that stands first, an operand or an operator. -/
def token? (operand : Bool) (text : List Char) : Option (Token × List Char) :=
  if operand then operand? text else operatorSign? text

theorem length_of_quoted? {text word behind : List Char}
    (taken : quoted? text = some (word, behind)) : behind.length < text.length := by
  fun_induction quoted? text generalizing word with
  | case1 | case4 => cases taken
  | case3 rest =>
    cases taken
    exact Nat.lt_succ_self _
  | case2 rest ih | case5 c rest ih =>
    obtain ⟨⟨inner, left⟩, inside, same⟩ := Option.map_eq_some_iff.1 taken
    cases same
    have shorter := ih inside
    simp only [List.length_cons]
    omega
  | case6 c rest _ _ _ _ ih =>
    obtain ⟨⟨inner, left⟩, inside, same⟩ := Option.map_eq_some_iff.1 taken
    cases same
    exact Nat.lt_succ_of_lt (ih inside)

theorem length_of_bare? {text word behind : List Char} (taken : bare? text = some (word, behind)) :
    word.length + behind.length ≤ text.length := by
  fun_induction bare? text generalizing word with
  | case1 =>
    cases taken
    exact Nat.le_refl _
  | case2 => cases taken
  | case3 c rest ih =>
    obtain ⟨⟨inner, left⟩, inside, same⟩ := Option.map_eq_some_iff.1 taken
    cases same
    have shorter := ih inside
    simp only [List.length_cons]
    omega
  | case4 c rest =>
    cases taken
    simp
  | case5 c rest _ _ _ ih =>
    obtain ⟨⟨inner, left⟩, inside, same⟩ := Option.map_eq_some_iff.1 taken
    cases same
    have shorter := ih inside
    simp only [List.length_cons]
    omega

theorem length_label (text : List Char) : (label text).2.length ≤ text.length := by
  unfold label
  split
  · exact Nat.le_succ_of_le (List.dropWhile_suffix _).length_le
  · exact Nat.le_refl _

theorem length_of_operand? {text behind : List Char} {token : Token}
    (taken : operand? text = some (token, behind)) : behind.length < text.length := by
  unfold operand? at taken
  split at taken
  · cases taken
    exact Nat.lt_succ_self _
  · cases taken
    exact Nat.lt_succ_self _
  · obtain ⟨⟨word, left⟩, inside, same⟩ := Option.bind_eq_some_iff.1 taken
    cases same
    exact Nat.lt_succ_of_lt ((length_label left).trans_lt (length_of_quoted? inside))
  · obtain ⟨⟨word, left⟩, inside, same⟩ := Option.bind_eq_some_iff.1 taken
    have shorter := length_of_bare? inside
    cases word with
    | nil => cases same
    | cons c word =>
      cases same
      have shortest := length_label left
      simp only [List.length_cons] at shorter
      omega

theorem length_of_operatorSign? {text behind : List Char} {token : Token}
    (taken : operatorSign? text = some (token, behind)) : behind.length < text.length := by
  unfold operatorSign? at taken
  split at taken
  case h_5 d rest _ =>
    have shorter := (List.dropWhile_suffix (l := rest) Char.isDigit).length_le
    split at taken
    · next digit found =>
      cases taken
      rw [found, List.length_cons] at shorter
      simp only [List.length_cons]
      omega
    · cases taken
  all_goals
    cases taken
  all_goals
    simp only [List.length_cons]
    omega

theorem length_of_token? {operand : Bool} {text behind : List Char} {token : Token}
    (taken : token? operand text = some (token, behind)) : behind.length < text.length := by
  cases operand with
  | true => exact length_of_operand? taken
  | false => exact length_of_operatorSign? taken

/-- The tokens of a text query: in front, an operand is wanted or not. -/
def tokens (operand : Bool) : List Char → Option (List Token)
  | [] => if operand then none else some []
  | c :: rest =>
    if isBlank c then tokens operand rest
    else match _taken : token? operand (c :: rest) with
      | none => none
      | some (token, behind) => (tokens token.wantsOperand behind).map (token :: ·)
termination_by text => text.length
decreasing_by
  · exact Nat.lt_succ_self _
  · exact length_of_token? _taken

example : tokens true "!('a''b':*A &c) <12> d".toList = some [.not, .opening,
    .quoted "a'b".toList "*A".toList, .and, .bare ['c'] [], .closing, .followedBy 12,
    .bare ['d'] []] := by
  decide +kernel

theorem tokens_eq_cons {operand : Bool} {c : Char} {rest : List Char} {token : Token}
    {others : List Token} (notBlank : isBlank c = false) :
    tokens operand (c :: rest) = some (token :: others) ↔ ∃ behind,
      token? operand (c :: rest) = some (token, behind) ∧
        tokens token.wantsOperand behind = some others := by
  rw [tokens, if_neg (Bool.eq_false_iff.1 notBlank)]
  split
  · next nothing => simp [nothing]
  · next found =>
    simp only [found, Option.map_eq_some_iff, List.cons.injEq, Option.some.injEq, Prod.mk.injEq]
    constructor
    · rintro ⟨_, read, rfl, rfl⟩
      exact ⟨_, ⟨rfl, rfl⟩, read⟩
    · rintro ⟨_, ⟨rfl, rfl⟩, read⟩
      exact ⟨_, read, rfl, rfl⟩

theorem token?_quote (text : List Char) : token? true ('\'' :: text) =
    (quoted? text).map fun (word, behind) =>
      (.quoted word (label behind).1, (label behind).2) := by
  rw [token?, if_pos rfl, operand?]
  cases quoted? text <;> rfl

/-! ## Quoted words -/

/-- Whether a quote in front of a text is the end of a word without a label. -/
def EndsWord (text : List Char) : Prop := text.head? ≠ some '\'' ∧ text.head? ≠ some ':'

theorem quoted?_cons {c : Char} (rest : List Char) (noQuote : c ≠ '\'') (noEscape : c ≠ '\\') :
    quoted? (c :: rest) = (quoted? rest).map fun (word, behind) => (c :: word, behind) := by
  rw [quoted?] <;> simp_all

theorem quoted?_quote {rest : List Char} (ends : EndsWord rest) :
    quoted? ('\'' :: rest) = some ([], rest) := by
  rw [quoted?]
  rintro others rfl
  exact ends.1 rfl

theorem quoted?_doubled {c : Char} (noEscape : c ≠ '\\') (rest : List Char) :
    quoted? (doubleQuote c ++ rest) =
      (quoted? rest).map fun (word, behind) => (c :: word, behind) := by
  unfold doubleQuote
  split
  · next quote =>
    rw [beq_iff_eq.1 quote, List.cons_append, List.cons_append, List.nil_append, quoted?]
  · next noQuote => exact quoted?_cons rest (by simpa using noQuote) noEscape

/-- A word without backslashes is read back. -/
theorem quoted?_doubleQuote {word rest : List Char} (plain : '\\' ∉ word) (ends : EndsWord rest) :
    quoted? (word.flatMap doubleQuote ++ '\'' :: rest) = some (word, rest) := by
  induction word with
  | nil => exact quoted?_quote ends
  | cons c word ih =>
    rw [List.flatMap_cons, List.append_assoc,
      quoted?_doubled (List.ne_of_not_mem_cons plain).symm,
      ih (List.not_mem_of_not_mem_cons plain), Option.map_some]

/-- A word that is read with a backslash in front has two of them in its text. -/
theorem starts_of_quoted? {text word behind : List Char}
    (taken : quoted? text = some ('\\' :: word, behind)) :
    ∃ rest, text = '\\' :: '\\' :: rest ∧ quoted? rest = some (word, behind) := by
  unfold quoted? at taken
  split at taken
  · cases taken
  · obtain ⟨_, -, same⟩ := Option.map_eq_some_iff.1 taken
    cases same
  · cases taken
  · cases taken
  · obtain ⟨_, inside, same⟩ := Option.map_eq_some_iff.1 taken
    cases same
    exact ⟨_, rfl, inside⟩
  · next c rest _ _ notLast escapesNone =>
    obtain ⟨_, -, same⟩ := Option.map_eq_some_iff.1 taken
    cases same
    exact absurd rfl (Quoted.ne_backslash notLast escapesNone)

theorem starts_of_doubleQuote {word rest text : List Char}
    (starts : word.flatMap doubleQuote ++ '\'' :: rest = '\\' :: '\\' :: text) :
    ∃ later, word = '\\' :: '\\' :: later ∧
      text = later.flatMap doubleQuote ++ '\'' :: rest := by
  have first {word : List Char} {text : List Char}
      (starts : word.flatMap doubleQuote ++ '\'' :: rest = '\\' :: text) :
      ∃ later, word = '\\' :: later ∧ text = later.flatMap doubleQuote ++ '\'' :: rest := by
    cases word with
    | nil => cases starts
    | cons c later =>
      rw [List.flatMap_cons, doubleQuote] at starts
      split at starts
      · next quote =>
        cases beq_iff_eq.1 quote
        cases starts
      · obtain ⟨rfl, rest⟩ := List.cons.inj starts
        exact ⟨later, rfl, rest.symm⟩
  obtain ⟨later, rfl, second⟩ := first starts
  obtain ⟨latest, rfl, third⟩ := first second.symm
  exact ⟨latest, rfl, third⟩

/-- Reading takes backslashes in pairs, so it never catches up with a word that is ahead by one. -/
theorem quoted?_ne_ahead (ahead : Nat) (word rest behind : List Char) :
    quoted? (word.flatMap doubleQuote ++ '\'' :: rest) ≠
      some (List.replicate (ahead + 1) '\\' ++ word, behind) := by
  intro taken
  obtain ⟨text, starts, taken⟩ := starts_of_quoted? taken
  obtain ⟨later, rfl, rfl⟩ := starts_of_doubleQuote starts
  have further : List.replicate ahead '\\' ++ '\\' :: '\\' :: later =
      List.replicate (ahead + 1 + 1) '\\' ++ later := by
    rw [List.append_cons, List.append_cons, ← List.replicate_succ', ← List.replicate_succ']
  exact quoted?_ne_ahead (ahead + 1) later rest behind (further ▸ taken)
termination_by word.length

theorem not_mem_of_quoted? {word rest behind : List Char}
    (taken : quoted? (word.flatMap doubleQuote ++ '\'' :: rest) = some (word, behind)) :
    '\\' ∉ word := by
  induction word with
  | nil => exact List.not_mem_nil
  | cons c word ih =>
    by_cases escape : c = '\\'
    · subst escape
      obtain ⟨text, starts, taken⟩ := starts_of_quoted? taken
      obtain ⟨later, same, rfl⟩ := starts_of_doubleQuote starts
      obtain rfl := (List.cons.inj same).2
      exact absurd taken (quoted?_ne_ahead 0 later rest behind)
    · rw [List.flatMap_cons, List.append_assoc, quoted?_doubled escape] at taken
      obtain ⟨_, inside, same⟩ := Option.map_eq_some_iff.1 taken
      cases same
      exact List.not_mem_cons_of_ne_of_not_mem (Ne.symm escape) (ih inside)

/-! ## Words in a row -/

theorem label_of_endsWord {text : List Char} (ends : EndsWord text) : label text = ([], text) := by
  unfold label
  split
  · exact absurd rfl ends.2
  · rfl

/-- A quoted word is the first token exactly where it holds no backslash. -/
theorem tokens_lexeme {word : String} {rest : List Char} {others : List Token}
    (ends : EndsWord rest) :
    tokens true ((lexeme word).toList ++ rest) = some (.quoted word.toList [] :: others) ↔
      '\\' ∉ word.toList ∧ tokens false rest = some others := by
  rw [lexeme, String.toList_ofList, List.cons_append, List.cons_append, List.append_assoc,
    List.singleton_append, tokens_eq_cons (by decide), token?_quote]
  constructor
  · rintro ⟨behind, found, read⟩
    obtain ⟨⟨inner, left⟩, inside, same⟩ := Option.map_eq_some_iff.1 found
    obtain ⟨⟨rfl, -⟩, rfl⟩ :
        (inner = word.toList ∧ (label left).1 = []) ∧ (label left).2 = behind := by
      simpa using same
    have plain := not_mem_of_quoted? inside
    cases (quoted?_doubleQuote plain ends).symm.trans inside
    rw [label_of_endsWord ends] at read
    exact ⟨plain, read⟩
  · rintro ⟨plain, read⟩
    refine ⟨rest, ?_, read⟩
    simp only [quoted?_doubleQuote plain ends, Option.map_some, label_of_endsWord ends]

/-- The text of a sign between two operands. -/
inductive Writes : String → Token → Prop
  | followedBy : Writes "<->" (.followedBy 1)
  | and : Writes "&" .and
  | or : Writes "|" .or

theorem Writes.endsWord {operator : String} {sign : Token} (writes : Writes operator sign)
    (rest : List Char) : EndsWord (operator.toList ++ rest) := by
  cases writes <;> exact ⟨by simp, by simp⟩

theorem Writes.tokens_eq_cons {operator : String} {sign : Token} (writes : Writes operator sign)
    {rest : List Char} {others : List Token} :
    tokens false (operator.toList ++ rest) = some (sign :: others) ↔
      tokens true rest = some others := by
  have taken : token? false (operator.toList ++ rest) = some (sign, rest) := by
    cases writes <;> rfl
  have wants : sign.wantsOperand = true := by cases writes <;> rfl
  obtain ⟨c, behind, starts, notBlank⟩ :
      ∃ c behind, operator.toList ++ rest = c :: behind ∧ isBlank c = false := by
    cases writes <;> exact ⟨_, _, rfl, by decide⟩
  rw [starts] at taken ⊢
  rw [TextQuery.tokens_eq_cons notBlank, taken]
  constructor
  · rintro ⟨_, same, read⟩
    cases same
    rwa [wants] at read
  · intro read
    exact ⟨rest, rfl, by rwa [wants]⟩

/-- The tokens of quoted words with a sign between neighbours. -/
def joined (sign : Token) (words : List String) : List Token :=
  (words.map fun word => .quoted word.toList []).intersperse sign

/-- Words that a sign joins are read back exactly where none of them holds a backslash. -/
theorem tokens_ofWords {operator : String} {sign : Token} (writes : Writes operator sign)
    {words : List String} (filled : words ≠ []) :
    tokens true (ofWords operator words).toList = some (joined sign words) ↔
      ∀ word ∈ words, '\\' ∉ word.toList := by
  induction words with
  | nil => exact absurd rfl filled
  | cons word others ih =>
    cases others with
    | nil =>
      have ends : EndsWord [] := ⟨by simp, by simp⟩
      have text : (ofWords operator [word]).toList = (lexeme word).toList ++ [] := by
        simp only [ofWords, String.toList_intercalate, List.map_cons, List.map_nil,
          List.intercalate_singleton, List.append_nil]
      have read : tokens false [] = some [] := by rw [tokens, if_neg Bool.false_ne_true]
      rw [text, joined, List.map_singleton, List.intersperse_singleton, tokens_lexeme ends,
        List.forall_mem_singleton]
      exact and_iff_left read
    | cons next others =>
      have text : (ofWords operator (word :: next :: others)).toList =
          (lexeme word).toList ++
            (operator.toList ++ (ofWords operator (next :: others)).toList) := by
        simp only [ofWords, String.toList_intercalate, List.map_cons,
          List.intercalate_cons_cons, List.append_assoc]
      rw [text, joined, List.map_cons, List.map_cons, List.intersperse_cons_cons,
        tokens_lexeme (writes.endsWord _), writes.tokens_eq_cons, List.forall_mem_cons]
      exact and_congr_right fun _ => ih (List.cons_ne_nil _ _)

/-- What a relation asks to stand between the words of a term. -/
def signOf? : String → Option Token
  | "=" | "adj" => some (.followedBy 1)
  | "all" => some .and
  | "any" => some .or
  | _ => none

theorem operator?_of_signOf? {relation : String} {sign : Token}
    (related : signOf? relation = some sign) :
    ∃ operator, operator? relation = some operator ∧ Writes operator sign := by
  unfold signOf? at related
  split at related
  · cases related
    exact ⟨_, rfl, .followedBy⟩
  · cases related
    exact ⟨_, rfl, .followedBy⟩
  · cases related
    exact ⟨_, rfl, .and⟩
  · cases related
    exact ⟨_, rfl, .or⟩
  · cases related

end TextQuery

theorem SearchClause.words_ne_nil (search : SearchClause) : search.words ≠ [] := by
  unfold words
  split
  · exact List.cons_ne_nil _ _
  · next filled => simpa using filled

/-- A full-text field asks for the words of the term with the sign of the relation between them, as
long as no word holds a backslash: a backslash takes the meaning of the quote behind it. -/
theorem TextField.tokens_of_predicate {field : TextField} {search : SearchClause}
    {predicate : Predicate} {language : String} {sign : TextQuery.Token}
    (searches : field.language = some language) (filled : search.term ≠ "")
    (related : TextQuery.signOf? search.relationOrDefault = some sign)
    (made : field.predicate search = .ok predicate) :
    ∃ query, predicate = .fullText field.column language query ∧
      (TextQuery.tokens true query.toList = some (TextQuery.joined sign search.words) ↔
        ∀ word ∈ search.words, '\\' ∉ word.toList) := by
  obtain ⟨operator, known, writes⟩ := TextQuery.operator?_of_signOf? related
  have searches : field.fullText? search.relationOrDefault = some (language, operator) := by
    rw [fullText?, searches, known]
    rfl
  obtain ⟨-, renders⟩ := predicate_eq_ok.1 made
  cases renders with
  | notNull asks => exact absurd (SearchClause.asksForAny_iff.1 asks).2 filled
  | fullText asks found valid read =>
    cases searches.symm.trans found
    cases Masking.exactWords_eq read
    exact ⟨_, rfl, TextQuery.tokens_ofWords writes search.words_ne_nil⟩
  | memberOf asks noFullText => cases searches.symm.trans noFullText
  | like whole => cases searches.symm.trans whole.noFullText
  | compare whole => cases searches.symm.trans whole.noFullText

theorem TextField.tokens_of_predicate_quotes :
    TextField.predicate { column := "body", language := some "english" }
        { relation := "all", term := "o'brien 'x|'" } =
      .ok (.fullText "body" "english" "'o''brien'&'''x|'''") ∧
    TextQuery.tokens true "'o''brien'&'''x|'''".toList =
      some [.quoted "o'brien".toList [], .and, .quoted "'x|'".toList []] := by
  have made : TextField.predicate { column := "body", language := some "english" }
      { relation := "all", term := "o'brien 'x|'" } =
        .ok (.fullText "body" "english" "'o''brien'&'''x|'''") :=
    eq_ok_of_toOption (by decide +kernel)
  obtain ⟨query, same, read⟩ := TextField.tokens_of_predicate rfl (by decide) rfl made
  cases same
  exact ⟨made, read.2 (by decide +kernel)⟩

/-- The words are `a\` and `|b`, but the backslash makes the quote behind it a character, so the
first word goes on to the quote that opens the second and `|` becomes an operator. -/
theorem TextField.exists_open_lexeme :
    TextField.predicate { column := "body", language := some "english" }
        { index := "b", relation := "=", term := "a\\\\ |b" } =
      .ok (.fullText "body" "english" "'a\\'<->'|b'") ∧
    SearchClause.words { index := "b", relation := "=", term := "a\\\\ |b" } = ["a\\", "|b"] ∧
    TextQuery.tokens true "'a\\'<->'|b'".toList =
      some [.quoted "a'<->".toList [], .or, .bare "b'".toList []] :=
  ⟨eq_ok_of_toOption (by decide +kernel), by decide +kernel, by decide +kernel⟩

end ContextualQuery
