import ContextualQuery.Command.Check
import ContextualQuery.Command.Translate
import ContextualQuery.Proofs.ClosedText
import ContextualQuery.Proofs.Layout
import Mathlib.Data.List.DropRight

/-!
# Trimmed texts

A query that is checked is read without the line ends behind it, one that is translated without any
white space there.  What the two leave is taken apart into the same tokens exactly if the white
space in question is nothing but blanks between tokens: it is, unless it stands within quotes that
are not closed or behind a backslash, or holds a character that is part of a word.  The reason is
that tokens keep all characters of a text but the blanks and quotes around them.
-/

namespace ContextualQuery

open Utf8 (Piece)

/-! ## The characters that tokens keep -/

namespace Place

/-- Whether a token keeps a character at the place. -/
def keeps (place : Place) (c : Char) : Bool :=
  match place with
  | .between => !Quoted.isBlank c && c != '"'
  | .word => !Quoted.isBlank c
  | .quoted => c != '"'
  | .escapedInWord | .escapedInQuotes => true

/-- The characters of a text that its tokens keep, one behind the other. -/
def kept (place : Place) : List Char → List Char
  | [] => []
  | c :: text =>
    if place.keeps c then c :: (place.after c).kept text else (place.after c).kept text

theorem kept_cons_of_keeps {place : Place} {c : Char} (keeps : place.keeps c = true)
    (text : List Char) : place.kept (c :: text) = c :: (place.after c).kept text := if_pos keeps

theorem kept_cons_of_drops {place : Place} {c : Char} (drops : place.keeps c = false)
    (text : List Char) : place.kept (c :: text) = (place.after c).kept text :=
  if_neg (by simp [drops])

theorem kept_append (place : Place) (front rest : List Char) :
    place.kept (front ++ rest) = place.kept front ++ (place.behind front).kept rest := by
  induction front generalizing place with
  | nil => rfl
  | cons c front ih =>
    cases keeps : place.keeps c with
    | true =>
      rw [List.cons_append, kept_cons_of_keeps keeps, kept_cons_of_keeps keeps, ih, behind_cons,
        List.cons_append]
    | false =>
      rw [List.cons_append, kept_cons_of_drops keeps, kept_cons_of_drops keeps, ih, behind_cons]

theorem word_keeps {c : Char} (notBlank : Quoted.isBlank c = false) : word.keeps c = true := by
  change (!Quoted.isBlank c) = true
  rw [notBlank, Bool.not_false]

theorem word_drops {c : Char} (blank : Quoted.isBlank c = true) : word.keeps c = false := by
  change (!Quoted.isBlank c) = false
  rw [blank, Bool.not_true]

/-- Where a word may begin, what is no quote is kept as it is within one. -/
theorem between_keeps_of_word {c : Char} (noQuote : c ≠ '"') : between.keeps c = word.keeps c := by
  change (!Quoted.isBlank c && c != '"') = !Quoted.isBlank c
  rw [bne_iff_ne.2 noQuote, Bool.and_true]

theorem quoted_keeps {c : Char} (noQuote : c ≠ '"') : quoted.keeps c = true :=
  bne_iff_ne.2 noQuote

theorem noQuote_of_endsWord {c : Char} (ends : Quoted.endsWord c = true) : c ≠ '"' := by
  rintro rfl
  cases ends

/-- A blank is not kept, and no word goes on behind it. -/
theorem between_kept_blank {c : Char} (blank : Quoted.isBlank c = true) (text : List Char) :
    between.kept (c :: text) = between.kept text := by
  have ends : Quoted.endsWord c = true := by rw [Quoted.endsWord, blank, Bool.true_or]
  have drops : between.keeps c = false := by
    rw [between_keeps_of_word (noQuote_of_endsWord ends), word_drops blank]
  rw [kept_cons_of_drops drops, between_after ends]

/-- Where a word ends, it makes no difference that there was one. -/
theorem word_kept_of_endsWord {c : Char} (ends : Quoted.endsWord c = true) (text : List Char) :
    word.kept (c :: text) = between.kept (c :: text) := by
  have same := between_keeps_of_word (noQuote_of_endsWord ends)
  cases keeps : word.keeps c with
  | true =>
    rw [kept_cons_of_keeps keeps, kept_cons_of_keeps (same.trans keeps), word_after ends,
      between_after ends]
  | false =>
    rw [kept_cons_of_drops keeps, kept_cons_of_drops (same.trans keeps), word_after ends,
      between_after ends]

theorem word_kept_cons {c : Char} (continues : Quoted.endsWord c = false) (noBackslash : c ≠ '\\')
    (text : List Char) : word.kept (c :: text) = c :: word.kept text := by
  have notBlank : Quoted.isBlank c = false := (Bool.or_eq_false_iff.1 continues).1
  rw [kept_cons_of_keeps (word_keeps notBlank), word_after_plain continues noBackslash]

theorem quoted_kept_cons {c : Char} (noQuote : c ≠ '"') (noBackslash : c ≠ '\\')
    (text : List Char) : quoted.kept (c :: text) = c :: quoted.kept text := by
  rw [kept_cons_of_keeps (quoted_keeps noQuote), quoted_after_plain noQuote noBackslash]

end Place

/-- Texts are made of plain characters and of backslashes with the characters that they escape. -/
@[elab_as_elim]
theorem Quoted.escape_induction {motive : List Char → Prop} (nil : motive [])
    (dangling : motive ['\\']) (escape : ∀ c text, motive text → motive ('\\' :: c :: text))
    (plain : ∀ c text, c ≠ '\\' → motive text → motive (c :: text)) : ∀ text, motive text
  | [] => nil
  | [c] => if backslash : c = '\\' then backslash ▸ dangling else plain c [] backslash nil
  | c :: d :: text =>
    if backslash : c = '\\' then
      backslash ▸ escape d text (escape_induction nil dangling escape plain text)
    else plain c (d :: text) backslash (escape_induction nil dangling escape plain (d :: text))

namespace Token

/-- A run of a bare word keeps what is kept in a word, and leaves what stands between tokens. -/
theorem run_endsWord_kept (text : List Char) :
    ∃ (word : List Char) (dotted : Bool) (left : List Char),
      run Quoted.endsWord (text.map .char) = ⟨word, dotted, left.map .char⟩ ∧
      Place.word.kept text = word ++ Place.between.kept left := by
  induction text using Quoted.escape_induction with
  | nil => exact ⟨[], false, [], rfl, rfl⟩
  | dangling => exact ⟨['\\'], false, [], rfl, by decide⟩
  | escape c text ih =>
    obtain ⟨word, dotted, left, read, kept⟩ := ih
    refine ⟨'\\' :: c :: word, dotted, left, ?_, ?_⟩
    · rw [List.map_cons, List.map_cons, run_escape (by decide), read]
    · rw [List.cons_append, List.cons_append, ← kept]
      rfl
  | plain c text noBackslash ih =>
    cases ends : Quoted.endsWord c with
    | true =>
      exact ⟨[], false, c :: text, run_stop ends _, Place.word_kept_of_endsWord ends text⟩
    | false =>
      obtain ⟨word, dotted, left, read, kept⟩ := ih
      refine ⟨c :: word, c == '.' || dotted, left, ?_, ?_⟩
      · rw [List.map_cons, run_plain ends noBackslash, read]
      · rw [Place.word_kept_cons ends noBackslash, kept, List.cons_append]

/-- A run of a string keeps what is kept between quotes, up to the quote that closes it. -/
theorem run_quote_kept (text : List Char) :
    ∃ (content : List Char) (dotted : Bool) (left : List Char),
      run (· == '"') (text.map .char) = ⟨content, dotted, left.map .char⟩ ∧
      ∃ behind : List Char, afterQuote (left.map .char) = behind.map .char ∧
        Place.quoted.kept text = content ++ Place.between.kept behind := by
  induction text using Quoted.escape_induction with
  | nil => exact ⟨[], false, [], rfl, [], rfl, rfl⟩
  | dangling => exact ⟨['\\'], false, [], rfl, [], rfl, by decide⟩
  | escape c text ih =>
    obtain ⟨content, dotted, left, read, behind, closes, kept⟩ := ih
    refine ⟨'\\' :: c :: content, dotted, left, ?_, behind, closes, ?_⟩
    · rw [List.map_cons, List.map_cons, run_escape (by decide), read]
    · rw [List.cons_append, List.cons_append, ← kept]
      rfl
  | plain c text noBackslash ih =>
    by_cases quote : c = '"'
    · subst quote
      exact ⟨[], false, '"' :: text, run_stop rfl _, text, rfl, rfl⟩
    · obtain ⟨content, dotted, left, read, behind, closes, kept⟩ := ih
      refine ⟨c :: content, c == '.' || dotted, left, ?_, behind, closes, ?_⟩
      · rw [List.map_cons, run_plain (by simpa using quote) noBackslash, read]
      · rw [Place.quoted_kept_cons quote noBackslash, kept, List.cons_append]

/-- A sign is made of characters that stand for themselves. -/
theorem isStructural_of_sign? {first : Char} {rest behind : List Piece} {token : Token}
    (found : sign? first rest = some (token, behind)) :
    token.text.toList.all Quoted.isStructural = true := by
  revert found
  unfold sign?
  split <;> rintro ⟨⟩ <;> decide

theorem kept_of_isStructural {signs : List Char}
    (structural : signs.all Quoted.isStructural = true) (rest : List Char) :
    Place.between.kept (signs ++ rest) = signs ++ Place.between.kept rest := by
  induction signs with
  | nil => rfl
  | cons c signs ih =>
    rw [List.all_cons, Bool.and_eq_true] at structural
    obtain ⟨first, others⟩ := structural
    have ends : Quoted.endsWord c = true := by rw [Quoted.endsWord, first, Bool.or_true]
    have notBlank : Quoted.isBlank c = false := by
      simp only [Quoted.isStructural, Bool.or_eq_true, beq_iff_eq] at first
      rcases first with ((((rfl | rfl) | rfl) | rfl) | rfl) | rfl <;> rfl
    have keeps : Place.between.keeps c = true := by
      rw [Place.between_keeps_of_word (Place.noQuote_of_endsWord ends), Place.word_keeps notBlank]
    rw [List.cons_append, Place.kept_cons_of_keeps keeps, Place.between_after ends, ih others,
      List.cons_append]

/-- A token keeps what is to be kept of the characters that it takes up. -/
theorem starting_kept {first : Char} (notBlank : Quoted.isBlank first = false) (rest : List Char) :
    ∃ (token : Token) (left : List Char),
      starting first (rest.map .char) = (token, left.map .char) ∧
      Place.between.kept (first :: rest) = token.text.toList ++ Place.between.kept left := by
  unfold starting
  cases found : sign? first (rest.map .char) with
  | some taken =>
    obtain ⟨others, left, same, split, written⟩ := sign?_text found
    have kept := kept_of_isStructural (isStructural_of_sign? found) left
    rw [written, List.cons_append, ← split] at kept
    exact ⟨taken.1, left, Prod.ext rfl same, by rw [kept, written]⟩
  | none =>
    have continues := endsWord_of_sign?_eq_none notBlank found
    by_cases quote : first = '"'
    · subst quote
      obtain ⟨content, dotted, left, read, behind, closes, kept⟩ := run_quote_kept rest
      refine ⟨.word (String.ofList content), behind, ?_, ?_⟩
      · rw [if_pos rfl, string, read]
        exact Prod.ext rfl closes
      · rw [text, String.toList_ofList, ← kept]
        rfl
    · simp only [if_neg quote]
      obtain ⟨word, dotted, left, read, kept⟩ := run_endsWord_kept (first :: rest)
      refine ⟨ofWord (String.ofList word) dotted, left, ?_, ?_⟩
      · rw [bareWord, ← List.map_cons, read]
      · have keeps := Place.word_keeps notBlank
        have keepsAtOnce := (Place.between_keeps_of_word quote).trans keeps
        rw [text_of_term? (term?_ofWord _ _), String.toList_ofList, ← kept,
          Place.kept_cons_of_keeps keeps, Place.kept_cons_of_keeps keepsAtOnce,
          Place.between_after_of_word continues quote]

/-- The characters of the tokens of a text are those to be kept of it. -/
theorem scan_kept (chars : List Char) :
    (scan chars).flatMap (fun token => token.text.toList) = Place.between.kept chars := by
  induction length : chars.length using Nat.strongRecOn generalizing chars with
  | ind length ih =>
    subst length
    cases chars with
    | nil => rw [scan_nil]; rfl
    | cons first rest =>
      cases blank : Quoted.isBlank first with
      | true =>
        rw [scan_blank blank, ih rest.length (Nat.lt_succ_self _) rest rfl,
          Place.between_kept_blank blank]
      | false =>
        obtain ⟨token, left, taken, kept⟩ := starting_kept blank rest
        have shorter := length_starting_le (rest.map Piece.char) blank
        rw [taken, List.length_map, List.length_map] at shorter
        rw [scan_cons blank taken, List.flatMap_cons,
          ih left.length (Nat.lt_succ_of_le shorter) left rfl, kept]

end Token

/-! ## White space at the end -/

namespace Place

variable {text : List Char}

theorem isBlank_of_between_kept (noQuote : ∀ c ∈ text, c ≠ '"')
    (none_kept : between.kept text = []) : ∀ c ∈ text, Quoted.isBlank c = true := by
  induction text with
  | nil => simp
  | cons c text ih =>
    obtain ⟨differ, others⟩ := List.forall_mem_cons.1 noQuote
    cases blank : Quoted.isBlank c with
    | true =>
      rw [between_kept_blank blank] at none_kept
      exact List.forall_mem_cons.2 ⟨blank, ih others none_kept⟩
    | false =>
      have keeps := (between_keeps_of_word differ).trans (word_keeps blank)
      rw [kept_cons_of_keeps keeps] at none_kept
      cases none_kept

/-- Of a text without quotes nothing is kept only if it is blank and stands behind a closed one. -/
theorem isClosed_of_kept {place : Place} {c : Char} (noQuote : ∀ d ∈ c :: text, d ≠ '"')
    (none_kept : place.kept (c :: text) = []) :
    place.isClosed = true ∧ ∀ d ∈ c :: text, Quoted.isBlank d = true := by
  cases place with
  | between => exact ⟨rfl, isBlank_of_between_kept noQuote none_kept⟩
  | word =>
    cases blank : Quoted.isBlank c with
    | true =>
      have ends : Quoted.endsWord c = true := by rw [Quoted.endsWord, blank, Bool.true_or]
      rw [word_kept_of_endsWord ends] at none_kept
      exact ⟨rfl, isBlank_of_between_kept noQuote none_kept⟩
    | false =>
      rw [kept_cons_of_keeps (word_keeps blank)] at none_kept
      cases none_kept
  | quoted =>
    rw [kept_cons_of_keeps (quoted_keeps (noQuote c List.mem_cons_self))] at none_kept
    cases none_kept
  | escapedInWord => cases none_kept
  | escapedInQuotes => cases none_kept

end Place

namespace Blank

def endsLine (c : Char) : Bool := c == '\r' || c == '\n'

/-- The white space that a text ends in when the line ends behind it are gone. -/
def leftOver (text : String) : List Char := (trimEnd endsLine text).toList.rtakeWhile isBlank

theorem toList_trimEnd (drops : Char → Bool) (text : String) :
    (trimEnd drops text).toList = text.toList.rdropWhile drops := String.toList_ofList

theorem isBlank_of_endsLine {c : Char} (ends : endsLine c = true) : isBlank c = true := by
  simp only [endsLine, Bool.or_eq_true, beq_iff_eq] at ends
  rcases ends with rfl | rfl <;> rfl

theorem rdropWhile_endsLine (chars : List Char) :
    (chars.rdropWhile endsLine).rdropWhile isBlank = chars.rdropWhile isBlank := by
  induction chars using List.reverseRecOn with
  | nil => rfl
  | append_singleton chars c ih =>
    cases ends : endsLine c with
    | true =>
      rw [List.rdropWhile_concat_pos _ _ _ ends, ih,
        List.rdropWhile_concat_pos _ _ _ (isBlank_of_endsLine ends)]
    | false => rw [List.rdropWhile_concat_neg _ _ _ (by simp [ends])]

theorem toList_trimEnd_endsLine (text : String) :
    (trimEnd endsLine text).toList = (trimEnd isBlank text).toList ++ leftOver text := by
  rw [leftOver, toList_trimEnd, toList_trimEnd, ← rdropWhile_endsLine,
    List.rdropWhile_append_rtakeWhile]

theorem isBlank_of_leftOver {text : String} : ∀ c ∈ leftOver text, isBlank c = true :=
  fun _ => List.mem_rtakeWhile_imp

end Blank

/-- Whether the white space behind a text that is not a line end is nothing but blanks between
tokens, if there is any. -/
def EndsPlainly (text : String) : Prop :=
  Blank.leftOver text = [] ∨
    IsClosed (Blank.trimEnd Blank.isBlank text) ∧
      ∀ c ∈ Blank.leftOver text, Quoted.isBlank c = true

instance (text : String) : Decidable (EndsPlainly text) :=
  decidable_of_iff ((Blank.leftOver text).isEmpty = true ∨
    IsClosed (Blank.trimEnd Blank.isBlank text) ∧
      (Blank.leftOver text).all Quoted.isBlank = true) <| by
  rw [EndsPlainly, List.isEmpty_iff, List.all_eq_true]

namespace Token

theorem scan_blanks {gap : List Char} (blank : ∀ c ∈ gap, Quoted.isBlank c = true) :
    scan gap = [] := by
  induction gap with
  | nil => exact scan_nil
  | cons c gap ih =>
    obtain ⟨first, others⟩ := List.forall_mem_cons.1 blank
    rw [scan_blank first, ih others]

/-- A closed text has the same tokens with blanks behind it. -/
theorem scan_append_blanks {text gap : List Char}
    (closed : (Place.between.behind text).isClosed = true)
    (blank : ∀ c ∈ gap, Quoted.isBlank c = true) : scan (text ++ gap) = scan text := by
  have breaks : Breaks gap := by
    intro c first
    rw [Quoted.endsWord, blank c (List.mem_of_mem_head? first), Bool.true_or]
  have ends : EndsSign gap := by
    intro c first
    have space := blank c (List.mem_of_mem_head? first)
    constructor <;> rintro rfl <;> cases space
  rw [scan_append closed breaks ends, scan_blanks blank, List.append_nil]

/-- White space that a text ends in makes no difference to the tokens only if they are blanks
between tokens. -/
theorem scan_trimEnd_iff (text : String) :
    scan (Blank.trimEnd Blank.isBlank text).toList =
      scan (Blank.trimEnd Blank.endsLine text).toList ↔ EndsPlainly text := by
  rw [Blank.toList_trimEnd_endsLine]
  have white : ∀ c ∈ Blank.leftOver text, Blank.isBlank c = true := Blank.isBlank_of_leftOver
  unfold EndsPlainly
  constructor
  · intro same
    have kept := congrArg (List.flatMap fun token => token.text.toList) same
    rw [scan_kept, scan_kept, Place.kept_append, List.self_eq_append_right] at kept
    cases rest : Blank.leftOver text with
    | nil => exact .inl rfl
    | cons c others =>
      rw [rest] at kept white
      have noQuote : ∀ d ∈ c :: others, d ≠ '"' := by
        rintro _ member rfl
        exact absurd (white _ member) (by decide)
      exact .inr (Place.isClosed_of_kept noQuote kept)
  · rintro (none_left | ⟨closed, blank⟩)
    · rw [none_left, List.append_nil]
    · exact (scan_append_blanks closed blank).symm

end Token

/-! ## Queries that are checked and translated -/

namespace Query

/-- What is read, or what is wrong, depends on the tokens alone. -/
theorem parse_message (settings : Settings) (text : String) :
    (parse settings text).mapError ParseError.message =
      (ofTokens settings (Token.scan text.toList)).mapError fun failure =>
        failure.fault.message := by
  rw [parse, parseBytes, Lexeme.tokens_encode]
  cases ofTokens settings (Token.scan text.toList) <;> rfl

end Query

namespace TranslateOptions

/-- The text that is translated has the tokens of the text that is checked exactly if it ends
plainly.  Then both are read as the same query or refused with the same message, and where they are
read, the query shown by a check is the one translated. -/
theorem run_eq_translate (options : TranslateOptions) (format : Format) (indent : Nat) :
    let check : CheckOptions := { query := options.query, strict := options.strict, format, indent }
    (EndsPlainly options.query ↔
      Token.scan (Blank.trimEnd Blank.isBlank options.query).toList =
        Token.scan (Blank.trimEnd Blank.endsLine options.query).toList) ∧
    (EndsPlainly options.query →
      options.parse.mapError ParseError.message = check.parse.mapError ParseError.message ∧
      ∀ query, (options.parse = .ok query ↔ check.parse = .ok query) ∧
        (check.parse = .ok query → check.run = .ok (check.render query) ∧
          options.run = options.definition >>= fun definition =>
            (definition.translate query options.first).mapError .sql)) := by
  intro check
  refine ⟨(Token.scan_trimEnd_iff _).symm, fun plain => ?_⟩
  have same : options.parse.mapError ParseError.message =
      check.parse.mapError ParseError.message := by
    rw [parse, Query.parse_message, (Token.scan_trimEnd_iff _).2 plain, ← Query.parse_message]
    rfl
  have alike (query : Query) : options.parse = .ok query ↔ check.parse = .ok query := by
    have translated : options.parse.mapError ParseError.message = .ok query ↔ _ := mapError_eq_ok
    have checked : check.parse.mapError ParseError.message = .ok query ↔ _ := mapError_eq_ok
    rw [← translated, same, checked]
  refine ⟨same, fun query => ⟨alike query, fun read => ⟨?_, ?_⟩⟩⟩
  · rw [CheckOptions.run, read]
    rfl
  · rw [run, (alike query).2 read]
    rfl

/-- A word that ends in an escaped quote, in a string that is closed in front of the blanks. -/
theorem run_eq_translate_blanks :
    let options : TranslateOptions :=
      { query := "a = \"x \\\" \" \t\r \n", fields := ["a=title"], first := 3 }
    let check : CheckOptions := { query := options.query, format := .json, indent := 0 }
    let query : Query :=
      { clause := .search [] { index := "a", relation := "=", term := "x \\\" " } }
    EndsPlainly options.query ∧ check.parse = .ok query ∧
      check.run = .ok (.json query.json) ∧
      options.run = .ok ⟨"title = $3", [.text "x \" "]⟩ := by
  intro options check query
  have plain : EndsPlainly options.query := by decide +kernel
  have read : check.parse = .ok query := by decide +kernel
  obtain ⟨-, alike⟩ := run_eq_translate options .json 0
  obtain ⟨shown, translated⟩ := ((alike plain).2 query).2 read
  exact ⟨plain, read, shown, translated.trans (by decide +kernel)⟩

/-- A string that is not closed is translated without the blank that it ends in, and a term that is
white space, though no blank between tokens, is not there to be translated at all. -/
theorem exists_trimmed_term :
    (∃ (options : TranslateOptions) (shown : Query),
      CheckOptions.parse { query := options.query } = .ok shown ∧
      (options.definition >>= fun definition =>
        (definition.translate shown options.first).mapError .sql) =
          .ok ⟨"a = $1", [.text "x "]⟩ ∧
      options.run = .ok ⟨"a = $1", [.text "x"]⟩) ∧
    ∃ (options : TranslateOptions) (shown : Query),
      CheckOptions.parse { query := options.query } = .ok shown ∧
      options.parse.toOption = none := by
  constructor
  · exact ⟨{ query := "a = \"x ", fields := ["a"] },
      { clause := .search [] { index := "a", relation := "=", term := "x " } },
      by decide +kernel, by decide +kernel, by decide +kernel⟩
  · exact ⟨{ query := "a = \u00a0" },
      { clause := .search [] { index := "a", relation := "=", term := "\u00a0" } },
      by decide +kernel, by decide +kernel⟩

end TranslateOptions
end ContextualQuery
