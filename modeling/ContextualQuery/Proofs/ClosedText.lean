import ContextualQuery.Proofs.Lexing

/-!
# Closed texts

A text is closed if what is written behind it can belong to none of its tokens: it ends neither
inside quotes nor behind a backslash that escapes the character to come.  Such a text and one behind
it that begins with a character at which a bare word ends are scanned apart from each other.
-/

namespace ContextualQuery

/-- Where a character stands with respect to the tokens of a text. -/
inductive Place
  /-- Between tokens, or where a sign may go on. -/
  | between
  | word
  /-- Behind a backslash in a bare word. -/
  | escapedInWord
  /-- Between quotes. -/
  | quoted
  | escapedInQuotes
deriving DecidableEq, Repr

namespace Place

/-- The place behind a character. -/
def after (place : Place) (c : Char) : Place :=
  match place with
  | .between =>
    if Quoted.endsWord c then .between
    else if c = '"' then .quoted
    else if c = '\\' then .escapedInWord
    else .word
  | .word =>
    if Quoted.endsWord c then .between else if c = '\\' then .escapedInWord else .word
  | .escapedInWord => .word
  | .quoted => if c = '"' then .between else if c = '\\' then .escapedInQuotes else .quoted
  | .escapedInQuotes => .quoted

/-- The place behind all characters of a text. -/
def behind (place : Place) (text : List Char) : Place := text.foldl after place

/-- Whether what stands behind the place cannot belong to a quoted string or an escape in front. -/
def isClosed : Place → Bool
  | .between | .word => true
  | _ => false

@[simp]
theorem behind_nil (place : Place) : place.behind [] = place := rfl

@[simp]
theorem behind_cons (place : Place) (c : Char) (text : List Char) :
    place.behind (c :: text) = (place.after c).behind text := rfl

theorem between_after {c : Char} (ends : Quoted.endsWord c = true) : between.after c = between := by
  rw [after, if_pos ends]

theorem word_after {c : Char} (ends : Quoted.endsWord c = true) : word.after c = between := by
  rw [after, if_pos ends]

theorem word_after_plain {c : Char} (continues : Quoted.endsWord c = false)
    (noBackslash : c ≠ '\\') : word.after c = word := by
  rw [after, if_neg (by simp [continues]), if_neg noBackslash]

/-- A bare word may begin with any character that may stand in one, but a quote. -/
theorem between_after_of_word {c : Char} (continues : Quoted.endsWord c = false)
    (noQuote : c ≠ '"') : between.after c = word.after c := by
  simp only [after, continues, Bool.false_eq_true, if_false, if_neg noQuote]

theorem quoted_after_plain {c : Char} (noQuote : c ≠ '"') (noBackslash : c ≠ '\\') :
    quoted.after c = quoted := by
  rw [after, if_neg noQuote, if_neg noBackslash]

end Place

/-- Whether a text ends neither inside quotes nor behind a backslash that escapes what follows. -/
def IsClosed (text : String) : Prop := (Place.between.behind text.toList).isClosed = true

instance (text : String) : Decidable (IsClosed text) :=
  inferInstanceAs (Decidable ((Place.between.behind text.toList).isClosed = true))

namespace Token

variable {text rest : List Char}

/-- A closed text goes on behind its first bare word where the bare word alone ends. -/
theorem run_endsWord_append (closed : (Place.word.behind text).isClosed = true)
    (breaks : Breaks rest) : ∃ (word : List Char) (dotted : Bool) (left : List Char),
      (Place.between.behind left).isClosed = true ∧
      run Quoted.endsWord (text.map .char) = ⟨word, dotted, left.map .char⟩ ∧
      run Quoted.endsWord ((text ++ rest).map .char) = ⟨word, dotted, (left ++ rest).map .char⟩ := by
  induction text using Quoted.keepsTogether.induct with
  | case1 =>
    refine ⟨[], false, [], rfl, rfl, ?_⟩
    exact run_endsWord rfl breaks
  | case2 => cases closed
  | case3 c text ih =>
    obtain ⟨word, dotted, left, leftClosed, alone, before⟩ := ih closed
    refine ⟨'\\' :: c :: word, dotted, left, leftClosed, ?_, ?_⟩
    · rw [List.map_cons, List.map_cons, run_escape (by decide), alone]
    · rw [List.cons_append, List.cons_append, List.map_cons, List.map_cons,
        run_escape (by decide), before]
  | case4 c text notLast escapesNone ih =>
    cases ends : Quoted.endsWord c with
    | true =>
      refine ⟨[], false, c :: text, ?_, run_stop ends _, run_stop ends _⟩
      rwa [Place.behind_cons, Place.word_after ends, ← Place.between_after ends,
        ← Place.behind_cons] at closed
    | false =>
      have plain := Quoted.ne_backslash notLast escapesNone
      rw [Place.behind_cons, Place.word_after_plain ends plain] at closed
      obtain ⟨word, dotted, left, leftClosed, alone, before⟩ := ih closed
      refine ⟨c :: word, c == '.' || dotted, left, leftClosed, ?_, ?_⟩
      · rw [List.map_cons, run_plain ends plain, alone]
      · rw [List.cons_append, List.map_cons, run_plain ends plain, before]

/-- A closed text closes its first string, and goes on behind it. -/
theorem run_quote_append (closed : (Place.quoted.behind text).isClosed = true)
    (rest : List Char) : ∃ (content : List Char) (dotted : Bool) (left : List Char),
      (Place.between.behind left).isClosed = true ∧
      run (· == '"') (text.map .char) = ⟨content, dotted, ('"' :: left).map .char⟩ ∧
      run (· == '"') ((text ++ rest).map .char) =
        ⟨content, dotted, ('"' :: (left ++ rest)).map .char⟩ := by
  induction text using Quoted.keepsTogether.induct with
  | case1 => cases closed
  | case2 => cases closed
  | case3 c text ih =>
    obtain ⟨content, dotted, left, leftClosed, alone, before⟩ := ih closed
    refine ⟨'\\' :: c :: content, dotted, left, leftClosed, ?_, ?_⟩
    · rw [List.map_cons, List.map_cons, run_escape (by decide), alone]
    · rw [List.cons_append, List.cons_append, List.map_cons, List.map_cons,
        run_escape (by decide), before]
  | case4 c text notLast escapesNone ih =>
    by_cases quote : c = '"'
    · subst quote
      exact ⟨[], false, text, closed, run_stop rfl _, run_stop rfl _⟩
    · have plain := Quoted.ne_backslash notLast escapesNone
      rw [Place.behind_cons, Place.quoted_after_plain quote plain] at closed
      obtain ⟨content, dotted, left, leftClosed, alone, before⟩ := ih closed
      refine ⟨c :: content, c == '.' || dotted, left, leftClosed, ?_, ?_⟩
      · rw [List.map_cons, run_plain (by simpa using quote) plain, alone]
      · rw [List.cons_append, List.map_cons, run_plain (by simpa using quote) plain, before]

/-- A sign goes on only with a character that ends words. -/
theorem sign?_cons {first c : Char} {rest behind : List Utf8.Piece} {token : Token}
    (found : sign? first (.char c :: rest) = some (token, behind)) (others : List Utf8.Piece) :
    Quoted.endsWord c = true ∧ behind = rest ∧
      sign? first (.char c :: others) = some (token, others) ∨
    behind = .char c :: rest ∧
      sign? first (.char c :: others) = some (token, .char c :: others) := by
  revert found
  unfold sign?
  split <;> rintro ⟨⟩ <;> simp_all [Quoted.endsWord, Quoted.isStructural]

theorem sign?_nil {first : Char} {behind : List Utf8.Piece} {token : Token}
    (found : sign? first [] = some (token, behind)) (ends : EndsSign rest) :
    behind = [] ∧ sign? first (rest.map .char) = some (token, rest.map .char) := by
  revert found
  cases rest with
  | nil =>
    unfold sign?
    split <;> rintro ⟨⟩ <;> simp_all
  | cons c rest =>
    obtain ⟨noEqual, noGreater⟩ := ends c rfl
    unfold sign?
    split <;> rintro ⟨⟩ <;> simp_all

/-- A sign at the end of a text stays as it is if what follows makes no longer one of it. -/
theorem sign?_append {first : Char} {token : Token} {behind : List Utf8.Piece}
    (closed : (Place.between.behind text).isClosed = true) (ends : EndsSign rest)
    (found : sign? first (text.map .char) = some (token, behind)) :
    ∃ left : List Char, (Place.between.behind left).isClosed = true ∧ behind = left.map .char ∧
      sign? first ((text ++ rest).map .char) = some (token, (left ++ rest).map .char) := by
  cases text with
  | nil =>
    obtain ⟨rfl, same⟩ := sign?_nil found ends
    exact ⟨[], rfl, rfl, same⟩
  | cons c text =>
    rcases sign?_cons found ((text ++ rest).map .char) with ⟨second, rfl, same⟩ | ⟨rfl, same⟩
    · rw [Place.behind_cons, Place.between_after second] at closed
      exact ⟨text, closed, rfl, same⟩
    · exact ⟨c :: text, closed, rfl, same⟩

/-- The first token of a closed text is the same whatever stands behind the text. -/
theorem starting_append {first : Char} (notBlank : Quoted.isBlank first = false)
    (closed : (Place.between.behind (first :: text)).isClosed = true) (breaks : Breaks rest)
    (ends : EndsSign rest) : ∃ (token : Token) (left : List Char),
      (Place.between.behind left).isClosed = true ∧
      starting first (text.map .char) = (token, left.map .char) ∧
      starting first ((text ++ rest).map .char) = (token, (left ++ rest).map .char) := by
  rw [Place.behind_cons] at closed
  cases sign : Quoted.isStructural first with
  | true =>
    have taken := sign?_isSome first (text.map .char)
    rw [sign, Option.isSome_iff_exists] at taken
    obtain ⟨⟨token, behind⟩, found⟩ := taken
    have stops : Quoted.endsWord first = true := by rw [Quoted.endsWord, sign, Bool.or_true]
    rw [Place.between_after stops] at closed
    obtain ⟨left, leftClosed, rfl, same⟩ := sign?_append closed ends found
    exact ⟨token, left, leftClosed, starting_of_sign found, starting_of_sign same⟩
  | false =>
    have noSign (behind : List Utf8.Piece) : sign? first behind = none := by
      have taken := sign?_isSome first behind
      rwa [sign, Option.isSome_eq_false_iff, Option.isNone_iff_eq_none] at taken
    have continues : Quoted.endsWord first = false := by rw [Quoted.endsWord, notBlank, sign]; rfl
    unfold starting
    simp only [noSign]
    split
    · next quote =>
      subst quote
      obtain ⟨content, dotted, left, leftClosed, alone, before⟩ := run_quote_append closed rest
      refine ⟨.word (String.ofList content), left, leftClosed, ?_, ?_⟩
      · rw [string, alone]
        rfl
      · rw [string, before]
        rfl
    · next noQuote =>
      rw [Place.between_after_of_word continues noQuote, ← Place.behind_cons] at closed
      obtain ⟨word, dotted, left, leftClosed, alone, before⟩ := run_endsWord_append closed breaks
      refine ⟨ofWord (String.ofList word) dotted, left, leftClosed, ?_, ?_⟩
      · rw [bareWord, ← List.map_cons, alone]
      · rw [bareWord, ← List.map_cons, ← List.cons_append, before]

/-- A closed text and what stands behind it are scanned apart. -/
theorem scan_append (closed : (Place.between.behind text).isClosed = true) (breaks : Breaks rest)
    (ends : EndsSign rest) : scan (text ++ rest) = scan text ++ scan rest := by
  induction length : text.length using Nat.strongRecOn generalizing text with
  | ind length ih =>
    subst length
    cases text with
    | nil => simp
    | cons first text =>
      cases blank : Quoted.isBlank first with
      | true =>
        have stops : Quoted.endsWord first = true := by rw [Quoted.endsWord, blank, Bool.true_or]
        rw [Place.behind_cons, Place.between_after stops] at closed
        rw [List.cons_append, scan_blank blank, scan_blank blank,
          ih text.length (Nat.lt_succ_self _) closed rfl]
      | false =>
        obtain ⟨token, left, leftClosed, alone, before⟩ := starting_append blank closed breaks ends
        have shorter := length_starting_le (text.map Utf8.Piece.char) blank
        rw [alone, List.length_map, List.length_map] at shorter
        rw [List.cons_append, scan_cons blank alone, scan_cons blank before,
          ih left.length (Nat.lt_succ_of_le shorter) leftClosed rfl, List.cons_append]

end Token
end ContextualQuery
