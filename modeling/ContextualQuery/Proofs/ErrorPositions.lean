import ContextualQuery.Proofs.Layout
import ContextualQuery.Proofs.Lookahead

/-!
# Positions of errors

A token is taken by what it is made of and the one piece of input behind it.  With the one token
that the grammar looks ahead, a fault is due to the input up to its position, whatever follows
there.
-/

namespace ContextualQuery

open Utf8 (Piece)

/-! ## Tokens with another rest of the input -/

namespace Token

/-- A run in front of a piece is the same whatever follows that piece. -/
theorem run_front {ends : Char → Bool} {input tail : List Piece} {piece : Piece}
    (stops : (run ends input).rest = piece :: tail) :
    ∃ front, input = front ++ piece :: tail ∧
      ∀ other, run ends (front ++ piece :: other) =
        ⟨(run ends input).text, (run ends input).dotted, piece :: other⟩ := by
  fun_induction run ends input with
  | case1 => cases stops
  | case2 rest =>
    cases stops
    exact ⟨[], rfl, fun other => rfl⟩
  | case3 c rest stop =>
    cases stops
    exact ⟨[], rfl, fun other => run_stop stop other⟩
  | case4 => cases stops
  | case5 rest tail continues ih =>
    obtain ⟨front, rfl, same⟩ := ih stops
    refine ⟨.char '\\' :: .stray :: front, rfl, fun other => ?_⟩
    simp only [List.cons_append, run, if_neg continues, if_true, same other]
    rfl
  | case6 escaped rest tail continues ih =>
    obtain ⟨front, rfl, same⟩ := ih stops
    refine ⟨.char '\\' :: .char escaped :: front, rfl, fun other => ?_⟩
    simp only [List.cons_append, run, if_neg continues, if_true, same other]
    rfl
  | case7 c rest continues plain tail ih =>
    obtain ⟨front, rfl, same⟩ := ih stops
    refine ⟨.char c :: front, rfl, fun other => ?_⟩
    rw [List.cons_append, run_plain (by simpa using continues) plain, same other]

theorem afterQuote_front {input tail : List Piece} {piece : Piece}
    (stops : afterQuote input = piece :: tail) :
    ∃ front, input = front ++ piece :: tail ∧
      ∀ other, afterQuote (front ++ piece :: other) = piece :: other := by
  unfold afterQuote at stops
  split at stops
  · subst stops
    exact ⟨[.char '"'], rfl, fun other => rfl⟩
  · next unquoted =>
    subst stops
    have noQuote : piece ≠ .char '"' := by
      rintro rfl
      exact unquoted tail rfl
    refine ⟨[], rfl, fun other => ?_⟩
    unfold afterQuote
    split
    · next same => exact absurd (List.cons.inj same).1 noQuote
    · rfl

/-- A sign takes a second character or is left as it is by the piece behind it. -/
theorem sign?_front {first : Char} {input tail : List Piece} {piece : Piece} {token : Token}
    (found : sign? first input = some (token, piece :: tail)) :
    ∃ front, input = front ++ piece :: tail ∧
      ∀ other, sign? first (front ++ piece :: other) = some (token, piece :: other) := by
  unfold sign? at found
  split at found <;> cases found
  all_goals first
    | exact ⟨[_], rfl, fun other => rfl⟩
    | refine ⟨[], rfl, fun other => ?_⟩
      unfold sign?
      split <;> simp_all

theorem sign?_eq_none {first : Char} {input : List Piece} (noSign : sign? first input = none)
    (other : List Piece) : sign? first other = none := by
  refine eq_none_of_isSome_eq ?_ noSign
  rw [sign?_isSome, sign?_isSome]

/-- A quoted string ends with its closing quote, if there is one, else in front of the piece that
is left. -/
theorem string_front {input tail : List Piece} {piece : Piece} {token : Token}
    (taken : string input = (token, piece :: tail)) :
    ∃ front, input = front ++ piece :: tail ∧
      ∀ other, string (front ++ piece :: other) = (token, piece :: other) := by
  obtain ⟨rfl, closed⟩ := Prod.ext_iff.1 taken
  obtain ⟨quote, stops, unquoted⟩ := afterQuote_front closed
  cases quote with
  | nil =>
    obtain ⟨front, split, same⟩ := run_front stops
    refine ⟨front, split, fun other => ?_⟩
    rw [string, same other]
    exact Prod.ext rfl (unquoted other)
  | cons mark quote =>
    obtain ⟨front, split, same⟩ := run_front stops
    refine ⟨front ++ mark :: quote, by rw [split, List.append_assoc]; rfl, fun other => ?_⟩
    rw [List.append_assoc, List.cons_append, string, same (quote ++ piece :: other)]
    exact Prod.ext rfl (unquoted other)

theorem bareWord_front {first : Char} {input tail : List Piece} {piece : Piece} {token : Token}
    (continues : Quoted.endsWord first = false)
    (taken : bareWord (.char first :: input) = (token, piece :: tail)) :
    ∃ front, input = front ++ piece :: tail ∧
      ∀ other, bareWord (.char first :: (front ++ piece :: other)) = (token, piece :: other) := by
  obtain ⟨rfl, stops⟩ := Prod.ext_iff.1 taken
  obtain ⟨front, split, same⟩ := run_front stops
  cases front with
  | nil =>
    have whole : (run Quoted.endsWord (.char first :: input)).rest = .char first :: input :=
      stops.trans split.symm
    have shorter := length_rest_run_lt continues input
    rw [whole] at shorter
    exact absurd shorter (Nat.not_succ_le_self _)
  | cons head front =>
    obtain ⟨rfl, rfl⟩ := List.cons.inj split
    refine ⟨front, rfl, fun other => ?_⟩
    have again := same other
    rw [List.cons_append] at again
    rw [bareWord, again]
    rfl

theorem starting_front {first : Char} {input tail : List Piece} {piece : Piece} {token : Token}
    (notBlank : Quoted.isBlank first = false)
    (started : starting first input = (token, piece :: tail)) :
    ∃ front, input = front ++ piece :: tail ∧
      ∀ other, starting first (front ++ piece :: other) = (token, piece :: other) := by
  unfold starting at started
  cases found : sign? first input with
  | some taken =>
    rw [found] at started
    obtain rfl : taken = (token, piece :: tail) := started
    obtain ⟨front, split, same⟩ := sign?_front found
    exact ⟨front, split, fun other => by rw [starting, same other]⟩
  | none =>
    simp only [found] at started
    have noSign := sign?_eq_none found
    by_cases quote : first = '"'
    · rw [if_pos quote] at started
      obtain ⟨front, split, same⟩ := string_front started
      exact ⟨front, split, fun other => by simp only [starting, noSign, if_pos quote, same other]⟩
    · rw [if_neg quote] at started
      have continues := endsWord_of_sign?_eq_none notBlank found
      obtain ⟨front, split, same⟩ := bareWord_front continues started
      exact ⟨front, split, fun other => by simp only [starting, noSign, if_neg quote, same other]⟩

theorem next?_behind_blanks {gap : List Piece} (blank : ∀ piece ∈ gap, isBlank piece = true)
    (rest : List Piece) : next? (gap ++ rest) = next? rest := by
  rw [next?, next?, List.dropWhile_append_of_pos blank]

theorem next?_char {first : Char} (notBlank : Quoted.isBlank first = false) (rest : List Piece) :
    next? (.char first :: rest) = some (starting first rest) := by
  have stays : (Piece.char first :: rest).dropWhile isBlank = .char first :: rest :=
    List.dropWhile_cons_of_neg (by simpa [isBlank] using notBlank)
  rw [next?, stays]

/-- A token in front of a piece is the same whatever follows that piece. -/
theorem next?_front {input tail : List Piece} {piece : Piece} {token : Token}
    (taken : next? input = some (token, piece :: tail)) :
    ∃ front, input = front ++ piece :: tail ∧
      ∀ other, next? (front ++ piece :: other) = some (token, piece :: other) := by
  have split := List.takeWhile_append_dropWhile (p := isBlank) (l := input)
  have blank : ∀ piece ∈ input.takeWhile isBlank, isBlank piece = true :=
    fun piece member => List.mem_takeWhile_imp member
  have stops := List.head?_dropWhile_not isBlank input
  unfold next? at taken
  split at taken
  · cases taken
  · next rest remaining =>
    cases taken
    refine ⟨input.takeWhile isBlank ++ [.stray], ?_, fun other => ?_⟩
    · rw [List.append_assoc, List.singleton_append, ← remaining, split]
    · rw [List.append_assoc, List.singleton_append, next?_behind_blanks blank]
      rfl
  · next first rest remaining =>
    rw [remaining] at split stops
    have notBlank : Quoted.isBlank first = false := by simpa [isBlank] using stops
    obtain ⟨front, rfl, same⟩ := starting_front notBlank (Option.some.inj taken)
    refine ⟨input.takeWhile isBlank ++ .char first :: front, ?_, fun other => ?_⟩
    · rw [List.append_assoc, List.cons_append, split]
    · rw [List.append_assoc, List.cons_append, next?_behind_blanks blank, next?_char notBlank]
      exact congrArg some (same other)

theorem next?_front_append {input later tail : List Piece} {piece : Piece} {token : Token}
    (taken : next? input = some (token, later ++ piece :: tail)) :
    ∃ front, input = front ++ (later ++ piece :: tail) ∧
      ∀ other, next? (front ++ (later ++ piece :: other)) = some (token, later ++ piece :: other) := by
  cases later with
  | nil => exact next?_front taken
  | cons head later =>
    obtain ⟨front, split, same⟩ := next?_front taken
    exact ⟨front, split, fun other => same (later ++ piece :: other)⟩

end Token

namespace Lexeme

theorem scan_eq_cons {input : List Piece} {lexeme : Lexeme} {others : List Lexeme}
    (scanned : scan input = lexeme :: others) :
    Token.next? input = some (lexeme.token, lexeme.rest) ∧ scan lexeme.rest = others := by
  cases taken : Token.next? input with
  | none =>
    rw [scan_of_next?_eq_none taken] at scanned
    cases scanned
  | some found =>
    rw [scan_of_next?_eq_some taken] at scanned
    obtain ⟨rfl, rfl⟩ := List.cons.inj scanned
    exact ⟨rfl, rfl⟩

/-- The tokens up to one in front of a piece are the same whatever follows that piece. -/
theorem scan_front {input tail : List Piece} {piece : Piece} {token : Token}
    {before behind : List Lexeme}
    (scanned : scan input = before ++ ⟨token, piece :: tail⟩ :: behind) :
    ∃ front, input = front ++ piece :: tail ∧ ∀ other, ∃ again later : List Lexeme,
      again.map Lexeme.token = before.map Lexeme.token ∧
      scan (front ++ piece :: other) = again ++ ⟨token, piece :: other⟩ :: later := by
  induction before generalizing input with
  | nil =>
    obtain ⟨taken, -⟩ := scan_eq_cons scanned
    obtain ⟨front, split, same⟩ := Token.next?_front taken
    exact ⟨front, split, fun other => ⟨[], _, rfl, scan_of_next?_eq_some (same other)⟩⟩
  | cons first before ih =>
    obtain ⟨taken, others⟩ := scan_eq_cons scanned
    obtain ⟨later, split, keeps⟩ := ih others
    rw [split] at taken
    obtain ⟨front, rfl, same⟩ := Token.next?_front_append taken
    refine ⟨front ++ later, (List.append_assoc ..).symm, fun other => ?_⟩
    obtain ⟨again, last, tokens, scannedAgain⟩ := keeps other
    refine ⟨⟨first.token, later ++ piece :: other⟩ :: again, last, ?_, ?_⟩
    · rw [List.map_cons, List.map_cons, tokens]
    · rw [List.append_assoc, scan_of_next?_eq_some (same other), scannedAgain]
      rfl

theorem rest_suffix_of_mem {input : List Piece} {lexeme : Lexeme} (member : lexeme ∈ scan input) :
    lexeme.rest <:+ input := by
  fun_induction scan input with
  | case1 => cases member
  | case2 input token rest taken ih =>
    have behind := Token.next?_rest_suffix taken
    rcases List.mem_cons.1 member with rfl | later
    · exact behind
    · exact (ih later).trans behind

end Lexeme

/-! ## Texts and their bytes -/

namespace Utf8

theorem length_encode (text : String) : (encode text).length = width (text.toList.map .char) := by
  rw [← decode_encode, width_decode]

theorem encode_append (front behind : String) :
    encode (front ++ behind) = encode front ++ encode behind := by
  rw [encode, String.toList_append, List.flatMap_append]
  rfl

theorem decode_encode_append (front : String) (bytes : List UInt8) :
    decode (encode front ++ bytes) = front.toList.map .char ++ decode bytes := by
  unfold encode
  induction front.toList with
  | nil => rfl
  | cons c rest ih => rw [List.flatMap_cons, List.append_assoc, decode_encodeChar, ih]; rfl

theorem map_char_injective : Function.Injective (List.map Piece.char) :=
  List.map_injective_iff.2 fun _ _ same => Piece.char.inj same

/-- A text that is cut between two of its characters. -/
theorem exists_eq_append_of_pieces {text : String} {gone left : List Piece}
    (split : text.toList.map .char = gone ++ left) : ∃ front behind : String,
      text = front ++ behind ∧ front.toList.map .char = gone ∧ behind.toList.map .char = left := by
  obtain ⟨front, behind, whole, rfl, rfl⟩ := List.map_eq_append_iff.1 split
  refine ⟨String.ofList front, String.ofList behind, ?_, by simp, by simp⟩
  rw [← String.ofList_append, ← whole, String.ofList_toList]

/-- A text that begins with the bytes of another begins with its characters. -/
theorem exists_eq_append_of_encode {front text : String} (starts : encode front <+: encode text) :
    ∃ behind : String, text = front ++ behind := by
  obtain ⟨bytes, whole⟩ := starts
  have pieces := decode_encode text
  rw [← whole, decode_encode_append] at pieces
  obtain ⟨first, behind, rfl, same, -⟩ := exists_eq_append_of_pieces pieces.symm
  obtain rfl : first = front := String.toList_inj.1 (map_char_injective same)
  exact ⟨behind, rfl⟩

end Utf8

/-- The tokens of a text up to one that leaves some of it are the same whatever follows the position
of that one. -/
theorem Lexeme.ofBytes_front {text : String} {before behind : List Lexeme} {token : Token}
    {piece : Piece} {tail : List Piece}
    (lexemes : ofBytes (Utf8.encode text) = before ++ ⟨token, piece :: tail⟩ :: behind) :
    ∃ front last : String, text = front ++ last ∧ tail = last.toList.map .char ∧
      ∀ other : String, ∃ again later : List Lexeme,
        again.map Lexeme.token = before.map Lexeme.token ∧
        ofBytes (Utf8.encode (front ++ other)) =
          again ++ ⟨token, piece :: other.toList.map .char⟩ :: later ∧
        (Utf8.encode front).length =
          stop (Utf8.encode (front ++ other)).length ⟨token, piece :: other.toList.map .char⟩ := by
  rw [ofBytes, Utf8.decode_encode] at lexemes
  obtain ⟨gone, whole, same⟩ := scan_front lexemes
  rw [← List.singleton_append, ← List.append_assoc] at whole
  obtain ⟨front, last, rfl, pieces, rfl⟩ := Utf8.exists_eq_append_of_pieces whole
  refine ⟨front, last, rfl, rfl, fun other => ?_⟩
  obtain ⟨again, later, names, scanned⟩ := same (other.toList.map .char)
  refine ⟨again, later, names, ?_, ?_⟩
  · rw [← scanned, ofBytes, Utf8.decode_encode, String.toList_append, List.map_append, pieces,
      List.append_assoc]
    rfl
  · rw [stop, position, List.tail_cons, ← Utf8.length_encode, Utf8.encode_append,
      List.length_append, Nat.add_sub_cancel]

/-! ## The place of an error -/

namespace ParseError

theorem positionOf_append (length : Nat) (before : List Lexeme) (lexeme : Lexeme)
    (behind : List Lexeme) :
    positionOf length (before ++ lexeme :: behind) (behind.length + 1) = lexeme.stop length := by
  have gone : (before ++ lexeme :: behind).length - (behind.length + 1) = before.length := by
    simp
  rw [positionOf, gone, List.drop_left]

/-- An error stands at a character of the text, or at its end. -/
theorem exists_front_positionOf (text : String) (left : Nat) : ∃ front behind : String,
    text = front ++ behind ∧ (Utf8.encode front).length =
      positionOf (Utf8.encode text).length (Lexeme.ofBytes (Utf8.encode text)) left := by
  unfold positionOf
  split
  · exact ⟨text, "", by simp, rfl⟩
  · next lexeme others remaining =>
    have member : lexeme ∈ Lexeme.ofBytes (Utf8.encode text) :=
      List.mem_of_mem_drop (remaining ▸ List.mem_cons_self)
    obtain ⟨gone, whole⟩ := Lexeme.rest_suffix_of_mem member
    rw [Utf8.decode_encode, ← List.take_append_drop 1 lexeme.rest, ← List.append_assoc] at whole
    obtain ⟨front, behind, rfl, taken, tail⟩ := Utf8.exists_eq_append_of_pieces whole.symm
    refine ⟨front, behind, rfl, ?_⟩
    rw [Lexeme.stop, Lexeme.position, ← List.drop_one, ← tail, ← Utf8.length_encode,
      Utf8.encode_append, List.length_append, Nat.add_sub_cancel]

/-- The mark stands where the text is cut at the position. -/
theorem marked_of_front {front behind : String} {error : ParseError}
    (input : error.input = Utf8.encode (front ++ behind))
    (here : (Utf8.encode front).length = error.position) :
    error.marked = front ++ mark ++ behind := by
  rw [marked, input, Utf8.encode_append, List.take_left' here, List.drop_left' here,
    Utf8.display_encode, Utf8.display_encode]

end ParseError

namespace Query

theorem parse_eq_error {settings : Settings} {text : String} {error : ParseError} :
    parse settings text = .error error ↔
      ∃ failure, ofTokens settings (Token.scan text.toList) = .error failure ∧
        ParseError.ofFailure (Utf8.encode text) (Lexeme.ofBytes (Utf8.encode text)) failure =
          error := by
  rw [← Lexeme.tokens_encode]
  exact mapError_eq_error

/-- An error in front of the end, other than that of a second word, is due to the text up to its
position. -/
theorem exists_front_parse {settings : Settings} {text : String} {error : ParseError}
    (failed : parse settings text = .error error) (apart : error.message ≠ "relation expected")
    (within : error.position < (Utf8.encode text).length) :
    ∃ front behind : String, text = front ++ behind ∧
      (Utf8.encode front).length = error.position ∧
      ∀ other, parse settings (front ++ other) =
        .error ⟨Utf8.encode (front ++ other), error.message, error.position⟩ := by
  obtain ⟨⟨fault, rest⟩, read, rfl⟩ := parse_eq_error.1 failed
  simp only [ParseError.ofFailure] at apart within ⊢
  cases rest with
  | nil =>
    rw [ParseError.positionOf, List.length_nil, Nat.sub_zero, List.drop_length] at within
    exact absurd within (Nat.lt_irrefl _)
  | cons token behind =>
    have noWord : fault ≠ .relationExpected := by
      rintro rfl
      exact apart rfl
    obtain ⟨taken, tokens, fails⟩ := ofTokens_eq_error_of_front read noWord
    rw [← Lexeme.tokens_encode] at tokens
    obtain ⟨before, others, lexemes, rfl, named⟩ := List.map_eq_append_iff.1 tokens
    obtain ⟨⟨token, left⟩, after, rfl, rfl, rfl⟩ := List.map_eq_cons_iff.1 named
    rw [lexemes, List.length_cons, List.length_map, ParseError.positionOf_append] at within ⊢
    cases left with
    | nil => exact absurd within (Nat.lt_irrefl _)
    | cons piece tail =>
      obtain ⟨front, last, rfl, rfl, same⟩ := Lexeme.ofBytes_front lexemes
      obtain ⟨-, -, -, -, here⟩ := same last
      refine ⟨front, last, rfl, here, fun other => ?_⟩
      obtain ⟨again, later, names, scanned, place⟩ := same other
      rw [← here, place]
      refine parse_eq_error.2 ⟨⟨fault, token :: later.map Lexeme.token⟩, ?_, ?_⟩
      · rw [← Lexeme.tokens_encode, scanned, List.map_append, List.map_cons, names]
        exact fails _
      · rw [ParseError.ofFailure, scanned, List.length_cons, List.length_map,
          ParseError.positionOf_append]

/-- An error stands at a character of the text, or at its end, and its message marks that place.
Unless it is the error of a second word, or stands at the end, every text that begins in the same
way up to there has it too. -/
theorem parse_error_position (settings : Settings) (text : String) (error : ParseError)
    (failed : parse settings text = .error error) :
    error.source = text ∧ error.position ≤ (Utf8.encode text).length ∧
    (∃ front behind : String, text = front ++ behind ∧
      (Utf8.encode front).length = error.position ∧
      error.marked = front ++ "\u0330" ++ behind) ∧
    (error.message ≠ "relation expected" → error.position < (Utf8.encode text).length →
      ∀ other : String, (Utf8.encode text).take error.position <+: Utf8.encode other →
        ∃ again, parse settings other = .error again ∧ again.message = error.message ∧
          again.position = error.position) := by
  obtain ⟨failure, -, made⟩ := parse_eq_error.1 failed
  have input : error.input = Utf8.encode text := by rw [← made, ParseError.ofFailure]
  obtain ⟨front, behind, rfl, place⟩ :=
    ParseError.exists_front_positionOf text failure.rest.length
  have here : (Utf8.encode front).length = error.position := by
    rw [place, ← made, ParseError.ofFailure]
  refine ⟨?_, ?_, ⟨front, behind, rfl, here, ParseError.marked_of_front input here⟩, ?_⟩
  · rw [ParseError.source, input, Utf8.display_encode]
  · rw [← here, Utf8.encode_append, List.length_append]
    exact Nat.le_add_right _ _
  · intro apart within other starts
    obtain ⟨shared, later, whole, length, fails⟩ := exists_front_parse failed apart within
    rw [whole, Utf8.encode_append, List.take_left' length] at starts
    obtain ⟨rest, rfl⟩ := Utf8.exists_eq_append_of_encode starts
    exact ⟨_, fails rest, rfl, rfl⟩

/-- A modifier without its value, behind a character of two bytes and in front of more text. -/
theorem parse_error_position_modifier :
    let text := "é any/x< ) y"
    let other := "é any/x< ) \"z or"
    let error : ParseError :=
      { input := Utf8.encode text, message := "missing modifier value", position := 12 }
    parse {} text = .error error ∧ error.message ≠ "relation expected" ∧
      error.position < (Utf8.encode text).length ∧
      (Utf8.encode text).take error.position <+: Utf8.encode other ∧ error.source = text ∧
      (∃ again, parse {} other = .error again ∧ again.message = error.message ∧
        again.position = error.position) := by
  intro text other error
  have failed : parse {} text = .error error := by decide +kernel
  have apart : error.message ≠ "relation expected" := by decide
  have within : error.position < (Utf8.encode text).length := by decide +kernel
  have starts : (Utf8.encode text).take error.position <+: Utf8.encode other := by decide +kernel
  obtain ⟨source, -, -, again⟩ := parse_error_position {} text error failed
  exact ⟨failed, apart, within, starts, source, again apart within other starts⟩

end Query
end ContextualQuery
