import ContextualQuery.Proofs.Accepted
import ContextualQuery.Proofs.StrayBytes
import ContextualQuery.Proofs.WrittenWords
import Mathlib.Data.List.TakeWhile
import Mathlib.Logic.Function.Iterate

/-!
# The layout of an input

Asking for one token after the other goes through the whole input: each token takes up a part of it,
no byte is gone back to, and at the end nothing is left.  A text is nothing but blanks and the
spellings of its tokens, one behind the other.
-/

namespace ContextualQuery

open Utf8 (Piece)

/-! ## Going through an input -/

namespace Utf8

theorem width_append (front rest : List Piece) :
    width (front ++ rest) = width front + width rest := by
  induction front with
  | nil => simp [width]
  | cons piece front ih =>
    rw [List.cons_append, width, width, ih]
    omega

theorem width_le_of_suffix {rest input : List Piece} (suffix : rest <:+ input) :
    width rest ≤ width input := by
  obtain ⟨front, rfl⟩ := suffix
  rw [width_append]
  omega

/-- Every piece takes up a byte at least. -/
theorem length_le_width (input : List Piece) : input.length ≤ width input := by
  induction input with
  | nil => exact Nat.le_refl 0
  | cons piece rest ih =>
    have positive : 0 < piece.width := by
      cases piece with
      | char c => exact c.utf8Size_pos
      | stray => exact Nat.one_pos
    rw [List.length_cons, width]
    omega

end Utf8

namespace Token

theorem starting_rest_suffix (first : Char) (rest : List Piece) :
    (starting first rest).2 <:+ .char first :: rest := by
  unfold starting
  split
  · next found => exact (sign?_suffix found).2.trans (List.suffix_cons _ _)
  · split
    · have content := run_rest_suffix (· == '"') rest
      have behind : afterQuote (run (· == '"') rest).rest <:+ (run (· == '"') rest).rest := by
        unfold afterQuote
        split
        · next closed => exact closed ▸ List.suffix_cons _ _
        · exact List.suffix_refl _
      exact (behind.trans content).trans (List.suffix_cons _ _)
    · exact run_rest_suffix _ _

theorem next?_rest_suffix {input rest : List Piece} {token : Token}
    (taken : next? input = some (token, rest)) : rest <:+ input := by
  have dropped := List.dropWhile_suffix isBlank (l := input)
  unfold next? at taken
  split at taken
  · cases taken
  · next remaining =>
    cases taken
    exact (remaining ▸ List.suffix_cons _ _).trans dropped
  · next first others remaining =>
    have found := starting_rest_suffix first others
    rw [Option.some.inj taken, ← remaining] at found
    exact found.trans dropped

end Token

namespace Lexeme

/-- What is left of the input when one more token has been asked for. -/
def advance (left : List Piece) : List Piece :=
  match Token.next? left with
  | some (_, rest) => rest
  | none => []

/-- What is left of the input when so many tokens have been asked for. -/
def left (input : List Piece) (asked : Nat) : List Piece := advance^[asked] input

/-- The token given when so many have been asked for before; `none` at the end. -/
def given? (input : List Piece) (asked : Nat) : Option Token :=
  (Token.next? (left input asked)).map Prod.fst

/-- The number of bytes read when so many tokens have been asked for. -/
def reached (bytes : List UInt8) (asked : Nat) : Nat :=
  position bytes.length (left (Utf8.decode bytes) asked)

theorem advance_suffix (input : List Piece) : advance input <:+ input := by
  unfold advance
  split
  · next taken => exact Token.next?_rest_suffix taken
  · exact List.nil_suffix

theorem left_succ (input : List Piece) (asked : Nat) :
    left input (asked + 1) = advance (left input asked) :=
  Function.iterate_succ_apply' advance asked input

/-- The tokens that an input is taken apart into are those given one after the other. -/
theorem scan_getElem? (input : List Piece) (asked : Nat) :
    (scan input)[asked]? = (given? input asked).map (⟨·, left input (asked + 1)⟩) := by
  induction asked generalizing input with
  | zero =>
    cases taken : Token.next? input with
    | none => simp [scan_of_next?_eq_none taken, given?, left, taken]
    | some found => simp [scan_of_next?_eq_some taken, given?, left, advance, taken]
  | succ asked ih =>
    have later : given? input (asked + 1) = given? (advance input) asked := rfl
    have behind : left input (asked + 1 + 1) = left (advance input) (asked + 1) := rfl
    rw [later, behind, ← ih]
    cases taken : Token.next? input with
    | none =>
      have atEnd : advance input = [] := by rw [advance, taken]
      rw [atEnd, scan_of_next?_eq_none taken, scan_of_next?_eq_none rfl]
      simp
    | some found =>
      have rest : advance input = found.2 := by rw [advance, taken]
      rw [rest, scan_of_next?_eq_some taken, List.getElem?_cons_succ]

theorem length_scan_le (input : List Piece) : (scan input).length ≤ input.length := by
  fun_induction scan input with
  | case1 => simp
  | case2 input token rest taken ih =>
    have shorter : rest.length < input.length := Token.length_next?_lt taken
    rw [List.length_cons]
    omega

theorem position_le_of_suffix (length : Nat) {rest input : List Piece} (suffix : rest <:+ input) :
    position length input ≤ position length rest := by
  have tails : rest.tail <:+ input.tail := by
    obtain ⟨front, rfl⟩ := suffix
    cases front with
    | nil => exact List.suffix_refl _
    | cons piece front => exact (List.tail_suffix rest).trans (List.suffix_append _ _)
  have narrower := Utf8.width_le_of_suffix tails
  unfold position
  omega

end Lexeme

/-! ## Texts -/

/-- Whether characters are how a token is written in front of others. -/
inductive Token.Spells : Token → List Char → List Char → Prop
  /-- A token that is no string is written as its text. -/
  | plain {token : Token} {first : Char} {others : List Char} (behind : List Char)
    (written : token.text.toList = first :: others) (bare : first ≠ '"') :
    token.Spells (first :: others) behind
  | quoted (text : String) (behind : List Char) :
    (Token.word text).Spells ('"' :: (text.toList ++ ['"'])) behind
  /-- A string may lack the closing quote where the text ends. -/
  | unclosed (text : String) : (Token.word text).Spells ('"' :: text.toList) []

/-- Whether a text is the spellings of tokens, one behind the other, with nothing but blanks between
and around them. -/
inductive LaidOut : List Token → List Char → Prop
  | blanks {gap : List Char} (blank : ∀ c ∈ gap, Quoted.isBlank c = true) : LaidOut [] gap
  | token {gap spelling rest : List Char} {token : Token} {tokens : List Token}
    (blank : ∀ c ∈ gap, Quoted.isBlank c = true) (spelled : token.Spells spelling rest)
    (others : LaidOut tokens rest) : LaidOut (token :: tokens) (gap ++ spelling ++ rest)

namespace Token

/-- A run in a text takes the characters as they are, up to one that ends it. -/
theorem run_text (ends : Char → Bool) (continues : ends '\\' = false) (text : List Char) :
    ∃ (content : List Char) (dotted : Bool) (rest : List Char),
      run ends (text.map .char) = ⟨content, dotted, rest.map .char⟩ ∧ text = content ++ rest ∧
      ∀ c ∈ rest.head?, ends c = true := by
  induction text using Quoted.keepsTogether.induct with
  | case1 => exact ⟨[], false, [], rfl, rfl, by simp⟩
  | case2 => exact ⟨['\\'], false, [], by simp [run, continues], rfl, by simp⟩
  | case3 c text ih =>
    obtain ⟨content, dotted, rest, read, rfl, stops⟩ := ih
    refine ⟨'\\' :: c :: content, dotted, rest, ?_, rfl, stops⟩
    rw [List.map_cons, List.map_cons, run_escape continues, read]
  | case4 c text notLast escapesNone ih =>
    cases stops : ends c with
    | true => exact ⟨[], false, c :: text, run_stop stops _, rfl, by simpa using stops⟩
    | false =>
      obtain ⟨content, dotted, rest, read, rfl, later⟩ := ih
      refine ⟨c :: content, c == '.' || dotted, rest, ?_, rfl, later⟩
      rw [List.map_cons, run_plain stops (Quoted.ne_backslash notLast escapesNone), read]

/-- A sign is written as its text. -/
theorem sign?_text {first : Char} {rest : List Char} {token : Token} {behind : List Piece}
    (found : sign? first (rest.map .char) = some (token, behind)) :
    ∃ others left : List Char, behind = left.map .char ∧ rest = others ++ left ∧
      token.text.toList = first :: others := by
  revert found
  cases rest with
  | nil =>
    unfold sign?
    split <;> rintro ⟨⟩ <;> simp_all [text, Comparison.symbol]
  | cons second rest =>
    unfold sign?
    split <;> rintro ⟨⟩ <;> simp_all [text, Comparison.symbol]

theorem string_text (rest : List Char) : ∃ (token : Token) (spelling behind : List Char),
    string (rest.map .char) = (token, behind.map .char) ∧ '"' :: rest = spelling ++ behind ∧
    token.Spells spelling behind := by
  obtain ⟨content, dotted, left, read, rfl, stops⟩ :=
    run_text (· == '"') (by decide) rest
  rw [string, read]
  cases left with
  | nil =>
    have spelled := Spells.unclosed (String.ofList content)
    rw [String.toList_ofList] at spelled
    exact ⟨_, '"' :: content, [], rfl, by simp, spelled⟩
  | cons c left =>
    obtain rfl : c = '"' := by simpa using stops c rfl
    have spelled := Spells.quoted (String.ofList content) left
    rw [String.toList_ofList] at spelled
    exact ⟨_, '"' :: (content ++ ['"']), left, rfl, by simp, spelled⟩

theorem bareWord_text {first : Char} (noQuote : first ≠ '"')
    (continues : Quoted.endsWord first = false) (rest : List Char) :
    ∃ (token : Token) (spelling behind : List Char),
      bareWord ((first :: rest).map .char) = (token, behind.map .char) ∧
      first :: rest = spelling ++ behind ∧ token.Spells spelling behind := by
  obtain ⟨content, dotted, left, read, whole, stops⟩ :=
    run_text Quoted.endsWord (by decide) (first :: rest)
  have kept : (ofWord (String.ofList content) dotted).text = String.ofList content :=
    text_of_term? (term?_ofWord _ _)
  rw [bareWord, read]
  refine ⟨_, content, left, rfl, whole, ?_⟩
  rcases List.cons_eq_append_iff.1 whole with ⟨-, atOnce⟩ | ⟨others, rfl, -⟩
  · rw [stops first (by rw [atOnce]; rfl)] at continues
    cases continues
  · exact .plain left (by rw [kept, String.toList_ofList]) noQuote

/-- What is neither blank nor a sign may stand in a bare word. -/
theorem endsWord_of_sign?_eq_none {first : Char} {rest : List Piece}
    (notBlank : Quoted.isBlank first = false) (noSign : sign? first rest = none) :
    Quoted.endsWord first = false := by
  have plain := sign?_isSome first rest
  rw [noSign] at plain
  rw [Quoted.endsWord, notBlank, ← plain]
  rfl

/-- The token that begins with a character is written in front of what is left behind it. -/
theorem starting_text {first : Char} (notBlank : Quoted.isBlank first = false) (rest : List Char) :
    ∃ (token : Token) (spelling behind : List Char),
      starting first (rest.map .char) = (token, behind.map .char) ∧
      first :: rest = spelling ++ behind ∧ token.Spells spelling behind := by
  have signs := sign?_isSome first (rest.map .char)
  unfold starting
  cases found : sign? first (rest.map .char) with
  | some taken =>
    rw [found] at signs
    obtain ⟨others, left, same, split, written⟩ := sign?_text found
    have bare : first ≠ '"' := by
      rintro rfl
      cases signs
    exact ⟨taken.1, first :: others, left, Prod.ext rfl same, by rw [split]; rfl,
      .plain left written bare⟩
  | none =>
    have continues := endsWord_of_sign?_eq_none notBlank found
    by_cases quote : first = '"'
    · subst quote
      exact string_text rest
    · simp only [if_neg quote]
      exact bareWord_text quote continues rest

/-- The first token of a text stands behind blanks, if there is one. -/
theorem next?_text (chars : List Char) :
    (next? (chars.map .char) = none ∧ ∀ c ∈ chars, Quoted.isBlank c = true) ∨
      ∃ (gap spelling rest : List Char) (token : Token),
        next? (chars.map .char) = some (token, rest.map .char) ∧ chars = gap ++ spelling ++ rest ∧
        (∀ c ∈ gap, Quoted.isBlank c = true) ∧ token.Spells spelling rest := by
  have pieces : (chars.map Piece.char).dropWhile isBlank =
      (chars.dropWhile Quoted.isBlank).map .char := List.dropWhile_map
  have split := List.takeWhile_append_dropWhile (p := Quoted.isBlank) (l := chars)
  have blank : ∀ c ∈ chars.takeWhile Quoted.isBlank, Quoted.isBlank c = true :=
    fun c member => List.mem_takeWhile_imp member
  have stops := List.head?_dropWhile_not Quoted.isBlank chars
  rw [next?, pieces]
  cases remaining : chars.dropWhile Quoted.isBlank with
  | nil =>
    rw [remaining, List.append_nil] at split
    exact .inl ⟨rfl, split ▸ blank⟩
  | cons first rest =>
    rw [remaining] at split stops
    have notBlank : Quoted.isBlank first = false := by simpa using stops
    obtain ⟨token, spelling, behind, started, written, spelled⟩ := starting_text notBlank rest
    refine .inr ⟨chars.takeWhile Quoted.isBlank, spelling, behind, token, ?_, ?_, blank, spelled⟩
    · rw [← started]
      rfl
    · rw [List.append_assoc, ← written, split]

/-- A text is its blanks and the spellings of its tokens. -/
theorem laidOut_scan (chars : List Char) : LaidOut (scan chars) chars := by
  induction length : chars.length using Nat.strongRecOn generalizing chars with
  | ind length ih =>
    subst length
    rcases next?_text chars with
      ⟨atEnd, blank⟩ | ⟨gap, spelling, rest, token, taken, split, blank, spelled⟩
    · rw [scan, Lexeme.scan_of_next?_eq_none atEnd]
      exact .blanks blank
    · have shorter := length_next?_lt taken
      rw [List.length_map, List.length_map] at shorter
      rw [scan, Lexeme.scan_of_next?_eq_some taken, List.map_cons, split]
      exact .token blank spelled (ih rest.length shorter rest rfl)

theorem malformed_not_mem_scan (chars : List Char) : .malformed ∉ scan chars := by
  intro member
  have loose := (malformed_mem_scan _).1 member
  obtain ⟨c, -, isChar⟩ := List.mem_map.1 (stray_mem_of_loose loose)
  cases isChar

end Token

namespace Lexeme

/-- Whether a token is given for as long as there are tokens is decided by their number alone. -/
theorem given?_eq_none_iff {input : List Piece} {asked : Nat} :
    given? input asked = none ↔ (scan input).length ≤ asked := by
  rw [← List.getElem?_eq_none_iff, scan_getElem?, Option.map_eq_none_iff]

/-- Asking an input for one token after the other gives the tokens that it is taken apart into, at
most one a byte, then the end for ever.  The position reached never falls, stays within the input
and is its length behind the end.  A text is laid out as its tokens, none of which is malformed. -/
theorem given_ofBytes (bytes : List UInt8) :
    let given (asked : Nat) : Option Token := given? (Utf8.decode bytes) asked
    (∃ count ≤ bytes.length, ∀ asked, given asked = none ↔ count ≤ asked) ∧
    (∀ asked, (ofBytes bytes)[asked]?.map (fun lexeme => (lexeme.token, lexeme.stop bytes.length)) =
      (given asked).map fun token => (token, reached bytes (asked + 1))) ∧
    (∀ asked, reached bytes asked ≤ reached bytes (asked + 1) ∧
      reached bytes asked ≤ bytes.length) ∧
    (∀ asked, given asked = none → reached bytes (asked + 1) = bytes.length) ∧
    ∀ text : String, bytes = Utf8.encode text →
      LaidOut ((ofBytes bytes).map token) text.toList ∧
        .malformed ∉ (ofBytes bytes).map token := by
  intro given
  refine ⟨⟨(ofBytes bytes).length, ?_, fun asked => given?_eq_none_iff⟩, ?_, ?_, ?_, ?_⟩
  · calc
      (ofBytes bytes).length ≤ (Utf8.decode bytes).length := length_scan_le _
      _ ≤ Utf8.width (Utf8.decode bytes) := Utf8.length_le_width _
      _ = bytes.length := Utf8.width_decode bytes
  · intro asked
    rw [ofBytes, scan_getElem?, Option.map_map]
    rfl
  · intro asked
    refine ⟨?_, Nat.sub_le _ _⟩
    rw [reached, reached, left_succ]
    exact position_le_of_suffix _ (advance_suffix _)
  · intro asked atEnd
    have none_left : Token.next? (left (Utf8.decode bytes) asked) = none :=
      Option.map_eq_none_iff.1 atEnd
    rw [reached, left_succ, advance, none_left]
    rfl
  · rintro text rfl
    rw [tokens_encode]
    exact ⟨Token.laidOut_scan _, Token.malformed_not_mem_scan _⟩

/-- A sign right behind a word, and a string that is still open at the end. -/
theorem given_ofBytes_unclosed :
    let text := " a.b<=\t\"c\\\" "
    let bytes := Utf8.encode text
    let tokens : List Token := [.dotted "a.b", .comparison .lessOrEqual, .word "c\\\" "]
    (ofBytes bytes).map token = tokens ∧ given? (Utf8.decode bytes) 3 = none ∧
      reached bytes 4 = bytes.length ∧ LaidOut tokens text.toList := by
  intro text bytes tokens
  have scanned : (ofBytes bytes).map token = tokens := by decide +kernel
  have atEnd : given? (Utf8.decode bytes) 3 = none := by decide +kernel
  obtain ⟨-, -, -, whole, layout⟩ := given_ofBytes bytes
  exact ⟨scanned, atEnd, whole 3 atEnd, scanned ▸ (layout text rfl).1⟩

end Lexeme
end ContextualQuery
