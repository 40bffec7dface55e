import ContextualQuery.Proofs.Accepted

/-!
# Letter case of texts

A text in lower case has the tokens of the text, in lower case: no letter is a sign, a blank or a
quote, and a bare word is looked up without regard to case.
-/

namespace ContextualQuery

open Utf8 (Piece)

/-- A character is its own lower case, or it is a capital letter and its lower case a small one. -/
theorem toLower_cases (c : Char) : c.isUpper = false ∧ c.toLower = c ∨
    c.isUpper = true ∧ c.toLower.isUpper = false ∧ c.toLower.isLower = true := by
  unfold Char.toLower Char.isUpper Char.isLower
  split
  · next upper =>
    simp only [ge_iff_le, UInt32.le_iff_toNat_le, UInt32.reduceToNat, Char.reduceVal,
      Char.toNat_val] at upper
    simp [UInt32.le_iff_toNat_le, UInt32.toNat_add]
    omega
  · next other => exact .inl ⟨by simpa using other, rfl⟩

/-- Only a letter changes in lower case, and to a letter. -/
theorem toLower_eq_iff {c d : Char} (noLetter : d.isAlpha = false) : c.toLower = d ↔ c = d := by
  have noLetter : d.isUpper = false ∧ d.isLower = false := Bool.or_eq_false_iff.1 noLetter
  constructor
  · rintro rfl
    rcases toLower_cases c with ⟨-, same⟩ | ⟨-, -, small⟩
    · exact same.symm
    · cases noLetter.2.symm.trans small
  · rintro rfl
    rcases toLower_cases c with ⟨-, same⟩ | ⟨capital, -⟩
    · exact same
    · cases noLetter.1.symm.trans capital

theorem toLower_beq {d : Char} (noLetter : d.isAlpha = false) (c : Char) :
    (c.toLower == d) = (c == d) := by
  rw [Bool.eq_iff_iff, beq_iff_eq, beq_iff_eq, toLower_eq_iff noLetter]

/-- Lower case is kept in lower case. -/
theorem toLower_toLower_char (c : Char) : c.toLower.toLower = c.toLower := by
  rcases toLower_cases c.toLower with ⟨-, same⟩ | ⟨capital, -⟩
  · exact same
  · rcases toLower_cases c with ⟨-, same⟩ | ⟨-, noCapital, -⟩
    · rw [same]
      exact same
    · cases noCapital.symm.trans capital

theorem toLower_toLower (word : String) : word.toLower.toLower = word.toLower := by
  rw [← String.toList_inj]
  simp only [Relation.toList_toLower, List.map_map, Function.comp_def, toLower_toLower_char]

theorem toLower_ofList (chars : List Char) :
    (String.ofList chars).toLower = String.ofList (chars.map Char.toLower) := by
  rw [← String.toList_inj, Relation.toList_toLower, String.toList_ofList, String.toList_ofList]

namespace Quoted

theorem isBlank_toLower (c : Char) : isBlank c.toLower = isBlank c := by
  simp (disch := decide) only [isBlank, toLower_beq]

theorem isStructural_toLower (c : Char) : isStructural c.toLower = isStructural c := by
  simp (disch := decide) only [isStructural, toLower_beq]

theorem endsWord_toLower (c : Char) : endsWord c.toLower = endsWord c := by
  rw [endsWord, isBlank_toLower, isStructural_toLower, endsWord]

end Quoted

/-- A piece of input in lower case. -/
def Utf8.Piece.lower : Piece → Piece
  | .char c => .char c.toLower
  | .stray => .stray

namespace Token

/-- A token in lower case. -/
def lower : Token → Token
  | .keyword operator spelling => .keyword operator spelling.toLower
  | .sortBy spelling => .sortBy spelling.toLower
  | .namedRelation spelling => .namedRelation spelling.toLower
  | .dotted spelling => .dotted spelling.toLower
  | .word text => .word text.toLower
  | token => token

/-- A token in lower case with the rest of the input in lower case. -/
def lowerBoth (taken : Token × List Piece) : Token × List Piece :=
  (taken.1.lower, taken.2.map Piece.lower)

theorem lower_backslash : (Piece.char '\\').lower = .char '\\' := rfl

theorem run_lower {ends : Char → Bool} (caseless : ∀ c : Char, ends c.toLower = ends c)
    (input : List Piece) :
    run ends (input.map Piece.lower) =
      ⟨(run ends input).text.map Char.toLower, (run ends input).dotted,
        (run ends input).rest.map Piece.lower⟩ := by
  fun_induction run ends input with
  | case1 => rfl
  | case2 => rfl
  | case3 c rest stop => exact run_stop (by rw [caseless, stop]) _
  | case4 continues =>
    rw [List.map_cons, List.map_nil, lower_backslash, run, if_neg continues, if_pos rfl]
    rfl
  | case5 rest tail continues ih =>
    rw [List.map_cons, List.map_cons, lower_backslash, Piece.lower, run, if_neg continues,
      if_pos rfl]
    simp only [ih]
    rfl
  | case6 escaped rest tail continues ih =>
    rw [List.map_cons, List.map_cons, lower_backslash, Piece.lower,
      run_escape (by simpa using continues), ih]
    rfl
  | case7 c rest continues plain tail ih =>
    have continues : ends c.toLower = false := by simpa [caseless] using continues
    have plain : c.toLower ≠ '\\' := by rwa [ne_eq, toLower_eq_iff (by decide)]
    rw [List.map_cons, Piece.lower, run_plain continues plain, ih, toLower_beq (by decide)]
    rfl

theorem afterQuote_lower (input : List Piece) :
    afterQuote (input.map Piece.lower) = (afterQuote input).map Piece.lower := by
  cases input with
  | nil => rfl
  | cons piece rest =>
    cases piece with
    | stray => rfl
    | char c =>
      by_cases quote : c = '"'
      · subst quote
        rfl
      · have other : c.toLower ≠ '"' := by rwa [ne_eq, toLower_eq_iff (by decide)]
        simp [afterQuote, Piece.lower, quote, other]

/-- A character that is no sign is none in lower case. -/
theorem sign?_toLower_eq_none {first : Char} {input : List Piece}
    (noSign : sign? first input = none) (other : List Piece) :
    sign? first.toLower other = none := by
  refine eq_none_of_isSome_eq ?_ noSign
  rw [sign?_isSome, sign?_isSome, Quoted.isStructural_toLower]

/-- No letter belongs to a sign, whose second character, if any, is an equals or a greater sign. -/
theorem sign?_lower {first : Char} (structural : Quoted.isStructural first = true)
    (input : List Piece) :
    sign? first.toLower (input.map Piece.lower) = (sign? first input).map lowerBoth := by
  have signs : first = '(' ∨ first = ')' ∨ first = '=' ∨ first = '<' ∨ first = '>' ∨
      first = '/' := by
    simpa [Quoted.isStructural, or_assoc] using structural
  rcases input with _ | ⟨c | _, rest⟩
  · rcases signs with rfl | rfl | rfl | rfl | rfl | rfl <;> rfl
  · by_cases equal : c = '='
    · subst equal
      rcases signs with rfl | rfl | rfl | rfl | rfl | rfl <;> rfl
    · by_cases greater : c = '>'
      · subst greater
        rcases signs with rfl | rfl | rfl | rfl | rfl | rfl <;> rfl
      · have noEqual : c.toLower ≠ '=' := by rwa [ne_eq, toLower_eq_iff (by decide)]
        have noGreater : c.toLower ≠ '>' := by rwa [ne_eq, toLower_eq_iff (by decide)]
        rcases signs with rfl | rfl | rfl | rfl | rfl | rfl <;>
          simp [sign?, Piece.lower, equal, greater, noEqual, noGreater, lowerBoth, lower]
  · rcases signs with rfl | rfl | rfl | rfl | rfl | rfl <;> rfl

/-- A bare word is a keyword or a named relation in any letter case. -/
theorem ofWord_lower (spelling : String) (isDotted : Bool) :
    ofWord spelling.toLower isDotted = (ofWord spelling isDotted).lower := by
  unfold ofWord Operator.ofKeyword?
  rw [toLower_toLower]
  split
  · rfl
  · split
    · rfl
    · split
      · rfl
      · split <;> rfl

theorem string_lower (input : List Piece) :
    string (input.map Piece.lower) = lowerBoth (string input) := by
  have read : run (· == '"') (input.map Piece.lower) = _ :=
    run_lower (toLower_beq (by decide)) input
  simp only [string, read, ← toLower_ofList, afterQuote_lower]
  rfl

theorem bareWord_lower (input : List Piece) :
    bareWord (input.map Piece.lower) = lowerBoth (bareWord input) := by
  simp only [bareWord, run_lower Quoted.endsWord_toLower, ← toLower_ofList, ofWord_lower]
  rfl

theorem starting_lower (first : Char) (input : List Piece) :
    starting first.toLower (input.map Piece.lower) = lowerBoth (starting first input) := by
  unfold starting
  cases found : sign? first input with
  | some taken =>
    have structural : Quoted.isStructural first = true := by
      rw [← sign?_isSome first input, found]
      rfl
    rw [sign?_lower structural, found]
    rfl
  | none =>
    rw [sign?_toLower_eq_none found]
    by_cases quote : first = '"'
    · subst quote
      exact string_lower input
    · have other : first.toLower ≠ '"' := by rwa [ne_eq, toLower_eq_iff (by decide)]
      simp only [if_neg quote, if_neg other]
      exact bareWord_lower (.char first :: input)

theorem isBlank_lower (piece : Piece) : isBlank piece.lower = isBlank piece := by
  cases piece with
  | char c => exact Quoted.isBlank_toLower c
  | stray => rfl

theorem next?_lower (input : List Piece) :
    next? (input.map Piece.lower) = (next? input).map lowerBoth := by
  have skipped : (input.map Piece.lower).dropWhile isBlank =
      (input.dropWhile isBlank).map Piece.lower := by
    rw [List.dropWhile_map]
    congr 2
    exact funext isBlank_lower
  rw [next?, skipped, next?]
  rcases input.dropWhile isBlank with _ | ⟨c | _, rest⟩
  · rfl
  · exact congrArg some (starting_lower c rest)
  · rfl

end Token

namespace Lexeme

theorem tokens_lower (input : List Piece) :
    (scan (input.map Piece.lower)).map token = ((scan input).map token).map Token.lower := by
  fun_induction scan input with
  | case1 input none_left =>
    have none_left : Token.next? (input.map Piece.lower) = none := by
      rw [Token.next?_lower, none_left]
      rfl
    rw [scan_of_next?_eq_none none_left]
    rfl
  | case2 input token rest taken ih =>
    have taken : Token.next? (input.map Piece.lower) =
        some (token.lower, rest.map Piece.lower) := by
      rw [Token.next?_lower, taken]
      rfl
    rw [scan_of_next?_eq_some taken, List.map_cons, ih]
    rfl

end Lexeme

/-- The tokens of a text in lower case are those of the text, in lower case. -/
theorem Token.scan_toLower (text : String) :
    scan text.toLower.toList = (scan text.toList).map lower := by
  rw [scan, scan, ← Lexeme.tokens_lower, Relation.toList_toLower, List.map_map, List.map_map]
  rfl

/-- Texts that differ in letter case alone have tokens that do. -/
theorem Token.map_lower_scan {text other : String} (same : other.toLower = text.toLower) :
    (scan other.toList).map lower = (scan text.toList).map lower := by
  rw [← scan_toLower, same, scan_toLower]

end ContextualQuery
