import ContextualQuery.Query.Parse

/-!
# Lexing written words

Canonical text is a row of pieces: values written as words, relations written as they are, signs
and blanks.  Each piece is scanned as one token, or none, and what follows it is scanned on its
own, provided that it does not run on: behind a bare word must come a character that ends it.
-/

namespace ContextualQuery
namespace Quoted

/-- Whether the characters keep together without quotes: each that would end a word is escaped,
and no backslash stands at the end. -/
def keepsTogether : List Char → Bool
  | [] => true
  | ['\\'] => false
  | '\\' :: _ :: rest => keepsTogether rest
  | c :: rest => !endsWord c && keepsTogether rest

/-- Whether a dot stands among the characters that is not escaped. -/
def hasDot : List Char → Bool
  | [] => false
  | '\\' :: _ :: rest => hasDot rest
  | c :: rest => c == '.' || hasDot rest

/-- Whether a text stands as one word without quotes. -/
def isBareWord (word : String) : Bool :=
  word.toList.head? != none && word.toList.head? != some '"' && keepsTogether word.toList

theorem hasDot_cons {c : Char} (rest : List Char) (noBackslash : c ≠ '\\') :
    hasDot (c :: rest) = (c == '.' || hasDot rest) := by
  rw [hasDot]
  intro _ _ backslash
  exact absurd backslash noBackslash

theorem keepsTogether_cons {c : Char} (rest : List Char) (noBackslash : c ≠ '\\') :
    keepsTogether (c :: rest) = (!endsWord c && keepsTogether rest) := by
  rw [keepsTogether] <;> simp_all

/-- Guarding quotes adds backslashes in front of quotes and at the end, and nothing that ends a
word. -/
theorem any_guardQuotes {p : Char → Bool} (noBackslash : p '\\' = false) (value : List Char) :
    (guardQuotes value).any p = value.any p := by
  fun_induction guardQuotes value with
  | case1 => rfl
  | case2 => simp [noBackslash]
  | case3 c rest ih => simp [noBackslash, ih]
  | case4 rest ih => simp [noBackslash, ih]
  | case5 c rest _ _ _ ih => simp [ih]

theorem guardQuotes_eq_nil {value : List Char} : guardQuotes value = [] ↔ value = [] := by
  fun_cases guardQuotes value <;> simp

/-- Guarding quotes does not change whether quotes are needed around the value. -/
theorem needsQuotes_guardQuotes (value : List Char) :
    needsQuotes (guardQuotes value) = needsQuotes value := by
  have ends := any_guardQuotes (p := fun c => endsWord c || c == '"') (by decide) value
  have empty : (guardQuotes value).isEmpty = value.isEmpty := by
    rw [Bool.eq_iff_iff, List.isEmpty_iff, List.isEmpty_iff, guardQuotes_eq_nil]
  rw [needsQuotes, needsQuotes, ends, empty]

/-- A value without characters that end words keeps together once its quotes are guarded. -/
theorem keepsTogether_guardQuotes {value : List Char} (inner : value.any endsWord = false) :
    keepsTogether (guardQuotes value) = true := by
  fun_induction guardQuotes value with
  | case1 => rfl
  | case2 => rfl
  | case3 c rest ih =>
    simp only [List.any_cons, Bool.or_eq_false_iff] at inner
    rw [keepsTogether]
    exact ih inner.2.2
  | case4 rest ih =>
    simp only [List.any_cons, Bool.or_eq_false_iff] at inner
    rw [keepsTogether]
    exact ih inner.2
  | case5 c rest notLast escapesNone _ ih =>
    simp only [List.any_cons, Bool.or_eq_false_iff] at inner
    rw [keepsTogether_cons _ (ne_backslash notLast escapesNone), inner.1, ih inner.2]
    rfl

/-- A value that needs no quotes around it is not empty and holds no character that would. -/
theorem needsQuotes_eq_false {value : List Char} (bare : needsQuotes value = false) :
    value ≠ [] ∧ value.any endsWord = false ∧ '"' ∉ value := by
  simp only [needsQuotes, Bool.or_eq_false_iff, List.isEmpty_eq_false_iff, List.any_eq_false,
    Bool.not_eq_true, Bool.or_eq_false_iff] at bare
  refine ⟨bare.1, ?_, ?_⟩
  · rw [List.any_eq_false]
    intro c member
    simp [(bare.2 c member).1]
  · intro member
    simpa using (bare.2 '"' member).2

end Quoted

/-- What may follow a bare word: nothing, or a character that ends it. -/
def Breaks (rest : List Char) : Prop := ∀ c ∈ rest.head?, Quoted.endsWord c = true

theorem breaks_nil : Breaks [] := by
  intro c first
  cases first

theorem breaks_cons {c : Char} {rest : List Char} (ends : Quoted.endsWord c = true) :
    Breaks (c :: rest) := by
  intro d first
  cases first
  exact ends

namespace Token

theorem run_stop {ends : Char → Bool} {c : Char} (stops : ends c = true)
    (rest : List Utf8.Piece) : run ends (.char c :: rest) = ⟨[], false, .char c :: rest⟩ := by
  unfold run
  rw [if_pos stops]

theorem run_plain {ends : Char → Bool} {c : Char} (continues : ends c = false)
    (noBackslash : c ≠ '\\') (rest : List Utf8.Piece) :
    run ends (.char c :: rest) =
      ⟨c :: (run ends rest).text, c == '.' || (run ends rest).dotted, (run ends rest).rest⟩ := by
  conv => lhs; unfold run
  rw [if_neg (by simp [continues]), if_neg noBackslash]

theorem run_escape {ends : Char → Bool} (continues : ends '\\' = false) (c : Char)
    (rest : List Utf8.Piece) :
    run ends (.char '\\' :: .char c :: rest) =
      ⟨'\\' :: c :: (run ends rest).text, (run ends rest).dotted, (run ends rest).rest⟩ := by
  conv => lhs; unfold run
  rw [if_neg (by simp [continues]), if_pos rfl]

/-- Characters that keep together are read as one run, up to the character that ends it. -/
theorem run_endsWord {word rest : List Char} (together : Quoted.keepsTogether word = true)
    (breaks : Breaks rest) :
    run Quoted.endsWord ((word ++ rest).map .char) =
      ⟨word, Quoted.hasDot word, rest.map .char⟩ := by
  fun_induction Quoted.keepsTogether word with
  | case1 =>
    cases rest with
    | nil => rfl
    | cons c rest => exact run_stop (breaks c rfl) _
  | case2 => cases together
  | case3 c word ih =>
    have read := ih together
    simp only [List.cons_append, List.map_cons]
    rw [run_escape (by decide), read]
    rfl
  | case4 c word notLast escapesNone ih =>
    simp only [Bool.and_eq_true, Bool.not_eq_true'] at together
    have plain := Quoted.ne_backslash notLast escapesNone
    have read := ih together.2
    simp only [List.cons_append, List.map_cons]
    rw [run_plain together.1 plain, read, Quoted.hasDot_cons _ plain]

/-- A guarded value is read up to the quote behind it. -/
theorem run_quote (value rest : List Char) :
    ∃ dotted, run (· == '"') ((Quoted.guardQuotes value ++ '"' :: rest).map .char) =
      ⟨Quoted.guardQuotes value, dotted, ('"' :: rest).map .char⟩ := by
  have stop : run (· == '"') (.char '"' :: rest.map .char) = ⟨[], false, _⟩ := run_stop rfl _
  fun_induction Quoted.guardQuotes value with
  | case1 => exact ⟨false, stop⟩
  | case2 =>
    refine ⟨false, ?_⟩
    simp only [List.cons_append, List.nil_append, List.map_cons]
    rw [run_escape rfl, stop]
  | case3 c value ih =>
    obtain ⟨dotted, read⟩ := ih
    refine ⟨dotted, ?_⟩
    simp only [List.cons_append, List.map_cons]
    rw [run_escape rfl, read]
    rfl
  | case4 value ih =>
    obtain ⟨dotted, read⟩ := ih
    refine ⟨dotted, ?_⟩
    simp only [List.cons_append, List.map_cons]
    rw [run_escape rfl, read]
    rfl
  | case5 c value notLast escapesNone noQuote ih =>
    obtain ⟨dotted, read⟩ := ih
    have plain := Quoted.ne_backslash notLast escapesNone
    refine ⟨c == '.' || dotted, ?_⟩
    simp only [List.cons_append, List.map_cons]
    rw [run_plain (by simpa using noQuote) plain, read]
    rfl

/-- The tokens of a text. -/
def scan (text : List Char) : List Token := (Lexeme.scan (text.map .char)).map Lexeme.token

@[simp]
theorem scan_nil : scan [] = [] := by
  rw [scan, Lexeme.scan_of_next?_eq_none rfl]
  rfl

/-- Blanks in front of a token are passed over. -/
theorem scan_blank {c : Char} (blank : Quoted.isBlank c = true) (rest : List Char) :
    scan (c :: rest) = scan rest := by
  have same : next? ((c :: rest).map .char) = next? (rest.map .char) := by
    simp only [next?, List.map_cons]
    rw [List.dropWhile_cons_of_pos (by exact blank)]
  unfold scan
  cases taken : next? (rest.map .char) with
  | none =>
    rw [Lexeme.scan_of_next?_eq_none taken, Lexeme.scan_of_next?_eq_none (same.trans taken)]
  | some found =>
    rw [Lexeme.scan_of_next?_eq_some taken, Lexeme.scan_of_next?_eq_some (same.trans taken)]

@[simp]
theorem scan_space (rest : List Char) : scan (' ' :: rest) = scan rest :=
  scan_blank rfl rest

/-- The token that begins with a character is the first one scanned. -/
theorem scan_cons {first : Char} {rest behind : List Char} {token : Token}
    (notBlank : Quoted.isBlank first = false)
    (taken : starting first (rest.map .char) = (token, behind.map .char)) :
    scan (first :: rest) = token :: scan behind := by
  have found : next? ((first :: rest).map .char) = some (token, behind.map .char) := by
    simp only [next?, List.map_cons]
    rw [List.dropWhile_cons_of_neg (by simp [isBlank, notBlank])]
    exact congrArg some taken
  rw [scan, Lexeme.scan_of_next?_eq_some found]
  rfl

@[simp]
theorem scan_slash (rest : List Char) : scan ('/' :: rest) = .slash :: scan rest :=
  scan_cons rfl rfl

@[simp]
theorem scan_leftParen (rest : List Char) : scan ('(' :: rest) = .leftParen :: scan rest :=
  scan_cons rfl rfl

@[simp]
theorem scan_rightParen (rest : List Char) : scan (')' :: rest) = .rightParen :: scan rest :=
  scan_cons rfl rfl

/-- What may follow a comparison: anything that makes no longer sign of it. -/
def EndsSign (rest : List Char) : Prop := ∀ c ∈ rest.head?, c ≠ '=' ∧ c ≠ '>'

theorem endsSign_cons {c : Char} {rest : List Char} (noEqual : c ≠ '=') (noGreater : c ≠ '>') :
    EndsSign (c :: rest) := by
  intro d first
  cases first
  exact ⟨noEqual, noGreater⟩

theorem starting_of_sign {first : Char} {rest : List Utf8.Piece} {taken : Token × List Utf8.Piece}
    (found : sign? first rest = some taken) : starting first rest = taken := by
  rw [starting, found]

theorem scan_comparison (symbol : Comparison) {rest : List Char} (ends : EndsSign rest) :
    scan (symbol.symbol.toList ++ rest) = .comparison symbol :: scan rest := by
  cases symbol with
  | exactlyEqual | lessOrEqual | greaterOrEqual | notEqual => exact scan_cons rfl rfl
  | equal =>
    change scan ('=' :: rest) = _
    refine scan_cons rfl (starting_of_sign ?_)
    cases rest with
    | nil => rfl
    | cons c rest => simp [sign?, (ends c rfl).1]
  | less =>
    change scan ('<' :: rest) = _
    refine scan_cons rfl (starting_of_sign ?_)
    cases rest with
    | nil => rfl
    | cons c rest => simp [sign?, (ends c rfl).1, (ends c rfl).2]
  | greater =>
    change scan ('>' :: rest) = _
    refine scan_cons rfl (starting_of_sign ?_)
    cases rest with
    | nil => rfl
    | cons c rest => simp [sign?, (ends c rfl).1]

/-- The token of the word that a value is written as. -/
def ofValue (value : String) : Token :=
  let kept := Quoted.guardQuotes value.toList
  if Quoted.needsQuotes value.toList then .word (String.ofList kept)
  else ofWord (String.ofList kept) (Quoted.hasDot kept)

theorem term?_ofWord (spelling : String) (dotted : Bool) :
    (ofWord spelling dotted).term? = some spelling := by
  unfold ofWord
  split
  · rfl
  · split
    · rfl
    · split
      · rfl
      · split <;> rfl

@[simp]
theorem term?_ofValue (value : String) :
    (ofValue value).term? = some (String.ofList (Quoted.guardQuotes value.toList)) := by
  unfold ofValue
  split
  · rfl
  · exact term?_ofWord _ _

theorem scan_cons_bareWord {first : Char} {word rest : List Char}
    (together : Quoted.keepsTogether (first :: word) = true) (noQuote : first ≠ '"')
    (breaks : Breaks rest) :
    scan (first :: word ++ rest) =
      ofWord (String.ofList (first :: word)) (Quoted.hasDot (first :: word)) :: scan rest := by
  have inside : Quoted.endsWord first = false := by
    by_cases backslash : first = '\\'
    · subst backslash
      decide
    · rw [Quoted.keepsTogether_cons _ backslash, Bool.and_eq_true] at together
      simpa using together.1
  obtain ⟨notBlank, notSign⟩ : Quoted.isBlank first = false ∧ Quoted.isStructural first = false := by
    simpa [Quoted.endsWord] using inside
  have noSign (behind : List Utf8.Piece) : sign? first behind = none := by
    have := sign?_isSome first behind
    rwa [notSign, Option.isSome_eq_false_iff, Option.isNone_iff_eq_none] at this
  have taken : starting first ((word ++ rest).map .char) =
      (ofWord (String.ofList (first :: word)) (Quoted.hasDot (first :: word)),
        rest.map .char) := by
    have behind : Utf8.Piece.char first :: (word ++ rest).map .char =
        (first :: word ++ rest).map .char := rfl
    rw [starting, noSign]
    simp only [if_neg noQuote]
    rw [bareWord, behind, run_endsWord together breaks]
  exact scan_cons notBlank taken

/-- A bare word in front of the text is scanned as one token. -/
theorem scan_bareWord (word : String) (bare : Quoted.isBareWord word = true) {rest : List Char}
    (breaks : Breaks rest) :
    scan (word.toList ++ rest) = ofWord word (Quoted.hasDot word.toList) :: scan rest := by
  cases letters : word.toList with
  | nil => simp [Quoted.isBareWord, letters] at bare
  | cons first others =>
    rw [Quoted.isBareWord, letters, Bool.and_eq_true, Bool.and_eq_true] at bare
    obtain ⟨⟨-, noQuote⟩, together⟩ := bare
    have read := scan_cons_bareWord together (by simpa using noQuote) breaks
    rwa [← letters, String.ofList_toList, letters] at read

theorem guardQuotes_ne_quote {value rest : List Char} (noQuote : '"' ∉ value) :
    Quoted.guardQuotes value ≠ '"' :: rest := by
  intro same
  have kept := Quoted.any_guardQuotes (p := (· == '"')) (by decide) value
  rw [same] at kept
  simp [noQuote] at kept

/-- A written value is scanned as one token. -/
theorem scan_value (value : String) {rest : List Char} (breaks : Breaks rest) :
    scan ((quote value).toList ++ rest) = ofValue value :: scan rest := by
  rw [quote, String.toList_ofList, Quoted.encode, ofValue]
  cases quotes : Quoted.needsQuotes value.toList with
  | true =>
    obtain ⟨dotted, read⟩ := run_quote value.toList rest
    have string_eq : string ((Quoted.guardQuotes value.toList ++ '"' :: rest).map .char) =
        (.word (String.ofList (Quoted.guardQuotes value.toList)), rest.map .char) := by
      rw [string, read]
      rfl
    simp only [if_true, List.cons_append, List.append_assoc, List.nil_append]
    exact scan_cons rfl string_eq
  | false =>
    obtain ⟨nonempty, inner, noQuote⟩ := Quoted.needsQuotes_eq_false quotes
    have together := Quoted.keepsTogether_guardQuotes inner
    cases kept : Quoted.guardQuotes value.toList with
    | nil => exact absurd (Quoted.guardQuotes_eq_nil.1 kept) nonempty
    | cons first word =>
      have notQuote : first ≠ '"' := by
        rintro rfl
        exact guardQuotes_ne_quote noQuote kept
      rw [kept] at together
      exact scan_cons_bareWord together notQuote breaks

end Token
end ContextualQuery
