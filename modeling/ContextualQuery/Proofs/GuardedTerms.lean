import ContextualQuery.Proofs.NormalForm
import ContextualQuery.Proofs.Rendering

/-!
# Terms that are read back

A term that is written and read back has every quote escaped and a backslash at its end doubled.
A field that takes the one takes the other for the same values, words and pattern: an escaped quote
is the quote itself, and a term that ends in an unpaired backslash is refused.
-/

namespace ContextualQuery

/-! ## Glyphs -/

namespace Glyph

/-- The glyph that is read back where a glyph was written. -/
def guarded : Glyph → Glyph
  | .plain '"' => .escaped '"'
  | .danglingEscape => .escaped '\\'
  | glyph => glyph

/-- A character that needs no guard is a glyph by itself, which is read back as it is. -/
theorem exists_ofChars_cons {c : Char} (noEscape : c ≠ '\\') (noQuote : c ≠ '"') :
    ∃ glyph : Glyph, glyph.guarded = glyph ∧
      ∀ rest, ofChars (c :: rest) = glyph :: ofChars rest := by
  by_cases mark : c = '*' ∨ c = '?' ∨ c = '^'
  · rcases mark with rfl | rfl | rfl <;> exact ⟨_, rfl, fun rest => by rw [ofChars]⟩
  · rw [not_or, not_or] at mark
    refine ⟨.plain c, ?_, fun rest => ?_⟩
    · rw [guarded] <;> simp [noQuote]
    · rw [ofChars] <;> simp_all

theorem ofChars_guardQuotes (term : List Char) :
    ofChars (Quoted.guardQuotes term) = (ofChars term).map guarded := by
  fun_induction Quoted.guardQuotes term with
  | case1 => rfl
  | case2 => rfl
  | case3 c rest ih =>
    rw [ofChars, ofChars, List.map_cons, ih]
    split <;> rfl
  | case4 rest ih =>
    have plain : ofChars ('"' :: rest) = .plain '"' :: ofChars rest := by rw [ofChars] <;> simp
    rw [plain, ofChars, ih]
    rfl
  | case5 c rest notLast escapesNone noQuote ih =>
    obtain ⟨glyph, same, reads⟩ :=
      exists_ofChars_cons (Quoted.ne_backslash notLast escapesNone) noQuote
    rw [reads, reads, List.map_cons, ih, same]

theorem ofTerm_reread (term : String) : ofTerm (reread term) = (ofTerm term).map guarded := by
  rw [ofTerm, toList_reread, ofChars_guardQuotes, ofTerm]

theorem exact_guarded {glyph : Glyph} {c : Char} (read : glyph.exact = .ok c) :
    glyph.guarded.exact = .ok c := by
  unfold guarded
  split
  · exact read
  · cases read
  · exact read

theorem likePattern_guarded {glyph : Glyph} {part : List Char}
    (made : glyph.likePattern = .ok part) : glyph.guarded.likePattern = .ok part := by
  unfold guarded
  split
  · exact made
  · cases made
  · exact made

theorem isMask_guarded (glyph : Glyph) : glyph.guarded.isMask = glyph.isMask := by
  unfold guarded
  split <;> rfl

theorem isSpace_guarded (glyph : Glyph) : glyph.guarded.isSpace = glyph.isSpace := by
  unfold guarded
  split <;> rfl

theorem stretches_guarded (glyphs : List Glyph) :
    stretches (glyphs.map guarded) = (stretches glyphs).map (List.map guarded) := by
  induction glyphs with
  | nil => rfl
  | cons glyph glyphs ih =>
    cases space : glyph.isSpace with
    | true =>
      have space' : glyph.guarded.isSpace = true := by rw [isSpace_guarded, space]
      rw [List.map_cons, stretches, if_pos space', ih, stretches, if_pos space]
      rfl
    | false =>
      have noSpace : glyph.guarded.isSpace = false := by rw [isSpace_guarded, space]
      obtain ⟨first, others, split⟩ := List.exists_cons_of_ne_nil (stretches_ne_nil glyphs)
      rw [List.map_cons, stretches_cons noSpace, ih, stretches_cons space, split]
      rfl

theorem words_guarded (glyphs : List Glyph) :
    words (glyphs.map guarded) = (words glyphs).map (List.map guarded) := by
  have nonempty : (fun word : List Glyph => !word.isEmpty) ∘ List.map guarded =
      fun word => !word.isEmpty :=
    funext fun word => congrArg not List.isEmpty_map
  rw [words, stretches_guarded, List.filter_map, nonempty, words]
  cases (stretches glyphs).filter (!·.isEmpty) <;> rfl

end Glyph

/-! ## Masking -/

namespace Masking

variable {term : String}

theorem exactText_guarded {glyphs : List Glyph} {value : String}
    (read : exactText glyphs = .ok value) : exactText (glyphs.map Glyph.guarded) = .ok value := by
  obtain ⟨characters, each, rfl⟩ := map_eq_ok.1 read
  exact map_eq_ok.2 ⟨characters, mapM_map_of_ok (fun _ _ => Glyph.exact_guarded) each, rfl⟩

theorem exactTerm_reread {value : String} (read : exactTerm term = .ok value) :
    exactTerm (reread term) = .ok value := by
  rw [exactTerm, Glyph.ofTerm_reread]
  exact exactText_guarded read

theorem exactWords_reread {words : List String} (read : exactWords term = .ok words) :
    exactWords (reread term) = .ok words := by
  rw [exactWords, Glyph.ofTerm_reread, Glyph.words_guarded]
  exact mapM_map_of_ok (fun _ _ => exactText_guarded) read

theorem likePattern_reread {pattern : String} (made : likePattern term = .ok pattern) :
    likePattern (reread term) = .ok pattern := by
  obtain ⟨parts, each, rfl⟩ := map_eq_ok.1 made
  rw [likePattern, Glyph.ofTerm_reread]
  exact map_eq_ok.2 ⟨parts, mapM_map_of_ok (fun _ _ => Glyph.likePattern_guarded) each, rfl⟩

theorem isMasked_reread (term : String) : isMasked (reread term) = isMasked term := by
  rw [isMasked, Glyph.ofTerm_reread, List.any_map, isMasked]
  exact congrArg _ (funext Glyph.isMask_guarded)

end Masking

/-! ## Numbers -/

namespace Decimal

/-- The characters that a number may be written with. -/
def isNumeral (c : Char) : Bool :=
  c.isDigit || c == '_' || c == '.' || c == '-' || c == '+' || isExponentMark c

theorem isNumeral_of_digit? {c : Char} {digit : Nat} (read : digit? c = some digit) :
    isNumeral c = true := by
  unfold digit? at read
  split at read
  · next isDigit => simp [isNumeral, isDigit]
  · cases read

theorem isNumeral_of_round {mantissa scale digit : Nat} {rest : List Char} {read : Nat × Nat}
    (rounded : round mantissa scale digit rest = some read) : ∀ c ∈ rest, isNumeral c = true := by
  unfold round at rounded
  split at rounded
  · cases rounded
  · next digits =>
    rw [Bool.not_eq_true, Bool.not_eq_false', onlyDigits, List.all_eq_true] at digits
    intro c member
    rcases Bool.or_eq_true _ _ ▸ digits c member with isDigit | underscore
    · simp [isNumeral, isDigit]
    · simp [isNumeral, underscore]

theorem isNumeral_of_fraction {mantissa scale : Nat} {started : Bool} {text : List Char}
    {result : Nat × Nat} (read : fraction mantissa scale started text = some result) :
    ∀ c ∈ text, isNumeral c = true := by
  induction text generalizing mantissa scale started with
  | nil => simp
  | cons c rest ih =>
    rw [fraction] at read
    rw [List.forall_mem_cons]
    split at read
    · next digit isDigit =>
      refine ⟨isNumeral_of_digit? isDigit, ?_⟩
      split at read
      · exact ih read
      · exact isNumeral_of_round read
    · split at read
      · next underscore =>
        rw [Bool.and_eq_true, beq_iff_eq] at underscore
        refine ⟨by rw [underscore.1]; rfl, ?_⟩
        split at read
        · exact isNumeral_of_round read
        · exact ih read
      · cases read

theorem isNumeral_of_whole {mantissa : Nat} {started : Bool} {text : List Char}
    {result : Nat × Nat} (read : whole mantissa started text = some result) :
    ∀ c ∈ text, isNumeral c = true := by
  induction text generalizing mantissa started with
  | nil => simp
  | cons c rest ih =>
    rw [whole] at read
    rw [List.forall_mem_cons]
    split at read
    · next digit isDigit =>
      split at read
      · exact ⟨isNumeral_of_digit? isDigit, ih read⟩
      · cases read
    · split at read
      · next point =>
        rw [beq_iff_eq.1 point]
        exact ⟨rfl, isNumeral_of_fraction read⟩
      · split at read
        · next underscore =>
          rw [Bool.and_eq_true, beq_iff_eq] at underscore
          rw [underscore.1]
          exact ⟨rfl, ih read⟩
        · cases read

theorem isNumeral_of_ofPlain? {text : List Char} {number : Decimal}
    (read : ofPlain? text = some number) : ∀ c ∈ text, isNumeral c = true := by
  obtain ⟨result, readDigits, -⟩ := Option.bind_eq_some_iff.1 read
  have digits := isNumeral_of_whole readDigits
  split at digits
  · exact List.forall_mem_cons.2 ⟨rfl, digits⟩
  · exact List.forall_mem_cons.2 ⟨rfl, digits⟩
  · exact digits

theorem isNumeral_of_foldlM {digits : List Char} {start value : Nat}
    (read : digits.foldlM (fun value c => (digit? c).map (value * 10 + ·)) start = some value) :
    ∀ c ∈ digits, isNumeral c = true := by
  induction digits generalizing start with
  | nil => simp
  | cons c rest ih =>
    rw [List.foldlM_cons] at read
    obtain ⟨next, step, later⟩ := Option.bind_eq_some_iff.1 read
    obtain ⟨digit, isDigit, -⟩ := Option.map_eq_some_iff.1 step
    exact List.forall_mem_cons.2 ⟨isNumeral_of_digit? isDigit, ih later⟩

theorem isNumeral_of_natural? {digits : List Char} {value : Nat}
    (read : natural? digits = some value) : ∀ c ∈ digits, isNumeral c = true := by
  unfold natural? at read
  split at read
  · cases read
  · exact isNumeral_of_foldlM read

theorem isNumeral_of_exponent? {text : List Char} {value : Nat}
    (read : exponent? text = some value) : ∀ c ∈ text, isNumeral c = true := by
  obtain ⟨value, readDigits, -⟩ := Option.bind_eq_some_iff.1 read
  have digits := isNumeral_of_natural? readDigits
  split at digits
  · exact List.forall_mem_cons.2 ⟨rfl, digits⟩
  · exact digits

theorem isNumeral_of_ofScientific? {text : List Char} {number : Decimal}
    (read : ofScientific? text = some number) : ∀ c ∈ text, isNumeral c = true := by
  unfold ofScientific? at read
  split at read
  · cases read
  · next mark power split =>
    obtain ⟨base, readBase, read⟩ := Option.bind_eq_some_iff.1 read
    have isMark : isNumeral mark = true := by
      have stops := List.head_dropWhile_not (!isExponentMark ·) (l := text) (by rw [split]; simp)
      simp only [split, List.head_cons, Bool.not_eq_false'] at stops
      simp [isNumeral, stops]
    have inPower : ∀ c ∈ power, isNumeral c = true := by
      split at read
      · obtain ⟨_, readPower, -⟩ := Option.bind_eq_some_iff.1 read
        exact List.forall_mem_cons.2 ⟨rfl, isNumeral_of_exponent? readPower⟩
      · obtain ⟨_, readPower, -⟩ := Option.bind_eq_some_iff.1 read
        exact isNumeral_of_exponent? readPower
    have whole := @List.takeWhile_append_dropWhile _ (!isExponentMark ·) text
    rw [← whole, split, List.forall_mem_append, List.forall_mem_cons]
    exact ⟨isNumeral_of_ofPlain? readBase, isMark, inPower⟩

/-- Every character of a number is one of those that numbers are written with. -/
theorem isNumeral_of_ofString? {text : String} {number : Decimal}
    (read : ofString? text = some number) : ∀ c ∈ text.toList, isNumeral c = true := by
  unfold ofString? at read
  cases plain : ofPlain? text.toList with
  | some number => exact isNumeral_of_ofPlain? plain
  | none =>
    rw [plain] at read
    exact isNumeral_of_ofScientific? read

/-- A number is read back as it is. -/
theorem reread_of_ofString? {text : String} {number : Decimal}
    (read : ofString? text = some number) : reread text = text := by
  have numeral := isNumeral_of_ofString? read
  refine reread_of_plain ?_ ?_
  · intro member
    cases numeral _ member
  · intro member
    cases numeral _ member

end Decimal
end ContextualQuery
