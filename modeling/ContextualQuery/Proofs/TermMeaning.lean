import ContextualQuery.Proofs.Rendering
import ContextualQuery.Text.Quoted
import Mathlib.Data.List.Infix

/-!
# The meaning of terms

A term means a pattern, the text that it spells, or a list of words, and each meaning is read off
its characters alone.  What masking makes of a term, where it makes anything, has that meaning: a
`LIKE` pattern matches what the term does, and values and words are those that the term spells.
-/

namespace ContextualQuery

/-! ## Patterns -/

/-- One unit of a pattern. -/
inductive Wildcard
  /-- The character itself. -/
  | char (c : Char)
  | anyText
  /-- Any one character. -/
  | anyChar
deriving DecidableEq, Repr

namespace Wildcard

/-- Whether a text matches a pattern as a whole. -/
def accepts : List Wildcard → List Char → Bool
  | [], text => text.isEmpty
  | .char c :: pattern, d :: text => c == d && accepts pattern text
  | .anyChar :: pattern, _ :: text => accepts pattern text
  | .anyText :: pattern, text => text.tails.any (accepts pattern)
  | _, [] => false

/-- The pattern that a `LIKE` pattern's text stands for: `%` is any text and `_` any character, and
a backslash makes the next character stand for itself.  A backslash at the end is refused. -/
def ofLike? : List Char → Option (List Wildcard)
  | [] => some []
  | ['\\'] => none
  | '\\' :: c :: rest => (ofLike? rest).map (.char c :: ·)
  | '%' :: rest => (ofLike? rest).map (.anyText :: ·)
  | '_' :: rest => (ofLike? rest).map (.anyChar :: ·)
  | c :: rest => (ofLike? rest).map (.char c :: ·)

/-- The pattern that a term stands for: an unescaped star is any text and an unescaped question
mark any character, if masks are taken at all. -/
def ofTerm (masks : Bool) : List Char → List Wildcard
  | [] => []
  | ['\\'] => [.char '\\']
  | '\\' :: c :: rest => .char c :: ofTerm masks rest
  | '*' :: rest => (if masks then .anyText else .char '*') :: ofTerm masks rest
  | '?' :: rest => (if masks then .anyChar else .char '?') :: ofTerm masks rest
  | c :: rest => .char c :: ofTerm masks rest

example : accepts (ofTerm true "a*\\*?".toList) "abba*c".toList = true := by decide +kernel

/-- A pattern of characters matches the text that it spells and no other. -/
theorem accepts_map_char (spelled text : List Char) :
    accepts (spelled.map .char) text = (text == spelled) := by
  induction spelled generalizing text with
  | nil => cases text <;> rfl
  | cons c spelled ih =>
    cases text with
    | nil => rfl
    | cons d text =>
      rw [List.map_cons, accepts, ih, List.cons_beq_cons, BEq.comm]

theorem ofLike?_cons {c : Char} (rest : List Char) (noEscape : c ≠ '\\') (noText : c ≠ '%')
    (noChar : c ≠ '_') : ofLike? (c :: rest) = (ofLike? rest).map (.char c :: ·) := by
  rw [ofLike?] <;> simp_all

theorem ofTerm_cons {c : Char} (masks : Bool) (rest : List Char) (noEscape : c ≠ '\\')
    (noText : c ≠ '*') (noChar : c ≠ '?') :
    ofTerm masks (c :: rest) = .char c :: ofTerm masks rest := by
  rw [ofTerm] <;> simp_all

/-- Characters that a term escapes stand for themselves in the pattern made of it. -/
theorem ofLike?_escaped {c : Char} {part : List Char}
    (made : (Glyph.escaped c).likePattern = .ok part)
    (escapable : Glyph.isEscapable c = true) (rest : List Char) :
    ofLike? (part ++ rest) = (ofLike? rest).map (.char c :: ·) := by
  simp only [Glyph.isEscapable, Bool.or_eq_true, beq_iff_eq] at escapable
  rcases escapable with (((rfl | rfl) | rfl) | rfl) | rfl <;> cases made <;>
    simp [ofLike?]

theorem ofLike?_plain {c : Char} {part : List Char} (made : (Glyph.plain c).likePattern = .ok part)
    (noEscape : c ≠ '\\') (rest : List Char) :
    ofLike? (part ++ rest) = (ofLike? rest).map (.char c :: ·) := by
  rw [Glyph.likePattern] at made
  split at made
  · next wildcard =>
    cases made
    simp [ofLike?]
  · next plain =>
    cases made
    simp only [Bool.or_eq_true, beq_iff_eq, not_or] at plain
    exact ofLike?_cons rest noEscape plain.1 plain.2

/-- A pattern that is made of a term means what the term means. -/
theorem ofLike?_of_mapM {term : List Char} {parts : List (List Char)}
    (each : (Glyph.ofChars term).mapM Glyph.likePattern = .ok parts) :
    ofLike? parts.flatten = some (ofTerm true term) := by
  rw [mapM_eq_ok] at each
  fun_induction Glyph.ofChars term generalizing parts with
  | case1 =>
    rw [List.forall₂_nil_left_iff.1 each]
    rfl
  | case2 =>
    obtain ⟨part, _, made, _⟩ := List.forall₂_cons_left_iff.1 each
    cases made
  | case3 c rest ih =>
    obtain ⟨part, others, made, later, rfl⟩ := List.forall₂_cons_left_iff.1 each
    split at made
    · next escapable =>
      rw [List.flatten_cons, ofLike?_escaped made escapable, ih later, ofTerm]
      rfl
    · cases made
  | case4 rest ih | case5 rest ih =>
    obtain ⟨part, others, made, later, rfl⟩ := List.forall₂_cons_left_iff.1 each
    cases made
    rw [List.flatten_cons, List.singleton_append, ofLike?, ih later, ofTerm]
    rfl
  | case6 rest ih =>
    obtain ⟨part, others, made, later, rfl⟩ := List.forall₂_cons_left_iff.1 each
    cases made
  | case7 c rest notLast escapesNone noText noChar noAnchor ih =>
    obtain ⟨part, others, made, later, rfl⟩ := List.forall₂_cons_left_iff.1 each
    have noEscape := Quoted.ne_backslash notLast escapesNone
    rw [List.flatten_cons, ofLike?_plain made noEscape, ih later,
      ofTerm_cons true rest noEscape noText noChar]
    rfl

theorem ofLike?_of_likePattern {term pattern : String}
    (made : Masking.likePattern term = .ok pattern) :
    ofLike? pattern.toList = some (ofTerm true term.toList) := by
  obtain ⟨parts, each, rfl⟩ := map_eq_ok.1 made
  rw [String.toList_ofList]
  exact ofLike?_of_mapM each

/-- A term in which nothing is masked stands for the text that it spells. -/
theorem ofTerm_of_mapM {term value : List Char}
    (each : (Glyph.ofChars term).mapM Glyph.exact = .ok value) :
    value = Quoted.unescape term ∧ ∀ masks, ofTerm masks term = value.map .char := by
  rw [mapM_eq_ok] at each
  fun_induction Glyph.ofChars term generalizing value with
  | case1 =>
    rw [List.forall₂_nil_left_iff.1 each]
    exact ⟨rfl, fun _ => rfl⟩
  | case2 =>
    obtain ⟨d, _, read, _⟩ := List.forall₂_cons_left_iff.1 each
    cases read
  | case3 c rest ih =>
    obtain ⟨d, others, read, later, rfl⟩ := List.forall₂_cons_left_iff.1 each
    obtain ⟨spelled, means⟩ := ih later
    split at read
    · cases read
      refine ⟨by rw [Quoted.unescape, spelled], fun masks => ?_⟩
      rw [ofTerm, means, List.map_cons]
    · cases read
  | case4 rest ih | case5 rest ih | case6 rest ih =>
    obtain ⟨d, others, read, -, rfl⟩ := List.forall₂_cons_left_iff.1 each
    cases read
  | case7 c rest notLast escapesNone noText noChar noAnchor ih =>
    obtain ⟨d, others, read, later, rfl⟩ := List.forall₂_cons_left_iff.1 each
    obtain ⟨spelled, means⟩ := ih later
    cases read
    have noEscape := Quoted.ne_backslash notLast escapesNone
    refine ⟨?_, fun masks => ?_⟩
    · rw [Quoted.unescape_cons rest noEscape, spelled]
    · rw [ofTerm_cons masks rest noEscape noText noChar, means, List.map_cons]

end Wildcard

/-! ## Words -/

namespace SearchClause

/-- The words of the term, which spaces divide, without their escapes; a term without any counts as
one empty word. -/
def words (search : SearchClause) : List String :=
  match (search.term.toList.splitOn ' ').filter (!·.isEmpty) with
  | [] => [""]
  | words => words.map fun word => String.ofList (Quoted.unescape word)

end SearchClause

namespace Glyph

theorem mem_stretches {glyph : Glyph} {glyphs : List Glyph} (member : glyph ∈ glyphs)
    (noSpace : glyph.isSpace = false) : ∃ stretch ∈ stretches glyphs, glyph ∈ stretch := by
  induction glyphs with
  | nil => cases member
  | cons first rest ih =>
    cases space : first.isSpace with
    | true =>
      rcases List.mem_cons.1 member with rfl | behind
      · rw [noSpace] at space
        cases space
      · obtain ⟨stretch, among, inside⟩ := ih behind
        rw [stretches, if_pos space]
        exact ⟨stretch, List.mem_cons_of_mem _ among, inside⟩
    | false =>
      rw [stretches_cons space]
      obtain ⟨head, others, split⟩ := List.exists_cons_of_ne_nil (stretches_ne_nil rest)
      rw [split, List.modifyHead_cons]
      rcases List.mem_cons.1 member with rfl | behind
      · exact ⟨_, List.mem_cons_self, List.mem_cons_self⟩
      · obtain ⟨stretch, among, inside⟩ := ih behind
        rw [split] at among
        rcases List.mem_cons.1 among with rfl | later
        · exact ⟨_, List.mem_cons_self, List.mem_cons_of_mem _ inside⟩
        · exact ⟨stretch, List.mem_cons_of_mem _ later, inside⟩

theorem mem_words {glyph : Glyph} {glyphs : List Glyph} (member : glyph ∈ glyphs)
    (noSpace : glyph.isSpace = false) : ∃ word ∈ words glyphs, glyph ∈ word := by
  obtain ⟨stretch, among, inside⟩ := mem_stretches member noSpace
  have kept : stretch ∈ (stretches glyphs).filter (!·.isEmpty) := by
    rw [List.mem_filter]
    exact ⟨among, by simp [List.ne_nil_of_mem inside]⟩
  refine ⟨stretch, ?_, inside⟩
  unfold words
  split
  · next nothing =>
    rw [nothing] at kept
    cases kept
  · next split => rwa [split] at kept

theorem ofChars_plain {c : Char} (rest : List Char) (noEscape : c ≠ '\\') (noText : c ≠ '*')
    (noChar : c ≠ '?') (noAnchor : c ≠ '^') : ofChars (c :: rest) = .plain c :: ofChars rest := by
  rw [ofChars] <;> simp_all

theorem splitOn_cons {c : Char} (noSpace : c ≠ ' ') (rest : List Char) :
    (c :: rest).splitOn ' ' = (rest.splitOn ' ').modifyHead (c :: ·) := by
  rw [List.splitOn, List.splitOnP_cons_eq_if_modifyHead, if_neg (by simpa using noSpace)]
  rfl

theorem splitOn_space (rest : List Char) : (' ' :: rest).splitOn ' ' = [] :: rest.splitOn ' ' := by
  rw [List.splitOn, List.splitOnP_cons_eq_if_modifyHead, if_pos (by simp)]
  rfl

/-- Where no space is escaped, the stretches of the glyphs are those of the text. -/
theorem stretches_ofChars {term : List Char} (good : .badEscape ∉ ofChars term) :
    stretches (ofChars term) = (term.splitOn ' ').map ofChars := by
  have grow (glyph : Glyph) (add : List Char → List Char) (pieces : List (List Char))
      (one : ∀ piece, ofChars (add piece) = glyph :: ofChars piece) :
      (pieces.map ofChars).modifyHead (glyph :: ·) = (pieces.modifyHead add).map ofChars := by
    cases pieces with
    | nil => rfl
    | cons piece pieces =>
      rw [List.map_cons, List.modifyHead_cons, List.modifyHead_cons, List.map_cons, one]
  fun_induction ofChars term with
  | case1 => rfl
  | case2 => rfl
  | case3 c rest ih =>
    cases escapable : isEscapable c with
    | false => simp [escapable] at good
    | true =>
      have noSpace : c ≠ ' ' := by
        rintro rfl
        cases escapable
      have later : .badEscape ∉ ofChars rest := fun bad => good (List.mem_cons_of_mem _ bad)
      rw [if_pos rfl, stretches_cons rfl, ih later, splitOn_cons (by decide),
        splitOn_cons noSpace, List.modifyHead_modifyHead]
      exact grow _ _ _ fun piece => by rw [Function.comp_apply, ofChars, if_pos escapable]
  | case4 rest ih | case5 rest ih | case6 rest ih =>
    have later : .badEscape ∉ ofChars rest := fun bad => good (List.mem_cons_of_mem _ bad)
    rw [stretches_cons rfl, ih later, splitOn_cons (by decide)]
    exact grow _ _ _ fun piece => by rw [ofChars]
  | case7 c rest notLast escapesNone noText noChar noAnchor ih =>
    have later : .badEscape ∉ ofChars rest := fun bad => good (List.mem_cons_of_mem _ bad)
    by_cases space : c = ' '
    · subst space
      have isSpace : (plain ' ').isSpace = true := rfl
      rw [stretches, if_pos isSpace, ih later, splitOn_space, List.map_cons, ofChars]
    · have noSpace : (plain c).isSpace = false := by simpa [isSpace] using space
      have noEscape := Quoted.ne_backslash notLast escapesNone
      rw [stretches_cons noSpace, ih later, splitOn_cons space]
      exact grow _ _ _ fun piece => ofChars_plain piece noEscape noText noChar noAnchor

theorem isEmpty_ofChars (term : List Char) : (ofChars term).isEmpty = term.isEmpty := by
  fun_cases ofChars term <;> rfl

end Glyph

/-- The words of a term in which nothing is masked are the words of the clause. -/
theorem Masking.exactWords_eq {search : SearchClause} {words : List String}
    (read : exactWords search.term = .ok words) : words = search.words := by
  have good : .badEscape ∉ Glyph.ofChars search.term.toList := by
    intro bad
    obtain ⟨word, among, inside⟩ := Glyph.mem_words bad rfl
    obtain ⟨text, each⟩ := exists_ok_of_mapM read word among
    obtain ⟨_, each, -⟩ := map_eq_ok.1 each
    obtain ⟨_, refused⟩ := exists_ok_of_mapM each _ inside
    cases refused
  have spelled (piece : List Char) (text : String)
      (made : exactText (Glyph.ofChars piece) = .ok text) :
      text = String.ofList (Quoted.unescape piece) := by
    obtain ⟨value, each, rfl⟩ := map_eq_ok.1 made
    rw [(Wildcard.ofTerm_of_mapM each).1]
  have nonempty : (fun word : List Glyph => !word.isEmpty) ∘ Glyph.ofChars =
      (fun word : List Char => !word.isEmpty) :=
    funext fun piece => congrArg not (Glyph.isEmpty_ofChars piece)
  rw [exactWords, Glyph.ofTerm, Glyph.words, Glyph.stretches_ofChars good, List.filter_map,
    nonempty] at read
  unfold SearchClause.words
  cases kept : (search.term.toList.splitOn ' ').filter (!·.isEmpty) with
  | nil =>
    rw [kept] at read
    cases read
    rfl
  | cons piece pieces =>
    rw [kept] at read
    change List.mapM exactText ((piece :: pieces).map Glyph.ofChars) = .ok words at read
    rw [List.mapM_map] at read
    exact eq_map_of_mapM read spelled

end ContextualQuery
