import ContextualQuery.Proofs.Derivations
import ContextualQuery.Proofs.Lexing
import ContextualQuery.Query.Parse

/-!
# Stray bytes

A byte at which no character begins is a token of its own, and no rule of the grammar takes that
token, so the input is rejected.  The one exception is a byte that a backslash takes up like the
character that it escapes: it leaves no trace, be it in a bare word or in a quoted string.
-/

namespace ContextualQuery

open Utf8 (Piece)

/-! ## Tokens of stray bytes -/

/-- Whether a stray byte stands where no backslash takes it up. -/
def hasLooseStray : List Piece → Bool
  | [] => false
  | .stray :: _ => true
  | .char '\\' :: _ :: rest => hasLooseStray rest
  | .char _ :: rest => hasLooseStray rest

theorem hasLooseStray_char {c : Char} (plain : c ≠ '\\') (rest : List Piece) :
    hasLooseStray (.char c :: rest) = hasLooseStray rest := by
  rw [hasLooseStray]
  exact fun _ _ _ backslash => plain backslash

theorem stray_mem_of_loose {input : List Piece} (loose : hasLooseStray input = true) :
    .stray ∈ input := by
  fun_induction hasLooseStray input with
  | case1 => cases loose
  | case2 => exact List.mem_cons_self
  | case3 _ _ ih => exact List.mem_cons_of_mem _ (List.mem_cons_of_mem _ (ih loose))
  | case4 _ _ _ ih => exact List.mem_cons_of_mem _ (ih loose)

/-- Exactly the bytes that no text has show a stray byte when they are taken apart. -/
theorem Utf8.stray_mem_decode {input : List UInt8} :
    .stray ∈ decode input ↔ ∀ text, input ≠ encode text := by
  constructor
  · rintro member text rfl
    rw [decode_encode, List.mem_map] at member
    obtain ⟨c, -, isChar⟩ := member
    cases isChar
  · intro noText
    fun_induction decode input with
    | case1 => exact absurd rfl (noText "")
    | case2 byte rest value decoded ih =>
      have start := eq_encodeChar_append decoded
      obtain ⟨size, sizeEq⟩ :=
        Nat.exists_eq_add_one_of_ne_zero (Nat.pos_iff_ne_zero.1 value.utf8Size_pos)
      rw [sizeEq, List.drop_succ_cons] at start
      rw [sizeEq, Nat.add_sub_cancel] at ih ⊢
      refine List.mem_cons_of_mem _ (ih fun text same => ?_)
      refine noText (String.ofList (value :: text.toList)) ?_
      rw [start, same, encode, encode, String.toList_ofList, List.flatMap_cons]
    | case3 => exact List.mem_cons_self

theorem hasLooseStray_dropWhile (input : List Piece) :
    hasLooseStray (input.dropWhile Token.isBlank) = hasLooseStray input := by
  induction input with
  | nil => rfl
  | cons piece rest ih =>
    rw [List.dropWhile_cons]
    split
    · next blank =>
      cases piece with
      | stray => cases blank
      | char c =>
        have plain : c ≠ '\\' := by
          rintro rfl
          exact absurd blank (by decide)
        rw [ih, hasLooseStray_char plain]
    · rfl

namespace Token

theorem ne_malformed_of_term? {token : Token} {text : String} (named : token.term? = some text) :
    token ≠ .malformed := by
  rintro rfl
  cases named

/-- A word takes up a stray byte only together with the backslash in front of it. -/
theorem hasLooseStray_run (ends : Char → Bool) (input : List Piece) :
    hasLooseStray (run ends input).rest = hasLooseStray input := by
  fun_induction run ends input with
  | case1 | case2 | case3 | case4 => rfl
  | case5 _ _ _ ih => exact ih
  | case6 _ _ _ _ ih => exact ih
  | case7 _ _ _ plain _ ih => exact ih.trans (hasLooseStray_char plain _).symm

theorem hasLooseStray_sign? {first : Char} {rest behind : List Piece} {token : Token}
    (found : sign? first rest = some (token, behind)) :
    token ≠ .malformed ∧ hasLooseStray behind = hasLooseStray (.char first :: rest) := by
  revert found
  unfold sign?
  split <;> rintro ⟨⟩ <;> simp [hasLooseStray]

theorem hasLooseStray_afterQuote (input : List Piece) :
    hasLooseStray (afterQuote input) = hasLooseStray input := by
  unfold afterQuote
  split
  · exact (hasLooseStray_char (by decide) _).symm
  · rfl

/-- A token that begins with a character is sound, and takes up no loose stray byte. -/
theorem hasLooseStray_starting (first : Char) (rest : List Piece) :
    (starting first rest).1 ≠ .malformed ∧
      hasLooseStray (starting first rest).2 = hasLooseStray (.char first :: rest) := by
  unfold starting
  split
  · next found => exact hasLooseStray_sign? found
  · split
    · next quote =>
      refine ⟨nofun, ?_⟩
      rw [string, hasLooseStray_afterQuote, hasLooseStray_run, quote,
        hasLooseStray_char (by decide)]
    · exact ⟨ne_malformed_of_term? (term?_ofWord _ _), hasLooseStray_run _ _⟩

/-- The first token is a loose stray byte, or no loose stray byte is taken up with it. -/
theorem hasLooseStray_next? {input rest : List Piece} {token : Token}
    (taken : next? input = some (token, rest)) :
    (token = .malformed ∧ hasLooseStray input = true) ∨
      (token ≠ .malformed ∧ hasLooseStray rest = hasLooseStray input) := by
  rw [← hasLooseStray_dropWhile input]
  unfold next? at taken
  split at taken
  · cases taken
  · next stray =>
    cases taken
    rw [stray]
    exact .inl ⟨rfl, rfl⟩
  · next first behind char =>
    have same : starting first behind = (token, rest) := Option.some.inj taken
    have sound := hasLooseStray_starting first behind
    rw [same, ← char] at sound
    exact .inr sound

theorem hasLooseStray_of_next?_eq_none {input : List Piece} (none_left : next? input = none) :
    hasLooseStray input = false := by
  rw [← hasLooseStray_dropWhile input]
  unfold next? at none_left
  split at none_left
  · next blank =>
    rw [blank]
    rfl
  · cases none_left
  · cases none_left

/-- The tokens of an input show exactly whether it has a loose stray byte. -/
theorem malformed_mem_scan (input : List Piece) :
    .malformed ∈ (Lexeme.scan input).map Lexeme.token ↔ hasLooseStray input = true := by
  fun_induction Lexeme.scan input with
  | case1 input none_left => simp [hasLooseStray_of_next?_eq_none none_left]
  | case2 input token rest taken ih =>
    rw [List.map_cons, List.mem_cons, ih]
    obtain ⟨rfl, loose⟩ | ⟨sound, same⟩ := hasLooseStray_next? taken
    · simp [loose]
    · simp [sound.symm, same]

end Token

namespace Grammar

variable {settings : Settings} {rule : Rule} {depth : Nat} {scope : Scope}
variable {input rest : List Token} {value : Clause}

/-! ## What no rule takes -/

theorem malformed_behind_sound {token : Token} (member : .malformed ∈ token :: rest)
    (sound : token ≠ .malformed) : .malformed ∈ rest :=
  List.mem_of_ne_of_mem sound.symm member

theorem malformed_behind_term {token : Token} {text : String} (named : token.term? = some text)
    (member : .malformed ∈ token :: rest) : .malformed ∈ rest :=
  malformed_behind_sound member (Token.ne_malformed_of_term? named)

theorem malformed_behind_modifiers {values : List Modifier}
    (read : modifiers input = .ok (values, rest)) (member : .malformed ∈ input) :
    .malformed ∈ rest := by
  fun_induction modifiers input generalizing values with
  | case1 | case2 | case3 | case4 => cases read
  | case5 _ _ named _ _ _ _ valued ih =>
    obtain ⟨others, readOthers, -⟩ := cons_eq_ok.1 read
    have behindName := malformed_behind_term named (malformed_behind_sound member (by simp))
    exact ih readOthers (malformed_behind_term valued (malformed_behind_sound behindName (by simp)))
  | case6 _ _ named _ _ ih =>
    obtain ⟨others, readOthers, -⟩ := cons_eq_ok.1 read
    exact ih readOthers (malformed_behind_term named (malformed_behind_sound member (by simp)))
  | case7 =>
    cases read
    exact member

theorem malformed_behind_declarations {inner : Scope} {prefixes : List Prefix}
    (read : declarations scope input = .ok (prefixes, inner, rest))
    (member : .malformed ∈ input) : .malformed ∈ rest := by
  fun_induction declarations scope input generalizing prefixes with
  | case1 | case2 | case3 | case4 => cases read
  | case5 _ _ _ named _ _ _ located ih =>
    obtain ⟨⟨others, within, behind⟩, readOthers, done⟩ := bind_eq_ok.1 read
    cases done
    have behindName := malformed_behind_term named (malformed_behind_sound member (by simp))
    exact ih readOthers (malformed_behind_term located (malformed_behind_sound behindName (by simp)))
  | case6 _ _ _ located _ _ ih =>
    obtain ⟨⟨others, within, behind⟩, readOthers, done⟩ := bind_eq_ok.1 read
    cases done
    exact ih readOthers (malformed_behind_term located (malformed_behind_sound member (by simp)))
  | case7 =>
    cases read
    exact member

theorem malformed_behind_relation? {relation : String}
    (related : relation? scope input = some (relation, rest)) (member : .malformed ∈ input) :
    .malformed ∈ rest := by
  unfold relation? at related
  split at related
  · cases related
    exact malformed_behind_sound member (by simp)
  · cases related
    exact malformed_behind_sound member (by simp)
  · split at related
    · cases related
      exact malformed_behind_sound member (by simp)
    · cases related
  · split at related
    · cases related
      exact malformed_behind_sound member (by simp)
    · cases related
  · cases related

theorem malformed_behind_continuations (member : .malformed ∈ input) :
    .malformed ∈ (continuations input).2 := by
  fun_induction continuations input with
  | case1 => exact member
  | case2 token rest text taken others behind split ih =>
    rw [split] at ih
    refine ih (malformed_behind_sound member ?_)
    rintro rfl
    cases taken
  | case3 => exact member

theorem malformed_behind_bareTerm {strict : Bool} {first term : String} {start behind : List Token}
    (continued : bareTerm strict first start input = .ok (term, behind))
    (member : .malformed ∈ input) : .malformed ∈ behind := by
  unfold bareTerm at continued
  simp only at continued
  split at continued
  · cases continued
  · cases continued
    exact malformed_behind_continuations member

theorem malformed_behind_operator? {operator : Operator}
    (joined : operator? input = some (operator, rest)) (member : .malformed ∈ input) :
    .malformed ∈ rest := by
  cases input with
  | nil => cases joined
  | cons token behind =>
    obtain ⟨_, isOperator, same⟩ := Option.map_eq_some_iff.1 joined
    cases same
    refine malformed_behind_sound member ?_
    rintro rfl
    cases isOperator

/-- No rule takes a token that is malformed. -/
theorem Derives.malformed_behind (derives : Derives settings rule depth scope input value rest)
    (member : .malformed ∈ input) : .malformed ∈ rest := by
  induction derives with
  | group declared _ _ operand others =>
    exact others (operand (malformed_behind_declarations declared member))
  | brackets _ inside =>
    exact malformed_behind_sound (inside (malformed_behind_sound member (by simp))) (by simp)
  | relation named related modified _ operand =>
    have behindIndex := malformed_behind_term named member
    exact operand (malformed_behind_modifiers modified
      (malformed_behind_relation? related behindIndex))
  | term named _ continued =>
    exact malformed_behind_bareTerm continued (malformed_behind_term named member)
  | done => exact member
  | link joined modified _ _ operand others =>
    exact others (operand (malformed_behind_modifiers modified
      (malformed_behind_operator? joined member)))

theorem malformed_behind_sortKeys {keys : List SortKey}
    (read : sortKeys input = .ok (keys, rest)) (member : .malformed ∈ input) :
    .malformed ∈ rest := by
  fun_induction sortKeys input generalizing keys with
  | case1 | case2 =>
    cases read
    exact member
  | case3 => cases read
  | case4 _ _ _ named _ _ modified ih =>
    obtain ⟨others, readOthers, -⟩ := cons_eq_ok.1 read
    exact ih readOthers (malformed_behind_modifiers modified (malformed_behind_term named member))

theorem malformed_behind_sorting {keys : List SortKey} (read : sorting input = .ok (keys, rest))
    (member : .malformed ∈ input) : .malformed ∈ rest := by
  unfold sorting at read
  split at read
  · exact malformed_behind_sortKeys read (malformed_behind_sound member (by simp))
  · cases read
    exact member

end Grammar

namespace Query

/-- Tokens one of which is malformed spell no query. -/
theorem malformed_not_mem_of_ofTokens {settings : Settings} {tokens : List Token} {query : Query}
    (spelled : ofTokens settings tokens = .ok query) : .malformed ∉ tokens := by
  intro member
  obtain ⟨rest, derives, sorted⟩ := ofTokens_eq_ok.1 spelled
  have behindAll := Grammar.malformed_behind_sorting sorted (derives.malformed_behind member)
  cases behindAll

/-- An input with a stray byte that no backslash takes up is no text, and it is rejected, wherever
the byte stands and whatever the settings are. -/
theorem parseBytes_of_looseStray (settings : Settings) {input : List UInt8}
    (loose : hasLooseStray (Utf8.decode input) = true) :
    (∀ text, input ≠ Utf8.encode text) ∧
      ∃ error, parseBytes settings input = .error error := by
  refine ⟨Utf8.stray_mem_decode.1 (stray_mem_of_loose loose), ?_⟩
  cases read : parseBytes settings input with
  | error error => exact ⟨error, rfl⟩
  | ok query =>
    have sound := malformed_not_mem_of_ofTokens (mapError_eq_ok.1 read)
    exact absurd ((Token.malformed_mem_scan _).2 loose) sound

/-- A stray byte between the quotes of a string, behind one that a backslash takes up. -/
theorem parseBytes_of_looseStray_quoted :
    let input : List UInt8 := [0x61, 0x5c, 0xff, 0x3d, 0x22, 0x62, 0xc0, 0x22]
    hasLooseStray (Utf8.decode input) = true ∧ (∀ text, input ≠ Utf8.encode text) ∧
      ∃ error, parseBytes {} input = .error error := by
  intro input
  have loose : hasLooseStray (Utf8.decode input) = true := by decide +kernel
  exact ⟨loose, parseBytes_of_looseStray {} loose⟩

/-- A stray byte behind a backslash goes unnoticed, so that not only text is accepted. -/
theorem exists_unnoticed_stray :
    let input : List UInt8 := [0x61, 0x5c, 0xff]
    (∀ text, input ≠ Utf8.encode text) ∧
      parseBytes {} input = .ok { clause := .search [] { term := "a\\" } } := by
  intro input
  have stray : .stray ∈ Utf8.decode input := by decide +kernel
  exact ⟨Utf8.stray_mem_decode.1 stray, by decide +kernel⟩

end Query
end ContextualQuery
