import ContextualQuery.Proofs.NormalForm
import ContextualQuery.Query.Parse

/-!
# Written words

A value written as a word comes back as one token, whatever ends a word behind it.  The token's text
stands for what the value stands for and is written in the same way; it is the value itself unless a
backslash had to be added.  That is the case for a quote behind an even number of backslashes, none
of which escapes it, and for an odd number of backslashes at the end.
-/

namespace ContextualQuery
namespace Quoted

/-- The number of backslashes that characters end in. -/
def trailingBackslashes (chars : List Char) : Nat :=
  (chars.reverse.takeWhile (· == '\\')).length

/-- Whether a quote stands behind an even number of backslashes, so that none of them escapes it. -/
def HasOpenQuote (value : List Char) : Prop :=
  ∃ front rest, value = front ++ '"' :: rest ∧ trailingBackslashes front % 2 = 0

/-- Whether the last backslash of those that a value ends in escapes nothing. -/
def Dangles (value : List Char) : Prop := trailingBackslashes value % 2 = 1

@[simp]
theorem trailingBackslashes_nil : trailingBackslashes [] = 0 := rfl

/-- Backslashes at the end are counted from the last character that is none. -/
theorem trailingBackslashes_cons {c : Char} (noBackslash : c ≠ '\\') (rest : List Char) :
    trailingBackslashes (c :: rest) = trailingBackslashes rest := by
  rw [trailingBackslashes, List.reverse_cons, List.takeWhile_append]
  split
  · next whole =>
    have stops : [c].takeWhile (· == '\\') = [] := by simp [noBackslash]
    rw [stops, List.append_nil, trailingBackslashes, whole]
  · rfl

/-- A backslash and the character that it escapes change nothing about what is escaped behind: the
pair counts only where all behind it is backslashes, and then as two or not at all. -/
theorem trailingBackslashes_escape (c : Char) (rest : List Char) :
    trailingBackslashes ('\\' :: c :: rest) % 2 = trailingBackslashes rest % 2 := by
  have pair : ('\\' :: c :: rest).reverse = rest.reverse ++ [c, '\\'] := by simp
  rw [trailingBackslashes, pair, List.takeWhile_append]
  split
  · next whole =>
    rw [List.length_append, trailingBackslashes, whole]
    by_cases backslash : c = '\\' <;> simp [backslash]
  · rfl

theorem not_hasOpenQuote_nil : ¬ HasOpenQuote [] := by
  rintro ⟨front, rest, split, -⟩
  simp at split

theorem hasOpenQuote_quote (rest : List Char) : HasOpenQuote ('"' :: rest) :=
  ⟨[], rest, rfl, rfl⟩

/-- A quote behind the first character is open in the whole value if it is in the rest, unless the
first character has a part in escaping it. -/
theorem hasOpenQuote_cons {c : Char} {rest : List Char} (noBackslash : c ≠ '\\')
    (noQuote : c ≠ '"') : HasOpenQuote (c :: rest) ↔ HasOpenQuote rest := by
  constructor
  · rintro ⟨front, behind, split, even⟩
    rcases List.cons_eq_append_iff.1 split with ⟨-, atOnce⟩ | ⟨shorter, rfl, later⟩
    · exact absurd (List.cons.inj atOnce).1.symm noQuote
    · exact ⟨shorter, behind, later, trailingBackslashes_cons noBackslash shorter ▸ even⟩
  · rintro ⟨front, behind, rfl, even⟩
    exact ⟨c :: front, behind, rfl, (trailingBackslashes_cons noBackslash front).symm ▸ even⟩

theorem hasOpenQuote_escape {c : Char} {rest : List Char} :
    HasOpenQuote ('\\' :: c :: rest) ↔ HasOpenQuote rest := by
  constructor
  · rintro ⟨front, behind, split, even⟩
    rcases List.cons_eq_append_iff.1 split with ⟨-, atOnce⟩ | ⟨afterOne, rfl, later⟩
    · cases atOnce
    · rcases List.cons_eq_append_iff.1 later with ⟨rfl, -⟩ | ⟨afterTwo, rfl, last⟩
      · cases even
      · exact ⟨afterTwo, behind, last, trailingBackslashes_escape c afterTwo ▸ even⟩
  · rintro ⟨front, behind, rfl, even⟩
    exact ⟨'\\' :: c :: front, behind, rfl, (trailingBackslashes_escape c front).symm ▸ even⟩

/-- Guarding leaves exactly the values as they are in which every quote is escaped and every
backslash at the end has a partner. -/
theorem guardQuotes_eq_self_iff {value : List Char} :
    guardQuotes value = value ↔ ¬ HasOpenQuote value ∧ ¬ Dangles value := by
  fun_induction guardQuotes value with
  | case1 => simp [not_hasOpenQuote_nil, Dangles]
  | case2 =>
    have dangles : Dangles ['\\'] := rfl
    simp [dangles]
  | case3 c rest ih =>
    rw [hasOpenQuote_escape, Dangles, trailingBackslashes_escape, ← Dangles, ← ih]
    simp
  | case4 rest ih =>
    have open_ := hasOpenQuote_quote rest
    simp [open_]
  | case5 c rest notLast escapesNone noQuote ih =>
    have plain := ne_backslash notLast escapesNone
    rw [hasOpenQuote_cons plain noQuote, Dangles, trailingBackslashes_cons plain, ← Dangles, ← ih]
    simp

end Quoted

namespace Lexeme

/-- The tokens of a text are scanned from its characters. -/
theorem tokens_encode (text : String) :
    (ofBytes (Utf8.encode text)).map token = Token.scan text.toList := by
  rw [ofBytes, Utf8.decode_encode, Token.scan]

/-- A value written in front of nothing, or of a character that ends a word, is read as one token,
and the rest as on its own.  The token's text stands for the same and is written in the same way, and
it is the value exactly if every quote in that is escaped and no backslash dangles. -/
theorem tokens_quote (value : String) {rest : String} (breaks : Breaks rest.toList) :
    ∃ token : Token,
      (ofBytes (Utf8.encode (quote value ++ rest))).map Lexeme.token =
        token :: (ofBytes (Utf8.encode rest)).map Lexeme.token ∧
      token.isTerm = true ∧
      Quoted.unescape token.text.toList = Quoted.unescape value.toList ∧
      quote token.text = quote value ∧
      (token.text = value ↔
        ¬ Quoted.HasOpenQuote value.toList ∧ ¬ Quoted.Dangles value.toList) := by
  have named : (Token.ofValue value).term? = some (reread value) := Token.term?_ofValue value
  have kept : (Token.ofValue value).text = reread value := Token.text_of_term? named
  refine ⟨.ofValue value, ?_, (Token.isTerm_iff _).2 ⟨_, named⟩, ?_, ?_, ?_⟩
  · rw [tokens_encode, tokens_encode, String.toList_append, Token.scan_value value breaks]
  · rw [kept, toList_reread, Quoted.unescape_guardQuotes]
  · rw [kept, quote_reread]
  · rw [kept, ← Quoted.guardQuotes_eq_self_iff, ← toList_reread, String.toList_inj]

/-- A value with an open quote and a dangling backslash, in front of a sign. -/
theorem tokens_quote_open :
    let value := "a\"\\\\\\"
    Breaks "=\"".toList ∧
    ∃ token : Token,
      (ofBytes (Utf8.encode (quote value ++ "=\""))).map Lexeme.token =
        token :: (ofBytes (Utf8.encode "=\"")).map Lexeme.token ∧
      token.isTerm = true ∧
      Quoted.unescape token.text.toList = Quoted.unescape value.toList ∧
      quote token.text = quote value ∧
      (token.text = value ↔
        ¬ Quoted.HasOpenQuote value.toList ∧ ¬ Quoted.Dangles value.toList) := by
  intro value
  have breaks : Breaks "=\"".toList := breaks_cons rfl
  exact ⟨breaks, tokens_quote value breaks⟩

end Lexeme
end ContextualQuery
