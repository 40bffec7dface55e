import ContextualQuery.Proofs.Rendering
import Mathlib.Algebra.Field.Rat
import Mathlib.Data.List.TakeWhile
import Mathlib.Tactic.FieldSimp
import Mathlib.Tactic.Ring

/-!
# Numerals

A plain numeral is a sign, digits with at most one point among them, and underscores, which do not
count.  One whose digits fit a decimal is read without rounding.  Every decimal is written as such a
numeral and so is read back from its text, all but the sign of a zero, which no plain numeral has.
-/

namespace ContextualQuery
namespace Decimal

/-- The rational number that a decimal stands for. -/
def toRat (number : Decimal) : ℚ :=
  (if number.negative then -1 else 1) * (number.mantissa / 10 ^ number.scale)

/-- The number without a sign in front of a zero. -/
def unsignedZero (number : Decimal) : Decimal :=
  { number with negative := number.negative && number.mantissa != 0 }

/-! ## Plain numerals -/

def digits (text : List Char) : List Char := text.filter Char.isDigit

/-- The digits in front of the point. -/
def wholes (text : List Char) : List Char := digits (text.takeWhile (· != '.'))

/-- The digits behind the point. -/
def decimals (text : List Char) : List Char := digits (text.dropWhile (· != '.'))

/-- Whether a text is a sign in front of digits, underscores and at most one point. -/
structure IsPlain (text : List Char) : Prop where
  characters : ∀ c ∈ (signed text).2, c.isDigit = true ∨ c = '_' ∨ c = '.'
  onePoint : (signed text).2.count '.' ≤ 1

/-- The rational number that a plain numeral denotes. -/
def denoted (text : List Char) : ℚ :=
  (if (signed text).1 then -1 else 1) *
    (Nat.ofDigitChars 10 (wholes text) 0 +
      Nat.ofDigitChars 10 (decimals text) 0 / 10 ^ (decimals text).length)

instance (text : List Char) : Decidable (IsPlain text) :=
  decidable_of_iff (((signed text).2.all fun c => c.isDigit || c == '_' || c == '.') = true ∧
    (signed text).2.count '.' ≤ 1) <| by
  simp only [List.all_eq_true, Bool.or_eq_true, beq_iff_eq, or_assoc]
  exact ⟨fun ⟨all, once⟩ => ⟨all, once⟩, fun ⟨all, once⟩ => ⟨all, once⟩⟩

variable {text : List Char} {mantissa scale : Nat} {started : Bool}

@[simp]
theorem digits_nil : digits [] = [] := rfl

theorem digits_cons {c : Char} (isDigit : c.isDigit = true) (text : List Char) :
    digits (c :: text) = c :: digits text := List.filter_cons_of_pos isDigit

theorem digits_cons_other {c : Char} (noDigit : c.isDigit = false) (text : List Char) :
    digits (c :: text) = digits text := List.filter_cons_of_neg (by simp [noDigit])

theorem digits_eq_self (each : ∀ c ∈ text, c.isDigit = true) : digits text = text :=
  List.filter_eq_self.2 each

theorem digits_append (front behind : List Char) :
    digits (front ++ behind) = digits front ++ digits behind := List.filter_append ..

theorem wholes_append_decimals (text : List Char) : wholes text ++ decimals text = digits text := by
  rw [wholes, decimals, ← digits_append, List.takeWhile_append_dropWhile]

theorem ne_point {c : Char} (isDigit : c.isDigit = true) : c ≠ '.' := by
  rintro rfl
  cases isDigit

theorem decimals_cons {c : Char} (noPoint : c ≠ '.') (text : List Char) :
    decimals (c :: text) = decimals text := by
  rw [decimals, List.dropWhile_cons_of_pos (by simpa using noPoint), decimals]

theorem decimals_point (text : List Char) : decimals ('.' :: text) = digits text := by
  rw [decimals, List.dropWhile_cons_of_neg (by simp), digits_cons_other (by decide)]

theorem decimals_append {front : List Char} (each : ∀ c ∈ front, c.isDigit = true)
    (text : List Char) : decimals (front ++ text) = decimals text := by
  induction front with
  | nil => rfl
  | cons c front ih =>
    rw [List.forall_mem_cons] at each
    rw [List.cons_append, decimals_cons (ne_point each.1), ih each.2]

/-- Further digits make a number no smaller. -/
theorem le_ofDigitChars (digits : List Char) (value : Nat) :
    value ≤ Nat.ofDigitChars 10 digits value := by
  rw [Nat.ofDigitChars_eq_ofDigitChars_zero]
  exact (Nat.le_mul_of_pos_left value (Nat.pow_pos (by decide))).trans (Nat.le_add_right _ _)

theorem sub_zero_le_nine {c : Char} (isDigit : c.isDigit = true) : c.toNat - '0'.toNat ≤ 9 := by
  rw [Char.isDigit, Bool.and_eq_true, decide_eq_true_eq, decide_eq_true_eq] at isDigit
  have atMost : c.toNat ≤ '9'.toNat := isDigit.2
  have nine : '9'.toNat = '0'.toNat + 9 := rfl
  omega

theorem ofDigitChars_cons (c : Char) (text : List Char) (value : Nat) :
    Nat.ofDigitChars 10 (c :: text) value =
      Nat.ofDigitChars 10 text (value * 10 + (c.toNat - '0'.toNat)) := by
  rw [Nat.ofDigitChars_cons, Nat.mul_comm]

/-- So many digits make a number below that power of ten. -/
theorem ofDigitChars_lt (each : ∀ c ∈ text, c.isDigit = true) (value : Nat) :
    Nat.ofDigitChars 10 text value < (value + 1) * 10 ^ text.length := by
  induction text generalizing value with
  | nil => simp
  | cons c text ih =>
    rw [List.forall_mem_cons] at each
    have digit := sub_zero_le_nine each.1
    calc
      Nat.ofDigitChars 10 (c :: text) value
          < (value * 10 + (c.toNat - '0'.toNat) + 1) * 10 ^ text.length := by
        rw [ofDigitChars_cons]
        exact ih each.2 _
      _ ≤ (value + 1) * 10 * 10 ^ text.length := Nat.mul_le_mul_right _ (by omega)
      _ = (value + 1) * 10 ^ (c :: text).length := by rw [List.length_cons, pow_succ]; ring

theorem digit?_of_isDigit {c : Char} (isDigit : c.isDigit = true) :
    digit? c = some (c.toNat - '0'.toNat) := if_pos isDigit

/-! ## Reading without rounding -/

theorem onlyDigits_of_plain (plain : ∀ c ∈ text, c.isDigit = true ∨ c = '_') :
    onlyDigits text = true := by
  rw [onlyDigits, List.all_eq_true]
  intro c member
  rcases plain c member with isDigit | rfl
  · rw [isDigit, Bool.true_or]
  · rfl

/-- A zero at the rounding place changes nothing. -/
theorem round_zero (plain : ∀ c ∈ text, c.isDigit = true ∨ c = '_') :
    round mantissa scale 0 text = some (mantissa, scale) := by
  rw [round, onlyDigits_of_plain plain]
  rfl

theorem underscore (mantissa scale : Nat) (text : List Char) :
    fraction mantissa scale true ('_' :: text) =
      if underscoreRounds mantissa scale then round mantissa scale 0 text
      else fraction mantissa scale true text := rfl

/-- Digits behind the point are read as they are if all of them fit. -/
theorem fraction_eq (plain : ∀ c ∈ text, c.isDigit = true ∨ c = '_')
    (fits : Nat.ofDigitChars 10 (digits text) mantissa < mantissaLimit)
    (room : scale + (digits text).length ≤ maxScale) :
    fraction mantissa scale started text =
      if started || text.head?.any Char.isDigit then
        some (Nat.ofDigitChars 10 (digits text) mantissa, scale + (digits text).length)
      else none := by
  induction text generalizing mantissa scale started with
  | nil => cases started <;> rfl
  | cons c text ih =>
    rw [List.forall_mem_cons] at plain
    obtain ⟨isDigit | rfl, plain⟩ := plain
    · rw [digits_cons isDigit, ofDigitChars_cons] at fits ⊢
      rw [digits_cons isDigit, List.length_cons] at room
      have small := (le_ofDigitChars _ _).trans_lt fits
      have taken : (scale < maxScale && mantissa * 10 + (c.toNat - '0'.toNat) < mantissaLimit) =
          true := by
        rw [Bool.and_eq_true, decide_eq_true_eq, decide_eq_true_eq]
        exact ⟨by omega, small⟩
      rw [fraction, digit?_of_isDigit isDigit]
      simp only [taken, if_true]
      rw [ih plain fits (by omega), List.length_cons, Nat.add_assoc, Nat.add_comm 1]
      simp [isDigit]
    · rw [digits_cons_other (by decide)] at fits room ⊢
      cases started with
      | false => rfl
      | true =>
        rw [Bool.true_or, if_pos rfl]
        cases rounds : underscoreRounds mantissa scale with
        | true =>
          rw [underscoreRounds, Bool.and_eq_true, beq_iff_eq] at rounds
          have atEnd : digits text = [] := List.eq_nil_of_length_eq_zero (by omega)
          rw [underscore, if_pos (by rwa [underscoreRounds, Bool.and_eq_true, beq_iff_eq]), atEnd]
          exact round_zero plain
        | false =>
          rw [underscore, rounds, if_neg (by decide), ih plain fits room, Bool.true_or, if_pos rfl]

/-- Whether a digit comes first, perhaps behind the point. -/
def opens : List Char → Bool
  | '.' :: text => text.head?.any Char.isDigit
  | text => text.head?.any Char.isDigit

theorem opens_cons {c : Char} (noPoint : c ≠ '.') (text : List Char) :
    opens (c :: text) = c.isDigit := by
  unfold opens
  split
  · next same => exact absurd (List.cons.inj same).1 noPoint
  · rfl

/-- A numeral without its sign is read as it is if all its digits fit. -/
theorem whole_eq (plain : ∀ c ∈ text, c.isDigit = true ∨ c = '_' ∨ c = '.')
    (onePoint : text.count '.' ≤ 1)
    (fits : Nat.ofDigitChars 10 (digits text) mantissa < mantissaLimit)
    (room : (decimals text).length ≤ maxScale) :
    whole mantissa started text =
      if started || opens text then
        some (Nat.ofDigitChars 10 (digits text) mantissa, (decimals text).length)
      else none := by
  induction text generalizing mantissa started with
  | nil => cases started <;> rfl
  | cons c text ih =>
    rw [List.forall_mem_cons] at plain
    obtain ⟨isDigit | rfl | rfl, plain⟩ := plain
    · have noPoint := ne_point isDigit
      rw [List.count_cons_of_ne noPoint] at onePoint
      rw [digits_cons isDigit, ofDigitChars_cons] at fits ⊢
      rw [decimals_cons noPoint] at room ⊢
      rw [whole, digit?_of_isDigit isDigit]
      simp only
      rw [if_pos ((le_ofDigitChars _ _).trans_lt fits), ih plain onePoint fits room,
        opens_cons noPoint, isDigit]
      simp
    · rw [List.count_cons_of_ne (by decide)] at onePoint
      rw [digits_cons_other (by decide)] at fits ⊢
      rw [decimals_cons (by decide)] at room ⊢
      cases started with
      | false => rfl
      | true => exact ih plain onePoint fits room
    · rw [List.count_cons_self] at onePoint
      have noPoint : '.' ∉ text := List.count_eq_zero.1 (by omega)
      have behind : ∀ c ∈ text, c.isDigit = true ∨ c = '_' := by
        intro c member
        rcases plain c member with isDigit | underscore | rfl
        · exact .inl isDigit
        · exact .inr underscore
        · exact absurd member noPoint
      rw [digits_cons_other (by decide)] at fits ⊢
      rw [decimals_point] at room ⊢
      have shown : 0 + (digits text).length ≤ maxScale := (Nat.zero_add _).trans_le room
      rw [← Nat.zero_add (digits text).length]
      exact fraction_eq behind fits shown

theorem digits_signed (text : List Char) : digits (signed text).2 = digits text := by
  unfold signed
  split
  · exact (digits_cons_other (by decide) _).symm
  · exact (digits_cons_other (by decide) _).symm
  · rfl

theorem decimals_signed (text : List Char) : decimals (signed text).2 = decimals text := by
  unfold signed
  split
  · exact (decimals_cons (by decide) _).symm
  · exact (decimals_cons (by decide) _).symm
  · rfl

/-- A plain numeral is read as it is if all its digits fit; a zero has no sign then. -/
theorem ofPlain?_eq (plain : IsPlain text)
    (fits : Nat.ofDigitChars 10 (digits text) 0 < mantissaLimit)
    (room : (decimals text).length ≤ maxScale) :
    ofPlain? text =
      if opens (signed text).2 then
        some ⟨(signed text).1 && Nat.ofDigitChars 10 (digits text) 0 != 0, _, _, fits, room⟩
      else none := by
  have read : whole 0 false (signed text).2 =
      if opens (signed text).2 then
        some (Nat.ofDigitChars 10 (digits text) 0, (decimals text).length)
      else none := by
    rw [← digits_signed] at fits ⊢
    rw [← decimals_signed] at room ⊢
    exact whole_eq plain.characters plain.onePoint fits room
  unfold ofPlain?
  simp only [read]
  cases opens (signed text).2 with
  | false => rfl
  | true =>
    simp only [if_true, Option.bind_eq_bind, Option.bind_some]
    exact dif_pos ⟨fits, room⟩

/-! ## The text of a number -/

/-- The digits of a number in front of the point and behind it, which is left out if there are none
behind it. -/
theorem exists_magnitudeText (mantissa scale : Nat) : ∃ front point behind : List Char,
    magnitudeText mantissa scale = front ++ (point ++ behind) ∧
    (point = [] ∧ behind = [] ∨ point = ['.']) ∧
    front ≠ [] ∧ behind.length = scale ∧ (∀ c ∈ front ++ behind, c.isDigit = true) ∧
    Nat.ofDigitChars 10 (front ++ behind) 0 = mantissa := by
  let padding := List.replicate (scale + 1 - (Nat.toDigits 10 mantissa).length) '0'
  let padded := padding ++ Nat.toDigits 10 mantissa
  have long : scale + 1 ≤ padded.length := by
    simp only [padded, padding, List.length_append, List.length_replicate]
    omega
  have divided : padded.take (padded.length - scale) ++ padded.drop (padded.length - scale) =
      padded := List.take_append_drop _ _
  refine ⟨padded.take (padded.length - scale), if scale = 0 then [] else ['.'],
    padded.drop (padded.length - scale), ?_, ?_, ?_, ?_, ?_, ?_⟩
  · by_cases integral : scale = 0
    · rw [if_pos integral, List.nil_append, List.drop_of_length_le (by omega), List.append_nil]
      simp only [magnitudeText, integral, if_true, padded, padding]
    · simp only [magnitudeText, integral, if_false, padded, padding, List.singleton_append]
  · by_cases integral : scale = 0
    · exact .inl ⟨if_pos integral, List.drop_of_length_le (by omega)⟩
    · exact .inr (if_neg integral)
  · rw [← List.length_pos_iff, List.length_take]
    omega
  · rw [List.length_drop]
    omega
  · rw [divided, List.forall_mem_append]
    refine ⟨fun c member => ?_, fun c member => ?_⟩
    · rw [List.eq_of_mem_replicate member]
      rfl
    · exact Nat.isDigit_of_mem_toDigits (by decide) (by decide) member
  · rw [divided, Nat.ofDigitChars_append, Nat.ofDigitChars_replicate_zero, Nat.mul_zero,
      Nat.ofDigitChars_ten_toDigits]

theorem signed_of_isDigit {c : Char} (isDigit : c.isDigit = true) (text : List Char) :
    signed (c :: text) = (false, c :: text) := by
  unfold signed
  split
  · next same =>
    obtain ⟨rfl, -⟩ := List.cons.inj same
    cases isDigit
  · next same =>
    obtain ⟨rfl, -⟩ := List.cons.inj same
    cases isDigit
  · rfl

/-- A number is written with its sign in front of its digits. -/
theorem signed_text (number : Decimal) :
    signed number.text.toList = (number.negative, magnitudeText number.mantissa number.scale) := by
  rw [text, String.toList_ofList]
  cases number.negative with
  | true => rfl
  | false =>
    obtain ⟨front, point, behind, written, -, nonempty, -, each, -⟩ :=
      exists_magnitudeText number.mantissa number.scale
    obtain ⟨c, front, rfl⟩ := List.exists_cons_of_ne_nil nonempty
    rw [written]
    exact signed_of_isDigit (each c List.mem_cons_self) _

/-- A number is written as a plain numeral with its mantissa for digits. -/
theorem isPlain_text (number : Decimal) :
    IsPlain number.text.toList ∧ opens (signed number.text.toList).2 = true ∧
      Nat.ofDigitChars 10 (digits number.text.toList) 0 = number.mantissa ∧
      (decimals number.text.toList).length = number.scale := by
  obtain ⟨front, point, behind, written, divides, nonempty, length, each, value⟩ :=
    exists_magnitudeText number.mantissa number.scale
  rw [List.forall_mem_append] at each
  obtain ⟨inFront, inBehind⟩ := each
  have noPoint (text : List Char) (each : ∀ c ∈ text, c.isDigit = true) : text.count '.' = 0 :=
    List.count_eq_zero.2 fun member => absurd rfl (ne_point (each '.' member))
  have onlyPoint : (∀ c ∈ point, c = '.') ∧ point.count '.' ≤ 1 ∧ digits point = [] := by
    rcases divides with ⟨rfl, -⟩ | rfl
    · exact ⟨List.forall_mem_nil _, Nat.zero_le 1, rfl⟩
    · exact ⟨List.forall_mem_singleton.2 rfl, Nat.le_refl 1, rfl⟩
  have places : decimals (point ++ behind) = behind := by
    rcases divides with ⟨rfl, rfl⟩ | rfl
    · rfl
    · exact (decimals_point behind).trans (digits_eq_self inBehind)
  have unsigned := congrArg Prod.snd (signed_text number)
  simp only [written] at unsigned
  rw [← digits_signed, ← decimals_signed]
  refine ⟨⟨?_, ?_⟩, ?_, ?_, ?_⟩ <;> rw [unsigned]
  · rw [List.forall_mem_append, List.forall_mem_append]
    exact ⟨fun c member => .inl (inFront c member),
      fun c member => .inr (.inr (onlyPoint.1 c member)), fun c member => .inl (inBehind c member)⟩
  · rw [List.count_append, List.count_append, noPoint front inFront, noPoint behind inBehind]
    simpa using onlyPoint.2.1
  · obtain ⟨c, front, rfl⟩ := List.exists_cons_of_ne_nil nonempty
    have isDigit := inFront c List.mem_cons_self
    rw [List.cons_append, opens_cons (ne_point isDigit), isDigit]
  · rw [digits_append, digits_append, onlyPoint.2.2, digits_eq_self inFront,
      digits_eq_self inBehind, List.nil_append, value]
  · rw [decimals_append inFront, places, length]

/-- A number is read back from its text, but for the sign of a zero. -/
theorem ofString?_text (number : Decimal) : ofString? number.text = some number.unsignedZero := by
  obtain ⟨plain, begins, value, places⟩ := isPlain_text number
  have read := ofPlain?_eq plain (value ▸ number.mantissa_lt) (places ▸ number.scale_le)
  rw [if_pos begins] at read
  simp only [value, places, signed_text] at read
  rw [ofString?, read]
  rfl

/-- A number that is read from no more than 28 digits is the one denoted, with its decimals. -/
theorem ofPlain?_exact {number : Decimal} (plain : IsPlain text)
    (short : (digits text).length ≤ 28) (read : ofPlain? text = some number) :
    number.toRat = denoted text ∧ number.scale = (decimals text).length := by
  have split := wholes_append_decimals text
  have fits : Nat.ofDigitChars 10 (digits text) 0 < mantissaLimit := by
    calc
      Nat.ofDigitChars 10 (digits text) 0 < (0 + 1) * 10 ^ (digits text).length :=
        ofDigitChars_lt (fun c member => (List.mem_filter.1 member).2) 0
      _ ≤ (0 + 1) * 10 ^ 28 := Nat.mul_le_mul_left _ (Nat.pow_le_pow_right (by decide) short)
      _ < mantissaLimit := by decide
  have room : (decimals text).length ≤ maxScale := by
    have total := congrArg List.length split
    rw [List.length_append] at total
    exact (Nat.le_of_add_left_le (total.trans_le short))
  have value : Nat.ofDigitChars 10 (digits text) 0 =
      10 ^ (decimals text).length * Nat.ofDigitChars 10 (wholes text) 0 +
        Nat.ofDigitChars 10 (decimals text) 0 := by
    rw [← split, Nat.ofDigitChars_append, Nat.ofDigitChars_eq_ofDigitChars_zero]
  rw [ofPlain?_eq plain fits room] at read
  split at read
  · cases read
    refine ⟨?_, rfl⟩
    have magnitude : (Nat.ofDigitChars 10 (digits text) 0 : ℚ) / 10 ^ (decimals text).length =
        Nat.ofDigitChars 10 (wholes text) 0 +
          Nat.ofDigitChars 10 (decimals text) 0 / 10 ^ (decimals text).length := by
      rw [value]
      push_cast
      field_simp
    rw [toRat, denoted, ← magnitude]
    by_cases zero : Nat.ofDigitChars 10 (digits text) 0 = 0
    · simp [zero]
    · simp [zero]
  · cases read

/-- A text without an exponent is read as a plain numeral or not at all. -/
theorem ofString?_of_unmarked {text : String}
    (unmarked : ∀ c ∈ text.toList, isExponentMark c = false) :
    ofString? text = ofPlain? text.toList := by
  have behind : text.toList.dropWhile (!isExponentMark ·) = [] :=
    List.dropWhile_eq_nil_iff.2 fun c member => by rw [unmarked c member]; rfl
  rw [ofString?, ofScientific?, behind]
  cases ofPlain? text.toList <;> rfl

theorem IsPlain.unmarked (plain : IsPlain text) : ∀ c ∈ text, isExponentMark c = false := by
  have body : ∀ c ∈ (signed text).2, isExponentMark c = false := by
    intro c member
    rcases plain.characters c member with isDigit | rfl | rfl
    · cases marked : isExponentMark c with
      | false => rfl
      | true =>
        rw [isExponentMark, Bool.or_eq_true, beq_iff_eq, beq_iff_eq] at marked
        rcases marked with rfl | rfl <;> cases isDigit
    · rfl
    · rfl
  unfold signed at body
  split at body
  · exact List.forall_mem_cons.2 ⟨rfl, body⟩
  · exact List.forall_mem_cons.2 ⟨rfl, body⟩
  · exact body

/-- No plain numeral is read as a zero with a sign. -/
theorem unsignedZero_of_ofPlain? {number : Decimal} (read : ofPlain? text = some number) :
    number.unsignedZero = number := by
  obtain ⟨⟨mantissa, scale⟩, -, made⟩ := Option.bind_eq_some_iff.1 read
  simp only [ofParts?] at made
  split at made
  · cases made
    simp only [unsignedZero, Bool.and_assoc, Bool.and_self]
  · cases made

end Decimal

namespace NumberField

/-- The number of a predicate can be used again as a term: it is read with the same mantissa, scale
and sign, but a zero is read without a sign, which only a term in scientific form gives it.  A plain
numeral of at most 28 digits is exactly the number that it denotes, with as many decimals. -/
theorem predicate_display {column name : String} {search : SearchClause} {comparator : Comparator}
    {value : Decimal}
    (made : NumberField.predicate column search = .ok (.compare name comparator (.number value))) :
    (∃ again : Decimal,
      NumberField.predicate column { search with term := (Value.number value).display } =
        .ok (.compare name comparator (.number again)) ∧
      again.mantissa = value.mantissa ∧ again.scale = value.scale ∧
      again.negative = (value.negative && value.mantissa != 0) ∧
      ((∀ c ∈ search.term.toList, Decimal.isExponentMark c = false) → again = value)) ∧
    (Decimal.IsPlain search.term.toList → (Decimal.digits search.term.toList).length ≤ 28 →
      value.toRat = Decimal.denoted search.term.toList ∧
      value.scale = (Decimal.decimals search.term.toList).length) := by
  obtain ⟨valid, renders⟩ := predicate_eq_ok.1 made
  cases renders with
  | compare asks related read =>
    have readAgain := Decimal.ofString?_text value
    have nonempty : value.text ≠ "" := by
      intro empty
      rw [empty] at readAgain
      cases readAgain
    have asksAgain : SearchClause.asksForAny { search with term := value.text } = false := by
      rw [← Bool.not_eq_true, SearchClause.asksForAny_iff]
      exact fun empty => nonempty empty.2
    refine ⟨⟨value.unsignedZero,
      predicate_eq_ok.2 ⟨valid, .compare asksAgain related readAgain⟩, rfl, rfl, rfl, ?_⟩, ?_⟩
    · intro unmarked
      rw [Decimal.ofString?_of_unmarked unmarked] at read
      exact Decimal.unsignedZero_of_ofPlain? read
    · intro plain short
      rw [Decimal.ofString?_of_unmarked plain.unmarked] at read
      exact Decimal.ofPlain?_exact plain short read

/-- A negative numeral of 28 digits with underscores and a zero at both ends. -/
theorem predicate_display_digits :
    let search : SearchClause :=
      { index := "n", relation := "<=", term := "-0_792_281625142643375_.4395_0331_0_" }
    let value : Decimal := ⟨true, 792281625142643375439503310, 9, by decide, by decide⟩
    NumberField.predicate "n" search = .ok (.compare "n" .lessOrEqual (.number value)) ∧
    Decimal.IsPlain search.term.toList ∧ (Decimal.digits search.term.toList).length ≤ 28 ∧
    (∀ c ∈ search.term.toList, Decimal.isExponentMark c = false) ∧
    (Value.number value).display = "-792281625142643375.439503310" ∧
    NumberField.predicate "n" { search with term := (Value.number value).display } =
      .ok (.compare "n" .lessOrEqual (.number value)) ∧
    value.toRat = Decimal.denoted search.term.toList ∧
    value.scale = (Decimal.decimals search.term.toList).length := by
  intro search value
  have made : NumberField.predicate "n" search =
      .ok (.compare "n" .lessOrEqual (.number value)) := by decide +kernel
  have plain : Decimal.IsPlain search.term.toList := by decide +kernel
  have short : (Decimal.digits search.term.toList).length ≤ 28 := by decide +kernel
  have unmarked := plain.unmarked
  obtain ⟨⟨again, madeAgain, -, -, -, same⟩, denotes⟩ := predicate_display made
  rw [same unmarked] at madeAgain
  exact ⟨made, plain, short, unmarked, by decide +kernel, madeAgain, denotes plain short⟩

/-- A negative number whose digits are all rounded away is shown with its sign and read without. -/
theorem exists_signed_zero : ∃ (search : SearchClause) (value again : Decimal),
    NumberField.predicate "n" search = .ok (.compare "n" .equal (.number value)) ∧
    (Value.number value).display = "-0.0000000000000000000000000000" ∧
    NumberField.predicate "n" { search with term := (Value.number value).display } =
      .ok (.compare "n" .equal (.number again)) ∧
    again.negative ≠ value.negative := by
  refine ⟨{ index := "n", relation := "=", term := "-0.4e-28" },
    ⟨true, 0, 28, by decide, by decide⟩, ⟨false, 0, 28, by decide, by decide⟩, ?_, ?_, ?_, ?_⟩
  · decide +kernel
  · decide +kernel
  · decide +kernel
  · decide

end NumberField
end ContextualQuery
