/-!
# UTF-8 input

Input arrives as bytes that may be ill-formed.  Reading takes it apart into characters and stray
bytes, one byte at a time where no character begins, so that the bytes that follow are still
read.  Showing it as text instead replaces each longest beginning of a character that is cut
short by one replacement character.
-/

namespace ContextualQuery
namespace Utf8

/-- One piece of the input: a decoded character, or a byte at which no character begins. -/
inductive Piece
  /-- A character with a well-formed encoding. -/
  | char (value : Char)
  /-- A byte that begins no well-formed encoding. -/
  | stray
deriving DecidableEq, Repr

namespace Piece

/-- The character of a piece that is one. -/
def char? : Piece → Option Char
  | .char value => some value
  | .stray => none

def width : Piece → Nat
  | .char value => value.utf8Size
  | .stray => 1

end Piece

/-- The number of bytes that pieces take up together. -/
def width : List Piece → Nat
  | [] => 0
  | piece :: rest => piece.width + width rest

def encode (text : String) : List UInt8 := text.toList.flatMap String.utf8EncodeChar

/-- The character whose encoding the bytes begin with. -/
def headChar? (bytes : List UInt8) : Option Char :=
  (bytes.take 4).toByteArray.utf8DecodeChar? 0

/-- Takes bytes apart into characters and stray bytes. -/
def decode : List UInt8 → List Piece
  | [] => []
  | byte :: rest =>
    match headChar? (byte :: rest) with
    | some value => .char value :: decode (rest.drop (value.utf8Size - 1))
    | none => .stray :: decode rest
termination_by bytes => bytes.length
decreasing_by all_goals simp +arith

/-- Whether the bytes are the beginning of some character's encoding, or all of it. -/
def beginsChar (bytes : List UInt8) : Bool :=
  (headChar? (bytes ++ [0x80, 0x80, 0x80])).isSome

/-- The most bytes, three or fewer, that one replacement character stands for where no character
begins: as many as still begin an encoding, and at least one. -/
def brokenWidth (bytes : List UInt8) : Nat :=
  if beginsChar (bytes.take 3) then 3
  else if beginsChar (bytes.take 2) then 2
  else 1

/-- The characters of the input, with U+FFFD for each broken encoding. -/
def replaceBroken : List UInt8 → List Char
  | [] => []
  | byte :: rest =>
    match headChar? (byte :: rest) with
    | some value => value :: replaceBroken (rest.drop (value.utf8Size - 1))
    | none => '\uFFFD' :: replaceBroken (rest.drop (brokenWidth (byte :: rest) - 1))
termination_by bytes => bytes.length
decreasing_by all_goals simp +arith

/-- The input as text, with U+FFFD for each broken encoding. -/
def display (bytes : List UInt8) : String := String.ofList (replaceBroken bytes)

/-- The text that the bytes encode, where they are well-formed. -/
def text? (bytes : List UInt8) : Option String :=
  ((decode bytes).mapM Piece.char?).map String.ofList

/-- Decoding a character's encoding gives the character, whatever follows. -/
theorem headChar?_encode (value : Char) (rest : List UInt8) :
    headChar? (String.utf8EncodeChar value ++ rest) = some value := by
  have first_four : (String.utf8EncodeChar value ++ rest).take 4 =
      String.utf8EncodeChar value ++ rest.take (4 - value.utf8Size) := by
    rw [List.take_append, String.length_utf8EncodeChar, List.take_of_length_le]
    simpa using value.utf8Size_le_four
  rw [headChar?, first_four, List.toByteArray_append]
  exact ByteArray.utf8DecodeChar?_utf8EncodeChar_append

theorem drop_encodeChar (value : Char) (rest : List UInt8) :
    (String.utf8EncodeChar value ++ rest).drop value.utf8Size = rest :=
  List.drop_left' (String.length_utf8EncodeChar value)

/-- An encoding is a byte and as many further ones as the size says. -/
theorem encodeChar_append_eq_cons (value : Char) (rest : List UInt8) :
    ∃ byte bytes, String.utf8EncodeChar value ++ rest = byte :: bytes ∧
      bytes.drop (value.utf8Size - 1) = rest := by
  have behind := drop_encodeChar value rest
  obtain ⟨size, sizeEq⟩ :=
    Nat.exists_eq_add_one_of_ne_zero (Nat.pos_iff_ne_zero.1 value.utf8Size_pos)
  cases split : String.utf8EncodeChar value ++ rest with
  | nil =>
    have := congrArg List.length split
    simp [sizeEq] at this
  | cons byte bytes =>
    refine ⟨byte, bytes, rfl, ?_⟩
    rw [split, sizeEq, List.drop_succ_cons] at behind
    rw [sizeEq]
    exact behind

/-- Decoding takes the first character off its encoding. -/
theorem decode_encodeChar (value : Char) (rest : List UInt8) :
    decode (String.utf8EncodeChar value ++ rest) = .char value :: decode rest := by
  have decoded := headChar?_encode value rest
  obtain ⟨byte, bytes, split, behind⟩ := encodeChar_append_eq_cons value rest
  rw [split] at decoded ⊢
  rw [decode, decoded]
  simp only [behind]

/-- The bytes of a text are taken apart into its characters. -/
theorem decode_encode (text : String) : decode (encode text) = text.toList.map .char := by
  unfold encode
  induction text.toList with
  | nil => simp [decode]
  | cons value rest ih => rw [List.flatMap_cons, decode_encodeChar, ih, List.map_cons]

/-- The bytes of a text are shown as the text. -/
theorem display_encode (text : String) : display (encode text) = text := by
  have same (chars : List Char) :
      replaceBroken (chars.flatMap String.utf8EncodeChar) = chars := by
    induction chars with
    | nil => simp [replaceBroken]
    | cons value rest ih =>
      rw [List.flatMap_cons]
      have decoded := headChar?_encode value (rest.flatMap String.utf8EncodeChar)
      obtain ⟨byte, bytes, split, behind⟩ :=
        encodeChar_append_eq_cons value (rest.flatMap String.utf8EncodeChar)
      rw [split] at decoded ⊢
      rw [replaceBroken, decoded]
      simp only [behind, ih]
  rw [display, encode, same, String.ofList_toList]

/-- Bytes that begin with a character begin with its encoding. -/
theorem eq_encodeChar_append {value : Char} {bytes : List UInt8}
    (decoded : headChar? bytes = some value) :
    bytes = String.utf8EncodeChar value ++ bytes.drop value.utf8Size := by
  obtain ⟨behind, split⟩ := ByteArray.exists_of_utf8DecodeChar?_eq_some decoded
  have split : bytes.take 4 = String.utf8EncodeChar value ++ behind.data.toList := by
    simpa using congrArg (fun bytes => bytes.data.toList) split
  have start : bytes = String.utf8EncodeChar value ++ (behind.data.toList ++ bytes.drop 4) := by
    rw [← List.append_assoc, ← split, List.take_append_drop]
  rw [start, drop_encodeChar]

theorem width_decode (bytes : List UInt8) : width (decode bytes) = bytes.length := by
  fun_induction decode bytes with
  | case1 => rfl
  | case2 byte rest value decoded ih =>
    have start := congrArg List.length (eq_encodeChar_append decoded)
    have := value.utf8Size_pos
    simp only [List.length_append, String.length_utf8EncodeChar, List.length_drop,
      List.length_cons] at start
    simp only [width, Piece.width]
    rw [ih, List.length_drop, List.length_cons]
    omega
  | case3 byte rest _ ih =>
    simp only [width, Piece.width]
    rw [ih, List.length_cons]
    omega

end Utf8
end ContextualQuery
