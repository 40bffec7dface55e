import ContextualQuery.Decimal

/-!
# Reading decimal numbers

A plain number is a sign, digits with at most one point, and underscores behind the first digit,
which do not count.  Digits behind the point are read as long as scale and mantissa allow; the
next digit rounds half up in magnitude, and those behind it are checked only.  A number in
scientific form is a plain number, an `e` and an exponent, and shifts the point.
-/

namespace ContextualQuery
namespace Decimal

def digit? (c : Char) : Option Nat :=
  if c.isDigit then some (c.toNat - '0'.toNat) else none

/-- Whether only digits and underscores are left. -/
def onlyDigits (rest : List Char) : Bool := rest.all fun c => c.isDigit || c == '_'

/-- Ends a number at a digit that no longer fits: from five up the mantissa grows by one, and if it
no longer fits either, its last digit is rounded away. -/
def round (mantissa scale digit : Nat) (rest : List Char) : Option (Nat × Nat) :=
  if !onlyDigits rest then none
  else if digit < 5 then some (mantissa, scale)
  else if mantissa + 1 < mantissaLimit then some (mantissa + 1, scale)
  else if scale = 0 then none
  else some ((mantissa + 5) / 10, scale - 1)

/-- Mantissas below this number take one more digit without leaving 64 bits. -/
def wordLimit : Nat := (Nat.pow 2 64 - 1) / 10 - 255

/-- Whether an underscore stands for a digit zero that rounds: at the greatest scale, when the
mantissa fitted 64 bits before its last digit. -/
def underscoreRounds (mantissa scale : Nat) : Bool :=
  scale == maxScale && mantissa / 10 < wordLimit

/-- Digits behind the point, given the mantissa and scale so far and whether there was a digit. -/
def fraction (mantissa scale : Nat) (started : Bool) : List Char → Option (Nat × Nat)
  | [] => if started then some (mantissa, scale) else none
  | c :: rest =>
    match digit? c with
    | some digit =>
      if scale < maxScale && mantissa * 10 + digit < mantissaLimit then
        fraction (mantissa * 10 + digit) (scale + 1) true rest
      else round mantissa scale digit rest
    | none =>
      if c == '_' && started then
        if underscoreRounds mantissa scale then round mantissa scale 0 rest
        else fraction mantissa scale started rest
      else none

/-- Digits in front of the point and those behind it. -/
def whole (mantissa : Nat) (started : Bool) : List Char → Option (Nat × Nat)
  | [] => if started then some (mantissa, 0) else none
  | c :: rest =>
    match digit? c with
    | some digit =>
      if mantissa * 10 + digit < mantissaLimit then whole (mantissa * 10 + digit) true rest
      else none
    | none =>
      if c == '.' then fraction mantissa 0 started rest
      else if c == '_' && started then whole mantissa started rest
      else none

/-- The sign in front of a number and the characters behind it. -/
def signed : List Char → Bool × List Char
  | '-' :: rest => (true, rest)
  | '+' :: rest => (false, rest)
  | rest => (false, rest)

/-- Reads a plain number; zero has no sign. -/
def ofPlain? (text : List Char) : Option Decimal := do
  let (negative, digits) := signed text
  let (mantissa, scale) ← whole 0 false digits
  ofParts? (negative && mantissa != 0) mantissa scale

/-- The number that digits alone spell. -/
def natural? (digits : List Char) : Option Nat :=
  if digits.isEmpty then none
  else digits.foldlM (fun value c => (digit? c).map (value * 10 + ·)) 0

/-- The power of ten behind the `e`: digits, with at most one plus sign in front. -/
def exponent? (text : List Char) : Option Nat := do
  let digits := match text with
    | '+' :: rest => rest
    | rest => rest
  let value ← natural? digits
  if value ≤ maxScale then some value else none

/-- Divides by a power of ten and rounds half up. -/
def divRound (mantissa places : Nat) : Nat :=
  (mantissa * 2 + Nat.pow 10 places) / (2 * Nat.pow 10 places)

/-- Moves the point to the left.  Digits beyond the greatest scale are rounded away first. -/
def shiftLeft? (base : Decimal) (places : Nat) : Option Decimal :=
  if base.scale + places ≤ maxScale then
    ofParts? base.negative base.mantissa (base.scale + places)
  else
    ofParts? base.negative (divRound base.mantissa (base.scale + places - maxScale)) maxScale

/-- Moves the point to the right; beyond the last digit the number becomes a larger integer. -/
def shiftRight? (base : Decimal) (places : Nat) : Option Decimal :=
  if places ≤ base.scale then ofParts? base.negative base.mantissa (base.scale - places)
  else ofParts? base.negative (base.mantissa * Nat.pow 10 (places - base.scale)) 0

/-- Whether a character divides a number in scientific form from its exponent. -/
def isExponentMark (c : Char) : Bool := c == 'e' || c == 'E'

def ofScientific? (text : List Char) : Option Decimal :=
  match text.dropWhile (!isExponentMark ·) with
  | [] => none
  | _ :: power => do
    let base ← ofPlain? (text.takeWhile (!isExponentMark ·))
    match power with
    | '-' :: power => base.shiftLeft? (← exponent? power)
    | power => base.shiftRight? (← exponent? power)

/-- Reads a number, plain or in scientific form. -/
def ofString? (text : String) : Option Decimal :=
  ofPlain? text.toList <|> ofScientific? text.toList

end Decimal
end ContextualQuery
