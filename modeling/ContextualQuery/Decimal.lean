/-!
# Decimal numbers

A decimal is a sign, an integer mantissa of at most 96 bits and a scale of at most 28, the number
of digits behind the point.  Two decimals of one value may differ in scale, and both are written
with exactly as many digits as their scale says.
-/

namespace ContextualQuery

/-- Mantissas stay below this number. -/
def Decimal.mantissaLimit : Nat := Nat.pow 2 96

def Decimal.maxScale : Nat := 28

/-- A decimal number: the mantissa divided by ten to the power of the scale. -/
structure Decimal where
  /-- Whether a minus sign stands in front. -/
  negative : Bool
  /-- The digits as one integer. -/
  mantissa : Nat
  /-- The number of digits behind the point. -/
  scale : Nat
  mantissa_lt : mantissa < Decimal.mantissaLimit
  scale_le : scale ≤ Decimal.maxScale
deriving DecidableEq, Repr

namespace Decimal

/-- The decimal with these parts, if they are in range. -/
def ofParts? (negative : Bool) (mantissa scale : Nat) : Option Decimal :=
  if inRange : mantissa < mantissaLimit ∧ scale ≤ maxScale then
    some ⟨negative, mantissa, scale, inRange.1, inRange.2⟩
  else none

/-- The text of the number without its sign: at least one digit in front of the point and as many
behind it as the scale says. -/
def magnitudeText (mantissa scale : Nat) : List Char :=
  let digits := Nat.toDigits 10 mantissa
  let padded := List.replicate (scale + 1 - digits.length) '0' ++ digits
  let whole := padded.take (padded.length - scale)
  if scale = 0 then whole else whole ++ '.' :: padded.drop (padded.length - scale)

def text (number : Decimal) : String :=
  String.ofList <|
    (if number.negative then ['-'] else []) ++ magnitudeText number.mantissa number.scale

instance : ToString Decimal := ⟨text⟩

end Decimal
end ContextualQuery
