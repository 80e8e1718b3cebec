import Colloquy.Json.Basic

/-!
# Numerals

A number literal by its parts, and the number it stands for. A literal keeps its digits until its
value is asked for, because a literal that is skipped is never turned into a number and so cannot
be too large.
-/

namespace Colloquy

/-- Why JSON text cannot be read on: something is wrong in it, or it ends too early. -/
inductive JsonFault where
  | malformed
  | truncated
  deriving DecidableEq, Repr

/-- A number literal: sign, digits before the point, digits after it, and the exponent as sign
and digits. -/
structure Numeral where
  negative : Bool
  whole : List (Fin 10)
  fraction : List (Fin 10)
  exponent : Option (Bool × List (Fin 10))
  deriving DecidableEq, Repr

namespace Numeral

/-- The greatest whole number of 64 bits. -/
def largestWord : Nat := 0xFFFFFFFFFFFFFFFF

/-- Append digits to a number as long as 64 bits hold the result; what is left are the digits that
did not fit. -/
def absorb : Nat → List (Fin 10) → Nat × List (Fin 10)
  | value, [] => (value, [])
  | value, digit :: rest =>
      if value * 10 + digit ≤ largestWord then absorb (value * 10 + digit) rest
      else (value, digit :: rest)

/-- The number written by decimal digits. -/
def ofDigits (digits : List (Fin 10)) : Nat :=
  digits.foldl (fun (value : Nat) (digit : Fin 10) => value * 10 + digit.val) 0

/-- A power of ten as a double. -/
def powerOfTen (power : Nat) : Float :=
  Float.ofScientific 1 false power

/-- Divide by a power of ten, in strides that doubles can express. Three strides bring every 64-bit
number to zero. -/
def divideByPower : Nat → Float → Nat → Float
  | 0, value, _ => value
  | strides + 1, value, power =>
      if power ≤ 308 then value / powerOfTen power
      else if value == 0 then value
      else divideByPower strides (value / powerOfTen 308) (power - 308)

/-- The double `significand * 10 ^ exponent`, computed with one multiplication or division where
the power is a double. A result too large for a double is refused. -/
def scale (significand : Nat) (exponent : Int) : Except JsonFault Float :=
  let value := significand.toUInt64.toFloat
  if exponent < 0 then .ok (divideByPower 4 value (-exponent).toNat)
  else if exponent ≤ 308 then
    let product := value * powerOfTen exponent.toNat
    if product.isInf then .error .malformed else .ok product
  else if significand = 0 then .ok value
  else .error .malformed

/-- The greatest magnitude of an exponent that is taken literally. -/
def largestExponent : Nat := 0x7FFFFFFF

/-- The magnitude of a literal that is not a plain whole number of 64 bits. Digits beyond those
that fit 64 bits are dropped, those before the point counting as zeros. -/
def magnitude (numeral : Numeral) : Except JsonFault Float :=
  let (whole, excess) := absorb 0 numeral.whole
  let (significand, unread) := absorb whole numeral.fraction
  let point : Int := (excess.length : Int) - ((numeral.fraction.length - unread.length : Nat) : Int)
  match numeral.exponent with
  | none => scale significand point
  | some (down, digits) =>
      let shift := ofDigits digits
      if largestExponent < shift then
        if significand ≠ 0 ∧ ¬ down then .error .malformed else .ok 0
      else scale significand (if down then point - shift else point + shift)

/-- The number a literal stands for. -/
def value (numeral : Numeral) : Except JsonFault JsonNumber :=
  let (whole, excess) := absorb 0 numeral.whole
  if excess = [] ∧ numeral.fraction = [] ∧ numeral.exponent = none then
    if numeral.negative then
      if 0 < whole ∧ whole ≤ 0x8000000000000000 then .ok (.negative (Int64.ofInt (-(whole : Int))))
      else .ok (.float (-whole.toUInt64.toFloat))
    else .ok (.natural whole.toUInt64)
  else
    numeral.magnitude.map fun size => .float (if numeral.negative then -size else size)

end Numeral

end Colloquy
