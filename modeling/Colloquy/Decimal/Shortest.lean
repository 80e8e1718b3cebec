/-!
# Shortest decimals

The fewest decimal digits that read back as a given binary floating point number. A positive
double is `significand * 2 ^ power`; the decimals that read back as it form an interval around
it, closed when the significand is even. The digits are found on the coarsest decimal grid that
has a point in that interval, in exact integer arithmetic.
-/

namespace Colloquy.Decimal

/-- The non-negative fraction `numerator / denominator`. -/
structure Ratio where
  numerator : Nat
  denominator : Nat
  deriving Repr

namespace Ratio

/-- The fraction `value * base ^ power`, for either sign of the power. -/
def scaled (value base : Nat) (power : Int) : Ratio :=
  if 0 ≤ power then ⟨value * Nat.pow base power.toNat, 1⟩
  else ⟨value, Nat.pow base (-power).toNat⟩

/-- Whether the left fraction is at most the right one. -/
def le (left right : Ratio) : Bool :=
  left.numerator * right.denominator ≤ right.numerator * left.denominator

/-- Whether the left fraction is below the right one. -/
def lt (left right : Ratio) : Bool :=
  left.numerator * right.denominator < right.numerator * left.denominator

/-- The distance between two fractions. -/
def distance (left right : Ratio) : Ratio :=
  let first := left.numerator * right.denominator
  let second := right.numerator * left.denominator
  ⟨(first - second) + (second - first), left.denominator * right.denominator⟩

/-- The fraction divided by `10 ^ power`. -/
def unscale10 (ratio : Ratio) (power : Int) : Ratio :=
  if 0 ≤ power then ⟨ratio.numerator, ratio.denominator * Nat.pow 10 power.toNat⟩
  else ⟨ratio.numerator * Nat.pow 10 (-power).toNat, ratio.denominator⟩

end Ratio

/-- A finite positive double as `significand * 2 ^ power`. -/
structure Binary where
  significand : Nat
  power : Int
  /-- The neighbour below is only half as far away as the one above. -/
  lowerIsClose : Bool
  deriving Repr

namespace Binary

/-- The parts of a finite positive double. -/
def ofBits (bits : UInt64) : Binary :=
  let fraction : Nat := bits.toNat % Nat.pow 2 52
  let field : Nat := (bits.toNat / Nat.pow 2 52) % Nat.pow 2 11
  if field = 0 then ⟨fraction, -1074, false⟩
  else ⟨Nat.pow 2 52 + fraction, (field : Int) - 1075, fraction = 0 && 1 < field⟩

/-- The exact value. -/
def value (binary : Binary) : Ratio :=
  Ratio.scaled binary.significand 2 binary.power

/-- The least decimal that may read back as the number. -/
def lowest (binary : Binary) : Ratio :=
  if binary.lowerIsClose then Ratio.scaled (4 * binary.significand - 1) 2 (binary.power - 2)
  else Ratio.scaled (2 * binary.significand - 1) 2 (binary.power - 1)

/-- The greatest decimal that may read back as the number. -/
def highest (binary : Binary) : Ratio :=
  Ratio.scaled (2 * binary.significand + 1) 2 (binary.power - 1)

/-- Whether a decimal reads back as the number. The ends belong to the interval when the
significand is even. -/
def readsBack (binary : Binary) (decimal : Ratio) : Bool :=
  if binary.significand % 2 = 0 then
    binary.lowest.le decimal && decimal.le binary.highest
  else binary.lowest.lt decimal && decimal.lt binary.highest

end Binary

/-- A decimal `digits * 10 ^ exponent`. -/
structure Scientific where
  digits : Nat
  exponent : Int
  deriving DecidableEq, Repr

/-- The number of places before the decimal point, at most zero for values below one tenth.
The steps bound how many leading zeros are looked for. -/
def placesBelowOne : Nat → Ratio → Int
  | 0, _ => 0
  | steps + 1, ratio =>
      if ratio.denominator ≤ ratio.numerator * 10 then 0
      else placesBelowOne steps ⟨ratio.numerator * 10, ratio.denominator⟩ - 1

/-- The number of places before the decimal point. -/
def places (ratio : Ratio) : Int :=
  let whole := ratio.numerator / ratio.denominator
  if whole = 0 then placesBelowOne 400 ratio else (toString whole).length

/-- The point nearest to the number among its two neighbours on the grid `10 ^ exponent`, if one
of them reads back. A tie goes to the even digit. -/
def onGrid? (binary : Binary) (exponent : Int) : Option Scientific :=
  let exact := binary.value
  let grid := exact.unscale10 exponent
  let below := grid.numerator / grid.denominator
  let lower := Ratio.scaled below 10 exponent
  let upper := Ratio.scaled (below + 1) 10 exponent
  let lowerReads := 0 < below && binary.readsBack lower
  let upperReads := binary.readsBack upper
  if lowerReads && upperReads then
    let toLower := exact.distance lower
    let toUpper := exact.distance upper
    if toLower.lt toUpper || (toLower.le toUpper && below % 2 = 0) then some ⟨below, exponent⟩
    else some ⟨below + 1, exponent⟩
  else if lowerReads then some ⟨below, exponent⟩
  else if upperReads then some ⟨below + 1, exponent⟩
  else none

/-- The digits without the zeros at their end. The steps bound the zeros that are cut. -/
def dropZeros : Nat → Scientific → Scientific
  | 0, decimal => decimal
  | steps + 1, decimal =>
      if decimal.digits % 10 = 0 && decimal.digits ≠ 0 then
        dropZeros steps ⟨decimal.digits / 10, decimal.exponent + 1⟩
      else decimal

/-- The decimal with the fewest digits that reads back as the number. Seventeen digits always
suffice. -/
def shortest (binary : Binary) : Scientific :=
  let top := places binary.value
  let found := (List.range 17).findSome? fun (count : Nat) =>
    onGrid? binary (top - ((count : Int) + 1))
  dropZeros 20 (found.getD ⟨0, 0⟩)

end Colloquy.Decimal
