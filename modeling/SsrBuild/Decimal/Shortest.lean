import SsrBuild.Decimal.Binary64

/-!
The fewest decimal digits that read back as a given number. On the grid of the decimals with one
digit, then two, and so on up to seventeen, the two neighbours of the number are tried; the first
grid with a neighbour that rounds to the number wins, and of two such neighbours the nearer one.
-/

set_option autoImplicit false

namespace SsrBuild

/-- A whole number times a power of ten. -/
structure Decimal where
  digits : Nat
  exponent : Int
  deriving DecidableEq, Repr, Inhabited

namespace Decimal

/-- A power with a whole number as its exponent; below zero the exponent counts as zero. -/
def power (base : Nat) (exponent : Int) : Nat :=
  Nat.pow base exponent.toNat

/-- Compares `number · 2 ^ twos` with a decimal. -/
def compareBinary (number : Nat) (twos : Int) (decimal : Decimal) : Ordering :=
  compare (number * power 2 twos * power 10 (-decimal.exponent))
    (decimal.digits * power 10 decimal.exponent * power 2 (-twos))

/-- Takes zeros off the end of the digits. -/
def withoutZeros : Nat → Decimal → Decimal
  | 0, decimal => decimal
  | count + 1, decimal =>
    if decimal.digits % 10 == 0 then
      withoutZeros count ⟨decimal.digits / 10, decimal.exponent + 1⟩
    else decimal

end Decimal

namespace Binary64

variable (number : Binary64)

/-- Does the decimal round to the number? -/
def isReadFrom (decimal : Decimal) : Bool :=
  let below := Decimal.compareBinary number.lowerEnd (number.exponent - 2) decimal
  let above := Decimal.compareBinary number.upperEnd (number.exponent - 2) decimal
  let isEven := number.significand % 2 == 0
  (below == .lt || (isEven && below == .eq)) && (above == .gt || (isEven && above == .eq))

/-- The least power of ten above the magnitude of a number that is not zero. -/
def scale : Int :=
  let guess := ((number.significand.log2 : Int) + number.exponent) * 1233 / 4096
  let isAbove := fun power =>
    Decimal.compareBinary number.significand number.exponent ⟨1, power⟩ == .lt
  if isAbove guess then guess else if isAbove (guess + 1) then guess + 1 else guess + 2

/-- The number of whole steps of a power of ten up to the magnitude. -/
def steps (grid : Int) : Nat :=
  number.significand * Decimal.power 2 number.exponent * Decimal.power 10 (-grid) /
    (Decimal.power 10 grid * Decimal.power 2 (-number.exponent))

/-- The nearer of a decimal and the next one on the same grid, and of equally near ones the even. -/
def nearer (low : Decimal) : Decimal :=
  let next : Decimal := ⟨low.digits + 1, low.exponent⟩
  let middle : Decimal := ⟨2 * low.digits + 1, low.exponent⟩
  match Decimal.compareBinary (2 * number.significand) number.exponent middle with
  | .lt => low
  | .gt => next
  | .eq => if low.digits % 2 == 0 then low else next

/-- The decimal with so many digits that reads back, if there is one. -/
def withDigits (count : Nat) : Option Decimal :=
  let grid := number.scale - count
  let low : Decimal := ⟨number.steps grid, grid⟩
  let next : Decimal := ⟨number.steps grid + 1, grid⟩
  match number.isReadFrom low, number.isReadFrom next with
  | true, true => some (number.nearer low)
  | true, false => some low
  | false, true => some next
  | false, false => none

/-- The magnitude in full. -/
def inFull : Decimal :=
  if 0 ≤ number.exponent then ⟨number.significand * Decimal.power 2 number.exponent, 0⟩
  else ⟨number.significand * Decimal.power 5 (-number.exponent), number.exponent⟩

/-- The shortest decimal that reads back as the magnitude of a number that is not zero. -/
def shortest : Decimal :=
  let found := ((List.range 17).map (· + 1)).findSome? number.withDigits
  (found.getD number.inFull).withoutZeros 800

end Binary64

end SsrBuild
