/-!
Finite numbers of double precision, known by their 64 bits: a sign, and a whole number of halvings
or doublings of a significand. The numbers that are nearer to such a number than to any other lie
between two ends, and the ends belong to it when its significand is even.
-/

set_option autoImplicit false

namespace SsrBuild

/-- A number of double precision. -/
structure Binary64 where
  bits : UInt64
  deriving DecidableEq, Repr, Inhabited

namespace Binary64

def ofFloat (number : Float) : Binary64 := ⟨number.toBits⟩

/-- Is the sign a minus? Zero has a sign too. -/
def isNegative (number : Binary64) : Bool :=
  number.bits >>> 63 == 1

/-- The eleven bits that tell the exponent. -/
def exponentField (number : Binary64) : Nat :=
  ((number.bits >>> 52) &&& 0x7FF).toNat

/-- The fifty-two bits of the fraction. -/
def fractionField (number : Binary64) : Nat :=
  (number.bits &&& 0xFFFFFFFFFFFFF).toNat

/-- The bit above the fraction, which is not written. -/
def leadingBit : Nat := 0x10000000000000

/-- The whole number to be doubled or halved. -/
def significand (number : Binary64) : Nat :=
  if number.exponentField == 0 then number.fractionField else leadingBit + number.fractionField

/-- How often the significand is to be doubled. -/
def exponent (number : Binary64) : Int :=
  if number.exponentField == 0 then -1074 else (number.exponentField : Int) - 1075

/-- Is the gap to the number below half as wide as the gap to the number above? -/
def isNarrowBelow (number : Binary64) : Bool :=
  number.fractionField == 0 && 1 < number.exponentField

/-- The lower end of the numbers that round to this one, in quarters of the last place. -/
def lowerEnd (number : Binary64) : Nat :=
  4 * number.significand - if number.isNarrowBelow then 1 else 2

/-- The upper end of the numbers that round to this one, in quarters of the last place. -/
def upperEnd (number : Binary64) : Nat :=
  4 * number.significand + 2

end Binary64

end SsrBuild
