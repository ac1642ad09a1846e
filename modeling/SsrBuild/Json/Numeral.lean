import SsrBuild.Json.Basic
import SsrBuild.Json.Cursor

/-!
Numbers. A number without fraction and exponent that fits into sixty-four bits is a whole number.
Of all other numbers the digits count as long as they fit into sixty-four bits without a sign, and
the power of ten is applied in double precision.
-/

set_option autoImplicit false

namespace SsrBuild.Json

open Reader

/-- The value of a digit. -/
def digitValue (c : Char) : Nat := c.toNat - '0'.toNat

/-- Appends digits to a number while it stays within the bound, and counts the digits left over. -/
def appendDigits (bound : Nat) (number : Nat) : List Char → Nat × Nat
  | [] => (number, 0)
  | c :: rest =>
    let next := 10 * number + digitValue c
    if next ≤ bound then appendDigits bound next rest else (number, rest.length + 1)

/-- The greatest number of sixty-four bits. -/
def greatestWord : Nat := 0xFFFFFFFFFFFFFFFF

/-- The greatest exponent that is told apart from greater ones. -/
def greatestExponent : Nat := 0x7FFFFFFF

/-- The greatest power of ten that double precision holds. -/
def greatestPower : Nat := 308

/-- A power of ten in double precision. -/
def powerOfTen (power : Nat) : Float := Float.ofScientific 1 false power

/-- Divides by a power of ten, in steps where the power is too great. -/
def dividedByPower (number : Float) (power : Nat) : Float :=
  if _h : power ≤ greatestPower then number / powerOfTen power
  else if number == 0 then number
  else dividedByPower (number / powerOfTen greatestPower) (power - greatestPower)
termination_by power
decreasing_by simp only [greatestPower] at *; omega

/-- A significand times a power of ten, unless that is too great. -/
def scaled? (significand : Nat) (exponent : Int) : Option Float :=
  let number := significand.toUInt64.toFloat
  if exponent < 0 then some (dividedByPower number exponent.natAbs)
  else if exponent.natAbs ≤ greatestPower then
    let product := number * powerOfTen exponent.natAbs
    if product.isInf then none else some product
  else if significand == 0 then some number
  else none

/-- The number with a sign, a significand and a power of ten. -/
def realNumber (isNegative : Bool) (significand : Nat) (exponent : Int) : Reader Json :=
  match scaled? significand exponent with
  | some magnitude =>
    pure (.real (Binary64.ofFloat (if isNegative then -magnitude else magnitude)))
  | none => failBehind .numberOutOfRange

/-- The sign of an exponent; true for a minus. -/
def exponentSign : Reader Bool := do
  match ← peek with
  | some '-' => pass 1; return true
  | some '+' => pass 1; return false
  | _ => return false

/-- A number from the mark of its exponent on. -/
def exponentPart (isNegative : Bool) (significand : Nat) (exponent : Int) : Reader Json := do
  pass 1
  let isSmall ← exponentSign
  let start := (← get).offset
  let digits ← passWhile Char.isDigit
  if digits.isEmpty then
    failAhead (if (← peek).isNone then .endInValue else .invalidNumber)
  else
    let (power, left) := appendDigits greatestExponent 0 digits
    if left == 0 then
      realNumber isNegative significand (if isSmall then exponent - power else exponent + power)
    else if significand == 0 || isSmall then realNumber isNegative 0 0
    else failAt (start + (digits.length - left + 1)) .numberOutOfRange

/-- A number from behind its digits on, where it may have an exponent. -/
def afterDigits (isNegative : Bool) (significand : Nat) (exponent : Int) : Reader Json := do
  match ← peek with
  | some 'e' | some 'E' => exponentPart isNegative significand exponent
  | _ => realNumber isNegative significand exponent

/-- A number from its point on. -/
def fractionPart (isNegative : Bool) (significand : Nat) (exponent : Int) : Reader Json := do
  pass 1
  let digits ← passWhile Char.isDigit
  if digits.isEmpty then
    failAhead (if (← peek).isNone then .endInValue else .invalidNumber)
  else
    let (extended, left) := appendDigits greatestWord significand digits
    afterDigits isNegative extended (exponent - (digits.length - left : Nat))

/-- The number of a sign and a significand: zero with a minus is no whole number. -/
def wholeNumber (isNegative : Bool) (significand : Nat) : Reader Json :=
  if !isNegative then pure (.integer significand)
  else if significand == 0 || 0x8000000000000000 < significand then realNumber true significand 0
  else pure (.integer (-significand))

/-- The digits before the point: a zero stands alone. -/
def wholeDigits : Reader (List Char) := do
  match ← peek with
  | none => failAhead .endInValue
  | some '0' => do
    pass 1
    if (← peek).any Char.isDigit then failAhead .invalidNumber else return ['0']
  | some c => if c.isDigit then passWhile Char.isDigit else failAhead .invalidNumber

/-- A number behind its sign. -/
def numeral (isNegative : Bool) : Reader Json := do
  let (significand, left) := appendDigits greatestWord 0 (← wholeDigits)
  match ← peek with
  | some '.' => fractionPart isNegative significand left
  | some 'e' | some 'E' => exponentPart isNegative significand left
  | _ =>
    if left == 0 then wholeNumber isNegative significand
    else realNumber isNegative significand left

end SsrBuild.Json
