import SsrBuild.Decimal.Shortest

/-!
How a number with a fraction is written: its shortest digits with a point among them while the
power of ten of the first digit is at least -5 and below 16, and otherwise with an exponent that
has a sign and at least two digits. A whole number keeps a zero after the point.
-/

set_option autoImplicit false

namespace SsrBuild

/-- The digits of a natural number. -/
def decimalDigits (n : Nat) : List Char := Nat.toDigits 10 n

namespace Decimal

/-- The least power of ten of the first digit that is written without an exponent. -/
def leastPlain : Int := -5

/-- The least power of ten of the first digit that is written with an exponent again. -/
def leastScientific : Int := 16

/-- The exponent of a number in scientific notation. -/
def exponentText (power : Int) : List Char :=
  let digits := decimalDigits power.natAbs
  'e' :: (if power < 0 then '-' else '+') :: if digits.length < 2 then '0' :: digits else digits

/-- A decimal without an exponent. -/
def plain (decimal : Decimal) : List Char :=
  let digits := decimalDigits decimal.digits
  if 0 ≤ decimal.exponent then digits ++ List.replicate decimal.exponent.toNat '0' ++ ['.', '0']
  else
    let places := (-decimal.exponent).toNat
    if places < digits.length then
      digits.take (digits.length - places) ++ '.' :: digits.drop (digits.length - places)
    else '0' :: '.' :: (List.replicate (places - digits.length) '0' ++ digits)

/-- A decimal with one digit before the point and an exponent. -/
def scientific (decimal : Decimal) : List Char :=
  let digits := decimalDigits decimal.digits
  let power := decimal.exponent + (digits.length - 1 : Nat)
  match digits with
  | [] => []
  | [digit] => digit :: exponentText power
  | digit :: rest => digit :: '.' :: (rest ++ exponentText power)

/-- A decimal as it is written. -/
def text (decimal : Decimal) : List Char :=
  let power := decimal.exponent + ((decimalDigits decimal.digits).length - 1 : Nat)
  if leastPlain ≤ power && power < leastScientific then decimal.plain else decimal.scientific

end Decimal

/-- A number of double precision as it is written. -/
def Binary64.text (number : Binary64) : List Char :=
  let magnitude := if number.significand == 0 then ['0', '.', '0'] else number.shortest.text
  if number.isNegative then '-' :: magnitude else magnitude

/-- A whole number as it is written. -/
def integerText (n : Int) : List Char :=
  if n < 0 then '-' :: decimalDigits n.natAbs else decimalDigits n.natAbs

end SsrBuild
