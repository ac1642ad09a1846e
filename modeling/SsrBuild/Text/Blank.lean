import SsrBuild.Text.CharacterSet

/-!
Blank characters: the Unicode property `White_Space`, and the text between leading and trailing
blanks.
-/

set_option autoImplicit false

namespace SsrBuild.Text

/-- Boundaries of the Unicode property `White_Space`. -/
def blankBoundaries : List Nat :=
  [0x09, 0x0E, 0x20, 0x21, 0x85, 0x86, 0xA0, 0xA1, 0x1680, 0x1681, 0x2000, 0x200B, 0x2028, 0x202A,
    0x202F, 0x2030, 0x205F, 0x2060, 0x3000, 0x3001]

/-- Has the character the property `White_Space`? -/
def isBlank (c : Char) : Bool :=
  inBoundaries blankBoundaries c.toNat

/-- The text without its leading and trailing blanks. -/
def trim (text : List Char) : List Char :=
  ((text.dropWhile isBlank).reverse.dropWhile isBlank).reverse

end SsrBuild.Text
