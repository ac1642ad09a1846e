import SsrBuild.Text.CharacterSet
import SsrBuild.Text.IdentifierTable

/-!
Identifier names: the Unicode identifier classes, the dollar sign, the low line and, after the
first character, the two joiners. A reserved word is an identifier name too.
-/

set_option autoImplicit false

namespace SsrBuild.Text

/-- An ASCII letter, the dollar sign or the low line. -/
def isAsciiIdentifierStart (c : Char) : Bool :=
  c.isAlpha || c == '$' || c == '_'

/-- May an identifier begin with this character? -/
def isIdentifierStart (c : Char) : Bool :=
  if c.toNat < 0x80 then isAsciiIdentifierStart c
  else inBoundaries identifierStartBoundaries c.toNat

/-- May an identifier go on with this character? -/
def isIdentifierPart (c : Char) : Bool :=
  if c.toNat < 0x80 then isAsciiIdentifierStart c || c.isDigit
  else c.toNat == 0x200C || c.toNat == 0x200D ||
    inBoundaries identifierContinueBoundaries c.toNat

/-- An identifier name is a start character followed by identifier characters. -/
def isIdentifierName : List Char → Bool
  | [] => false
  | c :: rest => isIdentifierStart c && rest.all isIdentifierPart

end SsrBuild.Text
