import SsrBuild.Text.CharacterSet
import SsrBuild.Text.UnprintedTable

/-!
Quoted texts, as a message shows them: in double quotes, with a backslash before quotes and
backslashes, short names for four controls, and the code point of every other character that does
not print by itself.
-/

set_option autoImplicit false

namespace SsrBuild.Text

/-- Does the character not print by itself? -/
def isUnprinted (c : Char) : Bool :=
  if c.toNat < 0x80 then c.toNat < 0x20 || c.toNat == 0x7F
  else inBoundaries unprintedBoundaries c.toNat

/-- The code point of a character in sixteens, in braces. -/
def codePoint (c : Char) : List Char :=
  '\\' :: 'u' :: '\x7b' :: (Nat.toDigits 16 c.toNat ++ ['\x7d'])

/-- How a character stands in a quoted text. -/
def quotedChar (c : Char) : List Char :=
  match c with
  | '\t' => ['\\', 't']
  | '\r' => ['\\', 'r']
  | '\n' => ['\\', 'n']
  | '\x00' => ['\\', '0']
  | '"' => ['\\', '"']
  | '\\' => ['\\', '\\']
  | c => if isUnprinted c then codePoint c else [c]

/-- A text in double quotes. -/
def quoted (text : List Char) : List Char :=
  '"' :: (text.flatMap quotedChar ++ ['"'])

end SsrBuild.Text
