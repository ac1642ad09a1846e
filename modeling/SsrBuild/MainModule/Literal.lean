/-!
String literals in the main module. A backslash stands before backslashes and quotes, a line end is
written by a letter, and carriage returns are left out, so a literal stays on its line.
-/

set_option autoImplicit false

namespace SsrBuild.MainModule

/-- How a character stands in a literal. -/
def literalChar : Char → List Char
  | '\\' => ['\\', '\\']
  | '"' => ['\\', '"']
  | '\n' => ['\\', 'n']
  | '\r' => []
  | c => [c]

/-- The literal of a text. -/
def literal (text : List Char) : List Char :=
  '"' :: (text.flatMap literalChar ++ ['"'])

end SsrBuild.MainModule
