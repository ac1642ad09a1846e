import SsrBuild.Json.Fault
import SsrBuild.Text.Span

/-!
Readers of a text from left to right. A reader knows how many bytes lie behind it and which
characters lie ahead, and gives a result and the place it has come to, or a fault. A fault in the
next character is found when the first byte of that character has been read.
-/

set_option autoImplicit false

namespace SsrBuild.Json

/-- A place in a text. -/
structure Place where
  /-- The number of bytes behind. -/
  offset : Nat
  ahead : List Char
  deriving Repr

/-- A reader. -/
abbrev Reader := StateT Place (Except Fault)

namespace Reader

variable {α : Type}

/-- Fails at an offset. -/
def failAt (offset : Nat) (cause : Cause) : Reader α := fun _ => .error ⟨cause, offset⟩

/-- Fails behind the last character read. -/
def failBehind (cause : Cause) : Reader α := fun place => .error ⟨cause, place.offset⟩

/-- Fails at the next character, or at the end of the text. -/
def failAhead (cause : Cause) : Reader α := fun place =>
  .error ⟨cause, if place.ahead.isEmpty then place.offset else place.offset + 1⟩

/-- The next character, if there is one. -/
def peek : Reader (Option Char) := fun place => .ok (place.ahead.head?, place)

/-- Passes the next characters, as many as the number says. -/
def pass (count : Nat) : Reader Unit := fun place =>
  .ok ((), ⟨place.offset + Text.byteCount (place.ahead.take count), place.ahead.drop count⟩)

/-- Passes the characters that satisfy the test, up to the first one that does not. -/
def passWhile (test : Char → Bool) : Reader (List Char) := fun place =>
  let passed := place.ahead.takeWhile test
  .ok (passed, ⟨place.offset + Text.byteCount passed, place.ahead.dropWhile test⟩)

/-- Spaces, tabs and line ends. -/
def isBlank (c : Char) : Bool := c == ' ' || c == '\n' || c == '\t' || c == '\r'

/-- The next character after blanks. -/
def peekPastBlanks : Reader (Option Char) := do
  let _ ← passWhile isBlank
  peek

end Reader

end SsrBuild.Json
