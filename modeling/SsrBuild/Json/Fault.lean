/-!
What can be wrong with a text that should be a value, and where: the line, and how many bytes of
it have been read.
-/

set_option autoImplicit false

namespace SsrBuild.Json

/-- What is wrong with a text. -/
inductive Cause
  | endInValue | endInList | endInObject | endInString
  | noValue | noWord | noColon | noCommaInList | noCommaInObject
  | keyNotString | trailingComma | trailingCharacters
  | invalidNumber | numberOutOfRange
  | invalidEscape | brokenPair | loneSurrogate | controlCharacter
  | tooDeep
  deriving DecidableEq, Repr

/-- The wording of a cause. -/
def Cause.message : Cause → String
  | endInValue => "EOF while parsing a value"
  | endInList => "EOF while parsing a list"
  | endInObject => "EOF while parsing an object"
  | endInString => "EOF while parsing a string"
  | noValue => "expected value"
  | noWord => "expected ident"
  | noColon => "expected \x60:\x60"
  | noCommaInList => "expected \x60,\x60 or \x60]\x60"
  | noCommaInObject => "expected \x60,\x60 or \x60\x7d\x60"
  | keyNotString => "key must be a string"
  | trailingComma => "trailing comma"
  | trailingCharacters => "trailing characters"
  | invalidNumber => "invalid number"
  | numberOutOfRange => "number out of range"
  | invalidEscape => "invalid escape"
  | brokenPair => "unexpected end of hex escape"
  | loneSurrogate => "lone leading surrogate in hex escape"
  | controlCharacter => "control character (\\u0000-\\u001F) found while parsing a string"
  | tooDeep => "recursion limit exceeded"

/-- A cause and the number of bytes read before it was found. -/
structure Fault where
  cause : Cause
  offset : Nat
  deriving DecidableEq, Repr

/-- A line, counted from one, and a number of bytes read of it. -/
structure Position where
  line : Nat
  column : Nat
  deriving DecidableEq, Repr

namespace Position

/-- The position after some more bytes of a text. -/
def after (position : Position) : List Char → Nat → Position
  | [], _ | _, 0 => position
  | c :: rest, count + 1 =>
    if c == '\n' then after ⟨position.line + 1, 0⟩ rest count
    else if c.utf8Size ≤ count + 1 then
      after ⟨position.line, position.column + c.utf8Size⟩ rest (count + 1 - c.utf8Size)
    else ⟨position.line, position.column + (count + 1)⟩

/-- The position after the first bytes of a text. -/
def ofOffset (text : List Char) (offset : Nat) : Position :=
  after ⟨1, 0⟩ text offset

end Position

/-- What is wrong with a text, and where. -/
structure Malformed where
  cause : Cause
  position : Position
  deriving DecidableEq, Repr

/-- The wording of a fault in a text. -/
def Malformed.message (malformed : Malformed) : String :=
  malformed.cause.message ++ " at line " ++ toString malformed.position.line ++ " column " ++
    toString malformed.position.column

end SsrBuild.Json
