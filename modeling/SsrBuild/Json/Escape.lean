import SsrBuild.Json.Cursor

/-!
Strings. A backslash begins an escape: one of eight short ones, or four digits in sixteens. Two
such numbers stand together for a character beyond the first plane.
-/

set_option autoImplicit false

namespace SsrBuild.Json

open Reader

/-- The value of a digit in sixteens. -/
def hexValue? (c : Char) : Option Nat :=
  if c.isDigit then some (c.toNat - '0'.toNat)
  else if 'a' ≤ c && c ≤ 'f' then some (c.toNat - 'a'.toNat + 10)
  else if 'A' ≤ c && c ≤ 'F' then some (c.toNat - 'A'.toNat + 10)
  else none

/-- The number of some digits in sixteens. -/
def hexNumber? (digits : List Char) : Option Nat :=
  digits.foldlM (fun number c => do return 16 * number + (← hexValue? c)) 0

/-- The number of four digits in sixteens. Four bytes are read, whatever they are. -/
def fourHexDigits : Reader Nat := do
  let place ← get
  let digits := place.ahead.take 4
  let size := Text.byteCount digits
  if size < 4 then failAt (place.offset + size) .endInString
  else match hexNumber? digits with
    | some number => pass 4; return number
    | none => failAt (place.offset + 4) .invalidEscape

/-- Is the number the first of a pair? -/
def isFirstOfPair (number : Nat) : Bool := 0xD800 ≤ number && number ≤ 0xDBFF

/-- Is the number the second of a pair? -/
def isSecondOfPair (number : Nat) : Bool := 0xDC00 ≤ number && number ≤ 0xDFFF

/-- Passes a character that has to follow the first number of a pair. -/
def passInPair (wanted : Char) : Reader Unit := do
  match ← peek with
  | none => failBehind .endInString
  | some c => if c == wanted then pass 1 else failAhead .brokenPair

/-- The character of an escape by number. -/
def numbered : Reader Char := do
  let first ← fourHexDigits
  if isSecondOfPair first then failBehind .loneSurrogate
  else if isFirstOfPair first then do
    passInPair '\\'
    passInPair 'u'
    let second ← fourHexDigits
    if isSecondOfPair second then
      return Char.ofNat (0x10000 + 0x400 * (first - 0xD800) + (second - 0xDC00))
    else failBehind .loneSurrogate
  else return Char.ofNat first

/-- The characters that escapes of one letter stand for. -/
def shortEscape? : Char → Option Char
  | '"' => some '"'
  | '\\' => some '\\'
  | '/' => some '/'
  | 'b' => some '\x08'
  | 'f' => some '\x0c'
  | 'n' => some '\n'
  | 'r' => some '\r'
  | 't' => some '\t'
  | _ => none

/-- The character of an escape, behind the backslash. -/
def escaped : Reader Char := do
  match ← peek with
  | none => failBehind .endInString
  | some 'u' => pass 1; numbered
  | some c =>
    match shortEscape? c with
    | some character => pass 1; return character
    | none => failAhead .invalidEscape

/-- The rest of a string of at most so many characters, and its closing quote. -/
def stringTail : Nat → Reader (List Char)
  | 0 => failBehind .endInString
  | count + 1 => do
    match ← peek with
    | none => failBehind .endInString
    | some '"' => pass 1; return []
    | some '\\' => do
      pass 1
      let c ← escaped
      return c :: (← stringTail count)
    | some c => do
      if c.toNat < 0x20 then failAhead .controlCharacter
      else do
        pass 1
        return c :: (← stringTail count)

/-- A string, from its opening quote on. -/
def quotedString : Reader (List Char) := do
  pass 1
  stringTail ((← get).ahead.length + 1)

end SsrBuild.Json
