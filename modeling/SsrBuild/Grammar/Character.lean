import SsrBuild.Text.Identifier

/-!
Character classes of program text that no Unicode property gives alone: blanks between tokens, line
ends, digits of the four bases, and the escapes of names, strings and templates.
-/

set_option autoImplicit false

namespace SsrBuild.Grammar

/-- The four characters that end a line. -/
def isLineEnd (c : Char) : Bool :=
  c == '\n' || c == '\r' || c.toNat == 0x2028 || c.toNat == 0x2029

/-- Blanks that separate tokens and end no line. The byte-order mark and the space without width
are two of them anywhere. -/
def isSpace (c : Char) : Bool :=
  let n := c.toNat
  n == 0x20 || n == 0x09 || n == 0x0B || n == 0x0C || n == 0x85 || n == 0xA0 || n == 0x1680 ||
    (0x2000 ≤ n && n ≤ 0x200B) || n == 0x202F || n == 0x205F || n == 0x3000 || n == 0xFEFF

/-- The value of a hexadecimal digit. -/
def hexDigit? (c : Char) : Option Nat :=
  if '0' ≤ c && c ≤ '9' then some (c.toNat - 0x30)
  else if 'a' ≤ c && c ≤ 'f' then some (c.toNat - 0x57)
  else if 'A' ≤ c && c ≤ 'F' then some (c.toNat - 0x37)
  else none

def isHexDigit (c : Char) : Bool := (hexDigit? c).isSome
def isOctalDigit (c : Char) : Bool := '0' ≤ c && c ≤ '7'
def isBinaryDigit (c : Char) : Bool := c == '0' || c == '1'

/-- The number that hexadecimal digits write. -/
def hexNumber? (digits : List Char) : Option Nat :=
  digits.foldl (fun sum c => do return (← sum) * 16 + (← hexDigit? c)) (some 0)

/-- The code point written by the digits after an opening brace, with the count of characters read
up to and with the closing brace. -/
def bracedCode? : Nat → Option Nat → List Char → Option (Nat × Nat)
  | read, some code, '}' :: _ => some (code, read + 1)
  | read, code, c :: rest => do
    let next := code.getD 0 * 16 + (← hexDigit? c)
    if next ≤ 0x10FFFF then bracedCode? (read + 1) (some next) rest else none
  | _, _, [] => none

/-- The code point of a Unicode escape, read after its letter `u`, with the count of characters
read: four digits, or any number of digits in braces. -/
def unicodeEscape? : List Char → Option (Nat × Nat)
  | '{' :: rest => bracedCode? 1 none rest
  | a :: b :: c :: d :: _ => do return (← hexNumber? [a, b, c, d], 4)
  | _ => none

/-- The character of a code point; a surrogate, which is no character, reads as U+FFFD. -/
def characterOf (code : Nat) : Char :=
  if h : code.isValidChar then Char.ofNatAux code h else '\uFFFD'

/-- The code point of a pair of surrogates. -/
def pairedCode? (high low : Nat) : Option Nat :=
  if 0xD800 ≤ high && high < 0xDC00 && 0xDC00 ≤ low && low < 0xE000 then
    some (0x10000 + (high - 0xD800) * 0x400 + (low - 0xDC00))
  else none

/-- The code point of two Unicode escapes of four digits each, read after the first letter `u`, if
they are a pair of surrogates. -/
def pairedEscape? : List Char → Option Nat
  | a :: b :: c :: d :: '\\' :: 'u' :: e :: f :: g :: h :: _ => do
    pairedCode? (← hexNumber? [a, b, c, d]) (← hexNumber? [e, f, g, h])
  | _ => none

/-- What a backslash introduces: the characters denoted and the count of characters after the
backslash. -/
structure Escape where
  denotes : List Char
  length : Nat
  /-- A template admits the escape. -/
  inTemplate : Bool := true
  /-- The escape denotes no lone surrogate. -/
  isPaired : Bool := true

/-- The escape of a code point. A lone surrogate is denoted by U+FFFD and its digits. -/
def codeEscape (code length : Nat) : Escape :=
  if code.isValidChar then { denotes := [characterOf code], length }
  else { denotes := characterOf code :: Nat.toDigits 16 code, length, isPaired := false }

/-- An escape by up to three octal digits, and the lone digits 8 and 9. Only a zero that no digit
follows is admitted in templates. -/
def digitEscape (first : Char) (rest : List Char) : Escape :=
  let more := (rest.takeWhile isOctalDigit).take (if first ≤ '3' then 2 else 1)
  let code := (first :: more).foldl (fun sum c => sum * 8 + (c.toNat - 0x30)) 0
  let inTemplate := first == '0' && !(rest.head?.any Char.isDigit)
  if isOctalDigit first then
    { denotes := [characterOf code], length := more.length + 1, inTemplate }
  else { denotes := [first], length := 1, inTemplate }

/-- The escape after a backslash, if it is well formed. -/
def escape? : List Char → Option Escape
  | [] => none
  | '\r' :: '\n' :: _ => some { denotes := [], length := 2 }
  | 'x' :: a :: b :: _ => do return codeEscape (← hexNumber? [a, b]) 3
  | 'x' :: _ => none
  | 'u' :: rest =>
    match pairedEscape? rest with
    | some code => some (codeEscape code 11)
    | none => do
      let (code, read) ← unicodeEscape? rest
      return codeEscape code (read + 1)
  | c :: rest =>
    some <|
      if isLineEnd c then { denotes := [], length := 1 }
      else if c.isDigit then digitEscape c rest
      else
        let named := match c with
          | 'n' => '\n' | 't' => '\t' | 'r' => '\r'
          | 'b' => '\x08' | 'f' => '\x0C' | 'v' => '\x0B'
          | other => other
        { denotes := [named], length := 1 }

end SsrBuild.Grammar
