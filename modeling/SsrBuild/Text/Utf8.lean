/-!
Text as bytes in UTF-8. Reading splits the bytes into characters and stretches that are no
character, each as long as it could have begun one; a reader may refuse such stretches or put the
replacement character in their place.
-/

set_option autoImplicit false

namespace SsrBuild.Text

/-- The bytes of a text. -/
def encode (text : List Char) : List UInt8 :=
  text.flatMap String.utf8EncodeChar

/-- The bytes that may come second after a first byte of two, three or four. -/
def mayFollow (first second : Nat) : Bool :=
  let least := if first == 0xE0 then 0xA0 else if first == 0xF0 then 0x90 else 0x80
  let most := if first == 0xED then 0x9F else if first == 0xF4 then 0x8F else 0xBF
  least ≤ second && second ≤ most

/-- May the byte stand third or fourth? -/
def isContinuation (byte : Nat) : Bool :=
  0x80 ≤ byte && byte ≤ 0xBF

/-- The number of bytes that a first byte announces; zero for a byte that cannot be first. -/
def announced (first : Nat) : Nat :=
  if first < 0x80 then 1
  else if 0xC2 ≤ first && first ≤ 0xDF then 2
  else if 0xE0 ≤ first && first ≤ 0xEF then 3
  else if 0xF0 ≤ first && first ≤ 0xF4 then 4
  else 0

/-- The bytes after the first that belong to it, as far as they are there. -/
def belonging (first : Nat) (rest : List Nat) : List Nat :=
  match rest.take (announced first - 1) with
  | [] => []
  | second :: others =>
    if mayFollow first second then second :: others.takeWhile isContinuation else []

/-- The character of a first byte and all the bytes that belong to it. -/
def assembled (first : Nat) (others : List Nat) : Char :=
  let head := match announced first with
    | 2 => first - 0xC0
    | 3 => first - 0xE0
    | 4 => first - 0xF0
    | _ => first
  Char.ofNat (others.foldl (fun code byte => 64 * code + (byte - 0x80)) head)

/-- The characters of some bytes, with nothing for a stretch that is no character. -/
def decodeEach : Nat → List Nat → List (Option Char)
  | 0, _ | _, [] => []
  | count + 1, first :: rest =>
    let others := belonging first rest
    let character :=
      if announced first == others.length + 1 then some (assembled first others) else none
    character :: decodeEach count (rest.drop others.length)

/-- The characters of some bytes, with nothing for a stretch that is no character. -/
def characters (bytes : List UInt8) : List (Option Char) :=
  decodeEach bytes.length (bytes.map UInt8.toNat)

/-- The text of some bytes, if all of them belong to characters. -/
def decode? (bytes : List UInt8) : Option (List Char) :=
  (characters bytes).mapM id

/-- The text of some bytes, with the replacement character for what is no character. -/
def decodeReplacing (bytes : List UInt8) : List Char :=
  (characters bytes).map fun character => character.getD '\uFFFD'

end SsrBuild.Text
