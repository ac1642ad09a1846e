import SsrBuild.Json.Escape
import SsrBuild.Json.Numeral

/-!
Reading a value from its text. Lists and objects may stand in each other up to a limit. The fields
of an object are put in order, and of fields with one name the last one counts.
-/

set_option autoImplicit false

namespace SsrBuild.Json

open Reader

/-- Passes the letters of a word, and fails at the first one that is another. -/
def word (result : Json) : List Char → Reader Json
  | [] => pure result
  | letter :: rest => do
    match ← peek with
    | none => failAhead .endInValue
    | some c => if c == letter then do pass 1; word result rest else failAhead .noWord

/-- The elements of a list from the next one on, and its closing bracket. -/
def elementsTail (element : Reader Json) : Nat → Reader (List Json)
  | 0 => failAhead .endInList
  | count + 1 => do
    let first ← element
    match ← peekPastBlanks with
    | none => failAhead .endInList
    | some ']' => pass 1; return [first]
    | some ',' => do
      pass 1
      match ← peekPastBlanks with
      | none => failAhead .endInValue
      | some ']' => failAhead .trailingComma
      | some _ => return first :: (← elementsTail element count)
    | some _ => failAhead .noCommaInList

/-- A list, from its opening bracket on. -/
def list (element : Reader Json) : Reader Json := do
  pass 1
  match ← peekPastBlanks with
  | none => failAhead .endInList
  | some ']' => pass 1; return array []
  | some _ => return array (← elementsTail element ((← get).ahead.length + 1))

/-- Passes the colon between a key and its value. -/
def colon : Reader Unit := do
  match ← peekPastBlanks with
  | none => failAhead .endInObject
  | some ':' => pass 1
  | some _ => failAhead .noColon

/-- The fields of an object from the key of the next one on, and its closing brace. -/
def fieldsTail (element : Reader Json) : Nat → Dictionary Json → Reader (Dictionary Json)
  | 0, _ => failAhead .endInObject
  | count + 1, fields => do
    let key ← quotedString
    colon
    let known := fields.insert key (← element)
    match ← peekPastBlanks with
    | none => failAhead .endInObject
    | some '\x7d' => pass 1; return known
    | some ',' => do
      pass 1
      match ← peekPastBlanks with
      | none => failAhead .endInValue
      | some '"' => fieldsTail element count known
      | some '\x7d' => failAhead .trailingComma
      | some _ => failAhead .keyNotString
    | some _ => failAhead .noCommaInObject

/-- An object, from its opening brace on. -/
def fieldList (element : Reader Json) : Reader Json := do
  pass 1
  match ← peekPastBlanks with
  | none => failAhead .endInObject
  | some '\x7d' => pass 1; return object []
  | some '"' => return object (← fieldsTail element ((← get).ahead.length + 1) [])
  | some _ => failAhead .keyNotString

/-- A value whose elements are read by the given reader, where it may have elements. -/
def valueOf (element : Option (Reader Json)) : Reader Json := do
  match ← peekPastBlanks with
  | none => failAhead .endInValue
  | some 'n' => word .null "null".toList
  | some 't' => word (.boolean true) "true".toList
  | some 'f' => word (.boolean false) "false".toList
  | some '-' => pass 1; numeral true
  | some '"' => return string (← quotedString)
  | some '[' => element.elim (failAhead .tooDeep) list
  | some '\x7b' => element.elim (failAhead .tooDeep) fieldList
  | some c => if c.isDigit then numeral false else failAhead .noValue

/-- A value with at most so many lists and objects in each other. -/
def value : Nat → Reader Json
  | 0 => valueOf none
  | limit + 1 => valueOf (some (value limit))

/-- A value with nothing but blanks after it. -/
def document (limit : Nat) : Reader Json := do
  let result ← value limit
  match ← peekPastBlanks with
  | none => return result
  | some _ => failAhead .trailingCharacters

/-- How many lists and objects may stand in each other. -/
def nestingLimit : Nat := 127

/-- Reads a value with at most so many lists and objects in each other. -/
def readWithin (limit : Nat) (text : List Char) : Except Malformed Json :=
  match document limit ⟨0, text⟩ with
  | .ok (result, _) => .ok result
  | .error fault => .error ⟨fault.cause, Position.ofOffset text fault.offset⟩

/-- Reads a value. -/
def read (text : List Char) : Except Malformed Json :=
  readWithin nestingLimit text

end SsrBuild.Json
