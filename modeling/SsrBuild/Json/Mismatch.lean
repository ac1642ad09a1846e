import SsrBuild.Decimal.Notation
import SsrBuild.Json.Basic
import SsrBuild.Text.Quoted

/-!
What can be wrong with the shape of a value where a record, a list or a text is expected. A record
is an object, or a list of its fields in their order.
-/

set_option autoImplicit false

namespace SsrBuild.Json

/-- What is expected in a place. -/
inductive Expected
  | configuration | paths | moduleSource | sequence | text
  deriving DecidableEq, Repr

/-- The wording for what is expected. -/
def Expected.wording : Expected → String
  | configuration => "struct RawConfig"
  | paths => "struct RawPaths"
  | moduleSource => "struct ModuleSource"
  | sequence => "a sequence"
  | text => "a string"

/-- The wording for what is found. -/
def found : Json → String
  | null => "null"
  | boolean value => "boolean \x60" ++ (if value then "true" else "false") ++ "\x60"
  | integer value => "integer \x60" ++ String.ofList (integerText value) ++ "\x60"
  | real value => "floating point \x60" ++ String.ofList value.text ++ "\x60"
  | string text => "string " ++ String.ofList (Text.quoted text)
  | array _ => "sequence"
  | object _ => "map"

/-- What is wrong with the shape of a value. -/
inductive Mismatch
  | wrongType (value : Json) (expected : Expected)
  /-- A list is longer than the record has fields. -/
  | tooLong (length : Nat)
  /-- A list is empty where a record has a field without a default. -/
  | empty (expected : Expected) (fields : String)
  | missingField (name : String)
  /-- A value is none of the spellings of an import or a plugin. -/
  | noSpelling (name : String)
  deriving Repr

/-- The wording of a mismatch. -/
def Mismatch.message : Mismatch → String
  | wrongType value expected => "invalid type: " ++ found value ++ ", expected " ++ expected.wording
  | tooLong length =>
    "invalid length " ++ toString length ++ ", expected fewer elements in array"
  | empty expected fields =>
    "invalid length 0, expected " ++ expected.wording ++ " with " ++ fields
  | missingField name => "missing field \x60" ++ name ++ "\x60"
  | noSpelling name => "data did not match any variant of untagged enum " ++ name

/-- A text. -/
def asText : Json → Except Mismatch (List Char)
  | string text => .ok text
  | value => .error (.wrongType value .text)

/-- A text, or nothing for null. -/
def asOptionalText : Json → Except Mismatch (Option (List Char))
  | null => .ok none
  | value => return some (← value.asText)

/-- The elements of a list, each read in the same way. -/
def asSequence {α : Type} (element : Json → Except Mismatch α) : Json → Except Mismatch (List α)
  | array elements => elements.mapM element
  | value => .error (.wrongType value .sequence)

/-- Refuses a list that is longer than the record has fields. -/
def checkLength (fields : Nat) (elements : List Json) : Except Mismatch Unit :=
  if fields < elements.length then .error (.tooLong elements.length) else .ok ()

end SsrBuild.Json
