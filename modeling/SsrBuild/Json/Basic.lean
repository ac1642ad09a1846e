import SsrBuild.Decimal.Binary64
import SsrBuild.Dictionary

/-!
Values of the data format of configurations. Whole numbers in the range of sixty-four bits are kept
as they are, and every other number in double precision.
-/

set_option autoImplicit false

namespace SsrBuild

/-- A value. -/
inductive Json
  | null
  | boolean (value : Bool)
  | integer (value : Int)
  | real (value : Binary64)
  | string (text : List Char)
  | array (elements : List Json)
  | object (fields : List (List Char × Json))
  deriving Repr, Inhabited

namespace Json

/-- An object without fields. -/
def emptyObject : Json := object []

/-- The value of a field, if the value is an object that has the field. -/
def field? (name : List Char) : Json → Option Json
  | object fields => Dictionary.get? name fields
  | _ => none

/-- The value behind several names, one below the other. -/
def lookup (names : List (List Char)) (value : Json) : Option Json :=
  names.foldlM (fun inner name => inner.field? name) value

/-- The text of a value that is a string. -/
def text? : Json → Option (List Char)
  | string text => some text
  | _ => none

/-- Names in a row are looked up one after the other. -/
theorem lookup_append (first second : List (List Char)) (value : Json) :
    value.lookup (first ++ second) = (value.lookup first).bind (lookup second) := by
  simp only [lookup, List.foldlM_append]
  rfl

end Json

end SsrBuild
