import SsrBuild.Grammar.ClassDefinition

/-!
The members of object types and of interfaces: calls, constructions, accessors, indices, properties
and methods. None of them has a body.
-/

set_option autoImplicit false

namespace SsrBuild.Grammar

open Grammar.Parser

variable (parse : Goal → Parser Tree)

/-- Type parameters, parameters and the type of the result after one of the given marks. What
constructs gives no type to `this`. -/
def signatureParts (constructs : Bool) (resultMarks : List Token) : Parser (List Tree) := do
  let types ← typeParameters? parse
  let (forThis, others) ← parameters parse .plain
  complainIf (constructs && !forThis.isEmpty)
  let result ← resultType? parse resultMarks
  return types ++ forThis ++ others :: result

/-- Does a construction stand here, and not a member named `new`? -/
def seesConstruction : Parser Bool := do
  if ← sees .kwNew then foresees (do takeName; seesAny [.lparen, .less]) else return false

/-- A property or a method after its modifiers; a method has none. -/
def propertyOrMethod (start : Nat) (given : List Token) : Parser Tree := do
  let (key, _) ← propertyName parse
  let _ ← eat .question
  let isMethod ← seesAny [.lparen, .less]
  complainIf (isMethod && !given.isEmpty)
  let parts ← if isMethod then signatureParts parse false [.colon] else typeAnnotation? parse
  endMember
  close start .other (key :: parts)

/-- An accessor after the word that makes it one. It has no type parameters, and a setter has no
result. -/
def accessorSignature (start : Nat) (kind : AccessorKind) : Parser Tree := do
  let (key, _) ← propertyName parse
  let (forThis, others) ← parameters parse .plain
  let result ← resultType? parse [.colon]
  endMember
  complainIf (kind == .setter && !result.isEmpty)
  close start .other (key :: forThis ++ others :: result)

/-- A member of a type. -/
def typeMember : Parser Tree := do
  let start ← mark
  if ← seesAny [.lparen, .less] then
    let parts ← signatureParts parse false [.colon]
    endMember
    close start .other parts
  else if ← seesConstruction then
    take
    let parts ← signatureParts parse true [.colon]
    endMember
    close start .other parts
  else
    let given ← modifiers false false
    admitOnly [.kwReadonly] given
    if let some kind ← accessorKind? then accessorSignature parse start kind
    else if ← seesIndexSignature then indexSignature parse start
    else propertyOrMethod parse start given

/-- The members of a type in braces. -/
def typeMembers : Parser Tree := do
  let start ← mark
  expect .lbrace
  let members ← upTo .rbrace (typeMember parse)
  expect .rbrace
  close start .other members

end SsrBuild.Grammar
