import SsrBuild.Grammar.TypeExpression

/-!
Declarations of types: aliases, interfaces, enumerations, and namespaces, which hold statements.
-/

set_option autoImplicit false

namespace SsrBuild.Grammar

open Grammar.Parser

variable (parse : Goal → Parser Tree)

/-- The type that is given a name. The word for a type that is built in counts only here. -/
def aliasedType : Parser Tree := do
  if (← sees .kwIntrinsic) && !(← peekSees .dot) then leaf .other else parse .type

/-- A name for a type. -/
def typeAlias (start : Nat) : Parser Tree := do
  expect .kwType
  let name ← bindingIdentifier
  let types ← typeParameters? parse
  expect .assign
  let type ← aliasedType parse
  endStatement
  close start .other (name :: types ++ [type])

/-- An interface with the types that it extends. -/
def interface (start : Nat) : Parser Tree := do
  expect .kwInterface
  let name ← bindingIdentifier
  let types ← typeParameters? parse
  let extended ← if ← eat .kwExtends then
      let first ← implementedType parse
      let others ← many do
        if ← eat .comma then return some (← implementedType parse) else return none
      pure (first :: others)
    else pure []
  let members ← typeMembers parse
  close start .other (name :: types ++ extended ++ [members])

/-- The name of a member of an enumeration: a word, a string, or a string in brackets. -/
def enumMemberName : Parser Tree := do
  match ← token with
  | .string => stringLiteral
  | .lbrack =>
    take
    let name ← if ← sees .template then template parse false else stringLiteral
    expect .rbrack
    return name
  | _ => anyWord

/-- A member of an enumeration, with its value. -/
def enumMember : Parser Tree := do
  let start ← mark
  let name ← enumMemberName parse
  let value ← if ← sees .assign then pure [← initialValue parse] else pure []
  close start .other (name :: value)

/-- An enumeration. -/
def enumeration (start : Nat) : Parser Tree := do
  expect .kwEnum
  let name ← bindingIdentifier
  let bodyStart ← mark
  expect .lbrace
  let members ← commaList .rbrace (enumMember parse)
  expect .rbrace
  let body ← close bodyStart .other members
  close start .other [name, body]

/-- A node for each name with points between them, the later ones inside the earlier ones. -/
def nestNamespaces (body : Tree) : List (Nat × Tree) → Parser Tree
  | [] => return body
  | (start, name) :: inner => do
    let nested ← nestNamespaces body inner
    close start .other [name, nested]

/-- A namespace after its keyword. -/
def namespaceBody (start : Nat) : Parser Tree := do
  let first ← bindingIdentifier
  let others ← many do
    if ← eat .dot then
      let innerStart ← mark
      let name ← bindingIdentifier
      return some (innerStart, name)
    else return none
  let body ← block parse .other
  nestNamespaces body ((start, first) :: others)

/-- A namespace, or a module named by a string, whose body may be missing. -/
def namespaceDeclaration (start : Nat) : Parser Tree := do
  let isModule ← sees .kwModule
  take
  if isModule && (← sees .string) then
    let name ← stringLiteral
    let body ← if ← sees .lbrace then pure [← block parse .other] else pure []
    if body.isEmpty then endStatement
    close start .other (name :: body)
  else namespaceBody parse start

/-- What is added to the global scope. -/
def globalDeclaration (start : Nat) : Parser Tree := do
  expect .kwGlobal
  let body ← block parse .other
  close start .other [body]

/-! ### Aliases of modules -/

/-- A name for a module or for a member of a namespace, after the name. -/
def aliasRest (start : Nat) (name : Tree) : Parser Tree := do
  expect .assign
  let targetStart ← mark
  let target ← if ← sees .kwRequire then
      takeName
      expect .lparen
      let source ← stringLiteral
      expect .rparen
      close targetStart .other [source]
    else typeName
  endStatement
  close start .other [name, target]

end SsrBuild.Grammar
