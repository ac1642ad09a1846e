import SsrBuild.Grammar.Declaration

/-!
Imports. The words `type`, `defer` and `source` after `import` are names themselves when what
follows makes no sense otherwise.
-/

set_option autoImplicit false

namespace SsrBuild.Grammar

open Grammar.Parser

variable (parse : Goal → Parser Tree)

/-- An attribute of an import: a name and a string, and what the name spells. -/
def importAttribute : Parser (Tree × List Char) := do
  let start ← mark
  let spelled ← value
  let key ← if ← sees .string then stringLiteral else anyWord
  expect .colon
  let given ← stringLiteral
  return (← close start .other [key, given], spelled)

/-- Is a member of the list given twice? -/
def hasDuplicate : List (List Char) → Bool
  | [] => false
  | one :: others => others.contains one || hasDuplicate others

/-- The attributes of an import. No name is given twice. -/
def importAttributes? : Parser (List Tree) := do
  if (← sees .kwWith) || (← sees .kwAssert) && !(← onNewLine) then
    take
    let start ← mark
    expect .lbrace
    let attributes ← commaList .rbrace importAttribute
    expect .rbrace
    complainIf (hasDuplicate (attributes.map Prod.snd))
    return [← close start .other (attributes.map Prod.fst)]
  else return []

/-! ### Names of imports and exports -/

/-- May the token name what a module exports? -/
def isModuleName (token : Token) : Bool :=
  token == .string || token.isIdentifierName

/-- The name of what a module exports, which may be a string without lone surrogates. -/
def moduleName : Parser Tree := do
  complainIf !(← lexeme).isPaired
  if ← sees .string then stringLiteral else anyWord

/-- What the word `type` is in a list of imports or exports. -/
inductive TypeMark
  /-- A name, or it does not stand here. -/
  | absent
  /-- A mark before a name. -/
  | plain
  /-- A mark before the word `as` twice and a name. The second `as` is renamed to that name. -/
  | renaming
  deriving DecidableEq

/-- What the word `type` is here, seen from what follows it. -/
def seesTypeMark : Parser TypeMark := do
  if !((← hasTypes) && (← sees .kwType)) then return .absent
  let ahead ← lookahead do
    takeName
    if ← eat .kwAs then
      if ← eat .kwAs then
        return if isModuleName (← token) then TypeMark.renaming else .absent
      else return if isModuleName (← token) then .absent else .plain
    else return if isModuleName (← token) then .plain else .absent
  return ahead.getD .absent

/-- Takes the word `type` if it is a mark, and tells whether a renaming has begun. In a list of
types there is no such mark. -/
def takeTypeMark (inTypes : Bool) : Parser Bool := do
  match ← seesTypeMark with
  | .absent => return false
  | .plain =>
    complainIf inTypes
    take
    return false
  | .renaming =>
    complainIf inTypes
    take
    take
    return true

/-- A name in a list of imports, with the name that it is bound to. -/
def importSpecifier (inTypes : Bool) : Parser Tree := do
  let start ← mark
  let renames ← takeTypeMark inTypes
  let next ← token
  let isBound := next.isBindingIdentifier
  let mayBind := next.isIdentifier
  let spelled := String.ofList (← value)
  let name ← moduleName
  if ← (if renames then pure true else eat .kwAs) then
    complainIf !(← token).isIdentifier
    let bound ← bindingIdentifier
    close start .other [name, bound]
  else
    failIf !isBound
    complainIf !mayBind
    close start .other [name, .node (.identifier spelled) name.span []]

/-- All that a module exports, bound to one name. -/
def importedNamespace : Parser Tree := do
  let start ← mark
  expect .star
  expect .kwAs
  let bound ← bindingIdentifier
  close start .other [bound]

/-- The names in braces. -/
def importSpecifiers (inTypes : Bool) : Parser (List Tree) := do
  expect .lbrace
  let found ← commaList .rbrace (importSpecifier inTypes)
  expect .rbrace
  return found

/-- A namespace or names in braces. -/
def importedNames (inTypes : Bool) : Parser (List Tree) := do
  if ← sees .star then return [← importedNamespace] else importSpecifiers inTypes

/-! ### Imports -/

/-- What the word after `import` is. -/
inductive ImportHead
  /-- The name of the default import, if there is one. -/
  | plain
  | types
  | phase
  deriving DecidableEq

/-- What stands after the word `type`: is that word a mark, and not a name? -/
def marksTypes : Parser Bool := do
  let next ← token
  if next == .star || next == .lbrace then return true
  if !next.isBindingIdentifier then return false
  if next == .kwFrom then
    takeName
    seesAny [.kwFrom, .assign]
  else return true

/-- What stands after the word `source`: is that word a mark, and not a name? -/
def marksPhase : Parser Bool := do
  let next ← token
  if !next.isBindingIdentifier then return false
  takeName
  sees .kwFrom

/-- What the word after `import` is. -/
def importHead : Parser ImportHead := do
  match ← token with
  | .kwType =>
    if (← hasTypes) && (← foresees (do takeName; marksTypes)) then return .types else return .plain
  | .kwDefer => if ← peekSees .star then return .phase else return .plain
  | .kwSource => if ← foresees (do takeName; marksPhase) then return .phase else return .plain
  | _ => return .plain

/-- The default import, bound to a name. -/
def defaultImport : Parser Tree := do
  let start ← mark
  let bound ← bindingIdentifier
  close start .other [bound]

/-- What is imported before the word `from`. A default import of types stands alone. -/
def importClause (head : ImportHead) : Parser (List Tree) := do
  let inTypes := head == .types
  if (← token).isBindingIdentifier then
    let default ← defaultImport
    if ← eat .comma then
      complainIf inTypes
      return default :: (← importedNames inTypes)
    else return [default]
  else importedNames inTypes

/-- Does a name for a module follow, and not what a module exports? -/
def seesAlias : Parser Bool := do
  if (← hasTypes) && (← token).isBindingIdentifier then peekSees .assign else return false

/-- An import. -/
def importDeclaration : Parser Tree := do
  let start ← mark
  take
  let head ← importHead
  if head != .plain then take
  if ← seesAlias then
    let name ← bindingIdentifier
    aliasRest start name
  else
    let bound ← if head == .plain && (← sees .string) then pure []
      else
        let bound ← importClause head
        expect .kwFrom
        pure bound
    let source ← stringLiteral
    let attributes ← importAttributes?
    endStatement
    close start .importDeclaration (bound ++ source :: attributes)

end SsrBuild.Grammar
