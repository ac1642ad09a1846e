import SsrBuild.Grammar.Import

/-!
Exports. In a dialect without types a module exports each name once. What is exported without a
source refers to variables, so it is neither a reserved word nor a string.
-/

set_option autoImplicit false

namespace SsrBuild.Grammar

open Grammar.Parser

variable (parse : Goal → Parser Tree)

/-- Notes that the module exports a name, which it does once. -/
def exportName (name : String) : Parser Unit := do
  let context ← read
  if context.isTopLevel && !context.dialect.hasTypes then
    complainIf ((← get).exported.contains name)
    modify fun s => { s with exported := name :: s.exported }

/-- Notes that the module exports several names. -/
def exportNames : List String → Parser Unit
  | [] => return ()
  | name :: rest => do
    exportName name
    exportNames rest

/-! ### Lists of names -/

/-- A name in a list of exports: what it refers to, the word for that, and what it spells. -/
structure ExportSpecifier where
  start : Nat
  local_ : Tree
  word : Token
  spelled : String
  exported : Tree
  stop : Nat

/-- A name in a list of exports, with the name that it is exported under. -/
def exportSpecifier (inTypes : Bool) : Parser ExportSpecifier := do
  let start ← mark
  let renames ← takeTypeMark inTypes
  let word ← token
  let spelled := String.ofList (← value)
  let local_ ← moduleName
  let (exported, name) ← if ← (if renames then pure true else eat .kwAs) then
      let name := String.ofList (← value)
      pure (← moduleName, name)
    else pure (local_, spelled)
  exportName name
  return ⟨start, local_, word, spelled, exported, (← spanFrom start).stop⟩

/-- May the word refer to a variable that is exported? Of the words reserved in strict code only
`let` may. -/
def mayBeExported (word : Token) : Bool :=
  word == .kwLet || word.isIdentifier && !Token.strictWords.any (·.2 == word)

/-- The node of a name in a list. Without a source the first name is a variable. -/
def ExportSpecifier.toTree (hasSource : Bool) (specifier : ExportSpecifier) : Tree :=
  let local_ := if hasSource then specifier.local_
    else .node (.identifier specifier.spelled) specifier.local_.span []
  .node .other ⟨specifier.start, specifier.stop⟩ [local_, specifier.exported]

/-- The module that names are taken from, if it is told. A literal after the word `from` tells it,
and is a string. -/
def exportSource : Parser (List Tree) := do
  let isLiteral := fun (next : Token) =>
    next.isLiteralName || [.kwNull, .kwTrue, .kwFalse].contains next
  if (← eat .kwFrom) && isLiteral (← token) then
    let source ← stringLiteral
    return source :: (← importAttributes?)
  else return []

/-- Names in braces, with or without a source. -/
def exportList (start : Nat) (inTypes : Bool) : Parser Tree := do
  expect .lbrace
  let specifiers ← commaList .rbrace (exportSpecifier inTypes)
  expect .rbrace
  let source ← exportSource
  complainIf (source.isEmpty && specifiers.any (!mayBeExported ·.word))
  endStatement
  close start .other (specifiers.map (ExportSpecifier.toTree !source.isEmpty) ++ source)

/-- All names of another module, or one name for them. -/
def exportAll (start : Nat) : Parser Tree := do
  expect .star
  let exported ← if ← eat .kwAs then
      exportName (String.ofList (← value))
      pure [← moduleName]
    else pure []
  expect .kwFrom
  let source ← stringLiteral
  let attributes ← importAttributes?
  endStatement
  close start .other (exported ++ source :: attributes)

/-! ### Default exports -/

/-- Does an abstract class begin here, its two keywords on one line? -/
def seesAbstractClass : Parser Bool := do
  if (← hasTypes) && (← sees .kwAbstract) then
    foresees (do
      takeName
      return (← sees .kwClass) && !(← onNewLine))
  else return false

/-- The default export after its keyword. -/
def defaultExport (start : Nat) (decorated : List Tree) : Parser Tree := do
  take
  exportName "default"
  let innerStart ← mark
  if ← sees .kwClass then
    let tree ← classFrom parse innerStart decorated
    close start .exportDefault [tree]
  else if ← sees .atSign then
    complainIf !decorated.isEmpty
    let more ← decorators parse
    let tree ← decoratedClass parse innerStart more
    close start .exportDefault [tree]
  else if ← seesAbstractClass then
    take
    let tree ← classFrom parse innerStart decorated
    close start .exportDefault [tree]
  else
    complainIf !decorated.isEmpty
    if (← hasTypes) && (← sees .kwInterface) then
      let tree ← interface parse innerStart
      close start .exportDefault [tree]
    else if (← sees .kwFunction) || (← seesAsyncFunction) then
      let isAsync ← eat .kwAsync
      let tree ← functionFrom parse innerStart false isAsync false
      close start .exportDefault [tree]
    else
      let tree ← parse (.assignment true)
      endStatement
      close start .exportDefault [tree]

/-! ### Other exports -/

/-- An exported declaration. Decorators stand on one side of the keyword; after it they decorate a
class. -/
def exportedDeclaration (start : Nat) (decorated : List Tree) : Parser Tree := do
  let innerStart ← mark
  let more ← decorators parse
  complainIf (!decorated.isEmpty && !more.isEmpty)
  let tree ← if more.isEmpty then modifiedDeclaration parse innerStart decorated
    else decoratedClass parse innerStart more
  exportNames tree.boundNames
  close start .other [tree]

/-- What the module itself is. -/
def exportAssignment (start : Nat) : Parser Tree := do
  take
  let tree ← parse (.assignment true)
  endStatement
  close start .other [tree]

/-- The global name of the module. -/
def exportNamespace (start : Nat) : Parser Tree := do
  take
  expect .kwNamespace
  let name ← anyWord
  endStatement
  close start .other [name]

/-- An export, with the decorators before it. -/
def exportDeclaration (start : Nat) (decorated : List Tree) : Parser Tree := do
  take
  let typed ← hasTypes
  match ← token with
  | .kwDefault => defaultExport parse start decorated
  | .star => exportAll start
  | .lbrace => exportList start false
  | .assign => if typed then exportAssignment parse start else fail
  | next =>
    if typed && next == .kwAs && (← peekSees .kwNamespace) then exportNamespace start
    else if typed && next == .kwType && (← peekSees .lbrace) then
      take
      exportList start true
    else if typed && next == .kwType && (← peekSees .star) then
      take
      exportAll start
    else exportedDeclaration parse start decorated

end SsrBuild.Grammar
