import SsrBuild.Grammar.Pattern

/-!
Declarations of variables. Constants and patterns have a value, unless nothing has one here; a
variable that is said to be assigned has a type and no value.
-/

set_option autoImplicit false

namespace SsrBuild.Grammar

open Grammar.Parser

variable (parse : Goal → Parser Tree)

/-- A declared variable: its node, what it binds and whether it has a value. -/
structure Declarator where
  tree : Tree
  target : Tree
  hasValue : Bool

/-- A variable with its type and its value. -/
def declarator : Parser Declarator := do
  let start ← mark
  let target ← parse .pattern
  let isName := target.identifierName?.isSome
  let assigned ← if isName && (← hasTypes) && !(← onNewLine) then eat .bang else pure false
  let type ← typeAnnotation? parse
  let first ← if ← eat .assign then pure [← parse (.assignment true)] else pure []
  complainIf (assigned && (type.isEmpty || !first.isEmpty))
  let tree ← close start .declarator (target :: type ++ first)
  return ⟨tree, target, !first.isEmpty⟩

/-- Variables with commas between them. -/
def declarators : Parser (List Declarator) := do
  let first ← declarator parse
  let others ← many do
    if ← eat .comma then return some (← declarator parse) else return none
  return first :: others

/-- Refuses variables that need a value and have none. -/
def requireValues (keyword : Token) (declared : List Declarator) : Parser Unit := do
  let needsValue := fun (one : Declarator) =>
    !one.hasValue && (keyword == .kwConst || one.target.identifierName?.isNone)
  complainIf (!(← read).isAmbient && declared.any needsValue)

/-- A declaration of variables as a statement. Only `var` may be a statement alone. -/
def variableStatement (start : Nat) (alone : Bool) : Parser Tree := do
  let keyword ← token
  take
  let declared ← declarators parse
  requireValues keyword declared
  complainIf (alone && keyword != .kwVar)
  endStatement
  close start .declaration (declared.map Declarator.tree)

/-! ### Resources -/

/-- Does a name to bind follow the word `using` on its line? -/
def bindsAfterUsing : Parser Bool := do
  takeName
  return ((← token).isBindingIdentifier || (← sees .lbrace)) && !(← onNewLine)

/-- Does a declaration of resources begin here? -/
def seesUsing : Parser Bool := do
  match ← token with
  | .kwUsing => foresees bindsAfterUsing
  | .kwAwait =>
    foresees do
      takeName
      if (← sees .kwUsing) && !(← onNewLine) then bindsAfterUsing else return false
  | _ => return false

/-- Resources without the end of the statement. They are identifiers, and apart from those of a
loop each has a value. -/
def resources (inLoop : Bool) : Parser (List Tree) := do
  let _ ← eat .kwAwait
  expect .kwUsing
  let declared ← declarators parse
  complainIf (declared.any (·.target.identifierName?.isNone))
  complainIf (!inLoop && declared.any (!·.hasValue))
  return declared.map Declarator.tree

/-- A declaration of resources as a statement, which is not a statement alone. -/
def resourceStatement (alone : Bool) : Parser Tree := do
  let start ← mark
  let declared ← resources parse false
  complainIf alone
  endStatement
  close start .declaration declared

end SsrBuild.Grammar
