import SsrBuild.Grammar.Primary

/-!
Members, calls and constructions. They follow a primary expression one after the other and all
begin where it begins. Once a question mark stands before one of them, the whole is a chain, which
has a node of its own around it.
-/

set_option autoImplicit false

namespace SsrBuild.Grammar

open Grammar.Parser

variable (parse : Goal → Parser Tree)

/-- An expression that may go on, and whether a question mark stands before one of its parts. -/
structure Chain where
  expression : Tree
  isOptional : Bool

/-- The arguments of a call in parentheses. -/
def callArguments : Parser (List Tree) := do
  expect .lparen
  let arguments ← within insideBrackets (commaList .rparen (do
    if ← sees .ellipsis then spreadElement parse else parse (.assignment true)))
  expect .rparen
  return arguments

/-! ### Type arguments in expressions -/

/-- Can the token begin an expression? -/
def beginsExpression (token : Token) : Bool :=
  [.string, .number, .bigint, .regex, .kwTrue, .kwFalse, .kwNull, .kwThis, .kwSuper, .template,
    .templateHead, .lparen, .lbrack, .lbrace, .kwFunction, .kwClass, .kwNew, .slash, .slashAssign,
    .less, .kwAwait, .kwYield, .privateName, .atSign].contains token ||
    token.isUnary || token.isUpdate || token.isIdentifier

/-- May the token follow the type arguments of an expression? Otherwise the angle brackets were
comparisons. -/
def mayFollowTypeArguments : Parser Bool := do
  match ← token with
  | .lparen | .template | .templateHead => return true
  | .less | .greater | .plus | .minus => return false
  | .kwImport => return (← onNewLine) || !(← foresees (do takeName; seesAny [.lparen, .less, .dot]))
  | .kwIn => return (← onNewLine) || !(← read).allowIn
  | .kwAsync => return true
  | next => return (← onNewLine) || next.precedence.isSome || !beginsExpression next

/-- Type arguments after an expression. -/
def expressionTypeArguments : Parser Tree := do
  let start ← mark
  reread Lexeme.asOpenAngle
  expect .less
  let types ← commaList .greater (parse .type)
  failIf (← foresees (do reread Lexeme.asAngleOperator; sees .greaterEq))
  expect .greater
  failIf !(← mayFollowTypeArguments)
  complainIf types.isEmpty
  close start .other types

/-- Type arguments after an expression, if they stand here. -/
def expressionTypeArguments? : Parser (Option Tree) := do
  if ← hasTypes then attempt (expressionTypeArguments parse) else return none

/-- An expression apart from the type arguments that it ends with. -/
def withoutTypeArguments : Tree → Tree × List Tree
  | .node .instantiation _ [expression, types] => (expression, [types])
  | expression => (expression, [])

/-! ### The parts of a chain -/

/-- A member after a point. -/
def namedMember (start : Nat) (chain : Chain) : Parser (Option Chain) := do
  let property ← if ← sees .privateName then privateName else anyWord
  return some { chain with expression := ← close start .member [chain.expression, property] }

/-- A member in brackets. -/
def computedMember (start : Nat) (chain : Chain) : Parser (Option Chain) := do
  expect .lbrack
  let property ← within ({ · with allowIn := true }) (parse .expression)
  expect .rbrack
  return some { chain with expression := ← close start .member [chain.expression, property] }

/-- A template with a tag before it. -/
def taggedTemplate (start : Nat) (chain : Chain) : Parser (Option Chain) := do
  complainIf chain.isOptional
  let (tag, types) := withoutTypeArguments chain.expression
  let text ← template parse true
  return some { chain with expression := ← close start .other (tag :: types ++ [text]) }

/-- The next part of a chain that is no call. In a decorator no brackets go on with it, and no part
has a question mark before it. -/
def memberStep (start : Nat) (chain : Chain) : Parser (Option Chain) := do
  let inDecorator := (← read).inDecorator
  match ← token with
  | .dot =>
    take
    namedMember start chain
  | .lbrack => if inDecorator then return none else computedMember parse start chain
  | .questionDot =>
    failIf inDecorator
    let next := (← peek token).getD .endOfText
    if next == .lbrack then
      take
      computedMember parse start { chain with isOptional := true }
    else if next == .privateName || next.isIdentifierName then
      take
      namedMember start { chain with isOptional := true }
    else return none
  | .bang =>
    if (← hasTypes) && !(← onNewLine) then
      take
      return some { chain with expression := ← close start .nonNull [chain.expression] }
    else return none
  | .template | .templateHead => taggedTemplate parse start chain
  | .less | .shiftLeft =>
    match ← expressionTypeArguments? parse with
    | some types =>
      let expression ← close start .instantiation [chain.expression, types]
      return some { chain with expression }
    | none => return none
  | _ => return none

/-- A call of what has been read. -/
def call (start : Nat) (isOptional : Bool) (callee : Tree) (types : List Tree) :
    Parser (Option Chain) := do
  let arguments ← callArguments parse
  let expression ← close start (.callExpression arguments.length) (callee :: types ++ arguments)
  return some ⟨expression, isOptional⟩

/-- The next part of a chain. -/
def chainStep (start : Nat) (chain : Chain) : Parser (Option Chain) := do
  match ← memberStep parse start chain with
  | some next => return some next
  | none =>
    if ← eat .questionDot then
      let types ← expressionTypeArguments? parse
      if ← seesAny [.template, .templateHead] then
        taggedTemplate parse start { chain with isOptional := true }
      else call parse start true chain.expression types.toList
    else if ← sees .lparen then
      let (callee, types) := withoutTypeArguments chain.expression
      call parse start chain.isOptional callee types
    else return none

/-- The node around a chain. -/
def wrapChain (tree : Tree) : Tree :=
  match tree.label with
  | .member | .callExpression _ | .nonNull => .node .other tree.span [tree]
  | _ => tree

/-- A chain as an expression. Type arguments at its end are outside the node around it. -/
def Chain.toTree (chain : Chain) : Tree :=
  if chain.isOptional then
    match chain.expression with
    | .node .instantiation span [expression, types] =>
      .node .instantiation span [wrapChain expression, types]
    | expression => wrapChain expression
  else chain.expression

/-- A construction, or the word that tells what is constructed. The arguments may be missing. -/
def construction : Parser Tree := do
  let start ← mark
  let word ← leaf .other
  if ← eat .dot then
    failIf !(← sees .kwTarget)
    let property ← leaf .other
    close start .other [word, property]
  else
    let calleeStart ← mark
    let first ← parse .primary
    let chain ← iterate (memberStep parse calleeStart) ⟨first, false⟩
    complainIf (chain.isOptional || (← sees .questionDot))
    let (callee, types) := withoutTypeArguments chain.expression
    complainIf (callee.label == .importCall)
    let arguments ← if ← sees .lparen then callArguments parse else pure []
    close start (.newExpression arguments.length) (callee :: types ++ arguments)

/-- A primary expression with the members and calls that follow it. -/
def leftHand : Parser Tree := do
  let start ← mark
  let first ← parse .primary
  let chain ← iterate (chainStep parse start) ⟨first, false⟩
  return chain.toTree

end SsrBuild.Grammar
