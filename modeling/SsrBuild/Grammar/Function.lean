import SsrBuild.Grammar.Pattern

/-!
Functions, methods and arrow functions. An arrow function whose parameters are in parentheses looks
at first like an expression in parentheses. The first tokens often tell which it is; where they do
not, its head is tried, and an opening mark at which the trial failed is not tried again.
-/

set_option autoImplicit false

namespace SsrBuild.Grammar

open Grammar.Parser

variable (parse : Goal → Parser Tree)

/-- Statements in braces, with the label of the whole. -/
def block (label : Label) : Parser Tree := do
  let start ← mark
  expect .lbrace
  let statements ← within ({ · with isTopLevel := false }) (upTo .rbrace (parse (.statement false)))
  expect .rbrace
  close start label statements

/-- The body of a function. -/
def functionBody : Parser Tree :=
  within ({ · with inFunction := true }) (block parse .functionBody)

/-- What follows the name of a function: parameters, the type of the result and the body. Only in
a dialect with types may the body be missing, and then the function ends like a statement. -/
def functionParts (isAsync isGenerator : Bool) (rules : ParameterRules) : Parser (List Tree) := do
  let (head, body) ← within
      ({ · with allowIn := true, inAsync := isAsync, inGenerator := isGenerator }) (do
    let types ← typeParameters? parse
    let (forThis, others) ← parameters parse rules
    let result ← resultType? parse [.colon]
    let body ← if ← sees .lbrace then pure [← functionBody parse] else pure []
    return (types ++ forThis ++ others :: result, body))
  if body.isEmpty then
    failIf !(← hasTypes)
    endStatement
  return head ++ body

/-- Does the function have a body? -/
def hasBody (function : Tree) : Bool :=
  function.children.any (·.label == .functionBody)

/-- The name of a function. An expression's name is read as the body is, a declaration's as the
place around it. -/
def functionName? (isExpression isAsync isGenerator : Bool) : Parser (List Tree) := do
  if (← token).isBindingIdentifier then
    let inner : Context → Context := fun context =>
      if isExpression then { context with inAsync := isAsync, inGenerator := isGenerator }
      else context
    return [← within inner bindingIdentifier]
  else return []

/-- A function from its keyword on. As an expression it has a body; one that is only announced is no
generator. -/
def functionFrom (start : Nat) (isExpression isAsync mustHaveName : Bool) : Parser Tree := do
  expect .kwFunction
  let isGenerator ← eat .star
  let name ← functionName? isExpression isAsync isGenerator
  failIf (mustHaveName && name.isEmpty)
  let parts ← functionParts parse isAsync isGenerator .ofFunction
  let tree ← close start .function (name ++ parts)
  let isAmbient := (← read).isAmbient
  complainIf (if isExpression then !hasBody tree else isGenerator && isAmbient)
  return tree

/-- The function of a method or an accessor, which begins at its parameters. -/
def method (isAsync isGenerator : Bool) (rules : ParameterRules) : Parser Tree := do
  let start ← mark
  let parts ← functionParts parse isAsync isGenerator rules
  close start .function parts

/-- Does an `async function` begin here? -/
def seesAsyncFunction : Parser Bool := do
  if ← sees .kwAsync then
    foresees (do
      takeName
      return (← sees .kwFunction) && !(← onNewLine))
  else return false

/-! ### Arrow functions -/

/-- What the first tokens tell about an arrow function. -/
inductive Outlook
  | no | yes | maybe
  deriving DecidableEq

/-- What the tokens after an opening parenthesis tell. -/
def outlookAfterParenthesis : Parser Outlook := do
  let second ← token
  match second with
  | .rparen =>
    takeName
    return if ← seesAny [.arrow, .colon, .lbrace] then .yes else .no
  | .lbrack | .lbrace => return .maybe
  | .ellipsis =>
    takeName
    let third ← token
    return if third.isIdentifier then .yes
      else if [.string, .number, .bigint, .kwTrue, .kwFalse, .kwNull, .regex].contains third
      then .no
      else .maybe
  | .atSign => return .maybe
  | _ =>
    takeName
    let third ← token
    if second.isModifier && second != .kwAsync && third.isIdentifier then
      return if third == .kwAs then .no else .yes
    if !second.isBindingIdentifier && second != .kwThis then return .no
    match third with
    | .colon => return .yes
    | .question =>
      takeName
      return if ← seesAny [.colon, .comma, .assign, .rparen] then .yes else .no
    | .comma | .assign | .rparen => return .maybe
    | _ => return .no

/-- What the tokens after an opening angle bracket tell. Where elements may stand, only what cannot
be an element is a type parameter. -/
def outlookAfterAngle : Parser Outlook := do
  let second ← token
  if !second.isIdentifier && second != .kwConst then return .no
  if !(← dialect).hasElements then return .maybe
  let _ ← eat .kwConst
  takeName
  match ← token with
  | .kwExtends =>
    takeName
    return if ← seesAny [.assign, .greater, .slash] then .no else .yes
  | .comma | .assign => return .yes
  | _ => return .no

/-- What the first tokens tell. -/
def arrowOutlook : Parser Outlook := do
  match ← token with
  | .lparen => return (← lookahead (do takeName; outlookAfterParenthesis)).getD .no
  | .less =>
    if ← hasTypes then return (← lookahead (do takeName; outlookAfterAngle)).getD .no
    else return .no
  | .kwAsync =>
    let ahead ← lookahead (do
      takeName
      if ← onNewLine then return .no
      match ← token with
      | .lparen => takeName; outlookAfterParenthesis
      | .less => if ← hasTypes then takeName; outlookAfterAngle else return .no
      | _ => return .no)
    return ahead.getD .no
  | _ => return .no

/-- The parts of an arrow function before its body. -/
structure ArrowHead where
  isAsync : Bool
  parts : List Tree
  hasResultType : Bool

/-- Takes the arrow, before which no line may end. -/
def takeArrow : Parser Unit := do
  complainIf (← onNewLine)
  expect .arrow

/-- The head of an arrow function whose parameters are in parentheses. -/
def arrowHead : Parser ArrowHead := do
  let isAsync ← eat .kwAsync
  let parts ← within (fun context => { context with inAsync := context.inAsync || isAsync }) (do
    let types ← typeParameters? parse
    let (forThis, others) ← parameters parse .plain
    complainIf !forThis.isEmpty
    return types ++ [others])
  let result ← resultType? parse [.colon]
  takeArrow
  return ⟨isAsync, parts ++ result, !result.isEmpty⟩

/-- The body of an arrow function: that of a function, or an expression. -/
def arrowBody (isAsync resultType : Bool) : Parser Tree :=
  within ({ · with inAsync := isAsync, inGenerator := false }) do
    if ← sees .lbrace then functionBody parse
    else
      let expression ← parse (.assignment resultType)
      let span := expression.span
      return .node .other span [.node .expressionStatement span [expression]]

/-- An arrow function whose parameter is an identifier without parentheses. -/
def simpleArrow (start : Nat) (name : Tree) (isAsync resultType : Bool) : Parser Tree := do
  let only := Tree.node .formalParameters name.span [.node .other name.span [name]]
  takeArrow
  let body ← arrowBody parse isAsync resultType
  close start .arrowFunction [only, body]

/-- An arrow function with parameters in parentheses, if one stands here. Where a colon must follow
the body, a type of the result is read only if it does. -/
def parenthesizedArrow? (resultType : Bool) : Parser (Option Tree) := do
  let start ← mark
  match ← arrowOutlook with
  | .no => return none
  | .yes =>
    let head ← arrowHead parse
    let body ← arrowBody parse head.isAsync resultType
    return some (← close start .arrowFunction (head.parts ++ [body]))
  | .maybe =>
    let before ← get
    if before.notArrows.contains start then return none
    match ← attempt (arrowHead parse) with
    | none =>
      modify fun s => { s with notArrows := start :: s.notArrows }
      return none
    | some head =>
      let body ← arrowBody parse head.isAsync resultType
      if !resultType && head.hasResultType && !(← sees .colon) then
        set { before with notArrows := start :: (← get).notArrows }
        return none
      return some (← close start .arrowFunction (head.parts ++ [body]))

/-- An asynchronous arrow function with one parameter without parentheses, if one stands here. -/
def asyncArrow? (resultType : Bool) : Parser (Option Tree) := do
  if !(← sees .kwAsync) then return none
  let stands ← foresees do
    takeName
    if (← onNewLine) || !(← token).isBindingIdentifier then return false
    takeName
    sees .arrow
  if !stands then return none
  let start ← mark
  take
  let name ← within ({ · with inAsync := true }) bindingIdentifier
  return some (← simpleArrow parse start name true resultType)

end SsrBuild.Grammar
