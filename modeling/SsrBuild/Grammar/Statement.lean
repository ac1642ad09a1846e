import SsrBuild.Grammar.Export
import SsrBuild.Grammar.Target

/-!
Statements. A statement that stands alone, as the body of a loop or after a label, is no
declaration, apart from functions that are neither asynchronous nor generators.
-/

set_option autoImplicit false

namespace SsrBuild.Grammar

open Grammar.Parser

variable (parse : Goal → Parser Tree)

/-- An expression in parentheses that a keyword is about. -/
def condition : Parser Tree := do
  expect .lparen
  let tree ← parse .expression
  expect .rparen
  return tree

/-- A statement that stands alone. -/
def body : Parser Tree := within ({ · with isTopLevel := false }) (parse (.statement true))

/-! ### Loops -/

/-- An expression of a loop's head, unless it is missing. -/
def headPart (ends : List Token) : Parser (List Tree) := do
  if ← seesAny ends then return []
  else return [← within ({ · with allowIn := true }) (parse .expression)]

/-- A loop with a condition and a step, after what it begins with. -/
def countingLoop (start : Nat) (isAwait : Bool) (first : List Tree) : Parser Tree := do
  expect .semicolon
  let test ← headPart parse [.semicolon, .rparen]
  expect .semicolon
  let step ← headPart parse [.rparen]
  expect .rparen
  complainIf isAwait
  let inner ← body parse
  close start .other (first ++ test ++ step ++ [inner])

/-- A loop over the keys of an object, after what they are bound to. -/
def keyLoop (start : Nat) (isAwait : Bool) (left : Tree) : Parser Tree := do
  take
  let object ← parse .expression
  expect .rparen
  complainIf isAwait
  let inner ← body parse
  close start .other [left, object, inner]

/-- A loop over values, after what they are bound to. -/
def valueLoop (start : Nat) (left : Tree) : Parser Tree := do
  take
  let values ← parse (.assignment true)
  expect .rparen
  let inner ← body parse
  close start .other [left, values, inner]

/-- A loop that declares its variables. -/
def declaringLoop (start : Nat) (isAwait : Bool) : Parser Tree := do
  let declarationStart ← mark
  let keyword ← token
  take
  let declared ← within ({ · with allowIn := false }) (declarators parse)
  let left ← close declarationStart .declaration (declared.map Declarator.tree)
  match ← token with
  | .kwIn => keyLoop parse start isAwait left
  | .kwOf => valueLoop parse start left
  | _ =>
    requireValues keyword declared
    countingLoop parse start isAwait [left]

/-- A loop that declares resources, which are no keys. -/
def resourceLoop (start : Nat) (isAwait : Bool) : Parser Tree := do
  let declarationStart ← mark
  let declared ← resources parse true
  let left ← close declarationStart .declaration declared
  match ← token with
  | .kwOf => valueLoop parse start left
  | _ => countingLoop parse start isAwait [left]

/-- A loop that begins with an expression, which may be the target of what it goes over. The words
`let` and `async` do not begin the target of a loop over values. -/
def expressionLoop (start : Nat) (isAwait : Bool) : Parser Tree := do
  let isLet ← sees .kwLet
  let isAsync ← if (← sees .kwAsync) && !(← lexeme).escaped then peekSees .kwOf else pure false
  let first ← within ({ · with allowIn := false }) (parse .expression)
  match ← token with
  | .kwIn =>
    match first.target? with
    | some left => keyLoop parse start isAwait left
    | none => fail
  | .kwOf =>
    complainIf (isLet || isAsync && !isAwait)
    match first.target? with
    | some left => valueLoop parse start left
    | none => fail
  | _ => countingLoop parse start isAwait [first]

/-- Does the head of a loop declare variables? The word `let` may be a variable itself. -/
def seesLoopDeclaration : Parser Bool := do
  match ← token with
  | .kwVar | .kwConst => return true
  | .kwLet =>
    foresees do
      takeName
      let next ← token
      return next == .lbrace || next == .lbrack || next.isBindingIdentifier
  | _ => return false

/-- Does the head of a loop declare resources? The word `using` may be a variable itself, unless
`await` stands before it. -/
def seesLoopResources : Parser Bool := do
  match ← token with
  | .kwUsing =>
    if !(← seesUsing) then return false
    else if !(← peekSees .kwOf) then return true
    else foresees do
      takeName
      takeName
      seesAny [.assign, .semicolon, .colon]
  | .kwAwait => peekSees .kwUsing
  | _ => return false

/-- A loop that begins with `for`. -/
def forLoop : Parser Tree := do
  let start ← mark
  take
  let isAwait ← sees .kwAwait
  if isAwait then
    complainIf !(← read).inAsync
    take
  expect .lparen
  if ← sees .semicolon then countingLoop parse start isAwait []
  else if ← seesLoopDeclaration then declaringLoop parse start isAwait
  else if ← seesLoopResources then resourceLoop parse start isAwait
  else expressionLoop parse start isAwait

/-- A loop with its condition at the end. A semicolon after it is a part of it. -/
def doLoop : Parser Tree := do
  let start ← mark
  take
  let inner ← body parse
  expect .kwWhile
  let test ← condition parse
  let _ ← eat .semicolon
  close start .other [inner, test]

/-- A keyword, an expression in parentheses and the statement that it governs. -/
def governed : Parser Tree := do
  let start ← mark
  take
  let test ← condition parse
  let inner ← body parse
  close start .other [test, inner]

/-! ### Branches -/

/-- A conditional statement. -/
def conditional : Parser Tree := do
  let start ← mark
  take
  let test ← condition parse
  let consequent ← body parse
  let alternate ← if ← eat .kwElse then pure [← body parse] else pure []
  close start .other (test :: consequent :: alternate)

/-- A case, with the statements up to the next one. -/
def switchCase : Parser Tree := do
  let start ← mark
  let test ← if ← eat .kwDefault then pure []
    else do
      expect .kwCase
      pure [← parse .expression]
  expect .colon
  let statements ← many do
    if ← seesAny [.kwCase, .kwDefault, .rbrace] then return none
    else return some (← parse (.statement false))
  close start .other (test ++ statements)

/-- A choice between cases. -/
def switch : Parser Tree := do
  let start ← mark
  take
  let subject ← condition parse
  expect .lbrace
  let cases ← within ({ · with isTopLevel := false }) (upTo .rbrace (switchCase parse))
  expect .rbrace
  close start .other (subject :: cases)

/-- What happens when something is thrown. The type of what is caught lies outside the span of its
parameter. -/
def catchClause : Parser Tree := do
  let start ← mark
  take
  let parameter ← if ← eat .lparen then
      let pattern ← parse .pattern
      let type ← typeAnnotation? parse
      expect .rparen
      pure [Tree.node .other pattern.span (pattern :: type)]
    else pure []
  let inner ← block parse .other
  close start .other (parameter ++ [inner])

/-- A guarded block, with at least one of its two other parts. -/
def guarded : Parser Tree := do
  let start ← mark
  take
  let inner ← block parse .other
  let handler ← if ← sees .kwCatch then pure [← catchClause parse] else pure []
  let final ← if ← eat .kwFinally then pure [← block parse .other] else pure []
  failIf (handler.isEmpty && final.isEmpty)
  close start .other (inner :: handler ++ final)

/-! ### Jumps -/

/-- A jump out of a loop or to its next round, with a label on the same line. -/
def jump : Parser Tree := do
  let start ← mark
  take
  let label ← if ← mayEnd then pure []
    else
      let name ← bindingIdentifier
      pure [name.relabel .other []]
  endStatement
  close start .other label

/-- The end of a function, with a value on the same line. -/
def returnStatement : Parser Tree := do
  let start ← mark
  complainIf !(← read).inFunction
  take
  let result ← if ← mayEnd then pure []
    else pure [← within ({ · with allowIn := true }) (parse .expression)]
  endStatement
  close start .other result

/-- A value that is thrown, on the same line. -/
def throwStatement : Parser Tree := do
  let start ← mark
  take
  complainIf (← onNewLine)
  let thrown ← parse .expression
  endStatement
  close start .other [thrown]

/-! ### Expressions as statements -/

/-- An expression as a statement. -/
def expressionStatement (start : Nat) (tree : Tree) : Parser Tree := do
  endStatement
  close start .expressionStatement [tree]

/-- An expression as a statement, or a label with the statement that it names. -/
def expressionOrLabel : Parser Tree := do
  let start ← mark
  let tree ← parse .expression
  if tree.identifierName?.isSome && (← sees .colon) then
    take
    let inner ← body parse
    close start .other [tree.relabel .other [], inner]
  else expressionStatement start tree

/-- A statement that begins with the word `let`, which may be a variable. -/
def letStatement (alone : Bool) : Parser Tree := do
  let start ← mark
  let next := (← peek token).getD .endOfText
  let isOperator := next.precedence.isSome && !next.isLogical &&
    !([.kwAs, .kwSatisfies].contains next)
  if next.isAssignment || isOperator then
    let tree ← parse (.assignment true)
    expressionStatement start tree
  else if [.dot, .questionDot, .lparen].contains next then
    let tree ← parse .expression
    expressionStatement start tree
  else if alone && next != .lbrack || next == .semicolon then
    let tree ← identifierReference
    expressionStatement start tree
  else variableStatement parse start alone

/-! ### Declarations as statements -/

/-- A function as a statement. -/
def functionStatement (alone : Bool) : Parser Tree := do
  let start ← mark
  let isAsync ← eat .kwAsync
  complainIf (alone && (isAsync || (← peekSees .star)))
  functionFrom parse start false isAsync true

/-- A statement that begins with the word `const`. -/
def constStatement (alone : Bool) : Parser Tree := do
  let start ← mark
  if (← hasTypes) && (← peekSees .kwEnum) then modifiedDeclaration parse start []
  else variableStatement parse start alone

/-- A decorated class, which may be exported. -/
def decoratedStatement (alone : Bool) : Parser Tree := do
  let start ← mark
  let decorated ← decorators parse
  if ← sees .kwExport then
    let exportStart ← mark
    exportDeclaration parse exportStart decorated
  else
    complainIf alone
    decoratedClass parse start decorated

/-- A declaration that only a dialect with types has. -/
def typedStatement : Parser Tree := do
  let start ← mark
  within ({ · with inAsync := false }) (modifiedDeclaration parse start [])

/-- A statement. -/
def statement (alone : Bool) : Parser Tree := do
  let start ← mark
  match ← token with
  | .lbrace => block parse .other
  | .semicolon => leaf .other
  | .kwIf => conditional parse
  | .kwDo => doLoop parse
  | .kwWhile | .kwWith => governed parse
  | .kwFor => forLoop parse
  | .kwBreak | .kwContinue => jump
  | .kwSwitch => switch parse
  | .kwThrow => throwStatement parse
  | .kwTry => guarded parse
  | .kwReturn => returnStatement parse
  | .kwDebugger =>
    take
    endStatement
    close start .other []
  | .kwClass =>
    complainIf alone
    classFrom parse start []
  | .kwFunction => functionStatement parse alone
  | .kwVar => variableStatement parse start alone
  | .kwConst => constStatement parse alone
  | .kwLet => if (← lexeme).escaped then expressionOrLabel parse else letStatement parse alone
  | .atSign => decoratedStatement parse alone
  | .kwExport => exportDeclaration parse start []
  | .kwImport =>
    if ← foresees (do takeName; seesAny [.dot, .lparen]) then expressionOrLabel parse
    else importDeclaration
  | _ =>
    if ← seesAsyncFunction then functionStatement parse alone
    else if ← seesUsing then resourceStatement parse alone
    else if ← seesTypedDeclaration then typedStatement parse
    else expressionOrLabel parse

end SsrBuild.Grammar
