import SsrBuild.Grammar.Element
import SsrBuild.Grammar.LeftHand
import SsrBuild.Grammar.Target

/-!
Expressions of operators. Binary operators bind by precedence and, apart from powers, to the left.
An assignment shows only at its operator, so its left side is read as an expression of binary
operators first.
-/

set_option autoImplicit false

namespace SsrBuild.Grammar

open Grammar.Parser

variable (parse : Goal → Parser Tree)

/-- The result of an option, or a failure. -/
def orFail {α : Type} : Option α → Parser α
  | some result => return result
  | none => fail

/-! ### Unary operators -/

/-- An operator with the operand after it. -/
def unaryOperation : Parser Tree := do
  let start ← mark
  take
  let operand ← parse (.operand (← mark))
  close start .unary [operand]

/-- A value that is waited for. A first part that is incremented or decremented goes back to the
given offset. -/
def awaited (chainStart : Nat) : Parser Tree := do
  let start ← mark
  take
  let operand ← parse (.operand chainStart)
  close start .await [operand]

/-- A type in angle brackets and the operand whose type it is. -/
def typeAssertion : Parser Tree := do
  let start ← mark
  expect .less
  let type ← parse .type
  expect .greater
  let operand ← parse (.operand (← mark))
  close start .assertion [type, operand]

/-- An expression that may be incremented or decremented, on the same line, after it is used. -/
def postfixOperation : Parser Tree := do
  let start ← mark
  let operand ← parse .leftHand
  if (← token).isUpdate && !(← onNewLine) then
    let target ← orFail operand.simpleTarget?
    take
    close start .other [target]
  else return operand

/-- An expression that is incremented or decremented before it is used. Its node begins at the given
offset. -/
def updated (start : Nat) : Parser Tree := do
  take
  let target ← orFail (← parse (.operand start)).simpleTarget?
  close start .other [target]

/-- An expression with an operator before it, or with none. -/
def operand (start : Nat) : Parser Tree := do
  let next ← token
  if next.isUnary then unaryOperation parse
  else if next.isUpdate then updated parse start
  else if next == .less then
    if (← dialect).hasElements then parse (.element false)
    else if ← hasTypes then typeAssertion parse
    else fail
  else if next == .kwAwait && (← read).inAsync then awaited parse start
  else postfixOperation parse

/-! ### Binary operators -/

/-- The label of a binary operation. -/
def binaryLabel : Token → Label
  | .questionQuestion => .coalescing
  | .barBar => .disjunction
  | .ampAmp => .conjunction
  | _ => .other

/-- Is the expression an alternative or a conjunction? -/
def isTruthOperation (tree : Tree) : Bool :=
  tree.label == .disjunction || tree.label == .conjunction

/-- Is the expression any operation that joins truth values? -/
def isLogicalOperation (tree : Tree) : Bool :=
  isTruthOperation tree || tree.label == .coalescing

/-- Does `??` stand beside an alternative or a conjunction? A side that begins with a parenthesis
counts as no operation. -/
def mixesCoalescing (leftParenthesized rightParenthesized : Bool) (left right : Tree) : Bool :=
  if isLogicalOperation right && !rightParenthesized then isTruthOperation right
  else isTruthOperation left && !leftParenthesized

/-- Is the base of a power a unary operation without parentheses? -/
def isUnaryBase (left : Tree) : Bool :=
  left.label == .unary || left.label == .await

/-- Is the operator read here, or does it bind too loosely to belong to the expression? -/
def bindsAbove (floor : Nat) (operator : Token) : Parser Bool := do
  match operator.precedence with
  | none => return false
  | some precedence =>
    let tight := if operator == .starStar then floor ≤ precedence else floor < precedence
    match operator with
    | .kwIn => return tight && (← read).allowIn
    | .kwAs | .kwSatisfies => return tight && !(← onNewLine)
    | _ => return tight

/-- The next operator and its right operand, after what may begin with a parenthesis. -/
def binaryStep (start floor : Nat) (parenthesized : Bool) (left : Tree) :
    Parser (Option Tree) := do
  reread Lexeme.asAngleOperator
  let operator ← token
  if !(← bindsAbove floor operator) then return none
  take
  if operator == .kwAs || operator == .kwSatisfies then
    complainIf !(← hasTypes)
    let type ← parse .type
    return some (← close start .cast [left, type])
  else
    let rightParenthesized ← sees .lparen
    let right ← parse (.binary (operator.precedence.getD 0))
    complainIf (operator == .questionQuestion &&
      mixesCoalescing parenthesized rightParenthesized left right)
    complainIf (operator == .starStar && isUnaryBase left)
    return some (← close start (binaryLabel operator) [left, right])

/-- A test whether an object has a private name. -/
def privateTest (floor : Nat) : Parser Tree := do
  let start ← mark
  let name ← privateName
  failIf (8 ≤ floor)
  expect .kwIn
  let right ← parse (.binary 8)
  close start .other [name, right]

/-- An expression of operators that bind more tightly than the number says. -/
def binary (floor : Nat) : Parser Tree := do
  let start ← mark
  let parenthesized ← sees .lparen
  let first ← if (← read).allowIn && (← sees .privateName) then privateTest parse floor
    else parse (.operand start)
  iterate (binaryStep parse start floor parenthesized) first

/-! ### Assignments -/

/-- A value that a generator gives out, with the value that it is asked for. -/
def yieldExpression : Parser Tree := do
  let start ← mark
  take
  let ends := [.semicolon, .endOfText, .rbrace, .rparen, .rbrack, .colon, .comma]
  if ← onNewLine then close start .other []
  else
    let delegates ← eat .star
    if !delegates && (← seesAny ends) then close start .other []
    else
      let argument ← parse (.assignment true)
      close start .other [argument]

/-- A choice between two expressions, after its condition. -/
def conditionalRest (start : Nat) (condition : Tree) (resultType : Bool) : Parser Tree := do
  if ← eat .question then
    let consequent ← within ({ · with allowIn := true }) (parse (.assignment false))
    expect .colon
    let alternate ← parse (.assignment resultType)
    close start .other [condition, consequent, alternate]
  else return condition

/-- An assignment after its target. -/
def assignmentRest (start : Nat) (left : Tree) (resultType : Bool) : Parser Tree := do
  let plain ← sees .assign
  let target ← orFail left.target?
  take
  let right ← parse (.assignment resultType)
  close start (.assignment plain) [target, right]

/-- An expression without commas. -/
def assignment (resultType : Bool) : Parser Tree := do
  if (← sees .kwYield) && (← read).inGenerator then return ← yieldExpression parse
  if let some arrow ← parenthesizedArrow? parse resultType then return arrow
  if let some arrow ← asyncArrow? parse resultType then return arrow
  let start ← mark
  let left ← parse (.binary 0)
  let next ← token
  if left.identifierName?.isSome && next == .arrow then
    simpleArrow parse start left false resultType
  else if next.isAssignment then assignmentRest parse start left resultType
  else conditionalRest parse start left resultType

/-- An expression with commas. -/
def expression : Parser Tree := do
  let start ← mark
  let first ← parse (.assignment true)
  let others ← many do
    if ← eat .comma then return some (← parse (.assignment true)) else return none
  if others.isEmpty then return first else close start .other (first :: others)

end SsrBuild.Grammar
