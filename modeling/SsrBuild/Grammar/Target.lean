import SsrBuild.Tree.Basic

/-!
Targets of assignments. An assignment is read as an expression first, and only its operator tells
that the left side was a target: then identifiers and members stand for themselves, parentheses
around them vanish, and literals of arrays and objects become patterns.
-/

set_option autoImplicit false

namespace SsrBuild.Tree

/-- What remains of an expression without parentheses, changes of type and type arguments. -/
def core : Tree → Tree
  | node .parenthesized _ [inner] => core inner
  | node .cast _ (inner :: _) => core inner
  | node .nonNull _ [inner] => core inner
  | node .instantiation _ (inner :: _) => core inner
  | node .assertion _ [_, inner] => core inner
  | tree => tree

/-- Is the expression an identifier or a member? -/
def isReference (tree : Tree) : Bool :=
  match tree.label with
  | .identifier _ | .member => true
  | _ => false

/-- The target that is no pattern. -/
def simpleTarget? : Tree → Option Tree
  | node .parenthesized _ [inner] =>
    match inner.label with
    | .arrayExpression _ | .objectExpression _ => none
    | _ => simpleTarget? inner
  | node label span children =>
    match label with
    | .identifier _ | .member => some (node label span children)
    | .cast | .assertion | .nonNull =>
      if (node label span children).core.isReference then some (node label span children) else none
    | _ => none

mutual

/-- The target that an expression stands for: a pattern, an identifier or a member. -/
def target? : Tree → Option Tree
  | node (.arrayExpression endsInComma) span elements => do
    return node .arrayPattern span (← elementTargets? endsInComma elements)
  | node (.objectExpression endsInComma) span properties => do
    return node .objectPattern span (← propertyTargets? endsInComma properties)
  | tree => tree.simpleTarget?

/-- The target that an expression stands for, with the default that a plain assignment gives. -/
def targetWithDefault? : Tree → Option Tree
  | node (.assignment true) span sides => some (node .patternDefault span sides)
  | tree => target? tree

/-- The targets of the elements of an array. A spread element is the last, with no comma after
it; holes have no target. -/
def elementTargets? (endsInComma : Bool) : List Tree → Option (List Tree)
  | [] => some []
  | [node .spread span [argument]] => do
    if endsInComma then none
    return [node .rest span [← target? argument]]
  | node .hole _ _ :: rest => elementTargets? endsInComma rest
  | element :: rest => do
    return (← targetWithDefault? element) :: (← elementTargets? endsInComma rest)

/-- The targets of the properties of an object. A spread property is the last, with no comma after
it, and takes no pattern. -/
def propertyTargets? (endsInComma : Bool) : List Tree → Option (List Tree)
  | [] => some []
  | [node .spread span [argument]] => do
    if endsInComma then none
    return [node .rest span [← argument.simpleTarget?]]
  | node .shorthand span [_, name] :: rest => do
    return node .patternProperty span [name] :: (← propertyTargets? endsInComma rest)
  | node .shorthandDefault span [_, name, default] :: rest => do
    return node .patternProperty span [name, default] :: (← propertyTargets? endsInComma rest)
  | node .property span [key, value] :: rest => do
    return node .patternProperty span [key, ← targetWithDefault? value] ::
      (← propertyTargets? endsInComma rest)
  | _ :: _ => none

end

end SsrBuild.Tree
