import SsrBuild.Grammar.Name

/-!
Type annotations: what stands after a colon, the parameters and arguments in angle brackets, and
the words that modify declarations, members and parameters. Whoever asks for type arguments has
seen that they make sense; annotations and type parameters are read in a dialect with types only.
-/

set_option autoImplicit false

namespace SsrBuild.Grammar

open Grammar.Parser

variable (parse : Goal → Parser Tree)

/-- A type after a colon, if the dialect has types and a colon stands here. -/
def typeAnnotation? : Parser (List Tree) := do
  if (← hasTypes) && (← sees .colon) then
    let start ← mark
    take
    let type ← parse .type
    return [← close start .other [type]]
  else return []

/-- The name of a parameter that a predicate is about, when `is` follows on its line. -/
def predicateSubject? : Parser (Option Tree) :=
  attempt do
    let subject ← anyWord
    if (← sees .kwIs) && !(← onNewLine) then
      take
      return subject
    else fail

/-- A type, or a predicate on a parameter. -/
def typeOrPredicate : Parser Tree := do
  let start ← mark
  match ← predicateSubject? with
  | some subject =>
    let typeStart ← mark
    let type ← parse .type
    let annotation ← close typeStart .other [type]
    close start .other [subject, annotation]
  | none => parse .type

/-- The type of a result after one of the given marks, if it stands here. -/
def resultType? (openings : List Token) : Parser (List Tree) := do
  if (← hasTypes) && (← seesAny openings) then
    let start ← mark
    take
    let type ← within ({ · with noConditionalType := false }) (typeOrPredicate parse)
    return [← close start .other [type]]
  else return []

/-- Type arguments in angle brackets; there is at least one. -/
def typeArguments : Parser Tree := do
  let start ← mark
  reread Lexeme.asOpenAngle
  expect .less
  let types ← commaList .greater (parse .type)
  expect .greater
  complainIf types.isEmpty
  close start .other types

/-- Does an opening angle bracket stand here, alone or as the beginning of an operator? -/
def seesOpenAngle : Parser Bool :=
  foresees (do reread Lexeme.asOpenAngle; sees .less)

/-- Type arguments if an opening angle bracket stands here. -/
def typeArguments? : Parser (List Tree) := do
  if ← seesOpenAngle then return [← typeArguments parse] else return []

/-- May the token stand after a modifier? -/
def mayFollowModifier : Parser Bool := do
  let next ← token
  return [.privateName, .lbrack, .lbrace, .star, .ellipsis].contains next ||
    next.isIdentifierName || next.isLiteralName

/-- Is the token a modifier, seen from what follows it? -/
def isModifierHere (permitConst : Bool) : Parser Bool := do
  let word ← token
  if !word.isModifier then return false
  match word with
  | .kwConst =>
    if permitConst then peekTest (do return !(← onNewLine) && (← mayFollowModifier))
    else return false
  | .kwStatic => peekTest mayFollowModifier
  | .kwDefault | .kwExport => return false
  | _ => peekTest (do return !(← onNewLine) && (← mayFollowModifier))
where
  peekTest (test : Parser Bool) : Parser Bool := foresees (do takeName; test)

/-- The modifiers that stand here. None is given twice, of those that grant access there is one, and
`static` does not come after `readonly`. In a class the word `static` before a brace begins a
block. -/
def modifiers (permitConst inClass : Bool) : Parser (List Token) := do
  let found ← iterate (α := List Token) (fun found => do
    let word ← token
    let stops := word == .kwStatic &&
      (found.contains .kwStatic || inClass && (← peekSees .lbrace))
    if !stops && (← isModifierHere permitConst) then
      take
      let access := [.kwPublic, .kwPrivate, .kwProtected]
      complainIf (found.contains word || access.contains word && found.any access.contains ||
        word == .kwStatic && found.contains .kwReadonly)
      return some (found ++ [word])
    else return none) []
  return found

/-- Refuses every modifier that is not among the given ones. -/
def admitOnly (admitted given : List Token) : Parser Unit :=
  complainIf (given.any (!admitted.contains ·))

/-- A type parameter. -/
def typeParameter : Parser Tree := do
  let start ← mark
  let given ← modifiers true false
  admitOnly [.kwIn, .kwOut, .kwConst] given
  let name ← bindingIdentifier
  let constraint ← if ← eat .kwExtends then pure [← parse .type] else pure []
  let default ← if ← eat .assign then pure [← parse .type] else pure []
  close start .other (name :: constraint ++ default)

/-- Type parameters in angle brackets, if the dialect has types and they stand here; there is at
least one. -/
def typeParameters? : Parser (List Tree) := do
  if (← hasTypes) && (← sees .less) then
    let start ← mark
    take
    let parameters ← commaList .greater (typeParameter parse)
    expect .greater
    complainIf parameters.isEmpty
    return [← close start .other parameters]
  else return []

end SsrBuild.Grammar
