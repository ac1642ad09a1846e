import SsrBuild.Grammar.Annotation

/-!
Binding patterns and the parameters of functions. A rest element is the last of its list and has no
default.
-/

set_option autoImplicit false

namespace SsrBuild.Grammar

open Grammar.Parser

variable (parse : Goal → Parser Tree)

/-- A value after an equals sign, where `in` may be used. -/
def initialValue : Parser Tree := do
  expect .assign
  within ({ · with allowIn := true }) (parse (.assignment true))

/-- The target with the default that follows it, if one does. -/
def withDefault (start : Nat) (target : Tree) : Parser Tree := do
  if ← sees .assign then
    let default ← initialValue parse
    close start .patternDefault [target, default]
  else return target

/-- A pattern with a default. -/
def patternWithDefault : Parser Tree := do
  let start ← mark
  withDefault parse start (← parse .pattern)

/-- The elements of a list in which only the last may be a rest element. A comma stands after that
element only where nothing has a value at run time. -/
def listWithRest (closing : Token) (element rest : Parser Tree) : Parser (List Tree) := do
  let (found, _) ← iterate (α := List Tree × Bool) (fun (found, ended) => do
    if ← sees closing then return none
    if !found.isEmpty then
      expect .comma
      if ← sees closing then
        complainIf (ended && !(← read).isAmbient)
        return none
    complainIf ended
    if ← sees .ellipsis then return some (found ++ [← rest], true)
    else return some (found ++ [← element], ended)) ([], false)
  return found

/-- An element that spreads the rest of what is bound over a pattern. -/
def restPattern : Parser Tree := do
  let start ← mark
  expect .ellipsis
  let target ← parse .pattern
  close start .rest [target]

/-- The rest of the properties of an object, which are bound to an identifier. -/
def restIdentifier : Parser Tree := do
  let start ← mark
  expect .ellipsis
  let target ← bindingIdentifier
  close start .rest [target]

/-- An element of an array pattern; a hole has no node and counts as none. -/
def arrayPatternElement : Parser Tree := do
  if ← sees .comma then
    let start ← mark
    return .node .hole ⟨start, start⟩ []
  else patternWithDefault parse

/-- A property of an object pattern: a name that is bound itself, or a key and a pattern. -/
def patternProperty : Parser Tree := do
  let start ← mark
  let named := (← token).isBindingIdentifier
  let name := String.ofList (← value)
  let reserved := !(← mayReferTo (← token))
  let (key, computed) ← propertyName parse
  if named && !computed && !(← sees .colon) then
    complainIf reserved
    let target := Tree.node (.identifier name) key.span []
    let bound ← withDefault parse start target
    close start .patternProperty [key, bound]
  else
    expect .colon
    let bound ← patternWithDefault parse
    close start .patternProperty [key, bound]

/-- A pattern that is bound: an identifier, an array or an object. -/
def bindingPattern : Parser Tree := do
  let start ← mark
  match ← token with
  | .lbrack =>
    take
    let elements ← listWithRest .rbrack (arrayPatternElement parse) (restPattern parse)
    expect .rbrack
    close start .arrayPattern (elements.filter (·.label != .hole))
  | .lbrace =>
    take
    let properties ← listWithRest .rbrace (patternProperty parse) restIdentifier
    expect .rbrace
    close start .objectPattern properties
  | _ => bindingIdentifier

/-- A decorator: a call or a chain of names after the sign. -/
def decorator : Parser Tree := do
  let start ← mark
  expect .atSign
  let expression ← within ({ · with inDecorator := true }) (parse .leftHand)
  close start .other [expression]

/-- The decorators that stand here. -/
def decorators : Parser (List Tree) :=
  many do
    if ← sees .atSign then return some (← decorator parse) else return none

/-- What may stand before a parameter in a dialect with types: words that modify it, and
decorators. -/
structure ParameterRules where
  modifiers : List Token
  decorators : Bool

namespace ParameterRules

/-- The parameters of arrow functions and of types. -/
def plain : ParameterRules := ⟨[], false⟩

/-- The parameters of functions outside classes. -/
def ofFunction : ParameterRules := ⟨[.kwReadonly], false⟩

/-- The parameters of methods and accessors in classes. -/
def ofMethod : ParameterRules := ⟨[.kwReadonly], true⟩

/-- The parameters of constructors, which modifiers make properties. -/
def ofConstructor : ParameterRules :=
  ⟨[.kwReadonly, .kwPublic, .kwPrivate, .kwProtected, .kwOverride], true⟩

end ParameterRules

/-- A parameter of a function. Only an identifier is modified. One with a default is labelled like
a pattern with a default. -/
def parameter (rules : ParameterRules) : Parser Tree := do
  let start ← mark
  let typed ← hasTypes
  let decorated ← decorators parse
  complainIf (!decorated.isEmpty && !(typed && rules.decorators))
  let given ← modifiers false false
  admitOnly (if typed then rules.modifiers else []) given
  let pattern ← parse .pattern
  complainIf (!given.isEmpty && pattern.identifierName?.isNone)
  let isOptional ← if ← hasTypes then eat .question else pure false
  let type ← typeAnnotation? parse
  let default ← if ← sees .assign then pure [← initialValue parse] else pure []
  complainIf (isOptional && !default.isEmpty)
  let label := if default.isEmpty then Label.other else .patternDefault
  close start label (decorated ++ pattern :: type ++ default)

/-- The parameter that takes the rest of the arguments. The type after it lies outside its
span. -/
def restParameter : Parser Tree := do
  let element ← restPattern parse
  let type ← typeAnnotation? parse
  return .node .other element.span (element :: type)

/-- A parameter that gives the type of `this`. -/
def thisParameter : Parser Tree := do
  let start ← mark
  expect .kwThis
  let type ← typeAnnotation? parse
  close start .other type

/-- The parameters in parentheses. A parameter for `this` comes first, with or without a comma after
it; it lies inside the span of the parameters and is their sibling. -/
def parameters (rules : ParameterRules) : Parser (List Tree × Tree) := do
  let start ← mark
  expect .lparen
  let forThis ← if (← hasTypes) && (← sees .kwThis) then
      let one ← thisParameter parse
      let _ ← eat .comma
      pure [one]
    else pure []
  let others ← listWithRest .rparen (parameter parse rules) (restParameter parse)
  expect .rparen
  return (forThis, ← close start .formalParameters others)

end SsrBuild.Grammar
