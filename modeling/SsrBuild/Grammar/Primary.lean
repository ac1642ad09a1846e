import SsrBuild.Grammar.ClassDefinition

/-!
The expressions that hold together by themselves: names, literals, templates, arrays, objects,
functions, classes and expressions in parentheses. An object may hold a default that makes sense
only if the object turns out to be a target.
-/

set_option autoImplicit false

namespace SsrBuild.Grammar

open Grammar.Parser

variable (parse : Goal → Parser Tree)

/-- The context between brackets of any kind. -/
def insideBrackets (context : Context) : Context :=
  { context with allowIn := true, inDecorator := false }

/-- An element that is spread. -/
def spreadElement : Parser Tree := do
  let start ← mark
  expect .ellipsis
  let argument ← parse (.assignment true)
  close start .spread [argument]

/-! ### Templates -/

/-- A part of a template's text, without the marks around it. -/
def templateText (tagged : Bool) : Parser Tree := do
  let part ← lexeme
  complainIf (!tagged && !part.cooked)
  take
  let mark := if [.templateHead, .templateMiddle].contains part.token then 2 else 1
  return .node .other ⟨part.start + 1, part.stop - mark⟩ []

/-- An expression embedded in a template, the part of the text that its brace begins, and whether
another expression comes after that part. -/
def embeddedExpression (tagged : Bool) : Parser (Tree × Tree × Bool) := do
  let expression ← within ({ · with allowIn := true }) (parse .expression)
  failIf !(← sees .rbrace)
  reread Lexeme.asTemplate
  failIf !(← seesAny [.templateMiddle, .templateTail])
  let goesOn ← sees .templateMiddle
  return (expression, ← templateText tagged, goesOn)

/-- A template that has embedded expressions: first its texts, then its expressions. -/
def templateParts (tagged : Bool) : Parser (List Tree) := do
  let first ← templateText tagged
  let (texts, expressions, _) ← iterate (α := List Tree × List Tree × Bool)
    (fun (texts, expressions, goesOn) => do
      if !goesOn then return none
      let (expression, text, more) ← embeddedExpression parse tagged
      return some (texts ++ [text], expressions ++ [expression], more)) ([first], [], true)
  return texts ++ expressions

/-- A template. -/
def template (tagged : Bool) : Parser Tree := do
  let start ← mark
  let parts ← if ← sees .templateHead then templateParts parse tagged
    else pure [← templateText tagged]
  close start .other parts

/-! ### Arrays and objects -/

/-- An element of an array. A hole has the span of the comma after it. -/
def arrayElement : Parser Tree := do
  match ← token with
  | .comma =>
    let start ← mark
    return .node .hole ⟨start, start + 1⟩ []
  | .ellipsis => spreadElement parse
  | _ => parse (.assignment true)

/-- An array. -/
def array : Parser Tree := do
  let start ← mark
  expect .lbrack
  let (elements, trailing) ← within ({ · with allowIn := true })
    (separated .comma .rbrack (arrayElement parse))
  expect .rbrack
  close start (.arrayExpression trailing) elements

/-- A property after its key: a value after a colon, or the key alone when it can be a variable. -/
def propertyValue (start : Nat) (variable_ : Option String) (key : Tree) : Parser Tree := do
  match variable_, ← sees .colon with
  | some name, false =>
    let reference := Tree.node (.identifier name) key.span []
    if ← eat .assign then
      let default ← parse (.assignment true)
      close start .shorthandDefault [key, reference, default]
    else close start .shorthand [key, reference]
  | _, _ =>
    expect .colon
    let value ← parse (.assignment true)
    close start .property [key, value]

/-- A property, a method or an accessor of an object; the last two have bodies. -/
def objectMember : Parser Tree := do
  let start ← mark
  if ← sees .ellipsis then return ← spreadElement parse
  let given ← modifiers false false
  if let some kind ← accessorKind? then
    admitOnly [] given
    let (name, _) ← propertyName parse
    let body ← accessorMethod parse kind .ofFunction
    complainIf !(hasBody body)
    close start .other [name, body]
  else
    let isGenerator ← eat .star
    let isVariable ← mayReferTo (← token)
    let spelled := String.ofList (← value)
    let (key, _) ← propertyName parse
    if isGenerator || (← seesAny [.lparen, .less]) then
      admitOnly [.kwAsync] given
      let body ← method parse (given.contains .kwAsync) isGenerator .ofFunction
      complainIf !(hasBody body)
      close start .other [key, body]
    else
      admitOnly [] given
      propertyValue parse start (if isVariable then some spelled else none) key

/-- An object. -/
def object : Parser Tree := do
  let start ← mark
  expect .lbrace
  let (members, trailing) ← within ({ · with allowIn := true })
    (separated .comma .rbrace (objectMember parse))
  expect .rbrace
  close start (.objectExpression trailing) members

/-! ### Other primary expressions -/

/-- An expression in parentheses. -/
def parenthesized : Parser Tree := do
  let start ← mark
  expect .lparen
  let innerStart ← mark
  let (expressions, trailing) ← within insideBrackets
    (separated .comma .rparen (parse (.assignment true)))
  failIf trailing
  let inner ← match expressions with
    | [] => fail
    | [one] => pure one
    | several => close innerStart .other several
  expect .rparen
  close start .parenthesized [inner]

/-- A regular expression. -/
def regex : Parser Tree := do
  reread Lexeme.asRegex
  if ← sees .regex then leaf .other else fail

/-- The word `super`, which only a member or a call may follow. -/
def superReference : Parser Tree := do
  let word ← leaf .other
  complainIf !(← seesAny [.dot, .lbrack, .lparen])
  return word

/-- An import while the program runs, from its opening parenthesis on. -/
def importCall (start : Nat) : Parser Tree := do
  expect .lparen
  let arguments ← within ({ · with allowIn := true }) (commaList .rparen (parse (.assignment true)))
  failIf (arguments.isEmpty || 2 < arguments.length)
  expect .rparen
  close start .importCall arguments

/-- An import as an expression, or what the module tells about itself. -/
def importExpression : Parser Tree := do
  let start ← mark
  let word ← leaf .other
  if ← eat .dot then
    if ← sees .kwMeta then
      let property ← leaf .other
      close start .other [word, property]
    else if ← seesAny [.kwSource, .kwDefer] then
      take
      importCall parse start
    else fail
  else importCall parse start

/-- An identifier or a literal, or what a keyword or an opening mark begins. A construction is read
by the given rule. -/
def primary (construction : Parser Tree) : Parser Tree := do
  let start ← mark
  match ← token with
  | .kwThis | .kwNull | .kwTrue | .kwFalse | .number | .bigint => leaf .other
  | .string => stringLiteral
  | .template | .templateHead => template parse false
  | .lbrack => array parse
  | .lbrace => object parse
  | .lparen => parenthesized parse
  | .slash | .slashAssign => regex
  | .kwFunction => functionFrom parse start true false false
  | .kwClass => classFrom parse start []
  | .atSign =>
    let decorated ← decorators parse
    decoratedClass parse start decorated
  | .kwSuper => superReference
  | .kwImport => importExpression parse
  | .kwNew => construction
  | _ =>
    if ← seesAsyncFunction then
      take
      functionFrom parse start true true false
    else identifierReference

end SsrBuild.Grammar
