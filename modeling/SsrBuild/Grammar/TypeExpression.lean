import SsrBuild.Grammar.Primary
import SsrBuild.Grammar.TypeMember

/-!
Types. A union or an intersection may begin with its operator, and then it has a node even if it
has one part. A question mark after a type belongs to a condition when another type follows it.
-/

set_option autoImplicit false

namespace SsrBuild.Grammar

open Grammar.Parser

variable (parse : Goal → Parser Tree)

/-! ### Names of types -/

/-- A name of words with points between them; the first word refers to a variable. -/
def typeName : Parser Tree := do
  let start ← mark
  let first ← if ← sees .kwThis then leaf .other
    else if (← token).isIdentifierName then identifierNode
    else fail
  iterate (α := Tree) (fun name => do
    if ← eat .dot then
      let member ← anyWord
      return some (← close start .other [name, member])
    else return none) first

/-- Type arguments on the line of what they belong to. -/
def typeArgumentsOnLine? : Parser (List Tree) := do
  if ← onNewLine then return [] else typeArguments? parse

/-- A type that is named, with its arguments. -/
def typeReference : Parser Tree := do
  let start ← mark
  let name ← typeName
  let types ← typeArgumentsOnLine? parse
  close start .other (name :: types)

/-- The words after the point of an imported type. -/
def importedName : Parser Tree := do
  let start ← mark
  let first ← anyWord
  iterate (α := Tree) (fun name => do
    if ← eat .dot then
      let member ← anyWord
      return some (← close start .other [name, member])
    else return none) first

/-- A type from another module. -/
def importedType : Parser Tree := do
  let start ← mark
  expect .kwImport
  expect .lparen
  let source ← stringLiteral
  let options ← if ← eat .comma then pure [← object parse] else pure []
  expect .rparen
  let name ← if ← eat .dot then pure [← importedName] else pure []
  let types ← typeArgumentsOnLine? parse
  close start .other (source :: options ++ name ++ types)

/-- The type of a variable or of a module. The type arguments of a variable do not begin inside an
operator. -/
def typeQuery : Parser Tree := do
  let start ← mark
  take
  if ← sees .kwImport then
    let module ← importedType parse
    close start .other [module]
  else
    let name ← typeName
    let types ← if ← sees .less then typeArgumentsOnLine? parse else pure []
    close start .other (name :: types)

/-! ### Literals -/

/-- A literal as a type, with a minus sign before it if it is negative. -/
def literalType : Parser Tree := do
  let start ← mark
  let isNegative ← eat .minus
  let literal ← match ← token with
    | .template => template parse false
    | .string => stringLiteral
    | .number | .bigint | .kwTrue | .kwFalse => leaf .other
    | _ => fail
  let inner ← if isNegative then close start .other [literal] else pure literal
  close start .other [inner]

/-- A template with types in it: first its texts, then its types. -/
def templateType : Parser Tree := do
  let start ← mark
  let inner : Goal → Parser Tree := fun _ => parse .type
  let parts ← templateParts inner false
  close start .other parts

/-! ### Objects and tuples -/

/-- Does a type with a member for each of several keys stand here? -/
def seesMappedType : Parser Bool :=
  foresees do
    takeName
    if ← seesAny [.plus, .minus] then
      takeName
      sees .kwReadonly
    else
      let _ ← eat .kwReadonly
      if !(← eat .lbrack) then return false
      if !(← token).isIdentifierName then return false
      takeName
      sees .kwIn

/-- The signs that add or take away a mark. -/
def eatSign : Parser Bool := do
  if ← eat .plus then return true else eat .minus

/-- A type with a member for each of several keys. -/
def mappedType : Parser Tree := do
  let start ← mark
  expect .lbrace
  if ← eatSign then expect .kwReadonly
  else
    let _ ← eat .kwReadonly
  expect .lbrack
  let name ← bindingIdentifier
  expect .kwIn
  let keys ← parse .type
  let renamed ← if ← eat .kwAs then pure [← parse .type] else pure []
  expect .rbrack
  if ← eatSign then expect .question
  else
    let _ ← eat .question
  let type ← if ← eat .colon then pure [← parse .type] else pure []
  let _ ← eat .semicolon
  expect .rbrace
  close start .other (name :: keys :: renamed ++ type)

/-- Does the name of an element of a tuple stand here? -/
def seesElementName : Parser Bool :=
  foresees do
    let _ ← eat .ellipsis
    if !(← token).isIdentifierName then return false
    takeName
    let _ ← eat .question
    sees .colon

/-- How many items an element of a tuple stands for: one, one or none, those of another tuple, or
any number of one type. -/
inductive Arity
  | one | optional | spread | repeated
  deriving DecidableEq

/-- The arity of an element that gives the rest, by its type. -/
def restArity (type : Tree) : Arity :=
  if type.label == .arrayType then .repeated
  else match type.children with
    | [name, _] => if name.identifierName? == some "Array" then .repeated else .spread
    | _ => .spread

/-- An element of a tuple with a name. Its mark for the rest and its question mark stand beside the
name, and only one of them. -/
def namedElement : Parser (Tree × Arity) := do
  let start ← mark
  let isRest ← eat .ellipsis
  let nameStart ← mark
  let name ← anyWord
  let isOptional ← eat .question
  expect .colon
  complainIf (isRest && isOptional || (← sees .ellipsis))
  let _ ← eat .ellipsis
  let type ← parse .type
  complainIf (type.label == .optionalType)
  let named ← close nameStart .other [name, type]
  if isRest then return (← close start .rest [named], restArity type)
  else return (named, if isOptional then .optional else .one)

/-- An element of a tuple. -/
def tupleElement : Parser (Tree × Arity) := do
  if ← seesElementName then namedElement parse
  else
    let start ← mark
    if ← eat .ellipsis then
      let type ← parse .type
      return (← close start .rest [type], restArity type)
    else
      let type ← parse .type
      return (type, if type.label == .optionalType then .optional else .one)

/-- Is an element out of order? After one that may be missing there is none that may not be missing,
and after any number of one type there is no second such number and nothing that may be
missing. -/
def isMisordered : List Arity → Bool
  | [] => false
  | first :: others =>
    first == .optional && others.contains .one ||
      first == .repeated && (others.contains .repeated || others.contains .optional) ||
      isMisordered others

/-- A tuple. -/
def tupleType : Parser Tree := do
  let start ← mark
  expect .lbrack
  let elements ← commaList .rbrack (tupleElement parse)
  expect .rbrack
  complainIf (isMisordered (elements.map Prod.snd))
  close start .tupleType (elements.map Prod.fst)

/-! ### Functions -/

/-- Skips what may begin a parameter, or says that nothing does. -/
def skipParameterStart : Parser Bool := do
  let _ ← modifiers false false
  let next ← token
  if next.isIdentifier || next == .kwThis then
    takeName
    return true
  else if next == .lbrack || next == .lbrace then
    let sound := (← get).sound
    let _ ← parse .pattern
    return sound && (← get).sound
  else return false

/-- Does a function's type stand here, and not a type in parentheses? -/
def seesFunctionType : Parser Bool := do
  match ← token with
  | .less | .kwNew => return true
  | .kwAbstract => peekSees .kwNew
  | .lparen =>
    foresees do
      takeName
      if ← seesAny [.rparen, .ellipsis] then return true
      if !(← skipParameterStart parse) then return false
      if ← seesAny [.colon, .comma, .question, .assign] then return true
      if ← eat .rparen then sees .arrow else return false
  | _ => return false

/-- The type of a function or of a constructor. A colon may stand for the arrow. -/
def functionType : Parser Tree := do
  let start ← mark
  let _ ← eat .kwAbstract
  let constructs ← eat .kwNew
  let parts ← signatureParts parse constructs [.arrow, .colon]
  failIf (parts.getLast?.any (·.label == .formalParameters))
  close start .other parts

/-! ### Primary types -/

/-- A type in parentheses. -/
def parenthesizedType : Parser Tree := do
  let start ← mark
  expect .lparen
  let type ← parse .type
  expect .rparen
  close start .other [type]

/-- The claim that a parameter, or `this`, has a type or is true. -/
def assertionType : Parser Tree := do
  let start ← mark
  take
  let subject ← anyWord
  let type ← if ← eat .kwIs then
      let typeStart ← mark
      let type ← parse .type
      pure [← close typeStart .other [type]]
    else pure []
  close start .other (subject :: type)

/-- The type of `this`, or a predicate on it. -/
def thisType : Parser Tree := do
  let start ← mark
  let word ← leaf .other
  if (← sees .kwIs) && !(← onNewLine) then
    take
    let typeStart ← mark
    let type ← parse .type
    let annotation ← close typeStart .other [type]
    close start .other [word, annotation]
  else return word

/-- A type that may be missing, written with the question mark before it, or an unknown type. -/
def questionedType : Parser Tree := do
  let start ← mark
  take
  if ← seesAny [.comma, .rbrace, .rparen, .greater, .assign, .bar] then close start .other []
  else
    let type ← parse .type
    close start .other [type]

/-- The words that are types by themselves, unless a point follows them. -/
def typeWords : List Token :=
  [.kwNull, .kwAny, .kwUnknown, .kwNever, .kwObject, .kwSymbol, .kwBigint, .kwBoolean, .kwNumber,
    .kwString, .kwUndefined]

/-- Does the token after this one make it a claim about a parameter or `this`? -/
def seesAssertion : Parser Bool :=
  foresees do
    takeName
    let next ← token
    return next.isIdentifierName && !(← onNewLine)

/-- A type that an opening mark or a word begins. -/
def primaryType : Parser Tree := do
  let next ← token
  match next with
  | .kwVoid => leaf .other
  | .question => questionedType parse
  | .template | .string | .kwTrue | .kwFalse | .number | .bigint => literalType parse
  | .minus =>
    if (← peekSees .number) || (← peekSees .bigint) then literalType parse else fail
  | .kwThis => thisType parse
  | .kwTypeof => typeQuery parse
  | .lbrace => if ← seesMappedType then mappedType parse else typeMembers parse
  | .lbrack => tupleType parse
  | .lparen => parenthesizedType parse
  | .kwImport => importedType parse
  | .kwAsserts => if ← seesAssertion then assertionType parse else typeReference parse
  | .templateHead => templateType parse
  | _ =>
    if typeWords.contains next && !(← peekSees .dot) then leaf .other else typeReference parse

/-- A type that an exclamation mark may begin. -/
def nonArrayType : Parser Tree := do
  let start ← mark
  if ← eat .bang then
    let type ← primaryType parse
    close start .other [type]
  else primaryType parse

/-! ### Operators on types -/

/-- Can the token begin a type, whatever follows it? -/
def beginsSimpleType (token : Token) : Bool :=
  [.number, .bigint, .string, .kwTrue, .kwFalse, .kwVoid, .kwNull, .kwThis, .kwTypeof, .lbrace,
    .lbrack, .less, .bar, .amp, .kwNew, .star, .question, .bang, .ellipsis, .kwImport, .template,
    .templateHead, .kwFunction].contains token || token.isIdentifier

/-- Does a type begin here? -/
def beginsType : Parser Bool :=
  foresees do
    let opened ← many do
      if ← eat .lparen then return some () else return none
    let next ← token
    if next == .minus then
      takeName
      seesAny [.number, .bigint]
    else
      return beginsSimpleType next ||
        !opened.isEmpty && (next == .rparen || next == .atSign || next.isBindingIdentifier ||
          next.isModifier)

/-- What may follow a type on its line: marks, an index, or the brackets of an array. -/
def postfixStep (start : Nat) (type : Tree) : Parser (Option Tree) := do
  if ← onNewLine then return none
  match ← token with
  | .bang =>
    take
    return some (← close start .other [type])
  | .question =>
    if ← foresees (do takeName; beginsType) then return none
    take
    return some (← close start .optionalType [type])
  | .lbrack =>
    take
    if ← beginsType then
      let index ← parse .type
      expect .rbrack
      return some (← close start .other [type, index])
    else
      expect .rbrack
      return some (← close start .arrayType [type])
  | _ => return none

/-- The constraint of a type that is inferred. Where a condition may follow it, a question mark
after it shows that the word `extends` began the condition. -/
def inferredConstraint : Parser (List Tree) := do
  let constraint ← attempt do
    expect .kwExtends
    let constraint ← within ({ · with noConditionalType := true }) (parse .type)
    failIf (!(← read).noConditionalType && (← sees .question))
    return constraint
  return constraint.toList

/-- A type that is inferred. -/
def inferredType : Parser Tree := do
  let start ← mark
  take
  let nameStart ← mark
  let name ← bindingIdentifier
  let constraint ← inferredConstraint parse
  let parameter ← close nameStart .other (name :: constraint)
  close start .other [parameter]

/-- A type with an operator before it, or one that marks may follow. Only arrays and tuples are
readonly. -/
def typeOperator : Parser Tree := do
  let start ← mark
  match ← token with
  | .kwKeyof | .kwUnique =>
    take
    let type ← parse .typeOperator
    close start .other [type]
  | .kwReadonly =>
    take
    let type ← parse .typeOperator
    complainIf (type.label != .arrayType && type.label != .tupleType)
    close start .other [type]
  | .kwInfer => inferredType parse
  | _ =>
    within ({ · with noConditionalType := false }) do
      let first ← nonArrayType parse
      iterate (postfixStep parse start) first

/-- Types with an operator between them, which may also stand before the first. -/
def joinedTypes (operator : Token) (part : Parser Tree) : Parser Tree := do
  let start ← mark
  let leading ← eat operator
  let first ← part
  let others ← many do
    if ← eat operator then return some (← part) else return none
  if leading || !others.isEmpty then close start .other (first :: others) else return first

/-- A type: a function's type, or a union that may be the subject of a condition. -/
def typeExpression : Parser Tree := do
  if ← seesFunctionType parse then return ← functionType parse
  let start ← mark
  let type ← joinedTypes .bar (joinedTypes .amp (parse .typeOperator))
  if !(← read).noConditionalType && (← sees .kwExtends) && !(← onNewLine) then
    take
    let bound ← within ({ · with noConditionalType := true }) (parse .type)
    expect .question
    let consequent ← within ({ · with noConditionalType := false }) (parse .type)
    expect .colon
    let alternate ← within ({ · with noConditionalType := false }) (parse .type)
    close start .other [type, bound, consequent, alternate]
  else return type

end SsrBuild.Grammar
