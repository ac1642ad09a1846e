import SsrBuild.Grammar.Function

/-!
Classes: what a class extends and implements, and its members. A constructor is a method of that
name which is neither static nor computed; no other member bears its name, and nothing static is
named `prototype`, apart from fields that accessors hide.
-/

set_option autoImplicit false

namespace SsrBuild.Grammar

open Grammar.Parser

variable (parse : Goal → Parser Tree)

/-- What an accessor does with its property. -/
inductive AccessorKind
  | getter | setter
  deriving DecidableEq

/-- Does the parameter take the rest of the arguments? -/
def takesRest (parameter : Tree) : Bool :=
  parameter.children.head?.any (·.label == .rest)

/-- A getter has no parameters, apart from one that takes the rest; a setter has exactly one, which
does not take the rest and in a dialect with types has no default. -/
def AccessorKind.admits (typed : Bool) : AccessorKind → List Tree → Bool
  | .getter, parameters => parameters.all takesRest
  | .setter, [only] => !takesRest only && !(typed && only.label == .patternDefault)
  | .setter, _ => false

/-- Takes the word that makes a member an accessor, if it is not the name of the member. A star on
the next line begins another member. -/
def accessorKind? : Parser (Option AccessorKind) := do
  let kind := match ← token with
    | .kwGet => some AccessorKind.getter
    | .kwSet => some AccessorKind.setter
    | _ => none
  let stands ← foresees do
    takeName
    return (← mayFollowModifier) && !((← sees .star) && (← onNewLine))
  if kind.isSome && stands then
    take
    return kind
  else return none

/-- The function of an accessor. -/
def accessorMethod (kind : AccessorKind) (rules : ParameterRules) : Parser Tree := do
  let body ← method parse false false rules
  let parameters := body.children.find? (·.label == .formalParameters)
  complainIf !(kind.admits (← hasTypes) ((parameters.map Tree.children).getD []))
  return body

/-- Does the signature of an index stand here? After its bracket there is a name with a modifier, a
type or a comma, or what can be no computed name. -/
def seesIndexSignature : Parser Bool := do
  if !(← sees .lbrack) then return false
  foresees do
    takeName
    if ← seesAny [.ellipsis, .lbrack] then return true
    let first ← token
    if !first.isModifier && !first.isIdentifier then return false
    takeName
    if first.isModifier && (← token).isIdentifier then return true
    if ← seesAny [.colon, .comma] then return true
    if !(← eat .question) then return false
    seesAny [.colon, .comma, .rbrack]

/-- Ends a member of a type: a comma, a semicolon or nothing. -/
def endMember : Parser Unit := do
  if !(← eat .comma) then
    let _ ← eat .semicolon

/-- The signature of an index after its modifiers. Its brackets hold one name and no comma. -/
def indexSignature (start : Nat) : Parser Tree := do
  expect .lbrack
  let (names, trailing) ← separated .comma .rbrack (do
    let nameStart ← mark
    takeName
    let type ← typeAnnotation? parse
    close nameStart .other type)
  expect .rbrack
  complainIf (trailing || names.length != 1)
  let type ← typeAnnotation? parse
  failIf type.isEmpty
  endMember
  close start .other (names ++ type)

/-- A type that a class implements or an interface extends, named by words with points. -/
def implementedType : Parser Tree := do
  let start ← mark
  let first ← identifierReference
  let name ← iterate (α := Tree) (fun name => do
    if ← eat .dot then
      let member ← anyWord
      return some (← close start .other [name, member])
    else return none) first
  let types ← typeArguments? parse
  close start .other (name :: types)

/-- What a class extends, with its type arguments. -/
def extendedClass : Parser (List Tree) := do
  let extended ← parse .leftHand
  match extended with
  | .node .instantiation _ parts => return parts
  | _ => return extended :: (← typeArguments? parse)

/-- What a class extends and implements, in this order and each at most once. -/
def heritage : Parser (List Tree) := do
  let extended ← if ← eat .kwExtends then extendedClass parse else pure []
  let implemented ← if ← eat .kwImplements then
      let first ← implementedType parse
      let others ← many do
        if ← eat .comma then return some (← implementedType parse) else return none
      pure (first :: others)
    else pure []
  failIf (← seesAny [.kwExtends, .kwImplements])
  return extended ++ implemented

/-- The modifiers that grant access. -/
def accessModifiers : List Token := [.kwPublic, .kwPrivate, .kwProtected]

/-- The name of a member, with what it spells unless it is computed or private. Access to a private
name is not granted. -/
def memberName (given : List Token) : Parser (Tree × Option (List Char)) := do
  let spelled ← value
  if ← sees .privateName then
    complainIf (spelled == "constructor".toList || given.any accessModifiers.contains)
    return (← privateName, none)
  else
    let isNumber ← seesAny [.number, .bigint]
    let (name, computed) ← propertyName parse
    return (name, if computed || isNumber then none else some spelled)

/-- Statements that run when a class is defined. -/
def staticBlock (start : Nat) : Parser Tree := do
  take
  expect .lbrace
  let inner : Context → Context := fun context =>
    { context with
      inAsync := true, inGenerator := false, inFunction := false, isTopLevel := false }
  let statements ← within inner (upTo .rbrace (parse (.statement false)))
  expect .rbrace
  close start .other statements

/-- An accessor after the word that makes it one. -/
def accessor (start : Nat) (kind : AccessorKind) (decorated : List Tree) (given : List Token) :
    Parser Tree := do
  let (name, spelled) ← memberName parse given
  let isStatic := given.contains .kwStatic
  complainIf (!isStatic && spelled == some "constructor".toList)
  complainIf (isStatic && spelled == some "prototype".toList)
  admitOnly (accessModifiers ++ [.kwStatic, .kwAbstract, .kwOverride, .kwReadonly]) given
  let body ← accessorMethod parse kind .ofMethod
  close start .other (decorated ++ [name, body])

/-- Does a function have neither type parameters nor a type for `this` or for its result? -/
def isUntyped (function : Tree) : Bool :=
  function.children.all fun part => part.label == .formalParameters || part.label == .functionBody

/-- The modifiers of a method that is no constructor. -/
def methodModifiers : List Token :=
  accessModifiers ++ [.kwStatic, .kwAbstract, .kwOverride, .kwAsync, .kwAccessor]

/-- A method after its name. A constructor has no types apart from those of its parameters. What is
decorated has a body. -/
def methodMember (start : Nat) (decorated : List Tree) (given : List Token) (isGenerator : Bool)
    (name : Tree) (spelled : Option (List Char)) (isOptional : Bool) : Parser Tree := do
  let isStatic := given.contains .kwStatic
  let isAsync := given.contains .kwAsync
  let isConstructor := !isStatic && spelled == some "constructor".toList
  complainIf (isStatic && spelled == some "prototype".toList)
  if isConstructor then complainIf (isAsync || isGenerator || isOptional)
  else admitOnly methodModifiers given
  let rules := if isConstructor then ParameterRules.ofConstructor else .ofMethod
  let body ← method parse isAsync isGenerator rules
  complainIf (isConstructor && !isUntyped body || !decorated.isEmpty && !hasBody body)
  close start .other (decorated ++ [name, body])

/-- The modifiers of a field; one that its accessors hide has fewer of them. -/
def fieldModifiers (isAccessor : Bool) : List Token :=
  accessModifiers ++ [.kwStatic, .kwAbstract, .kwOverride] ++
    if isAccessor then [.kwAccessor] else [.kwDeclare, .kwReadonly]

/-- A field after its name. An optional field is neither assigned for certain nor hidden by
accessors. -/
def field (start : Nat) (decorated : List Tree) (given : List Token) (name : Tree)
    (spelled : Option (List Char)) (isOptional : Bool) : Parser Tree := do
  let isAccessor := given.contains .kwAccessor
  complainIf (!isAccessor && spelled == some "constructor".toList)
  complainIf (!isAccessor && given.contains .kwStatic && spelled == some "prototype".toList)
  admitOnly (fieldModifiers isAccessor) given
  complainIf (isOptional && isAccessor)
  if (← sees .bang) && !(← onNewLine) then
    complainIf isOptional
    take
  let type ← typeAnnotation? parse
  let inner : Context → Context := fun context =>
    { context with allowIn := true, inAsync := false, inGenerator := false }
  let first ← if ← eat .assign then pure [← within inner (parse .expression)] else pure []
  endStatement
  close start .other (decorated ++ name :: type ++ first)

/-- A member of a class. -/
def classMember : Parser Tree := do
  let start ← mark
  let decorated ← decorators parse
  let given ← modifiers true true
  if (← sees .kwStatic) && (← peekSees .lbrace) then
    complainIf (!decorated.isEmpty || !given.isEmpty)
    staticBlock parse start
  else if let some kind ← accessorKind? then
    accessor parse start kind decorated given
  else if ← seesIndexSignature then
    admitOnly [.kwStatic, .kwReadonly] given
    complainIf !decorated.isEmpty
    indexSignature parse start
  else
    let isGenerator ← eat .star
    let (name, spelled) ← memberName parse given
    let isOptional ← eat .question
    if isGenerator || (← seesAny [.lparen, .less]) then
      methodMember parse start decorated given isGenerator name spelled isOptional
    else field parse start decorated given name spelled isOptional

/-- The members of a class in braces. -/
def classBody : Parser Tree := do
  let start ← mark
  expect .lbrace
  let members ← many do
    let _ ← many do
      if ← eat .semicolon then return some () else return none
    if ← sees .rbrace then return none else return some (← classMember parse)
  expect .rbrace
  close start .other members

/-- Does a name of a class stand here, and not the types that it implements? -/
def seesClassName : Parser Bool := do
  return (← token).isBindingIdentifier && !(← sees .kwImplements)

/-- A class from its keyword on. -/
def classFrom (start : Nat) (decorated : List Tree) : Parser Tree := do
  expect .kwClass
  let name ← if ← seesClassName then pure [← bindingIdentifier] else pure []
  let types ← typeParameters? parse
  let related ← heritage parse
  let body ← classBody parse
  close start .classDefinition (decorated ++ name ++ types ++ related ++ [body])

/-- A class after its decorators, with the modifiers before its keyword. -/
def decoratedClass (start : Nat) (decorated : List Tree) : Parser Tree := do
  let given ← modifiers false false
  admitOnly [.kwDeclare, .kwAbstract] given
  within (Context.announcing given) (classFrom parse start decorated)

end SsrBuild.Grammar
