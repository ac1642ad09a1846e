import SsrBuild.Grammar.TypeDeclaration
import SsrBuild.Grammar.Variable

/-!
Declarations with the modifiers before them. Inside a declaration that is only announced nothing
has a body or a value.
-/

set_option autoImplicit false

namespace SsrBuild.Grammar

open Grammar.Parser

variable (parse : Goal → Parser Tree)

/-- Is the token a modifier of a declaration? -/
def isDeclarationModifier : Parser Bool := do
  if ← sees .kwConst then peekSees .kwEnum else isModifierHere false

/-- The modifiers before a declaration, each given once. -/
def declarationModifiers : Parser (List Token) := do
  let given ← many do
    if ← isDeclarationModifier then
      let word ← token
      take
      return some word
    else return none
  complainIf !given.Nodup
  return given

/-- A function. One that is only announced has no body and may lack a name. -/
def functionDeclaration (start : Nat) (given : List Token) : Parser Tree := do
  admitOnly [.kwDeclare, .kwAsync] given
  let isAnnounced := given.contains .kwDeclare
  let tree ← functionFrom parse start false (given.contains .kwAsync) !isAnnounced
  complainIf (isAnnounced && hasBody tree)
  return tree

/-- A declaration of a type or of a namespace. -/
def typeDeclaration (start : Nat) (given : List Token) : Parser Tree := do
  failIf !(← hasTypes)
  let enumModifiers := [.kwDeclare, .kwConst]
  match ← token with
  | .kwEnum =>
    admitOnly enumModifiers given
    enumeration parse start
  | .kwImport =>
    take
    if (← sees .kwType) && !(← peekSees .assign) then take
    let name ← bindingIdentifier
    aliasRest start name
  | next =>
    admitOnly [.kwDeclare] given
    match next with
    | .kwType => typeAlias parse start
    | .kwInterface => interface parse start
    | .kwModule | .kwNamespace => namespaceDeclaration parse start
    | .kwGlobal => globalDeclaration parse start
    | _ => fail

/-- A declaration after its modifiers. Only a class is decorated. -/
def declaration (start : Nat) (decorated : List Tree) (given : List Token) : Parser Tree := do
  let next ← token
  complainIf (!decorated.isEmpty && next != .kwClass)
  match next with
  | .kwClass =>
    admitOnly [.kwDeclare, .kwAbstract] given
    classFrom parse start decorated
  | .kwVar | .kwLet | .kwConst =>
    admitOnly [.kwDeclare] given
    variableStatement parse start false
  | .kwFunction => functionDeclaration parse start given
  | _ =>
    if ← seesAsyncFunction then
      take
      functionDeclaration parse start (.kwAsync :: given)
    else typeDeclaration parse start given

/-- A declaration with its modifiers. -/
def modifiedDeclaration (start : Nat) (decorated : List Tree) : Parser Tree := do
  let given ← if ← hasTypes then declarationModifiers else pure []
  within (Context.announcing given) (declaration parse start decorated given)

/-! ### Where a declaration begins -/

/-- Does a declaration with types begin after words that may modify it? -/
def seesModifiedDeclaration : Parser Bool :=
  foresees do
    let _ ← many do
      let modifier := [.kwAbstract, .kwAccessor, .kwAsync, .kwDeclare, .kwPrivate, .kwProtected,
        .kwPublic, .kwReadonly]
      if ← seesAny modifier then
        takeName
        failIf (← onNewLine)
        return some ()
      else if ← eat .kwStatic then return some ()
      else return none
    match ← token with
    | .kwVar | .kwLet | .kwConst | .kwFunction | .kwClass | .kwEnum => return true
    | .kwInterface | .kwType =>
      takeName
      return (← token).isBindingIdentifier && !(← onNewLine)
    | .kwModule | .kwNamespace =>
      takeName
      return ((← token).isBindingIdentifier || (← sees .string)) && !(← onNewLine)
    | .kwGlobal =>
      takeName
      seesAny [.name, .lbrace, .kwExport]
    | .kwImport =>
      takeName
      return (← seesAny [.string, .star, .lbrace]) || (← token).isIdentifierName
    | _ => return false

/-- Does a declaration begin here that only a dialect with types has? -/
def seesTypedDeclaration : Parser Bool := do
  if ← hasTypes then seesModifiedDeclaration else return false

end SsrBuild.Grammar
