import SsrBuild.Grammar.Parser

/-!
Names: identifiers that are bound or referred to, words after a point or before a colon, private
names, and the names of properties and of exports, which may be strings.
-/

set_option autoImplicit false

namespace SsrBuild.Grammar

open Grammar.Parser

/-- An identifier node for the token, whatever word it is. -/
def identifierNode : Parser Tree := do
  let start ← mark
  let name := String.ofList (← value)
  takeName
  close start (.identifier name) []

/-- May the word be an identifier here? The words `await` and `yield` may where they have no
meaning. -/
def mayReferTo (word : Token) : Parser Bool := do
  let context ← read
  return word.isIdentifier || (word == .kwAwait && !context.inAsync) ||
    (word == .kwYield && !context.inGenerator)

/-- An identifier that refers to a variable. -/
def identifierReference : Parser Tree := do
  if ← mayReferTo (← token) then identifierNode else fail

/-- An identifier that is bound. -/
def bindingIdentifier : Parser Tree := do
  let word ← token
  if word.isBindingIdentifier then
    complainIf (!(← mayReferTo word))
    identifierNode
  else fail

/-- Any word, as a name that refers to no variable. -/
def anyWord : Parser Tree := do
  if (← token).isIdentifierName then
    let start ← mark
    takeName
    close start .other []
  else fail

/-- A private name. -/
def privateName : Parser Tree := do
  if ← sees .privateName then leaf .other else fail

/-- A string, as an expression of its own. -/
def stringLiteral : Parser Tree := do
  if ← sees .string then leaf .stringLiteral else fail

/-- The name of a property, and whether it is computed. -/
def propertyName (parse : Goal → Parser Tree) : Parser (Tree × Bool) := do
  match ← token with
  | .string => return (← stringLiteral, false)
  | .number | .bigint => return (← leaf .other, false)
  | .lbrack =>
    take
    let key ← within ({ · with allowIn := true }) (parse (.assignment true))
    expect .rbrack
    return (key, true)
  | _ => return (← anyWord, false)

end SsrBuild.Grammar
