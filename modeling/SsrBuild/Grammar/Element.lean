import SsrBuild.Grammar.Annotation

/-!
Elements: tags in angle brackets with attributes, and between them text, embedded expressions and
further elements. After a tag that has children the text is read in its own way, so each closing
mark says how the token after it is read.
-/

set_option autoImplicit false

namespace SsrBuild.Grammar

open Grammar.Parser

variable (parse : Goal → Parser Tree)

/-- Takes the mark that ends a tag or an embedded expression, below another element or not. -/
def expectInside (nested : Bool) (wanted : Token) : Parser Unit := do
  if ← sees wanted then
    if nested then takeBefore Lexeme.nextElementChild else take
  else fail

/-- A word of an element's or an attribute's name, which may have hyphens, with its spelling in the
text: an escape stands for itself. -/
def elementWord : Parser (Tree × List Char) := do
  if (← token).isIdentifierName then
    reread Lexeme.asElementName
    let spelled := (← lexeme).spelling
    let word ← leaf .other
    return (word, spelled)
  else fail

/-- Does the name of an element refer to a variable? Other names stand for themselves. -/
def refersToVariable (spelled : List Char) : Bool :=
  match spelled with
  | [] => false
  | c :: _ => !c.isLower && !spelled.contains '-'

/-- The members after the first word of an element's name. -/
def elementMembers (start : Nat) (first : Tree) (spelled : List Char) :
    Parser (Tree × List Char) :=
  iterate (α := Tree × List Char) (fun (object, spelled) => do
    if ← eat .dot then
      let (property, word) ← elementWord
      failIf (word.contains '-')
      return some (← close start .other [object, property], spelled ++ '.' :: word)
    else return none) (first, spelled)

/-- The name of an element, with its spelling. -/
def elementName : Parser (Tree × List Char) := do
  let start ← mark
  let (word, spelled) ← elementWord
  let isThis := spelled == "this".toList
  let variable_ := word.relabel (.identifier (String.ofList spelled)) []
  if ← eat .colon then
    let (name, more) ← elementWord
    return (← close start .other [word, name], spelled ++ ':' :: more)
  else if ← sees .dot then
    elementMembers start (if isThis then word else variable_) spelled
  else return (if !isThis && refersToVariable spelled then variable_ else word, spelled)

/-- An expression in braces. In a child it may be missing, and then a node spans what is between
the braces. -/
def embedded (nested : Bool) : Parser Tree := do
  let start ← mark
  expect .lbrace
  let inner ← if ← sees .rbrace then
      pure (Tree.node .other ⟨(← get).lastStop, ← mark⟩ [])
    else parse .expression
  expectInside nested .rbrace
  close start .other [inner]

/-- An expression in braces whose value is spread. -/
def embeddedSpread (nested : Bool) : Parser Tree := do
  let start ← mark
  expect .lbrace
  expect .ellipsis
  let inner ← parse .expression
  expectInside nested .rbrace
  close start .other [inner]

/-- The value of an attribute: a string, an expression in braces or an element. -/
def attributeValue : Parser Tree := do
  match ← token with
  | .string => stringLiteral
  | .lbrace =>
    failIf (← peekSees .rbrace)
    embedded parse false
  | .less => parse (.element false)
  | _ => fail

/-- An attribute: a name with or without a value, or an object that is spread. -/
def attribute_ : Parser Tree := do
  let start ← mark
  if ← sees .lbrace then embeddedSpread parse false
  else
    let (word, _) ← elementWord
    let name ← if ← eat .colon then
        let (more, _) ← elementWord
        close start .other [word, more]
      else pure word
    if ← sees .assign then
      takeBefore Lexeme.nextAttributeValue
      let given ← attributeValue parse
      close start .other [name, given]
    else close start .other [name]

/-- What stands between the tags of an element. -/
def elementChildren : Parser (List Tree) :=
  many do
    match ← token with
    | .less => if ← peekSees .slash then return none else return some (← parse (.element true))
    | .lbrace =>
      if ← peekSees .ellipsis then return some (← embeddedSpread parse true)
      else return some (← embedded parse true)
    | .jsxText =>
      let start ← mark
      takeBefore Lexeme.nextElementChild
      return some (← close start .other [])
    | _ => fail

/-- The tag that closes an element, below another element or not, with the spelling of its name. -/
def closingTag (nested : Bool) : Parser (Tree × List Char) := do
  let start ← mark
  expect .less
  expect .slash
  if ← sees .greater then
    expectInside nested .greater
    return (← close start .other [], [])
  else
    let (name, spelled) ← elementName
    expectInside nested .greater
    return (← close start .other [name], spelled)

/-- An element or a fragment, which is an element without a name. The closing tag repeats the name
of the opening tag. -/
def element (nested : Bool) : Parser Tree := do
  let start ← mark
  expect .less
  if ← sees .greater then
    expectInside true .greater
    let opening ← close start .other []
    let children ← elementChildren parse
    let (closing, spelled) ← closingTag nested
    failIf !spelled.isEmpty
    close start .other (opening :: children ++ [closing])
  else
    let (name, spelled) ← elementName
    let types ← if ← hasTypes then typeArguments? parse else pure []
    let attributes ← many do
      if ← seesAny [.slash, .greater] then return none else return some (← attribute_ parse)
    if ← eat .slash then
      expectInside nested .greater
      let opening ← close start .other (name :: types ++ attributes)
      close start .other [opening]
    else
      expectInside true .greater
      let opening ← close start .other (name :: types ++ attributes)
      let children ← elementChildren parse
      let (closing, closed) ← closingTag nested
      failIf (closed != spelled)
      close start .other (opening :: children ++ [closing])

end SsrBuild.Grammar
