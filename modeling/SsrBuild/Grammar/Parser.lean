import SsrBuild.Grammar.Lexeme
import SsrBuild.Tree.Basic

/-!
Parsers over a stream of tokens. A parser may fail, which ends the reading or the trial it belongs
to, or complain, which lets the reading go on and refuses the text in the end. A trial that fails
leaves no trace, complaints included. The rules of the grammar refer to one another by goals, so
each rule is a function of the parser for all goals.
-/

set_option autoImplicit false

namespace SsrBuild.Grammar

open Text (Span)

/-- The language of a text: a module or a script, with types or without, with elements or
without. -/
structure Dialect where
  isModule : Bool
  hasTypes : Bool
  hasElements : Bool
  deriving DecidableEq, Repr, Inhabited

/-- What is allowed or has a meaning at a place in the text. -/
structure Context where
  dialect : Dialect
  /-- More than the count of characters, and so of tokens, in the text. -/
  limit : Nat
  /-- The operator `in` may be used. -/
  allowIn : Bool := true
  inAsync : Bool
  inGenerator : Bool := false
  inFunction : Bool := false
  inDecorator : Bool := false
  /-- Nothing here has a body or a value at run time. -/
  isAmbient : Bool := false
  isTopLevel : Bool := true
  /-- A type does not go on with `extends`. -/
  noConditionalType : Bool := false

/-- The context after modifiers. What is only announced has no body and no value. -/
def Context.announcing (given : List Token) (context : Context) : Context :=
  if given.contains .kwDeclare then { context with isAmbient := true } else context

/-- How far a text has been read. -/
structure State where
  lexeme : Lexeme
  /-- The offset after the last token taken. -/
  lastStop : Nat
  /-- Nothing has been complained about. -/
  sound : Bool
  /-- Offsets of opening marks at which the trial of an arrow function has failed. -/
  notArrows : List Nat
  /-- The names that the module has exported. -/
  exported : List String

/-- A reading of the text in a context. It may fail, and then the state is where it failed. -/
abbrev Parser := ReaderT Context (ExceptT Unit (StateM State))

/-- What can be asked of the grammar at a place in the text. -/
inductive Goal
  /-- A statement, alone or in a list of statements. -/
  | statement (alone : Bool)
  | expression
  /-- An expression without commas; the flag allows the type of a result after the parameters of
  an arrow function whose body may be followed by a colon. -/
  | assignment (resultType : Bool)
  /-- An expression of operators that bind more tightly than the number says. -/
  | binary (floor : Nat)
  /-- An expression without binary operators; if it is incremented or decremented before it is used,
  its node begins at the offset. -/
  | operand (start : Nat)
  | leftHand
  | primary
  | pattern
  | type
  | typeOperator
  /-- An element in angle brackets, below another element or not. -/
  | element (nested : Bool)
  deriving DecidableEq, Repr

namespace Parser

/-- The reading that finds no sense in the text. -/
def fail {α : Type} : Parser α := throw ()

/-- Refuses the text but reads on. -/
def complain : Parser Unit := modify fun s => { s with sound := false }

/-- Refuses the text on a condition, but reads on. -/
def complainIf (condition : Bool) : Parser Unit :=
  if condition then complain else return ()

/-- Fails on a condition. -/
def failIf (condition : Bool) : Parser Unit :=
  if condition then fail else return ()

/-- Tries a reading; if it fails, the text stands as it stood, and what is known of arrow functions
is kept. -/
def attempt {α : Type} (parser : Parser α) : Parser (Option α) := fun context s =>
  match parser context s with
  | (.ok result, next) => (.ok (some result), next)
  | (.error _, next) => (.ok none, { s with notArrows := next.notArrows })

/-- The result of a reading that is not kept, or none if it fails. -/
def lookahead {α : Type} (parser : Parser α) : Parser (Option α) := fun context s =>
  (.ok (parser context s).1.toOption, s)

/-- Does a test hold further on? A failure on the way counts as no. -/
def foresees (parser : Parser Bool) : Parser Bool := do
  return (← lookahead parser).getD false

/-- Reads with a changed context. -/
def within {α : Type} (change : Context → Context) (parser : Parser α) : Parser α :=
  fun context s => parser (change context) s

def dialect : Parser Dialect := return (← read).dialect
def hasTypes : Parser Bool := return (← read).dialect.hasTypes
def lexeme : Parser Lexeme := return (← get).lexeme
def token : Parser Token := return (← get).lexeme.token
def value : Parser (List Char) := return (← get).lexeme.value

/-- Does a line end before the token? -/
def onNewLine : Parser Bool := return (← get).lexeme.afterLineEnd

/-- Is this the token? -/
def sees (wanted : Token) : Parser Bool := return (← token) == wanted

/-- Is this one of the tokens? -/
def seesAny (wanted : List Token) : Parser Bool := return wanted.contains (← token)

/-- Replaces the token, read in another way. -/
def reread (change : Lexeme → Lexeme) : Parser Unit :=
  modify fun s =>
    let lexeme := change s.lexeme
    { s with lexeme, sound := s.sound && lexeme.sound }

/-- Takes the token and reads the one after it in the given way. -/
def takeBefore (next : Cursor → Lexeme) : Parser Unit :=
  modify fun s =>
    let lexeme := next s.lexeme.after
    { s with lexeme, lastStop := s.lexeme.stop, sound := s.sound && lexeme.sound }

/-- Takes the token for what it spells, whatever it could mean. -/
def takeName : Parser Unit := do
  let script := !(← dialect).isModule
  takeBefore (Lexeme.next script)

/-- Takes the token for what it means. A word that is spelled with an escape means nothing. -/
def take : Parser Unit := do
  let current ← lexeme
  complainIf (current.escaped && current.token.isKeyword)
  takeName

/-- Takes the token if it is the wanted one. -/
def eat (wanted : Token) : Parser Bool := do
  if ← sees wanted then
    take
    return true
  else return false

/-- Takes the wanted token or fails. -/
def expect (wanted : Token) : Parser Unit := do
  if ← sees wanted then take else fail

/-- What the token after this one is like. -/
def peek {α : Type} (test : Parser α) : Parser (Option α) := lookahead (do takeName; test)

/-- Is the token after this one the wanted one? -/
def peekSees (wanted : Token) : Parser Bool := foresees (do takeName; sees wanted)

/-- The offset of the token. -/
def mark : Parser Nat := return (← get).lexeme.start

/-- The span from an offset to the last token taken. -/
def spanFrom (start : Nat) : Parser Span := return ⟨start, (← get).lastStop⟩

/-- A node from an offset to the last token taken. -/
def close (start : Nat) (label : Label) (children : List Tree) : Parser Tree :=
  return .node label (← spanFrom start) children

/-- Takes the token and makes it a node without children. -/
def leaf (label : Label) : Parser Tree := do
  let start ← mark
  take
  close start label []

/-- May a statement end here without a semicolon? -/
def mayEnd : Parser Bool := do
  if ← seesAny [.semicolon, .rbrace, .endOfText] then return true else onNewLine

/-- Ends a statement. -/
def endStatement : Parser Unit := do
  if ← mayEnd then
    let _ ← eat .semicolon
  else fail

/-- Repeats a step until it gives nothing, at most as often as the number says. -/
def repeatUpTo {α : Type} (step : Parser (Option α)) : Nat → List α → Parser (List α)
  | 0, _ => fail
  | n + 1, found => do
    match ← step with
    | some one => repeatUpTo step n (one :: found)
    | none => return found.reverse

/-- Repeats a step until it gives nothing. -/
def many {α : Type} (step : Parser (Option α)) : Parser (List α) := do
  repeatUpTo step (← read).limit []

/-- Changes a value step by step until a step gives nothing, at most as often as the number
says. -/
def iterateUpTo {α : Type} (step : α → Parser (Option α)) : Nat → α → Parser α
  | 0, _ => fail
  | n + 1, current => do
    match ← step current with
    | some next => iterateUpTo step n next
    | none => return current

/-- Changes a value step by step until a step gives nothing. -/
def iterate {α : Type} (step : α → Parser (Option α)) (first : α) : Parser α := do
  iterateUpTo step (← read).limit first

/-- Items up to a closing mark, which is not taken. -/
def upTo {α : Type} (closing : Token) (item : Parser α) : Parser (List α) :=
  many do
    if ← sees closing then return none else return some (← item)

/-- Items with a separator between them up to a closing mark, which is not taken, and whether a
separator stands before that mark. -/
def separated {α : Type} (separator closing : Token) (item : Parser α) :
    Parser (List α × Bool) := do
  if ← sees closing then return ([], false)
  let first ← item
  let (found, trailing) ← iterate (α := List α × Bool) (fun (found, _) => do
    if ← sees closing then return none
    expect separator
    if ← sees closing then return some (found, true)
    return some ((← item) :: found, false)) ([first], false)
  return (found.reverse, trailing)

/-- Items with commas between them up to a closing mark, which is not taken. -/
def commaList {α : Type} (closing : Token) (item : Parser α) : Parser (List α) :=
  return (← separated .comma closing item).1

end Parser

end SsrBuild.Grammar
