import SsrBuild.Query.Error
import SsrBuild.Tree.Table

/-!
Selectors: a kind of node, or constructions, calls and identifiers of a given name. A selector is
written as a word for the kind, or as one of three words and a name with a number sign between.
-/

set_option autoImplicit false

namespace SsrBuild

/-- A test on nodes. -/
inductive Selector
  | kind (kind : Kind)
  /-- Constructions of what the identifier refers to. -/
  | newExpression (name : String)
  /-- Calls of what the identifier refers to. -/
  | callExpression (name : String)
  | identifier (name : String)
  deriving DecidableEq, Repr

namespace Selector

/-- Does the selector choose the row? -/
def selects : Selector → Row → Bool
  | kind wanted, row => row.kind == wanted
  | newExpression name, row => row.kind == .newExpression && row.name == some name
  | callExpression name, row => row.kind == .callExpression && row.name == some name
  | identifier name, row => row.kind == .identifier && row.name == some name

/-- The words for kinds of node. -/
def kindWords : List (String × Kind) :=
  [("program", .program), ("exportDefault", .exportDefault), ("function", .function),
    ("arrow", .arrowFunction), ("params", .formalParameters), ("new", .newExpression),
    ("call", .callExpression), ("id", .identifier), ("object", .objectExpression),
    ("import", .importDeclaration), ("class", .classDefinition), ("paren", .parenthesized)]

/-- The selector for a name after one of the three words. -/
def ofName (word name : String) : Option Selector :=
  match word with
  | "new" => some (newExpression name)
  | "call" => some (callExpression name)
  | "id" => some (identifier name)
  | _ => none

/-- Reads a selector. The first number sign ends the word, and a name follows it. -/
def parse (text : List Char) : Except QueryError Selector :=
  let word := text.takeWhile (· != '#')
  let found := match text.drop word.length with
    | [] => (kindWords.lookup (String.ofList word)).map kind
    | [_] => none
    | _ :: name => ofName (String.ofList word) (String.ofList name)
  match found with
  | some selector => .ok selector
  | none => .error (.invalidSelector text)

end Selector

end SsrBuild
