import SsrBuild.Grammar.Expression
import SsrBuild.Grammar.Statement

/-!
Programs. Every rule asks for the goals below it by way of a number that counts how deep the rules
may go, and a text cannot send them deeper than its length allows. A text is accepted if a rule
reads it, nothing has been complained about and no object holds a default without being a target.
-/

set_option autoImplicit false

namespace SsrBuild.Grammar

open Grammar.Parser
open Text (Span)

/-- The rule for a goal. -/
def rule (parse : Goal → Parser Tree) : Goal → Parser Tree
  | .statement alone => statement parse alone
  | .expression => expression parse
  | .assignment resultType => assignment parse resultType
  | .binary floor => binary parse floor
  | .operand start => operand parse start
  | .leftHand => leftHand parse
  | .primary => primary parse (construction parse)
  | .pattern => bindingPattern parse
  | .type => typeExpression parse
  | .typeOperator => typeOperator parse
  | .element nested => element parse nested

/-- Reads a goal with rules that go as deep as the number says. -/
def parseGoal : Nat → Goal → Parser Tree
  | 0, _ => fail
  | depth + 1, goal => rule (parseGoal depth) goal

/-- The statements of a program, after the line that names its interpreter. -/
def program (parse : Goal → Parser Tree) : Parser (List Tree) := do
  let first ← if ← sees .hashbang then pure [← leaf .other] else pure []
  let statements ← upTo .endOfText (parse (.statement false))
  return first ++ statements

/-- How deep the rules go in a text at most. -/
def depthOf (text : List Char) : Nat := 16 * (text.length + 4)

/-- The place at the beginning of a text. -/
def beginning (dialect : Dialect) (text : List Char) : State :=
  let first := Lexeme.next (!dialect.isModule) ⟨0, text⟩
  { lexeme := first, lastStop := 0, sound := first.sound, notArrows := [], exported := [] }

/-- The context at the beginning of a text. -/
def outermost (dialect : Dialect) (text : List Char) : Context :=
  { dialect, limit := text.length + 2, inAsync := dialect.isModule }

/-- The result of reading a text, if the text is accepted. -/
def accept {α : Type} (dialect : Dialect) (text : List Char) (parser : Parser α) : Option α :=
  match parser (outermost dialect text) (beginning dialect text) with
  | (.ok result, state) => if state.sound then some result else none
  | (.error _, _) => none

/-- The tree with spans of bytes, unless an object in it holds a default. The rules count
characters. -/
def finish (text : List Char) (tree : Tree) : Option Tree :=
  if tree.hasLabel .shorthandDefault then none
  else some (tree.mapSpans (Span.inBytes text))

/-- The tree of a program. -/
def parseProgram (dialect : Dialect) (text : List Char) : Option Tree := do
  let statements ← accept dialect text (program (parseGoal (depthOf text)))
  finish text (.node .program ⟨0, text.length⟩ statements)

/-- The tree of an expression at the beginning of a text. -/
def parseExpression (dialect : Dialect) (text : List Char) : Option Tree := do
  let tree ← accept dialect text (parseGoal (depthOf text) .expression)
  finish text tree

end SsrBuild.Grammar
