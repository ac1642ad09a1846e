/-!
Patterns for which a text is searched: words, one behind the other or one instead of the other, and
the two ends of the text. A pattern is found in a text if it can be read from some place of it on.
-/

set_option autoImplicit false

namespace SsrBuild.Text

/-- What a text is searched for. -/
inductive Pattern
  /-- Nothing, where the text begins. -/
  | start
  /-- Nothing, where the text ends. -/
  | stop
  | word (letters : List Char)
  | sequence (first second : Pattern)
  | either (first second : Pattern)
  deriving Repr

namespace Pattern

/-- A place in a text: does the text begin there, and what stands behind it. -/
structure Place where
  isStart : Bool
  after : List Char

/-- The places to which the pattern can be read from a place on. -/
def reach : Pattern → Place → List Place
  | .start, here => if here.isStart then [here] else []
  | .stop, here => if here.after.isEmpty then [here] else []
  | .word letters, here =>
    match letters.isPrefixOf? here.after with
    | some rest => [⟨here.isStart && letters.isEmpty, rest⟩]
    | none => []
  | .sequence first second, here => (first.reach here).flatMap second.reach
  | .either first second, here => first.reach here ++ second.reach here

variable (pattern : Pattern)

/-- Can the pattern be read from some place of the rest of a text on? -/
def isFoundFrom (isStart : Bool) : List Char → Bool
  | [] => !(pattern.reach ⟨isStart, []⟩).isEmpty
  | c :: rest => !(pattern.reach ⟨isStart, c :: rest⟩).isEmpty || isFoundFrom false rest

/-- Is the pattern found in the text? -/
def isFoundIn (text : List Char) : Bool := pattern.isFoundFrom true text

end Pattern

end SsrBuild.Text
