import SsrBuild.Grammar.Program
import SsrBuild.Query.Selector
import SsrBuild.Text.Blank

/-!
Documents: the text of a program, the table of its nodes and the edits made to it. The text and the
tree never change. Replacing a node records an edit for its span, takes back the edits made inside
that span, and detaches the rows of its subtree, so that handles to them are refused from then on.
-/

set_option autoImplicit false

namespace SsrBuild

open Text (Span)

/-- A reference to a node of a document. -/
structure Handle where
  document : Nat
  index : Nat
  deriving DecidableEq, Repr

/-- Text that stands in place of the text of a span. -/
structure Edit where
  span : Span
  text : List Char
  deriving DecidableEq, Repr

/-- Text to be put into a document. -/
inductive Fragment
  | source (text : List Char)
  /-- The text of a node as it is when the fragment is used. -/
  | node (handle : Handle)
  | call (callee : Fragment) (arguments : List Fragment)
  /-- Parameters in parentheses. -/
  | parameters (list : List Fragment)

namespace Fragment

/-- An identifier, which may be a reserved word. -/
def identifier (name : List Char) : Except QueryError Fragment :=
  if Text.isIdentifierName name then .ok (source name) else .error (.invalidIdentifier name)

/-- The dialect of expressions: that of modules, without types and elements. -/
def expressionDialect : Grammar.Dialect := ⟨true, false, false⟩

/-- A text that begins with an expression, without the blanks around it. -/
def parseExpression (text : List Char) : Except QueryError Fragment :=
  match Grammar.parseExpression expressionDialect text with
  | some _ => .ok (source (Text.trim text))
  | none => .error .refused

end Fragment

/-- A program with the edits made to it. -/
structure Document where
  /-- What tells the document from all others. -/
  id : Nat
  source : List Char
  rows : List Row
  /-- In the order of the text. -/
  edits : List Edit
  deriving DecidableEq, Repr

namespace Document

/-- The document of a program, if the text is one. -/
def parse (id : Nat) (dialect : Grammar.Dialect) (source : List Char) :
    Except QueryError Document :=
  match Grammar.parseProgram dialect source with
  | some tree => .ok ⟨id, source, tree.table, []⟩
  | none => .error .refused

variable (document : Document)

/-- The handle of a row. -/
def handle (index : Nat) : Handle := ⟨document.id, index⟩

/-- The handle of the whole program. -/
def root : Handle := document.handle 0

/-- The row of a handle, if the handle belongs to the document and its node stands there still. -/
def row (handle : Handle) : Except QueryError Row :=
  if handle.document == document.id then
    match document.rows[handle.index]? with
    | some row => if row.isDetached then .error .staleHandle else .ok row
    | none => .error .staleHandle
  else .error .staleHandle

/-! ### Finding nodes -/

/-- The handles of the rows from one number up to another that stand and satisfy the test. -/
def handlesBetween (start stop : Nat) (test : Row → Bool) : List Handle :=
  document.rows.zipIdx.filterMap fun (row, index) =>
    if start ≤ index && index < stop && !row.isDetached && test row then
      some (document.handle index)
    else none

/-- All nodes that the selector chooses, in pre-order. -/
def find (selector : Selector) : List Handle :=
  document.handlesBetween 0 document.rows.length selector.selects

/-- The nodes strictly below a node that satisfy the test, in pre-order. -/
def below (scope : Handle) (test : Row → Bool) : Except QueryError (List Handle) := do
  let row ← document.row scope
  return document.handlesBetween (scope.index + 1) row.stop test

/-- The nodes strictly below a node that the selector chooses, in pre-order. -/
def findIn (scope : Handle) (selector : Selector) : Except QueryError (List Handle) :=
  document.below scope selector.selects

/-- The first node that the selector chooses. -/
def findOne (selector : Selector) : Option Handle :=
  (document.find selector).head?

/-- The first node strictly below a node that the selector chooses. -/
def findOneIn (scope : Handle) (selector : Selector) : Except QueryError (Option Handle) := do
  return (← document.findIn scope selector).head?

/-- The node above a node. -/
def parent (handle : Handle) : Except QueryError Handle := do
  match (← document.row handle).parent with
  | some index => return document.handle index
  | none => throw .traversal

/-- The nodes right below a node. -/
def children (handle : Handle) : Except QueryError (List Handle) :=
  document.below handle (·.parent == some handle.index)

/-- The arguments of a call or a construction: for each span the first node below that has it. -/
def arguments (handle : Handle) : Except QueryError (List Handle) := do
  let row ← document.row handle
  return row.arguments.filterMap fun span =>
    (document.handlesBetween (handle.index + 1) row.stop (·.span == span)).head?

/-- The kind of a node. -/
def kind (handle : Handle) : Except QueryError Kind := do
  return (← document.row handle).kind

/-- The name of a node, if it has one. -/
def name (handle : Handle) : Except QueryError (Option String) := do
  return (← document.row handle).name

/-- The span of a node in the source. -/
def span (handle : Handle) : Except QueryError Span := do
  return (← document.row handle).span

/-- Is the second node the first one, or below it? -/
def contains (scope handle : Handle) : Except QueryError Bool := do
  let row ← document.row scope
  let _ ← document.row handle
  return scope.index ≤ handle.index && handle.index < row.stop

/-! ### Text -/

/-- The text from an offset to another with the edits put in their places. -/
def splice (source : List Char) (start stop : Nat) : List Edit → Option (List Char)
  | [] => Text.slice? source start stop
  | edit :: rest => do
    let before ← Text.slice? source start edit.span.start
    let after ← splice source edit.span.stop stop rest
    return before ++ edit.text ++ after

/-- The text of a span with the edits made inside it. -/
def render (span : Span) : Except QueryError (List Char) :=
  match splice document.source span.start span.stop
      (document.edits.filter fun edit => span.covers edit.span) with
  | some text => .ok text
  | none => .error .overlap

/-- The text of the whole program with all edits. -/
def print : Except QueryError (List Char) :=
  document.render ⟨0, Text.byteCount document.source⟩

/-- The text of a node with the edits made inside it. -/
def text (handle : Handle) : Except QueryError (List Char) := do
  document.render (← document.row handle).span

/-- Texts in parentheses, with a comma and a space between them. -/
def listed (texts : List (List Char)) : List Char :=
  '(' :: ([',', ' '].intercalate texts ++ [')'])

mutual

/-- The text of a fragment. -/
def renderFragment : Fragment → Except QueryError (List Char)
  | .source text => .ok text
  | .node handle => document.text handle
  | .call callee arguments => do
    let function ← renderFragment callee
    let list ← renderFragments arguments
    return function ++ listed list
  | .parameters list => do
    return listed (← renderFragments list)

/-- The texts of several fragments. -/
def renderFragments : List Fragment → Except QueryError (List (List Char))
  | [] => .ok []
  | fragment :: rest => do
    let text ← renderFragment fragment
    return text :: (← renderFragments rest)

end

/-! ### Replacing nodes -/

/-- Puts an edit before the first one that does not begin before it. -/
def insertEdit (edit : Edit) : List Edit → List Edit
  | [] => [edit]
  | first :: rest =>
    if first.span.start < edit.span.start then first :: insertEdit edit rest
    else edit :: first :: rest

/-- Detaches the rows from one number up to another. -/
def detach (start stop : Nat) (rows : List Row) : List Row :=
  rows.mapIdx fun index row =>
    if start ≤ index && index < stop then { row with isDetached := true } else row

/-- Replaces a node by a fragment. -/
def replace (handle : Handle) (fragment : Fragment) : Except QueryError Document := do
  let row ← document.row handle
  let text ← document.renderFragment fragment
  let kept := document.edits.filter fun edit => !row.span.covers edit.span
  return { document with
    rows := detach handle.index row.stop document.rows
    edits := insertEdit ⟨row.span, text⟩ kept }

end Document

end SsrBuild
