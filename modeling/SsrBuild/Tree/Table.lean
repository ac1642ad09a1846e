import SsrBuild.Tree.Basic

/-!
Trees as tables. A walk enters every node, goes through its children and leaves the node; the table
has a row for each node in the order in which they are entered. A row knows the row of the node
above it and the number of the row at which its subtree has ended, so a subtree is an interval.
-/

set_option autoImplicit false

namespace SsrBuild

open Text (Span)

/-- A row of the table. -/
structure Row where
  kind : Kind
  span : Span
  /-- The row of the node above. -/
  parent : Option Nat
  /-- The number of the first row that does not belong to the subtree. -/
  stop : Nat
  name : Option String
  /-- The spans of the arguments. -/
  arguments : List Span
  /-- The node, or one above it, has been replaced. -/
  isDetached : Bool
  deriving DecidableEq, Repr, Inhabited

/-- A step of a walk: into a node, or out of the node entered last. -/
inductive Step
  | enter (tree : Tree)
  | leave

namespace Tree

mutual

/-- The steps of a walk through a tree. -/
def steps : Tree → List Step
  | node label span children =>
    .enter (node label span children) :: (stepsAll children ++ [.leave])

/-- The steps of a walk through several trees. -/
def stepsAll : List Tree → List Step
  | [] => []
  | tree :: rest => steps tree ++ stepsAll rest

end

end Tree

/-- The rows so far, and the rows of the nodes that have not been left, innermost first. -/
structure TableBuilder where
  rows : List Row
  path : List Nat

namespace TableBuilder

/-- The builder before the walk. -/
def empty : TableBuilder := ⟨[], []⟩

/-- The row of a node at the moment it is entered. -/
def newRow (builder : TableBuilder) (tree : Tree) : Row :=
  { kind := tree.kind, span := tree.span, parent := builder.path.head?,
    stop := builder.rows.length + 1, name := tree.name?,
    arguments := tree.arguments.map Tree.span, isDetached := false }

/-- The builder after one step. Leaving a node tells where its subtree has ended. -/
def step (builder : TableBuilder) : Step → TableBuilder
  | .enter tree => ⟨builder.rows ++ [builder.newRow tree], builder.rows.length :: builder.path⟩
  | .leave =>
    match builder.path with
    | [] => builder
    | index :: rest =>
      ⟨builder.rows.modify index ({ · with stop := builder.rows.length }), rest⟩

end TableBuilder

/-- The table of a tree. -/
def Tree.table (tree : Tree) : List Row :=
  (tree.steps.foldl TableBuilder.step TableBuilder.empty).rows

end SsrBuild
