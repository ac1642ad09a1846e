import SsrBuild.Query.Document

/-!
Workspaces: the documents that have been opened, each known by its place. A document's place is
what tells it from the others, so a handle never passes from one document to another.
-/

set_option autoImplicit false

namespace SsrBuild

/-- The documents in the order in which they were opened. -/
structure Workspace where
  documents : List Document
  deriving Repr

namespace Workspace

/-- No document. -/
def empty : Workspace := ⟨[]⟩

/-- Opens a program as the last document. -/
def openProgram (workspace : Workspace) (dialect : Grammar.Dialect) (source : List Char) :
    Except QueryError Workspace := do
  let document ← Document.parse workspace.documents.length dialect source
  return ⟨workspace.documents ++ [document]⟩

/-- The document at a place. -/
def document? (workspace : Workspace) (index : Nat) : Option Document :=
  workspace.documents[index]?

/-- Puts a changed document in its place. -/
def update (workspace : Workspace) (index : Nat) (document : Document) : Workspace :=
  ⟨workspace.documents.set index document⟩

/-- Replaces a node of a document. Where that is refused, nothing changes. -/
def replace (workspace : Workspace) (index : Nat) (handle : Handle) (fragment : Fragment) :
    Except QueryError Workspace := do
  match workspace.document? index with
  | some document => return workspace.update index (← document.replace handle fragment)
  | none => throw .staleHandle

end Workspace

end SsrBuild
