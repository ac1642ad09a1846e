/-!
What can go wrong with a document: its text or a name is refused, a handle or a selector means
nothing, or a stretch of text to be copied ends before it begins.
-/

set_option autoImplicit false

namespace SsrBuild

/-- The errors of documents. -/
inductive QueryError
  /-- The text is no program, or no expression. -/
  | refused
  | invalidIdentifier (name : List Char)
  /-- The root has nothing above it. -/
  | traversal
  | staleHandle
  | invalidSelector (text : List Char)
  /-- The spans of two edits overlap, and no text lies between them. -/
  | overlap
  deriving DecidableEq, Repr

/-- The wording of an error, where it has one. -/
def QueryError.message? : QueryError → Option String
  | refused | overlap => none
  | invalidIdentifier name =>
    some (String.ofList ("Syntax error: '".toList ++ name ++ "' is not a valid identifier".toList))
  | traversal => some "Cannot take the parent of the document root"
  | staleHandle => some "Node handle is stale or belongs to another document"
  | invalidSelector text =>
    some (String.ofList ("Unknown selector '".toList ++ text ++ "'".toList))

end SsrBuild
