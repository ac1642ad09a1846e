import SsrBuild.Path.Absolute

/-!
What the system tells about a watched directory. Events that only tell of a file having been read
are no changes of it.
-/

set_option autoImplicit false

namespace SsrBuild

/-- What has happened to files, as far as it is known. -/
inductive EventKind
  | unknown | access | create | modify | remove | other
  deriving DecidableEq, Repr

/-- Something has happened to files. -/
structure FileEvent where
  kind : EventKind
  paths : List AbsolutePath
  deriving DecidableEq, Repr

/-- An event, or the news that watching has failed for once. -/
inductive Notice
  | event (event : FileEvent)
  | failure (message : List Char)
  deriving DecidableEq, Repr

/-- The last name of a path that ends in a name. -/
def AbsolutePath.fileName? (path : AbsolutePath) : Option (List Char) :=
  path.names.getLast?.filter (· != ['.', '.'])

namespace FileEvent

/-- Is the event a change of a file of this name? -/
def changes (event : FileEvent) (fileName : List Char) : Bool :=
  event.kind != .access && event.paths.any fun path => path.fileName? == some fileName

end FileEvent

/-- The event in a notice that is a change of a file of this name. -/
def Notice.change? (fileName : List Char) : Notice → Option FileEvent
  | event found => if found.changes fileName then some found else none
  | failure _ => none

end SsrBuild
