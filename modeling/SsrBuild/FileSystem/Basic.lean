import SsrBuild.Dictionary
import SsrBuild.Path.Absolute

/-!
File systems: a tree of directories with files at its leaves. A path is followed from the top, name
by name; two dots lead to the directory above, but only out of a directory that exists.
-/

set_option autoImplicit false

namespace SsrBuild

/-- The content of a file. -/
abbrev Bytes := List UInt8

/-- A file, or a directory with its entries in the order of their names. -/
inductive Entry
  | file (content : Bytes)
  | directory (entries : List (List Char × Entry))
  deriving Repr, Inhabited

namespace Entry

/-- A directory without entries. -/
def emptyDirectory : Entry := directory []

def isDirectory : Entry → Bool
  | directory _ => true
  | file _ => false

/-- The entry of a name in a directory. -/
def child? (name : List Char) : Entry → Option Entry
  | directory entries => Dictionary.get? name entries
  | file _ => none

/-- The entry below some names. -/
def below? : List (List Char) → Entry → Option Entry
  | [], entry => some entry
  | name :: rest, entry => (entry.child? name).bind (below? rest)

/-- Puts an entry below some names, all but the last of which lead through directories. -/
def put (new : Entry) : List (List Char) → Entry → Entry
  | [], _ => new
  | name :: rest, directory entries =>
    let old := (Dictionary.get? name entries).getD emptyDirectory
    directory (Dictionary.insert name (put new rest old) entries)
  | _ :: _, file content => file content

/-- Takes away the entry below some names. -/
def remove : List (List Char) → Entry → Entry
  | [name], directory entries => directory (Dictionary.erase name entries)
  | name :: rest, directory entries =>
    match Dictionary.get? name entries with
    | some old => directory (Dictionary.insert name (remove rest old) entries)
    | none => directory entries
  | _, entry => entry

mutual

/-- The paths of all entries below an entry, with a slash behind directories. -/
def listing (above : List Char) : Entry → List (List Char)
  | file _ => []
  | directory entries => listingAll above entries

/-- The paths of several entries and of all entries below them. -/
def listingAll (above : List Char) : List (List Char × Entry) → List (List Char)
  | [] => []
  | (name, entry) :: rest =>
    let path := if entry.isDirectory then above ++ name ++ ['/'] else above ++ name
    path :: (listing path entry ++ listingAll above rest)

end

end Entry

/-- A file system, by what stands at its top. -/
structure FileSystem where
  top : Entry
  deriving Repr, Inhabited

/-- What can go wrong with files. -/
inductive FileFault
  | notFound | alreadyExists | notDirectory | isDirectory | notText
  deriving DecidableEq, Repr

/-- The wording of a fault. -/
def FileFault.message : FileFault → String
  | notFound => "No such file or directory (os error 2)"
  | alreadyExists => "File exists (os error 17)"
  | notDirectory => "Not a directory (os error 20)"
  | isDirectory => "Is a directory (os error 21)"
  | notText => "stream did not contain valid UTF-8"

namespace FileSystem

/-- Two dots. -/
def above : List Char := ['.', '.']

/-- Follows names from a place, which is given by the names that lead to it from the top. -/
def follow (files : FileSystem) :
    List (List Char) → List (List Char) → Except FileFault (List (List Char))
  | place, [] => .ok place
  | place, name :: rest =>
    match files.top.below? place with
    | none => .error .notFound
    | some (.file _) => .error .notDirectory
    | some (.directory _) =>
      if name == above then follow files place.dropLast rest
      else follow files (place ++ [name]) rest

/-- The names that lead to a path from the top; the last of them may lead to nothing. -/
def locate (files : FileSystem) (path : AbsolutePath) : Except FileFault (List (List Char)) :=
  files.follow [] path.names

/-- The entry of a path. -/
def entry (files : FileSystem) (path : AbsolutePath) : Except FileFault Entry := do
  match files.top.below? (← files.locate path) with
  | some entry => return entry
  | none => throw .notFound

/-- Does the path lead to a directory? -/
def isDirectory (files : FileSystem) (path : AbsolutePath) : Bool :=
  match files.entry path with
  | .ok entry => entry.isDirectory
  | .error _ => false

/-- The content of a file. -/
def contentAt (files : FileSystem) (path : AbsolutePath) : Except FileFault Bytes := do
  match ← files.entry path with
  | .file content => return content
  | .directory _ => throw .isDirectory

end FileSystem

end SsrBuild
