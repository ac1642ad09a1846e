import SsrBuild.Text.Replace

/-!
Absolute paths: names below the top directory, outermost first. Slashes separate names; empty names
and single dots name nothing, while two dots stay, for only a file system can tell where they lead.
A backslash is a character like any other until a path is normalized.
-/

set_option autoImplicit false

namespace SsrBuild

/-- The names in a text that spells a path. -/
def pathNames (text : List Char) : List (List Char) :=
  (text.splitOn '/').filter fun name => !(name.isEmpty || name == ['.'])

/-- Does the text spell a path from the top directory on? -/
def isAbsolutePath (text : List Char) : Bool := text.head? == some '/'

/-- A text with slashes in place of its backslashes. -/
def slashed (text : List Char) : List Char := Text.replaceAll '\\' '/' text

/-- Puts a path behind another one, as texts; an absolute path stands alone. -/
def joinedPath (base path : List Char) : List Char :=
  if isAbsolutePath path then path
  else if base.isEmpty || base.getLast? == some '/' then base ++ path
  else base ++ '/' :: path

/-- A path from the top directory on. -/
structure AbsolutePath where
  names : List (List Char)
  deriving DecidableEq, Repr, Inhabited

namespace AbsolutePath

/-- The top directory. -/
def top : AbsolutePath := ⟨[]⟩

/-- The path that a text spells from a directory on. -/
def resolve (directory : AbsolutePath) (text : List Char) : AbsolutePath :=
  if isAbsolutePath text then ⟨pathNames text⟩ else ⟨directory.names ++ pathNames text⟩

/-- The path as a text. -/
def text (path : AbsolutePath) : List Char := '/' :: ['/'].intercalate path.names

/-- The path as a text without backslashes. -/
def normalized (path : AbsolutePath) : List Char := slashed path.text

/-- The path without its last name. -/
def parent (path : AbsolutePath) : AbsolutePath := ⟨path.names.dropLast⟩

end AbsolutePath

/-- How a directory is spelled, and the directory from which a relative spelling starts. -/
structure Location where
  workingDirectory : AbsolutePath
  spelling : List Char
  deriving DecidableEq, Repr

namespace Location

/-- The path of a location; an empty spelling has none. -/
def path? (location : Location) : Option AbsolutePath :=
  if location.spelling.isEmpty then none
  else some (location.workingDirectory.resolve location.spelling)

/-- The location of something in a directory. -/
def join (location : Location) (path : List Char) : Location :=
  { location with spelling := joinedPath location.spelling path }

/-- Where to look for a location in a file system. -/
def target (location : Location) : AbsolutePath :=
  location.workingDirectory.resolve location.spelling

end Location

end SsrBuild
