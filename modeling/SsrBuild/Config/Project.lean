import SsrBuild.Config.Declaration
import SsrBuild.FileSystem.Basic
import SsrBuild.Json.Fault

/-!
The configuration of a project: its root directory, its entry module, its imports and plugins, and
the value they have been read from, in which everything else can be looked up.
-/

set_option autoImplicit false

namespace SsrBuild

/-- What can be wrong with a configuration. -/
inductive ConfigError
  | unreadable (path : List Char) (fault : FileFault)
  /-- The root directory has an empty spelling. -/
  | emptyRoot
  | malformed (path : List Char) (malformed : Json.Malformed)
  | mismatched (path : List Char) (mismatch : Json.Mismatch)
  deriving Repr

/-- The wording of an error. -/
def ConfigError.message : ConfigError → String
  | unreadable path fault => "Failed to read " ++ String.ofList path ++ ": " ++ fault.message
  | emptyRoot => "Failed to read : cannot make an empty path absolute"
  | malformed path cause =>
    "Invalid configuration in " ++ String.ofList path ++ ": " ++ cause.message
  | mismatched path cause =>
    "Invalid configuration in " ++ String.ofList path ++ ": " ++ cause.message

/-- The name of the configuration file. -/
def configFile : List Char := "uvue.config.json".toList

/-- The entry module of a project that names none. -/
def defaultMain : List Char := "src/main".toList

/-- The endings of entry modules. -/
def entrySuffixes : List (List Char) := [".js".toList, ".ts".toList]

/-- A path without the ending of an entry module, if it has one. -/
def withoutEntrySuffix (path : List Char) : List Char :=
  (entrySuffixes.findSome? fun suffix => suffix.isSuffixOf? path).getD path

/-- The configuration of a project. -/
structure ProjectConfig where
  root : AbsolutePath
  /-- The entry module without its ending. -/
  main : AbsolutePath
  imports : List ImportDeclaration
  plugins : List PluginDeclaration
  /-- The value that the configuration has been read from. -/
  raw : Json
  deriving Repr

namespace ProjectConfig

/-- The configuration that a value holds for the project in a directory. -/
def ofJson (root : Location) (value : Json) : Except ConfigError ProjectConfig :=
  match root.path? with
  | none => .error .emptyRoot
  | some path =>
    match Declarations.ofJson value with
    | .error mismatch => .error (.mismatched (path.resolve configFile).normalized mismatch)
    | .ok declarations =>
      let main := withoutEntrySuffix (declarations.main.getD defaultMain)
      .ok ⟨path, path.resolve main, declarations.imports, declarations.plugins, value⟩

variable (config : ProjectConfig)

/-- The path of the configuration file. -/
def configPath : AbsolutePath := config.root.resolve configFile

/-- The path of the entry module without its ending, as it stands in modules. -/
def mainPath : List Char := config.main.normalized

/-- A path of the project. -/
def resolve (path : List Char) : AbsolutePath := config.root.resolve path

/-- The value behind a key, which is names with dots between them. -/
def get? (key : List Char) : Option Json := config.raw.lookup (key.splitOn '.')

/-- The value of a name among the settings of the server. -/
def serverSetting? (name : List Char) : Option Json :=
  (config.get? "server".toList).bind (·.field? name)

end ProjectConfig

end SsrBuild
