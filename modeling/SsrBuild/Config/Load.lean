import SsrBuild.Config.Project
import SsrBuild.Json.Reader
import SsrBuild.Text.Utf8

/-!
The configuration of a project as its file says it. A project without the file has the defaults.
-/

set_option autoImplicit false

namespace SsrBuild.ProjectConfig

/-- The text of a file. -/
def readText (files : FileSystem) (path : AbsolutePath) : Except FileFault (List Char) := do
  match Text.decode? (← files.contentAt path) with
  | some text => return text
  | none => throw .notText

/-- The value in the configuration file of a directory, or an empty object without the file. -/
def readValue (files : FileSystem) (root : Location) : Except ConfigError Json :=
  let location := root.join configFile
  match readText files location.target with
  | .error .notFound => .ok Json.emptyObject
  | .error fault => .error (.unreadable (slashed location.spelling) fault)
  | .ok text =>
    match Json.read text with
    | .error malformed => .error (.malformed (slashed location.spelling) malformed)
    | .ok value => .ok value

/-- The configuration of the project in a directory. -/
def load (files : FileSystem) (root : Location) : Except ConfigError ProjectConfig := do
  ProjectConfig.ofJson root (← readValue files root)

end SsrBuild.ProjectConfig
