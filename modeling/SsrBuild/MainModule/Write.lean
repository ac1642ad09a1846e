import SsrBuild.Config.Load
import SsrBuild.FileSystem.Operation
import SsrBuild.MainModule.Code

/-!
The main module as a file. It is written only when the file does not hold its bytes already, so a
module that stays the same is not touched.
-/

set_option autoImplicit false

namespace SsrBuild

/-- Why a main module could not be generated. -/
inductive GenerateError
  | config (error : ConfigError)
  | unwritable (path : List Char) (fault : FileFault)
  deriving Repr

/-- The wording of an error. -/
def GenerateError.message : GenerateError → String
  | config error => error.message
  | unwritable path fault =>
    "Failed to write main module " ++ String.ofList path ++ ": " ++ fault.message

/-- What writing the main module has come to. -/
inductive WriteOutcome
  | written | unchanged
  deriving DecidableEq, Repr

/-- A task that generates a main module. -/
abbrev Generation := ExceptT GenerateError (StateM FileSystem)

namespace Generation

/-- Does an operation on a path, whose faults are those of writing the path. -/
def writing (path : AbsolutePath) (operation : FileSystem.Operation Unit) : Generation Unit :=
  operation.adapt (GenerateError.unwritable path.normalized)

/-- The configuration as it is now. -/
def loadConfig (root : Location) : Generation ProjectConfig := do
  match ProjectConfig.load (← get) root with
  | .ok config => return config
  | .error error => throw (.config error)

/-- Does the file hold the content already? A file that is missing does not. -/
def isCurrent (path : AbsolutePath) (content : Bytes) : Generation Bool := do
  match (← get).contentAt path with
  | .ok existing => return existing == content
  | .error .notFound => return false
  | .error fault => throw (.unwritable path.normalized fault)

/-- Writes the content into the file and makes the directories above it that are missing. -/
def store (path : AbsolutePath) (content : Bytes) : Generation Unit := do
  writing path.parent (.makeDirectories path.parent)
  writing path (.writeFile path content)

/-- Writes the main module of a configuration unless the file holds it already. -/
def writeMain (config : ProjectConfig) : Generation WriteOutcome := do
  let path := config.mainModulePath
  let content := Text.encode config.mainCode
  if ← isCurrent path content then return .unchanged
  else
    store path content
    return .written

/-- Loads the configuration and writes its main module. -/
def regenerate (root : Location) : Generation WriteOutcome := do
  writeMain (← loadConfig root)

end Generation

end SsrBuild
