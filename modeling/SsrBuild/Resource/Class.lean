import SsrBuild.Config.Project
import SsrBuild.Text.Pattern

/-!
What a module is to the build: a file of the library that starts an app, the entry module of the
project, or neither. Backslashes and slashes in its path mean the same.
-/

set_option autoImplicit false

namespace SsrBuild

/-- What a module is to the build. -/
inductive ResourceClass
  | libraryBootstrap | userEntryModule | unrelated
  deriving DecidableEq, Repr

namespace ResourceClass

/-- The files that start an app, from the top of the path or from a slash on up to its end. -/
def bootstrapPattern : Text.Pattern :=
  .sequence (.either .start (.word "/".toList)) <|
    .sequence (.word "@uvue/core/".toList) <|
      .sequence (.either (.word "client".toList) (.word "server".toList)) <|
        .sequence (.word ".js".toList) .stop

/-- Is the path, which has no backslashes, that of a file that starts an app? -/
def isBootstrap (path : List Char) : Bool := bootstrapPattern.isFoundIn path

/-- What the module of a path is to the build of a project. -/
def ofPath (config : ProjectConfig) (path : List Char) : ResourceClass :=
  if isBootstrap (slashed path) then libraryBootstrap
  else if entrySuffixes.any fun suffix => slashed path == config.mainPath ++ suffix then
    userEntryModule
  else unrelated

end ResourceClass

end SsrBuild
