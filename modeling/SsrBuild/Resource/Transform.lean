import SsrBuild.Entry.PerRequest
import SsrBuild.Json.Mismatch
import SsrBuild.MainModule.Code
import SsrBuild.Resource.Class

/-!
Modules on their way into the build. The files that start an app are pointed at the main module,
the entry module builds an app for each request, and all other modules pass as they are.
-/

set_option autoImplicit false

namespace SsrBuild

/-- A module with what the build knows about it. -/
structure ModuleSource where
  content : List Char
  sourceMap : Option (List Char)
  metadata : Option Json
  deriving Repr

namespace ModuleSource

open Json (Mismatch)

/-- Any value, or nothing for null. -/
def optionalValue : Json → Option Json
  | .null => none
  | value => some value

/-- A part of a module that may be absent. -/
def optionalText : Option Json → Except Mismatch (Option (List Char))
  | none => .ok none
  | some value => value.asOptionalText

/-- The module in a value. The parts of an object are read in the order of their names. -/
def ofJson (value : Json) : Except Mismatch ModuleSource :=
  match value with
  | .array [] => .error (.empty .moduleSource "3 elements")
  | .array (first :: others) => do
    let content ← first.asText
    let sourceMap ← optionalText others[0]?
    Json.checkLength 3 (first :: others)
    return ⟨content, sourceMap, others[1]?.bind optionalValue⟩
  | .object _ => do
    let content ← (value.field? "content".toList).mapM Json.asText
    let sourceMap ← optionalText (value.field? "sourceMap".toList)
    match content with
    | some content =>
      return ⟨content, sourceMap, (value.field? "meta".toList).bind optionalValue⟩
    | none => throw (.missingField "content")
  | value => .error (.wrongType value .moduleSource)

end ModuleSource

namespace ProjectConfig

variable (config : ProjectConfig)

/-- How the main module is called where an app is started. -/
def mainImport : List Char := "./main".toList

/-- A file that starts an app, with the path of the main module in the first place of its name. -/
def linkBootstrap (content : List Char) : List Char :=
  Text.replaceFirst mainImport config.mainModulePath.normalized content

/-- The ending of modules with types. -/
def typedSuffix : List Char := ".ts".toList

/-- The dialect of the entry module at a path: with types, or else with elements. -/
def entryDialect (path : List Char) : Grammar.Dialect :=
  if typedSuffix.isSuffixOf path then ⟨true, true, false⟩ else ⟨true, false, true⟩

/-- The text of a module as it enters the build. -/
def transform (path content : List Char) : Except QueryError (List Char) :=
  match ResourceClass.ofPath config path with
  | .libraryBootstrap => .ok (config.linkBootstrap content)
  | .userEntryModule => Entry.perRequest (entryDialect path) content
  | .unrelated => .ok content

/-- A module as it enters the build. -/
def transformModule (path : List Char) (source : ModuleSource) :
    Except QueryError ModuleSource := do
  return { source with content := ← config.transform path source.content }

end ProjectConfig

end SsrBuild
