import SsrBuild.Json.Mismatch
import SsrBuild.Path.Absolute

/-!
What a configuration declares: the entry module, the modules to be imported and the plugins. A
module to be imported is spelled as its source or as an object, a plugin as its module or as a pair
with options. The declarations stand in an object, or in a list in a fixed order.
-/

set_option autoImplicit false

namespace SsrBuild

/-- A module that the main module imports. -/
structure ImportDeclaration where
  sourcePath : List Char
  /-- Is it imported on the server too? -/
  ssrEligible : Bool
  deriving DecidableEq, Repr

/-- A plugin and its options. -/
structure PluginDeclaration where
  modulePath : List Char
  options : Json
  deriving Repr

/-- What a configuration declares. -/
structure Declarations where
  main : Option (List Char)
  imports : List ImportDeclaration
  plugins : List PluginDeclaration
  deriving Repr

namespace Declarations

open Json (Mismatch)

/-- What a part says, or the default if the part is absent. -/
def orDefault {α : Type} (default : α) (read : Json → Except Mismatch α) :
    Option Json → Except Mismatch α
  | none => .ok default
  | some value => read value

/-- The entry module among the paths, which are an object or a list of one. -/
def mainOf : Json → Except Mismatch (Option (List Char))
  | .array [] => .error (.empty .paths "1 element")
  | .array (main :: others) => do
    let path ← main.asOptionalText
    Json.checkLength 1 (main :: others)
    return path
  | .object fields =>
    orDefault none Json.asOptionalText ((Json.object fields).field? "main".toList)
  | value => .error (.wrongType value .paths)

/-- Is an import that is spelled as an object eligible on the server? -/
def eligibility? (entry : Json) : Option Bool :=
  match entry.field? "ssr".toList with
  | none => some true
  | some (.boolean value) => some value
  | some _ => none

/-- The import that an object spells. -/
def importOfObject? (entry : Json) : Option ImportDeclaration := do
  let source ← (← entry.field? "src".toList).text?
  return ⟨slashed source, ← eligibility? entry⟩

/-- The import that a value spells. -/
def importOf (value : Json) : Except Mismatch ImportDeclaration :=
  match value with
  | .string source => .ok ⟨slashed source, true⟩
  | value =>
    match importOfObject? value with
    | some declaration => .ok declaration
    | none => .error (.noSpelling "RawImport")

/-- The plugin that a value spells. -/
def pluginOf : Json → Except Mismatch PluginDeclaration
  | .string path => .ok ⟨slashed path, Json.emptyObject⟩
  | .array [.string path, options] => .ok ⟨slashed path, options⟩
  | _ => .error (.noSpelling "RawPlugin")

/-- The declarations in a value. The parts of an object are read in the order of their names. -/
def ofJson (value : Json) : Except Mismatch Declarations :=
  match value with
  | .array parts => do
    let main ← orDefault none mainOf parts[0]?
    let imports ← orDefault [] (Json.asSequence importOf) parts[1]?
    let plugins ← orDefault [] (Json.asSequence pluginOf) parts[2]?
    Json.checkLength 3 parts
    return ⟨main, imports, plugins⟩
  | .object _ => do
    let imports ← orDefault [] (Json.asSequence importOf) (value.field? "imports".toList)
    let main ← orDefault none mainOf (value.field? "paths".toList)
    let plugins ← orDefault [] (Json.asSequence pluginOf) (value.field? "plugins".toList)
    return ⟨main, imports, plugins⟩
  | value => .error (.wrongType value .configuration)

end Declarations

end SsrBuild
