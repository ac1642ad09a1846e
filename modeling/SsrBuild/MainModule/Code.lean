import SsrBuild.Config.Project
import SsrBuild.Decimal.Notation
import SsrBuild.MainModule.Literal

/-!
The main module of a project: it exports the app, imports the declared modules, those for clients
only under a condition, and registers the plugins with the options that the configuration holds.
-/

set_option autoImplicit false

namespace SsrBuild

/-- What a main module holds. -/
structure MainModule where
  /-- The module that exports the app. -/
  app : List Char
  /-- The modules that are imported everywhere. -/
  imports : List (List Char)
  /-- The modules that are imported by clients only. -/
  clientImports : List (List Char)
  /-- The configuration that holds the options of the plugins. -/
  config : List Char
  plugins : List (List Char)
  deriving DecidableEq, Repr

namespace MainModule

/-- The main module of a configuration. -/
def ofConfig (config : ProjectConfig) : MainModule where
  app := config.mainPath
  imports := (config.imports.filter (·.ssrEligible)).map (·.sourcePath)
  clientImports := (config.imports.filter fun entry => !entry.ssrEligible).map (·.sourcePath)
  config := config.configPath.normalized
  plugins := config.plugins.map (·.modulePath)

/-- The call that loads a module. -/
def required (path : List Char) : List Char :=
  "require(".toList ++ literal path ++ ")".toList

/-- Statements that load modules, each on a line. -/
def requireLines (paths : List (List Char)) : List Char :=
  ['\n'].intercalate (paths.map fun path => required path ++ [';'])

/-- The statement that exports the app. -/
def exportLines (app : List Char) : List Char :=
  "import createApp from ".toList ++ literal app ++
    ";\nexport \x7b createApp \x7d;\n".toList

/-- The statement that imports the modules for clients only. -/
def clientBlock (paths : List (List Char)) : List Char :=
  "if (process.client) \x7b\n".toList ++ requireLines paths ++ "\n\x7d".toList

/-- The module that takes plugins. -/
def pluginHost : List Char := "@uvue/core".toList

/-- The line that brings every plugin of the configuration into the form of a pair. -/
def pluginPairs : List Char :=
  ("const uvuePlugins = (uvueConfig.plugins || []).map(plugin => " ++
    "(typeof plugin === 'string' ? [plugin, \x7b\x7d] : plugin));\n").toList

/-- The line that takes the default export out of a module. -/
def defaultOf : List Char :=
  ("const interopDefault = module => " ++
    "(module && module.__esModule ? module.default : module);\n").toList

/-- The line that registers a plugin with the options of the pair in its place. -/
def registration (path : List Char) (place : Nat) : List Char :=
  "UVue.use(interopDefault(".toList ++ required path ++ "), uvuePlugins[".toList ++
    decimalDigits place ++ "][1]);\n".toList

/-- The statements that register the plugins, if there are any. -/
def pluginLines (config : List Char) (plugins : List (List Char)) : List Char :=
  if plugins.isEmpty then []
  else
    "\nimport UVue from ".toList ++ literal pluginHost ++ ";\nimport uvueConfig from ".toList ++
      literal config ++ ";\n".toList ++ pluginPairs ++ defaultOf ++
      plugins.zipIdx.flatMap fun (path, place) => registration path place

/-- The text of a main module. -/
def text (main : MainModule) : List Char :=
  exportLines main.app ++ requireLines main.imports ++ '\n' :: clientBlock main.clientImports ++
    pluginLines main.config main.plugins

end MainModule

/-- The text of the main module of a configuration. -/
def ProjectConfig.mainCode (config : ProjectConfig) : List Char :=
  (MainModule.ofConfig config).text

/-- The path of the main module of a configuration. -/
def ProjectConfig.mainModulePath (config : ProjectConfig) : AbsolutePath :=
  config.root.resolve "node_modules/.uvue/main.js".toList

end SsrBuild
