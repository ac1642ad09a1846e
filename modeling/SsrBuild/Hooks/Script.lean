import SsrBuild.Hooks.Compilation
import SsrBuild.Hooks.Registry

/-!
Plugins by script: the actions of their hooks are lists of steps on a compilation. A step can also
make an entry in a journal, which tells who has been called with which options.
-/

set_option autoImplicit false

namespace SsrBuild

/-- An entry of the journal. -/
structure JournalEntry where
  plugin : List Char
  hook : PluginHook
  note : Json
  options : Json
  deriving Repr

/-- A compilation and the journal of the calls for it. -/
structure Session where
  compilation : Compilation
  journal : List JournalEntry
  deriving Repr

/-- A session before any call. -/
def Session.empty : Session := ⟨.empty, []⟩

/-- A step of a script. -/
inductive ScriptStep
  | note (value : Json)
  | putAsset (name text : List Char)
  /-- Puts in an asset under the name that the options have under a key. -/
  | putAssetNamedBy (key text : List Char)
  | appendAsset (name text : List Char)
  | dropAsset (name : List Char)
  | putMetadata (key : List Char) (value : Json)
  | putOptions (key : List Char)
  | setOutput (path : List Char)
  | fail (message : List Char)
  deriving Repr

namespace ScriptStep

/-- The name of an asset for which the options have none. -/
def defaultAssetName : List Char := "default.txt".toList

/-- The name that the options have under a key. -/
def assetName (key : List Char) (options : Json) : List Char :=
  ((options.field? key).bind Json.text?).getD defaultAssetName

/-- What a step does to the compilation. -/
def change (options : Json) (compilation : Compilation) : ScriptStep → Compilation
  | putAsset name text => compilation.putAsset name text
  | putAssetNamedBy key text => compilation.putAsset (assetName key options) text
  | appendAsset name text => compilation.appendAsset name text
  | dropAsset name => compilation.dropAsset name
  | putMetadata key value => compilation.putMetadata key value
  | putOptions key => compilation.putMetadata key options
  | setOutput path => { compilation with outputPath := path }
  | note _ | fail _ => compilation

/-- Does a step for a plugin that has been called with options. -/
def run (plugin : List Char) (hook : PluginHook) (options : Json) (step : ScriptStep) :
    ExceptT PluginError (StateM Session) Unit :=
  match step with
  | note value => modify fun session =>
    { session with journal := session.journal ++ [⟨plugin, hook, value, options⟩] }
  | fail message => throw (.failed message)
  | step => modify fun session =>
    { session with compilation := step.change options session.compilation }

end ScriptStep

/-- The steps of a plugin for each hook. -/
structure Script where
  emit : List ScriptStep
  afterEmit : List ScriptStep
  deriving Repr

namespace Script

/-- The steps for a hook. -/
def steps (script : Script) : PluginHook → List ScriptStep
  | .emit => script.emit
  | .afterEmit => script.afterEmit

/-- The action of a script for a hook. -/
def action (script : Script) (plugin : List Char) (hook : PluginHook) : HookAction Session :=
  fun options => (script.steps hook).forM (ScriptStep.run plugin hook options)

/-- The module of a plugin by script. -/
def toModule (script : Script) (plugin : List Char) : PluginModule Session where
  emit := script.action plugin .emit
  afterEmit := script.action plugin .afterEmit

end Script

end SsrBuild
