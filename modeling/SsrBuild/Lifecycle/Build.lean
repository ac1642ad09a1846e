import SsrBuild.Hooks.Registry
import SsrBuild.Lifecycle.Activity
import SsrBuild.MainModule.Write
import SsrBuild.Resource.Transform
import SsrBuild.Watch.Watcher

/-!
The events of a build. A run generates the main module; a run that watches also makes sure that the
configuration is watched, so that its changes generate the main module again; when the output is
emitted, and after that, the plugins are called. Every event loads the configuration anew.
-/

set_option autoImplicit false

namespace SsrBuild

/-- What can go wrong with an event of a build. -/
inductive LifecycleError
  | config (error : ConfigError)
  | generate (error : GenerateError)
  | plugin (failure : PluginFailure)
  | watcher (error : WatcherError)
  | transform (error : QueryError)
  deriving Repr

/-- The events of a build. -/
inductive BuildEvent
  | run | watchRun | emit | afterEmit
  deriving DecidableEq, Repr

/-- A project: its root directory, and the modules of its plugins for the build. -/
structure Project (σ : Type) where
  root : Location
  registry : PluginRegistry σ

/-- What events can change. -/
structure BuildState (σ : Type) where
  files : FileSystem
  /-- What the hooks share. -/
  shared : σ
  activity : Activity
  /-- The watcher of the configuration, once there is one. -/
  watcher : Option Watcher

/-- A part of a build. -/
abbrev Build (σ : Type) := ExceptT LifecycleError (StateM (BuildState σ))

namespace Project

variable {σ : Type} (project : Project σ)

/-- Loads the configuration and writes its main module. -/
def regenerate : Build σ WriteOutcome := do
  modify fun state => { state with activity := state.activity.enter }
  let (result, files) := (Generation.regenerate project.root).run.run (← get).files
  modify fun state => { state with files := files, activity := state.activity.leave }
  match result with
  | .ok outcome => return outcome
  | .error error => throw (.generate error)

/-- The configuration as it is now. -/
def config : Build σ ProjectConfig := do
  match ProjectConfig.load (← get).files project.root with
  | .ok config => return config
  | .error error => throw (.config error)

/-- Watches the configuration, if it is not watched already. -/
def watchConfig : Build σ Unit := do
  let state ← get
  if state.watcher.isNone then
    match Watcher.create state.files (project.root.join configFile) with
    | .ok watcher => set { state with watcher := some watcher }
    | .error error => throw (.watcher error)

/-- Calls the declared plugins. -/
def callPlugins (hook : PluginHook) : Build σ Unit := do
  let config ← project.config
  let (result, shared) := (project.registry.dispatch hook config.plugins).run.run (← get).shared
  modify fun state => { state with shared := shared }
  match result with
  | .ok () => return
  | .error failure => throw (.plugin failure)

/-- Handles an event. -/
def handle : BuildEvent → Build σ Unit
  | .run => do
    let _ ← project.regenerate
  | .watchRun => do
    project.watchConfig
    let _ ← project.regenerate
  | .emit => project.callPlugins .emit
  | .afterEmit => project.callPlugins .afterEmit

/-- A module as it enters the build. -/
def transformModule (path : List Char) (source : ModuleSource) : Build σ ModuleSource := do
  let config ← project.config
  match config.transformModule path source with
  | .ok result => return result
  | .error error => throw (.transform error)

end Project

end SsrBuild
