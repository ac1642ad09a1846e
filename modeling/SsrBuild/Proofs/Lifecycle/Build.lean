import SsrBuild.Lifecycle.Watching
import SsrBuild.Proofs.Config.Spelling
import SsrBuild.Proofs.MainModule.Write

/-!
What the parts of a build can do. Generating the main module either succeeds, and then the file
holds the module of the configuration that was there, or fails and leaves the files as they were
(`run_regenerate`). Watching changes the watcher only, calling plugins only what they share, and
transforming a module nothing.
-/

set_option autoImplicit false

namespace SsrBuild

open FileSystem (above Holds)

namespace Generation

variable {root : Location} {files after : FileSystem}

/-- The configuration is loaded from the files as they are. -/
theorem run_loadConfig (root : Location) (files : FileSystem) :
    (loadConfig root).run.run files =
      ((ProjectConfig.load files root).mapError GenerateError.config, files) := by
  refine (run_bind_of_ok (run_get files)).trans ?_
  cases ProjectConfig.load files root with
  | ok config => rfl
  | error error => rfl

end Generation

namespace Project

variable {σ : Type} {project : Project σ}

/-- Generating the main module changes no more than the files. -/
theorem run_regenerate (project : Project σ) (state : BuildState σ) :
    project.regenerate.run.run state =
      ((((Generation.regenerate project.root).run.run state.files).1.mapError
        LifecycleError.generate),
        { state with files := ((Generation.regenerate project.root).run.run state.files).2 }) := by
  refine (run_bind_of_ok (run_modify _ state)).trans ((run_bind_of_ok (run_get _)).trans ?_)
  rcases hrun : (Generation.regenerate project.root).run.run state.files with ⟨result, files⟩
  dsimp only
  cases result with
  | ok outcome => rfl
  | error error => rfl

/-- The watcher is there already. -/
theorem run_watchConfig_of_some {state : BuildState σ} {watcher : Watcher}
    (h : state.watcher = some watcher) :
    project.watchConfig.run.run state = (.ok (), state) := by
  refine (run_bind_of_ok (run_get state)).trans ?_
  rw [h]
  rfl

/-- A watcher is created. -/
theorem run_watchConfig_of_ok {state : BuildState σ} {watcher : Watcher}
    (hnone : state.watcher = none)
    (hcreate : Watcher.create state.files (project.root.join configFile) = .ok watcher) :
    project.watchConfig.run.run state = (.ok (), { state with watcher := some watcher }) := by
  refine (run_bind_of_ok (run_get state)).trans ?_
  rw [hnone, hcreate]
  rfl

/-- A watcher cannot be created. -/
theorem run_watchConfig_of_error {state : BuildState σ} {error : WatcherError}
    (hnone : state.watcher = none)
    (hcreate : Watcher.create state.files (project.root.join configFile) = .error error) :
    project.watchConfig.run.run state = (.error (.watcher error), state) := by
  refine (run_bind_of_ok (run_get state)).trans ?_
  rw [hnone, hcreate]
  rfl

/-- The configuration is loaded from the files as they are. -/
theorem run_config (project : Project σ) (state : BuildState σ) :
    project.config.run.run state =
      ((ProjectConfig.load state.files project.root).mapError LifecycleError.config, state) := by
  refine (run_bind_of_ok (run_get state)).trans ?_
  cases ProjectConfig.load state.files project.root with
  | ok config => rfl
  | error error => rfl

/-- With a configuration that loads, the plugins it declares are called. -/
theorem run_callPlugins_of_load (project : Project σ) (hook : PluginHook) {state : BuildState σ}
    {config : ProjectConfig}
    (h : ProjectConfig.load state.files project.root = .ok config) :
    (project.callPlugins hook).run.run state =
      (((project.registry.dispatch hook config.plugins).run.run state.shared).1.mapError
        LifecycleError.plugin, { state with
          shared := ((project.registry.dispatch hook config.plugins).run.run state.shared).2 }) := by
  have hconfig := run_config project state
  rw [h] at hconfig
  refine (run_bind_of_ok hconfig).trans ((run_bind_of_ok (run_get state)).trans ?_)
  rcases hrun : (project.registry.dispatch hook config.plugins).run.run state.shared with
    ⟨result, shared⟩
  dsimp only
  cases result with
  | ok done => rfl
  | error failure => rfl

/-- With a configuration that does not load, no plugin is called. -/
theorem run_callPlugins_of_load_error (project : Project σ) (hook : PluginHook)
    {state : BuildState σ} {error : ConfigError}
    (h : ProjectConfig.load state.files project.root = .error error) :
    (project.callPlugins hook).run.run state = (.error (.config error), state) := by
  have hconfig := run_config project state
  rw [h] at hconfig
  exact run_bind_of_error hconfig

end Project

end SsrBuild
