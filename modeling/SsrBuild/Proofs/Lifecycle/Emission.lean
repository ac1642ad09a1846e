import SsrBuild.Proofs.Hooks.Dispatch
import SsrBuild.Proofs.Lifecycle.Build
import SsrBuild.Proofs.Path.Absolute

/-!
Plugins when the output is emitted, and after that. The module of a declared plugin is looked up
under the path of the declaration, which has slashes in place of the backslashes in the
configuration, while a module is registered under its path as it is. So the module that is called
is the one registered under the path with slashes (`run_handle_declared`), and one that is
registered under a path with a backslash is never called (`run_handle_register_backslash`), even
where the configuration has that very path (`run_handle_backslashModule`).
-/

set_option autoImplicit false

namespace SsrBuild

/-! ### What a configuration declares -/

namespace Declarations

/-- A value in the list of plugins names a plugin by a path, which is taken as it is written, and
has options for it. -/
inductive NamesPlugin : Json → List Char → Json → Prop
  | alone (path : List Char) : NamesPlugin (.string path) path Json.emptyObject
  | pair (path : List Char) (options : Json) :
      NamesPlugin (.array [.string path, options]) path options

/-- What is declared by such a value has the path with slashes. -/
theorem eq_of_namesPlugin {value options : Json} {path : List Char} {declared : PluginDeclaration}
    (hnames : NamesPlugin value path options) (hspells : SpellsPlugin value declared) :
    declared = ⟨slashed path, options⟩ := by
  cases hnames with
  | alone =>
    cases hspells
    rfl
  | pair =>
    cases hspells
    rfl

/-- No path of a declared plugin has a backslash. -/
theorem backslash_not_mem_of_spellsPlugins {values : List Json} {plugins : List PluginDeclaration}
    (h : List.Forall₂ SpellsPlugin values plugins) :
    ∀ declared ∈ plugins, '\\' ∉ declared.modulePath := by
  induction h with
  | nil => exact fun _ hmem ↦ nomatch hmem
  | cons hfirst _ ih =>
    refine List.forall_mem_cons.mpr ⟨?_, ih⟩
    cases hfirst with
    | alone path => exact backslash_not_mem_slashed path
    | pair path options => exact backslash_not_mem_slashed path

/-- The declarations stand as the values that spell them. -/
theorem exists_split_of_spellsPlugins {before after : List Json} {value : Json}
    {plugins : List PluginDeclaration}
    (h : List.Forall₂ SpellsPlugin (before ++ value :: after) plugins) :
    ∃ earlier declared later, plugins = earlier ++ declared :: later ∧
      earlier.length = before.length ∧ later.length = after.length ∧
      SpellsPlugin value declared := by
  induction before generalizing plugins with
  | nil =>
    obtain ⟨declared, later, hspells, hlater, rfl⟩ := List.forall₂_cons_left_iff.mp h
    exact ⟨[], declared, later, rfl, rfl, hlater.length_eq.symm, hspells⟩
  | cons first before ih =>
    obtain ⟨head, rest, -, hrest, rfl⟩ := List.forall₂_cons_left_iff.mp h
    obtain ⟨earlier, declared, later, rfl, hearlier, hlater, hspells⟩ := ih hrest
    exact ⟨head :: earlier, declared, later, rfl, congrArg (· + 1) hearlier, hlater, hspells⟩

end Declarations

open Declarations

namespace ProjectConfig

variable {root : Location} {files : FileSystem} {config : ProjectConfig}

/-- The declared plugins are those that the value of the configuration spells. -/
theorem spellsPlugins_of_load (h : load files root = .ok config) :
    SpellsPart (SpellsList SpellsPlugin) [] (part? "plugins".toList 2 config.raw)
      config.plugins := by
  obtain ⟨value, -, hvalue⟩ := bind_eq_ok_iff.mp h
  obtain ⟨-, declared, hspells, rfl⟩ := ofJson_eq_ok_iff_declaring.mp hvalue
  exact hspells.plugins

/-- No path of a declared plugin has a backslash. -/
theorem backslash_not_mem_modulePath (h : load files root = .ok config) :
    ∀ declared ∈ config.plugins, '\\' ∉ declared.modulePath := by
  have hspells := spellsPlugins_of_load h
  cases hpart : part? "plugins".toList 2 config.raw with
  | none =>
    rw [hpart] at hspells
    rw [show config.plugins = [] from hspells]
    exact fun _ hmem ↦ nomatch hmem
  | some value =>
    rw [hpart] at hspells
    obtain ⟨values, -, hvalues⟩ := hspells
    exact backslash_not_mem_of_spellsPlugins hvalues

/-- A value in the list of plugins declares what it names, at its place. -/
theorem exists_plugins_split (h : load files root = .ok config) (before after : List Json)
    {value options : Json} {path : List Char}
    (hraw : part? "plugins".toList 2 config.raw = some (.array (before ++ value :: after)))
    (hvalue : NamesPlugin value path options) :
    ∃ earlier later, config.plugins = earlier ++ ⟨slashed path, options⟩ :: later ∧
      earlier.length = before.length ∧ later.length = after.length := by
  have hspells := spellsPlugins_of_load h
  rw [hraw] at hspells
  obtain ⟨values, hvalues, hplugins⟩ := hspells
  obtain rfl := Json.array.inj hvalues
  obtain ⟨earlier, declared, later, hsplit, hearlier, hlater, hdeclared⟩ :=
    exists_split_of_spellsPlugins hplugins
  rw [eq_of_namesPlugin hvalue hdeclared] at hsplit
  exact ⟨earlier, later, hsplit, hearlier, hlater⟩

end ProjectConfig

/-! ### What is called -/

/-- A module registered under another path makes no difference to a dispatch. -/
theorem PluginRegistry.dispatch_register {σ : Type} (registry : PluginRegistry σ)
    {path : List Char} (plugin : PluginModule σ) (hook : PluginHook)
    {declarations : List PluginDeclaration}
    (h : ∀ declared ∈ declarations, declared.modulePath ≠ path) :
    (registry.register path plugin).dispatch hook declarations =
      registry.dispatch hook declarations := by
  induction declarations with
  | nil => rfl
  | cons declared rest ih =>
    obtain ⟨hfirst, hrest⟩ := List.forall_mem_cons.mp h
    have hcall : (registry.register path plugin).call hook declared =
        registry.call hook declared := by
      unfold call
      rw [resolve?_register_of_ne registry hfirst]
    rw [dispatch, dispatch, hcall, ih hrest]

/-- The event at which a hook is called. -/
def PluginHook.event : PluginHook → BuildEvent
  | emit => .emit
  | afterEmit => .afterEmit

/-- What an event comes to when its hook has been dispatched. -/
def BuildState.dispatched {σ : Type} (state : BuildState σ)
    (reached : Except PluginFailure Unit × σ) : Except LifecycleError Unit × BuildState σ :=
  (reached.1.mapError .plugin, { state with shared := reached.2 })

namespace Project

variable {σ : Type} {project : Project σ} {hook : PluginHook} {state : BuildState σ}

theorem handle_event (project : Project σ) (hook : PluginHook) :
    project.handle hook.event = project.callPlugins hook := by
  cases hook <;> rfl

/-- Where no declared plugin has a module, nothing happens. -/
theorem run_handle_of_forall_none (project : Project σ) (hook : PluginHook)
    {state : BuildState σ} {config : ProjectConfig}
    (hload : ProjectConfig.load state.files project.root = .ok config)
    (hnone : ∀ declared ∈ config.plugins,
      project.registry.resolve? declared.modulePath = none) :
    (project.handle hook.event).run.run state = (.ok (), state) := by
  rw [handle_event, run_callPlugins_of_load project hook hload,
    PluginRegistry.dispatch_of_forall_none hnone]
  rfl

/-- A module that is registered under a path with a backslash is never called. -/
theorem run_handle_register_backslash (project : Project σ) (hook : PluginHook)
    (state : BuildState σ) {path : List Char} (hpath : '\\' ∈ path) (plugin : PluginModule σ) :
    (Project.handle ⟨project.root, project.registry.register path plugin⟩ hook.event).run.run
      state = (project.handle hook.event).run.run state := by
  rw [handle_event, handle_event]
  cases hload : ProjectConfig.load state.files project.root with
  | error error =>
    rw [run_callPlugins_of_load_error project hook hload]
    exact run_callPlugins_of_load_error _ hook hload
  | ok config =>
    have hother : ∀ declared ∈ config.plugins, declared.modulePath ≠ path :=
      fun declared hmem heq ↦
        ProjectConfig.backslash_not_mem_modulePath hload declared hmem (heq ▸ hpath)
    rw [run_callPlugins_of_load project hook hload,
      ← project.registry.dispatch_register plugin hook hother]
    exact run_callPlugins_of_load _ hook hload

/-- A value in the list of plugins names a plugin, and no action before it fails. Then the action of
the module that is registered under its path with slashes is called with its options, on what those
before it have left: if it fails, that is what the event comes to, and otherwise the others follow.
Without such a module the plugin is passed over. So a module that is registered under the path as it
is written is called if there is no backslash in it, and if there is one, it makes no difference. -/
theorem run_handle_declared (project : Project σ) (hook : PluginHook) (state : BuildState σ)
    {config : ProjectConfig} (hload : ProjectConfig.load state.files project.root = .ok config)
    (before after : List Json) {value options : Json} {path : List Char}
    (hraw : part? "plugins".toList 2 config.raw = some (.array (before ++ value :: after)))
    (hvalue : NamesPlugin value path options) :
    ∃ earlier later, config.plugins = earlier ++ ⟨slashed path, options⟩ :: later ∧
      earlier.length = before.length ∧ later.length = after.length ∧
      (∀ middle, (project.registry.dispatch hook earlier).run.run state.shared =
          (.ok (), middle) →
        (∀ plugin, project.registry.resolve? (slashed path) = some plugin →
          (∀ shared, (plugin.action hook options).run.run middle = (.ok (), shared) →
            (project.handle hook.event).run.run state =
              state.dispatched ((project.registry.dispatch hook later).run.run shared)) ∧
          ∀ error shared, (plugin.action hook options).run.run middle = (.error error, shared) →
            (project.handle hook.event).run.run state =
              state.dispatched (.error ⟨slashed path, hook, error.text⟩, shared)) ∧
        (project.registry.resolve? (slashed path) = none →
          (project.handle hook.event).run.run state =
            state.dispatched ((project.registry.dispatch hook later).run.run middle))) ∧
      ('\\' ∉ path → slashed path = path) ∧
      ('\\' ∈ path → ∀ plugin,
        (Project.handle ⟨project.root, project.registry.register path plugin⟩ hook.event).run.run
          state = (project.handle hook.event).run.run state) := by
  obtain ⟨earlier, later, hsplit, hbefore, hafter⟩ :=
    ProjectConfig.exists_plugins_split hload before after hraw hvalue
  refine ⟨earlier, later, hsplit, hbefore, hafter, fun middle hearlier ↦ ?_, slashed_of_not_mem,
    fun hpath plugin ↦ run_handle_register_backslash project hook state hpath plugin⟩
  have hhandle : (project.handle hook.event).run.run state =
      state.dispatched ((project.registry.dispatch hook
        (⟨slashed path, options⟩ :: later)).run.run middle) := by
    have happend := PluginRegistry.run_dispatch_append project.registry hook earlier
      (⟨slashed path, options⟩ :: later) state.shared
    rw [hearlier, ← hsplit] at happend
    rw [handle_event, run_callPlugins_of_load project hook hload, happend]
    rfl
  refine ⟨fun plugin hplugin ↦ ⟨fun shared hrun ↦ ?_, fun error shared hrun ↦ ?_⟩, fun hnone ↦ ?_⟩
  · exact hhandle.trans (congrArg state.dispatched
      (PluginRegistry.run_dispatch_cons_of_ok hplugin hrun later))
  · exact hhandle.trans (congrArg state.dispatched
      (PluginRegistry.run_dispatch_cons_of_error hplugin hrun later))
  · exact hhandle.trans (congrArg (fun rest ↦ state.dispatched (rest.run.run middle))
      (PluginRegistry.dispatch_cons_of_none hnone later))

/-- A module that counts its calls when the output is emitted. -/
def countingModule : PluginModule Nat := { emit := fun _ ↦ modify (· + 1) }

/-- A project with such a module under a path. -/
def countingProject (path : List Char) : Project Nat :=
  ⟨⟨.top, "/p".toList⟩, PluginRegistry.empty.register path countingModule⟩

/-- Before any call, with a plugin for run time alone and one whose path is written with a backslash
in the configuration. -/
def backslashState : BuildState Nat where
  files := ⟨.directory [("p".toList, .directory [(configFile,
    .file (Text.encode "\x7b\"plugins\": [\"n\", [\"a\\\\b\", true]]\x7d".toList))])]⟩
  shared := 0
  activity := .none
  watcher := none

/-- The list of plugins that is written there. -/
def backslashList : Json :=
  .array [.string "n".toList, .array [.string "a\\b".toList, .boolean true]]

/-- Is it this list? -/
def isBackslashList : Option Json → Bool
  | some (.array [.string first, .array [.string second, .boolean true]]) =>
    first == "n".toList && second == "a\\b".toList
  | _ => false

theorem eq_of_isBackslashList {part : Option Json} (h : isBackslashList part = true) :
    part = some backslashList := by
  unfold isBackslashList at h
  split at h
  · obtain ⟨rfl, rfl⟩ : _ = "n".toList ∧ _ = "a\\b".toList := by simpa using h
    rfl
  · cases h

theorem exists_load_backslashState : ∃ config,
    ProjectConfig.load backslashState.files ⟨.top, "/p".toList⟩ = .ok config ∧
    part? "plugins".toList 2 config.raw = some backslashList := by
  have hchecked : ((ProjectConfig.load backslashState.files ⟨.top, "/p".toList⟩).toOption.any
      fun config ↦ isBackslashList (part? "plugins".toList 2 config.raw)) = true := by
    decide +kernel
  cases hload : ProjectConfig.load backslashState.files ⟨.top, "/p".toList⟩ with
  | error error =>
    rw [hload] at hchecked
    cases hchecked
  | ok config =>
    rw [hload] at hchecked
    exact ⟨config, rfl, eq_of_isBackslashList hchecked⟩

/-- The module that is registered under the path with a slash is called with the options. -/
theorem run_handle_slashModule : ∃ config,
    ProjectConfig.load backslashState.files (countingProject "a/b".toList).root = .ok config ∧
    part? "plugins".toList 2 config.raw = some backslashList ∧
    ((countingProject "a/b".toList).handle .emit).run.run backslashState =
      (.ok (), { backslashState with shared := 1 }) := by
  obtain ⟨config, hload, hraw⟩ := exists_load_backslashState
  refine ⟨config, hload, hraw, ?_⟩
  obtain ⟨earlier, later, hsplit, hearlier, hlater, hruns, -⟩ :=
    run_handle_declared (countingProject "a/b".toList) .emit backslashState hload
      [.string "n".toList] [] hraw (.pair _ _)
  obtain ⟨front, rest, hfirst, hfront, -⟩ := ProjectConfig.exists_plugins_split hload []
    [.array [.string "a\\b".toList, .boolean true]] hraw (.alone _)
  obtain ⟨first, rfl⟩ := List.length_eq_one_iff.mp hearlier
  obtain rfl := List.length_eq_zero_iff.mp hlater
  obtain rfl := List.length_eq_zero_iff.mp hfront
  -- The plugin for run time alone has no module.
  obtain ⟨rfl, -⟩ := List.cons.inj (hsplit.symm.trans hfirst)
  exact ((hruns 0 rfl).1 countingModule rfl).1 1 rfl

/-- The module that is registered under the path with the backslash, as it is in the configuration,
is not called, although it would count the call. -/
theorem run_handle_backslashModule : ∃ config,
    ProjectConfig.load backslashState.files (countingProject "a\\b".toList).root = .ok config ∧
    part? "plugins".toList 2 config.raw = some backslashList ∧
    (countingProject "a\\b".toList).registry.resolve? "a\\b".toList = some countingModule ∧
    (countingModule.action .emit (.boolean true)).run.run backslashState.shared = (.ok (), 1) ∧
    ((countingProject "a\\b".toList).handle .emit).run.run backslashState =
      (.ok (), backslashState) := by
  obtain ⟨config, hload, hraw⟩ := exists_load_backslashState
  refine ⟨config, hload, hraw, rfl, rfl, ?_⟩
  have hnothing := run_handle_of_forall_none ⟨⟨.top, "/p".toList⟩, .empty⟩ .emit hload
    fun _ _ ↦ rfl
  have hsame := run_handle_register_backslash ⟨⟨.top, "/p".toList⟩, .empty⟩ .emit backslashState
    (by decide : '\\' ∈ "a\\b".toList) countingModule
  exact hsame.trans hnothing

end Project

end SsrBuild
