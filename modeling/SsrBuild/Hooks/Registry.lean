import SsrBuild.Config.Declaration

/-!
Plugins at build time. A plugin has a module for the build, registered under its path, and the
module has an action for each hook. A hook is dispatched to the declared plugins one after the
other; one without a module is passed over, and the first one that fails ends the dispatch. What
the actions share is a state of any kind, and a failing action leaves its changes in it.
-/

set_option autoImplicit false

namespace SsrBuild

/-- The times at which plugins are asked to act. -/
inductive PluginHook
  | emit | afterEmit
  deriving DecidableEq, Repr

/-- The name by which a plugin exports its action for a hook. -/
def PluginHook.exportName : PluginHook → List Char
  | emit => "webpackEmit".toList
  | afterEmit => "webpackAfterEmit".toList

/-- A plugin that has failed. -/
structure PluginFailure where
  plugin : List Char
  hook : PluginHook
  message : List Char
  deriving DecidableEq, Repr

/-- The wording of a failure. -/
def PluginFailure.text (failure : PluginFailure) : List Char :=
  "Plugin '".toList ++ failure.plugin ++ "' failed in ".toList ++ failure.hook.exportName ++
    ": ".toList ++ failure.message

/-- Why an action has failed: for a reason of its own, or because a plugin has failed that it has
called itself. -/
inductive PluginError
  | failed (message : List Char)
  | hook (failure : PluginFailure)
  deriving DecidableEq, Repr

/-- The wording of an error. -/
def PluginError.text : PluginError → List Char
  | failed message => message
  | hook failure => failure.text

/-- What a plugin does with its options and the shared state. -/
abbrev HookAction (σ : Type) := Json → ExceptT PluginError (StateM σ) Unit

/-- The module of a plugin for the build. A hook that it does not name does nothing. -/
structure PluginModule (σ : Type) where
  emit : HookAction σ := fun _ => pure ()
  afterEmit : HookAction σ := fun _ => pure ()

namespace PluginModule

variable {σ : Type}

/-- The action for a hook. -/
def action (plugin : PluginModule σ) : PluginHook → HookAction σ
  | .emit => plugin.emit
  | .afterEmit => plugin.afterEmit

end PluginModule

/-- The modules of plugins by their paths, the one registered last first. -/
structure PluginRegistry (σ : Type) where
  modules : List (List Char × PluginModule σ)

namespace PluginRegistry

variable {σ : Type}

/-- No modules. -/
def empty : PluginRegistry σ := ⟨[]⟩

/-- Registers a module under a path, in place of the one that may have been there. -/
def register (registry : PluginRegistry σ) (path : List Char) (plugin : PluginModule σ) :
    PluginRegistry σ :=
  ⟨(path, plugin) :: registry.modules⟩

/-- The module registered under a path. -/
def resolve? (registry : PluginRegistry σ) (path : List Char) : Option (PluginModule σ) :=
  registry.modules.lookup path

/-- Runs the action of a declared plugin, if it has a module. -/
def call (registry : PluginRegistry σ) (hook : PluginHook) (declaration : PluginDeclaration) :
    ExceptT PluginFailure (StateM σ) Unit :=
  match registry.resolve? declaration.modulePath with
  | none => pure ()
  | some plugin =>
    (plugin.action hook declaration.options).adapt
      fun error => ⟨declaration.modulePath, hook, error.text⟩

/-- Runs the actions of declared plugins in their order, up to the first failure. -/
def dispatch (registry : PluginRegistry σ) (hook : PluginHook) :
    List PluginDeclaration → ExceptT PluginFailure (StateM σ) Unit
  | [] => pure ()
  | declaration :: rest => do
    registry.call hook declaration
    dispatch registry hook rest

/-- A path has the module that was registered last under it. -/
@[simp] theorem resolve?_register_self (registry : PluginRegistry σ) (path : List Char)
    (plugin : PluginModule σ) : (registry.register path plugin).resolve? path = some plugin := by
  simp [register, resolve?]

/-- Registering under one path leaves all others alone. -/
theorem resolve?_register_of_ne (registry : PluginRegistry σ) {path other : List Char}
    (h : other ≠ path) (plugin : PluginModule σ) :
    (registry.register path plugin).resolve? other = registry.resolve? other := by
  have : (other == path) = false := by simpa using h
  simp [register, resolve?, List.lookup_cons, this]

end PluginRegistry

end SsrBuild
