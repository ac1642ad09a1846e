import Mathlib.Data.List.Basic
import SsrBuild.Hooks.Compilation
import SsrBuild.Hooks.Registry
import SsrBuild.Proofs.Outcome

/-!
Dispatching a hook to declared plugins. A path has the module that was registered last under it
(`resolve?_ofRegistrations_iff`). A dispatch goes through the declarations from the left and stops
at the first failure (`run_dispatch`), so it can be cut anywhere (`run_dispatch_append`), and a
declaration without a module counts for nothing (`dispatch_delete`). Which actions are called is
told by a registry whose modules enter their calls in a list (`recording`): one call for each
declaration with a module, with the options of that declaration, up to and with the first one that
fails (`run_recording_of_ok`, `FirstFailure.run_recording`).
-/

set_option autoImplicit false

namespace SsrBuild

/-- A call of the action of a plugin. -/
structure HookCall where
  hook : PluginHook
  path : List Char
  options : Json

namespace PluginModule

variable {σ : Type}

/-- An action that also enters each of its calls in a list. -/
def recorded (call : Json → HookCall) (action : HookAction σ) : HookAction (σ × List HookCall) :=
  fun options ↦ do
    let (state, calls) ← get
    let (result, after) := (action options).run.run state
    set (after, calls ++ [call options])
    liftM result

/-- A module whose actions also enter their calls in a list. -/
def recording (path : List Char) (plugin : PluginModule σ) : PluginModule (σ × List HookCall) where
  emit := recorded (HookCall.mk .emit path) plugin.emit
  afterEmit := recorded (HookCall.mk .afterEmit path) plugin.afterEmit

/-- An action does the same whether its calls are entered or not. -/
theorem run_recorded (call : Json → HookCall) (action : HookAction σ) (options : Json) (state : σ)
    (calls : List HookCall) :
    (recorded call action options).run.run (state, calls) =
      (((action options).run.run state).1, ((action options).run.run state).2,
        calls ++ [call options]) := rfl

theorem action_recording (path : List Char) (plugin : PluginModule σ) (hook : PluginHook) :
    (plugin.recording path).action hook =
      recorded (HookCall.mk hook path) (plugin.action hook) := by
  cases hook <;> rfl

end PluginModule

namespace PluginRegistry

variable {σ : Type} {registry : PluginRegistry σ} {hook : PluginHook}

/-! ### Registering -/

/-- Modules registered one after the other. -/
def ofRegistrations (entries : List (List Char × PluginModule σ)) : PluginRegistry σ :=
  entries.foldl (fun registry entry ↦ registry.register entry.1 entry.2) empty

theorem modules_ofRegistrations (entries : List (List Char × PluginModule σ)) :
    (ofRegistrations entries).modules = entries.reverse := by
  have hfold : ∀ registry : PluginRegistry σ,
      (entries.foldl (fun registry entry ↦ registry.register entry.1 entry.2) registry).modules =
        entries.reverse ++ registry.modules := by
    induction entries with
    | nil => exact fun _ ↦ rfl
    | cons entry entries ih =>
      intro registry
      rw [List.foldl_cons, ih, List.reverse_cons, List.append_assoc]
      rfl
  exact (hfold empty).trans (List.append_nil _)

/-- A path has the module of the last registration under it. -/
theorem resolve?_ofRegistrations_iff {entries : List (List Char × PluginModule σ)}
    {path : List Char} {plugin : PluginModule σ} :
    (ofRegistrations entries).resolve? path = some plugin ↔ ∃ earlier later,
      entries = earlier ++ (path, plugin) :: later ∧ ∀ entry ∈ later, entry.1 ≠ path := by
  unfold resolve?
  rw [modules_ofRegistrations, List.lookup_eq_some_iff]
  constructor
  · rintro ⟨after, before, hsplit, hafter⟩
    refine ⟨before.reverse, after.reverse, ?_, fun entry hentry ↦ ?_⟩
    · rw [List.reverse_eq_append_iff.mp hsplit]
      simp
    · simpa using (bne_iff_ne.mp (hafter entry (List.mem_reverse.mp hentry))).symm
  · rintro ⟨earlier, later, rfl, hlater⟩
    refine ⟨later.reverse, earlier.reverse, by simp, fun entry hentry ↦ ?_⟩
    exact bne_iff_ne.mpr (hlater entry (List.mem_reverse.mp hentry)).symm

/-! ### From the left -/

/-- What comes of one more declaration: nothing once one before it has failed, and nothing either if
it has no module. -/
def proceed (registry : PluginRegistry σ) (hook : PluginHook)
    (reached : Except PluginFailure Unit × σ) (declaration : PluginDeclaration) :
    Except PluginFailure Unit × σ :=
  match reached.1, registry.resolve? declaration.modulePath with
  | .ok _, some plugin =>
    let (result, after) := (plugin.action hook declaration.options).run.run reached.2
    (result.mapError fun error ↦ ⟨declaration.modulePath, hook, error.text⟩, after)
  | _, _ => reached

/-- Without a module nothing is called. -/
theorem call_of_none {declaration : PluginDeclaration}
    (h : registry.resolve? declaration.modulePath = none) :
    registry.call hook declaration = pure () := by
  unfold call
  rw [h]

/-- An action that succeeds leaves what it has done. -/
theorem run_call_of_ok {declaration : PluginDeclaration} {plugin : PluginModule σ} {state after : σ}
    (hplugin : registry.resolve? declaration.modulePath = some plugin)
    (hrun : (plugin.action hook declaration.options).run.run state = (.ok (), after)) :
    (registry.call hook declaration).run.run state = (.ok (), after) := by
  unfold call
  rw [hplugin]
  exact run_adapt_of_ok hrun

/-- An action that fails leaves what it has done before. -/
theorem run_call_of_error {declaration : PluginDeclaration} {plugin : PluginModule σ}
    {state after : σ} {error : PluginError}
    (hplugin : registry.resolve? declaration.modulePath = some plugin)
    (hrun : (plugin.action hook declaration.options).run.run state = (.error error, after)) :
    (registry.call hook declaration).run.run state =
      (.error ⟨declaration.modulePath, hook, error.text⟩, after) := by
  unfold call
  rw [hplugin]
  exact run_adapt_of_error hrun

/-- A call fails as an action does. -/
theorem of_run_call_error {declaration : PluginDeclaration} {state after : σ}
    {failure : PluginFailure}
    (h : (registry.call hook declaration).run.run state = (.error failure, after)) :
    ∃ plugin error, registry.resolve? declaration.modulePath = some plugin ∧
      (plugin.action hook declaration.options).run.run state = (.error error, after) ∧
      failure = ⟨declaration.modulePath, hook, error.text⟩ := by
  cases hplugin : registry.resolve? declaration.modulePath with
  | none =>
    rw [call_of_none hplugin] at h
    cases (Prod.mk.inj h).1
  | some plugin =>
    unfold call at h
    rw [hplugin] at h
    obtain ⟨error, herror, hrun⟩ := of_run_adapt_error h
    exact ⟨plugin, error, rfl, hrun, herror.symm⟩

theorem run_call (declaration : PluginDeclaration) (state : σ) :
    (registry.call hook declaration).run.run state =
      registry.proceed hook (.ok (), state) declaration := by
  unfold proceed
  cases hplugin : registry.resolve? declaration.modulePath with
  | none =>
    rw [call_of_none hplugin]
    rfl
  | some plugin =>
    rcases hrun : (plugin.action hook declaration.options).run.run state with ⟨outcome, after⟩
    dsimp only
    rw [hrun]
    cases outcome with
    | ok done => exact run_call_of_ok hplugin hrun
    | error error => exact run_call_of_error hplugin hrun

/-- After an action that succeeds the others follow. -/
theorem run_dispatch_cons_of_ok {declaration : PluginDeclaration} {plugin : PluginModule σ}
    {state after : σ} (hplugin : registry.resolve? declaration.modulePath = some plugin)
    (hrun : (plugin.action hook declaration.options).run.run state = (.ok (), after))
    (rest : List PluginDeclaration) :
    (registry.dispatch hook (declaration :: rest)).run.run state =
      (registry.dispatch hook rest).run.run after :=
  run_bind_of_ok (run_call_of_ok hplugin hrun)

/-- An action that fails is the last one. -/
theorem run_dispatch_cons_of_error {declaration : PluginDeclaration} {plugin : PluginModule σ}
    {state after : σ} {error : PluginError}
    (hplugin : registry.resolve? declaration.modulePath = some plugin)
    (hrun : (plugin.action hook declaration.options).run.run state = (.error error, after))
    (rest : List PluginDeclaration) :
    (registry.dispatch hook (declaration :: rest)).run.run state =
      (.error ⟨declaration.modulePath, hook, error.text⟩, after) :=
  run_bind_of_error (run_call_of_error hplugin hrun)

/-- Without a module the others follow at once. -/
theorem dispatch_cons_of_none {declaration : PluginDeclaration}
    (h : registry.resolve? declaration.modulePath = none) (rest : List PluginDeclaration) :
    registry.dispatch hook (declaration :: rest) = registry.dispatch hook rest := by
  rw [dispatch, call_of_none h, pure_bind]

/-- Without any module nothing is called. -/
theorem dispatch_of_forall_none {declarations : List PluginDeclaration}
    (h : ∀ declaration ∈ declarations, registry.resolve? declaration.modulePath = none) :
    registry.dispatch hook declarations = pure () := by
  induction declarations with
  | nil => rfl
  | cons declaration rest ih =>
    obtain ⟨hfirst, hrest⟩ := List.forall_mem_cons.mp h
    exact (dispatch_cons_of_none hfirst rest).trans (ih hrest)

/-- Once a declaration has failed, nothing comes of the others. -/
theorem foldl_proceed_error (failure : PluginFailure) (state : σ)
    (declarations : List PluginDeclaration) :
    declarations.foldl (registry.proceed hook) (.error failure, state) =
      (.error failure, state) := by
  induction declarations with
  | nil => rfl
  | cons declaration rest ih => exact ih

/-- A dispatch is a fold from the left. -/
theorem run_dispatch (declarations : List PluginDeclaration) (state : σ) :
    (registry.dispatch hook declarations).run.run state =
      declarations.foldl (registry.proceed hook) (.ok (), state) := by
  induction declarations generalizing state with
  | nil => rfl
  | cons declaration rest ih =>
    rw [dispatch, List.foldl_cons, ← run_call]
    rcases hcall : (registry.call hook declaration).run.run state with ⟨outcome, after⟩
    cases outcome with
    | ok done => exact (run_bind_of_ok hcall).trans (ih after)
    | error failure => exact (run_bind_of_error hcall).trans (foldl_proceed_error ..).symm

/-- A dispatch to two lists is one to the second after one to the first. -/
theorem dispatch_append (first second : List PluginDeclaration) :
    registry.dispatch hook (first ++ second) =
      (registry.dispatch hook first >>= fun _ ↦ registry.dispatch hook second) := by
  induction first with
  | nil => simp [dispatch]
  | cons declaration rest ih => simp [dispatch, ih]

/-- It goes on to the second list only if it has succeeded at the first. -/
theorem run_dispatch_append (registry : PluginRegistry σ) (hook : PluginHook)
    (first second : List PluginDeclaration) (state : σ) :
    (registry.dispatch hook (first ++ second)).run.run state =
      match (registry.dispatch hook first).run.run state with
      | (.ok (), middle) => (registry.dispatch hook second).run.run middle
      | (.error failure, middle) => (.error failure, middle) := by
  rw [dispatch_append]
  rcases hfirst : (registry.dispatch hook first).run.run state with ⟨outcome, middle⟩
  cases outcome with
  | ok done => exact run_bind_of_ok hfirst
  | error failure => exact run_bind_of_error hfirst

/-- A declaration without a module counts for nothing, wherever it stands. -/
theorem dispatch_delete {declaration : PluginDeclaration}
    (h : registry.resolve? declaration.modulePath = none) (before after : List PluginDeclaration) :
    registry.dispatch hook (before ++ declaration :: after) =
      registry.dispatch hook (before ++ after) := by
  rw [dispatch_append, dispatch_append, dispatch_cons_of_none h]

/-! ### The first failure -/

/-- The first declaration whose action fails in a dispatch, and how it does. -/
structure FirstFailure (registry : PluginRegistry σ) (hook : PluginHook)
    (declarations : List PluginDeclaration) (start : σ) where
  before : List PluginDeclaration
  declaration : PluginDeclaration
  rest : List PluginDeclaration
  split : declarations = before ++ declaration :: rest
  /-- What those before it have left. -/
  middle : σ
  succeeds : (registry.dispatch hook before).run.run start = (.ok (), middle)
  plugin : PluginModule σ
  resolves : registry.resolve? declaration.modulePath = some plugin
  error : PluginError
  /-- What its action has left. -/
  final : σ
  fails : (plugin.action hook declaration.options).run.run middle = (.error error, final)

namespace FirstFailure

variable {declarations : List PluginDeclaration} {start : σ}

/-- What the dispatch fails with. -/
def failure (first : FirstFailure registry hook declarations start) : PluginFailure :=
  ⟨first.declaration.modulePath, hook, first.error.text⟩

/-- A dispatch in which an action fails ends with that. -/
theorem run_dispatch_eq (first : FirstFailure registry hook declarations start) :
    (registry.dispatch hook declarations).run.run start = (.error first.failure, first.final) := by
  have hrun := run_dispatch_append registry hook first.before
    (first.declaration :: first.rest) start
  rw [first.succeeds, ← first.split] at hrun
  exact hrun.trans (run_dispatch_cons_of_error first.resolves first.fails first.rest)

end FirstFailure

/-- A dispatch that fails has a first declaration whose action does. -/
theorem nonempty_firstFailure {declarations : List PluginDeclaration} {start final : σ}
    {failure : PluginFailure}
    (h : (registry.dispatch hook declarations).run.run start = (.error failure, final)) :
    Nonempty (FirstFailure registry hook declarations start) := by
  induction declarations generalizing start with
  | nil => cases (Prod.mk.inj h).1
  | cons declaration rest ih =>
    rcases of_run_bind_error h with hcall | ⟨done, middle, hcall, hrest⟩
    · obtain ⟨plugin, error, hplugin, hrun, -⟩ := of_run_call_error hcall
      exact ⟨⟨[], declaration, rest, rfl, start, rfl, plugin, hplugin, error, final, hrun⟩⟩
    · obtain ⟨first⟩ := ih hrest
      have hsplit : declaration :: rest =
          (declaration :: first.before) ++ first.declaration :: first.rest :=
        congrArg (declaration :: ·) first.split
      exact ⟨⟨declaration :: first.before, first.declaration, first.rest, hsplit, first.middle,
        (run_bind_of_ok hcall).trans first.succeeds, first.plugin, first.resolves, first.error,
        first.final, first.fails⟩⟩

/-! ### The calls -/

/-- The same modules, whose actions also enter their calls in a list. -/
def recording (registry : PluginRegistry σ) : PluginRegistry (σ × List HookCall) :=
  ⟨registry.modules.map fun entry ↦ (entry.1, entry.2.recording entry.1)⟩

/-- The calls for some declarations: one for each that has a module. -/
def calls (registry : PluginRegistry σ) (hook : PluginHook)
    (declarations : List PluginDeclaration) : List HookCall :=
  (declarations.filter fun declaration ↦
      (registry.resolve? declaration.modulePath).isSome).map fun declaration ↦
    ⟨hook, declaration.modulePath, declaration.options⟩

theorem resolve?_recording (registry : PluginRegistry σ) (path : List Char) :
    registry.recording.resolve? path = (registry.resolve? path).map (·.recording path) := by
  obtain ⟨modules⟩ := registry
  unfold recording resolve?
  induction modules with
  | nil => rfl
  | cons entry rest ih =>
    rw [List.map_cons, List.lookup_cons, List.lookup_cons, ih]
    cases hpath : path == entry.1 with
    | true => rw [beq_iff_eq.mp hpath]; rfl
    | false => rfl

theorem calls_append (registry : PluginRegistry σ) (hook : PluginHook)
    (first second : List PluginDeclaration) :
    registry.calls hook (first ++ second) =
      registry.calls hook first ++ registry.calls hook second := by
  unfold calls
  rw [List.filter_append, List.map_append]

/-- A call is entered if there is a module, whatever comes of it. -/
theorem run_call_recording (registry : PluginRegistry σ) (hook : PluginHook)
    (declaration : PluginDeclaration) (state : σ) (earlier : List HookCall) :
    (registry.recording.call hook declaration).run.run (state, earlier) =
      (((registry.call hook declaration).run.run state).1,
        ((registry.call hook declaration).run.run state).2,
        earlier ++ registry.calls hook [declaration]) := by
  have hresolve := resolve?_recording registry declaration.modulePath
  cases hplugin : registry.resolve? declaration.modulePath with
  | none =>
    rw [hplugin] at hresolve
    have hcalls : registry.calls hook [declaration] = [] := by simp [calls, hplugin]
    rw [call_of_none hplugin, call_of_none hresolve, hcalls, List.append_nil]
    rfl
  | some plugin =>
    rw [hplugin] at hresolve
    have hrecorded := PluginModule.run_recorded (HookCall.mk hook declaration.modulePath)
      (plugin.action hook) declaration.options state earlier
    rw [← PluginModule.action_recording] at hrecorded
    have hcalls : registry.calls hook [declaration] =
        [⟨hook, declaration.modulePath, declaration.options⟩] := by
      simp [calls, hplugin]
    rw [hcalls]
    rcases hrun : (plugin.action hook declaration.options).run.run state with ⟨outcome, after⟩
    rw [hrun] at hrecorded
    cases outcome with
    | ok done => rw [run_call_of_ok hplugin hrun, run_call_of_ok hresolve hrecorded]
    | error error => rw [run_call_of_error hplugin hrun, run_call_of_error hresolve hrecorded]

/-- A dispatch that succeeds calls each declaration that has a module. -/
theorem run_recording_of_ok {declarations : List PluginDeclaration} {start final : σ}
    (h : (registry.dispatch hook declarations).run.run start = (.ok (), final))
    (earlier : List HookCall) :
    (registry.recording.dispatch hook declarations).run.run (start, earlier) =
      (.ok (), final, earlier ++ registry.calls hook declarations) := by
  induction declarations generalizing start earlier with
  | nil =>
    obtain rfl := (Prod.mk.inj h).2
    rw [show registry.calls hook [] = [] from rfl, List.append_nil]
    rfl
  | cons declaration rest ih =>
    obtain ⟨done, middle, hcall, hrest⟩ := of_run_bind_ok h
    have hfirst := run_call_recording registry hook declaration start earlier
    rw [hcall] at hfirst
    rw [← List.singleton_append, calls_append, ← List.append_assoc, ← ih hrest]
    exact run_bind_of_ok hfirst

/-- A dispatch in which an action fails calls no more than that after those before it. -/
theorem FirstFailure.run_recording {declarations : List PluginDeclaration} {start : σ}
    (first : FirstFailure registry hook declarations start) (earlier : List HookCall) :
    (registry.recording.dispatch hook declarations).run.run (start, earlier) =
      (.error first.failure, first.final,
        earlier ++ registry.calls hook (first.before ++ [first.declaration])) := by
  have hrun := run_dispatch_append registry.recording hook first.before
    (first.declaration :: first.rest) (start, earlier)
  rw [run_recording_of_ok first.succeeds, ← first.split] at hrun
  have hcall := run_call_recording registry hook first.declaration first.middle
    (earlier ++ registry.calls hook first.before)
  rw [run_call_of_error first.resolves first.fails] at hcall
  rw [calls_append, ← List.append_assoc]
  exact hrun.trans (run_bind_of_error hcall)

/-! ### The law of a dispatch -/

/-- Whatever modules have been registered, one after the other, and whatever they do: a path has the
module registered last under it. A dispatch is a fold from the left, so to two lists it is one to
the first and, if that succeeds, one to the second on what the first has left. Declarations without
a module can be deleted. A dispatch that succeeds calls each declaration with a module once, in
their order and with their options. Where it does not succeed, there is a first declaration whose
action fails: what is left is what those before it and its own action have left, no later one is
called, and the failure has its path, the hook and the wording of its error. -/
theorem dispatch_shortCircuits (entries : List (List Char × PluginModule σ))
    {registry : PluginRegistry σ} (hregistry : registry = ofRegistrations entries)
    (hook : PluginHook) (declarations : List PluginDeclaration) (start : σ)
    (earlier : List HookCall) :
    (∀ path plugin, registry.resolve? path = some plugin ↔ ∃ before after,
      entries = before ++ (path, plugin) :: after ∧ ∀ entry ∈ after, entry.1 ≠ path) ∧
    (registry.dispatch hook declarations).run.run start =
      declarations.foldl (registry.proceed hook) (.ok (), start) ∧
    (∀ others, (registry.dispatch hook (declarations ++ others)).run.run start =
      match (registry.dispatch hook declarations).run.run start with
      | (.ok (), middle) => (registry.dispatch hook others).run.run middle
      | (.error failure, middle) => (.error failure, middle)) ∧
    (∀ before declaration after, declarations = before ++ declaration :: after →
      registry.resolve? declaration.modulePath = none →
        (registry.dispatch hook declarations).run.run start =
          (registry.dispatch hook (before ++ after)).run.run start) ∧
    (∀ final, (registry.dispatch hook declarations).run.run start = (.ok (), final) →
      (registry.recording.dispatch hook declarations).run.run (start, earlier) =
        (.ok (), final, earlier ++ registry.calls hook declarations)) ∧
    ((∃ final, (registry.dispatch hook declarations).run.run start = (.ok (), final)) ∨
      Nonempty (FirstFailure registry hook declarations start)) ∧
    (∀ first : FirstFailure registry hook declarations start,
      (registry.dispatch hook declarations).run.run start = (.error first.failure, first.final) ∧
      (registry.recording.dispatch hook declarations).run.run (start, earlier) =
        (.error first.failure, first.final,
          earlier ++ registry.calls hook (first.before ++ [first.declaration])) ∧
      first.failure.text = "Plugin '".toList ++ first.declaration.modulePath ++
        "' failed in ".toList ++ hook.exportName ++ ": ".toList ++ first.error.text) := by
  refine ⟨fun path plugin ↦ ?_, run_dispatch declarations start,
    fun others ↦ run_dispatch_append registry hook declarations others start, ?_,
    fun final h ↦ run_recording_of_ok h earlier, ?_,
    fun first ↦ ⟨first.run_dispatch_eq, first.run_recording earlier, rfl⟩⟩
  · rw [hregistry]
    exact resolve?_ofRegistrations_iff
  · rintro before declaration after rfl hnone
    rw [dispatch_delete hnone]
  · rcases hrun : (registry.dispatch hook declarations).run.run start with ⟨outcome, final⟩
    cases outcome with
    | ok done => exact .inl ⟨final, rfl⟩
    | error failure => exact .inr (nonempty_firstFailure hrun)

/-- Three modules, the first of which is replaced by the last. Each adds a word and its options to a
compilation, and the second one fails then. -/
def replacedModule : List (List Char × PluginModule Compilation) :=
  [("a".toList, { emit := fun _ ↦ modify (·.appendAsset "log".toList "old ".toList) }),
    ("b".toList, { emit := fun options ↦ do
      modify (·.putMetadata "b".toList options)
      throw (.failed "boom".toList) }),
    ("a".toList, { emit := fun options ↦ do
      modify (·.appendAsset "log".toList "new ".toList)
      modify (·.putMetadata "a".toList options) })]

/-- The module that is there is called for each of its declarations before the one that fails, and
the one behind it is not. -/
theorem dispatch_replacedModule :
    ((ofRegistrations replacedModule).recording.dispatch .emit
      [⟨"a".toList, .integer 1⟩, ⟨"none".toList, .null⟩, ⟨"a".toList, .integer 2⟩,
        ⟨"b".toList, .integer 3⟩, ⟨"a".toList, .integer 4⟩]).run.run (Compilation.empty, []) =
      (.error ⟨"b".toList, .emit, "boom".toList⟩,
        ⟨[], [("log".toList, "new new ".toList)],
          [("a".toList, .integer 2), ("b".toList, .integer 3)]⟩,
        [⟨.emit, "a".toList, .integer 1⟩, ⟨.emit, "a".toList, .integer 2⟩,
          ⟨.emit, "b".toList, .integer 3⟩]) := by
  obtain ⟨-, -, -, -, -, -, hfirst⟩ := dispatch_shortCircuits replacedModule rfl .emit
    [⟨"a".toList, .integer 1⟩, ⟨"none".toList, .null⟩, ⟨"a".toList, .integer 2⟩,
      ⟨"b".toList, .integer 3⟩, ⟨"a".toList, .integer 4⟩] Compilation.empty []
  exact (hfirst ⟨[⟨"a".toList, .integer 1⟩, ⟨"none".toList, .null⟩, ⟨"a".toList, .integer 2⟩],
    ⟨"b".toList, .integer 3⟩, [⟨"a".toList, .integer 4⟩], rfl, _, rfl, _, rfl, _, _, rfl⟩).2.1

end PluginRegistry

end SsrBuild
