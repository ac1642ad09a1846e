import SsrBuild.Proofs.Lifecycle.Alone
import SsrBuild.Proofs.Lifecycle.History
import SsrBuild.Proofs.Lifecycle.Playing

/-!
A build and the service of its watcher converge, however their steps and the edits of the
configuration interleave. What each move does is said once (`effect_of_moves`). A generation of the
service that works with an older configuration has a change waiting behind it (`Sound`). From the
beginning of a run that watches on, as long as the configuration is not edited, the build works with
the configuration as it is (`Steady`). Once that run has succeeded, the main module is that of the
configuration, or the service is yet to generate it (`Settling`). So it is that of the configuration
as soon as the service has nothing to do (`contentAt_of_watchRun`).
-/

set_option autoImplicit false

namespace SsrBuild

variable {σ : Type} {project : Project σ}

/-- A change of the configuration waits in the queue. -/
def Watcher.HasChange (watcher : Watcher) : Prop :=
  ∃ notice ∈ watcher.queue, (notice.change? watcher.fileName).isSome = true

/-- Where no change is found in the queue, none waits there. -/
theorem Watcher.not_hasChange_of_changed {watcher : Watcher} (h : watcher.changed.1 = none) :
    ¬ watcher.HasChange := by
  rw [changed_eq_none_iff, changes_eq, List.filterMap_eq_nil_iff] at h
  rintro ⟨notice, hmem, hsome⟩
  rw [h notice hmem] at hsome
  cases hsome

/-- The configuration that a step of an event works with, once it has been loaded. -/
def Task.config? : Task → Option ProjectConfig
  | .watch => none
  | .generate stage => stage.config?

/-- An event begins without a configuration. -/
theorem Task.config?_of_first {event : BuildEvent} {task : Task} (h : first? event = some task) :
    task.config? = none := by
  cases event with
  | run | watchRun =>
    obtain rfl := Option.some.inj h
    rfl
  | emit | afterEmit => cases h

namespace Interleaving

variable {now next : Interleaving σ}

/-- A change of the configuration waits for the service. -/
def HasChange (now : Interleaving σ) : Prop :=
  ∃ watcher, now.state.watcher = some watcher ∧ watcher.HasChange

/-- Whether a change waits depends on the watcher. -/
theorem HasChange.of_watcher (h : now.HasChange)
    (hwatcher : next.state.watcher = now.state.watcher) : next.HasChange := by
  obtain ⟨watcher, hsome, hchange⟩ := h
  exact ⟨watcher, hwatcher.trans hsome, hchange⟩

/-- Changes keep waiting whatever happens outside. -/
theorem HasChange.outside (h : now.HasChange) (files : FileSystem) (shared : σ)
    (notices : List Notice) : (now.outside files shared notices).HasChange := by
  obtain ⟨watcher, hsome, notice, hmem, hchange⟩ := h
  exact ⟨_, congrArg (Option.map _) hsome, notice, List.mem_append_left _ hmem, hchange⟩

/-- A change of which the watcher has been told waits. -/
theorem hasChange_outside {watcher : Watcher} (hsome : now.state.watcher = some watcher)
    (files : FileSystem) (shared : σ) {notices : List Notice}
    (htold : ∃ notice ∈ notices, (notice.change? watcher.fileName).isSome = true) :
    (now.outside files shared notices).HasChange := by
  obtain ⟨notice, hmem, hchange⟩ := htold
  exact ⟨_, congrArg (Option.map _) hsome, notice, List.mem_append_right _ hmem, hchange⟩

/-! ### What a move does -/

/-- What a move does to a build and its service, said by the laws of its step. -/
inductive Effect (project : Project σ) (now : Interleaving σ) : Move → Interleaving σ → Prop
  | edit (files : FileSystem) (shared : σ) (notices : List Notice)
      (spared : project.Spares now.state.files files)
      (told : ∀ watcher ∈ now.state.watcher,
        ∃ notice ∈ notices, (notice.change? watcher.fileName).isSome = true) :
      Effect project now .edit (now.outside files shared notices)
  | change (files : FileSystem) (shared : σ) (notices : List Notice)
      (spared : project.Spares now.state.files files)
      (same : ProjectConfig.load files project.root =
        ProjectConfig.load now.state.files project.root) :
      Effect project now .change (now.outside files shared notices)
  | begin {event : BuildEvent} {task : Task} (idle : now.build = none)
      (unloaded : task.config? = none) :
      Effect project now (.begin event) { now with build := some task }
  | watch {watcher : Watcher} (reached : now.build = some .watch)
      (found : now.state.watcher = some watcher ∨ now.state.watcher = none ∧
        Watcher.create now.state.files (project.root.join configFile) = .ok watcher) :
      Effect project now .build { now with
        state := { now.state with watcher := some watcher }
        build := some (.generate .load) }
  | unwatched {error : LifecycleError} (reached : now.build = some .watch) :
      Effect project now (.finish (.error error)) { now with build := none }
  /-- A step of a generation of the build, whether it goes on with another one or not. -/
  | build {move : Move} {stage : Stage} {result : Except LifecycleError (Stage ⊕ WriteOutcome)}
      {after : BuildState σ} {task : Option Task} (reached : now.build = some (.generate stage))
      (law : project.StageLaw stage now.state result after)
      (goesOn : ∀ {next : Stage}, task = some (.generate next) → result = .ok (.inl next)) :
      Effect project now move { now with state := after, build := task }
  | serve {watcher rest : Watcher} (watched : now.state.watcher = some watcher) :
      Effect project now .serve
        { now with state := { now.state with watcher := some rest }, service := some .load }
  /-- A step of a generation of the service, whether it goes on with another one or not. -/
  | service {stage : Stage} {result : Except LifecycleError (Stage ⊕ WriteOutcome)}
      {after : BuildState σ} {service : Option Stage} (reached : now.service = some stage)
      (law : project.StageLaw stage now.state result after)
      (goesOn : ∀ {next : Stage}, service = some next ↔ result = .ok (.inl next)) :
      Effect project now .service { now with state := after, service := service }

/-- Every move has such an effect. -/
theorem effect_of_moves {move : Move} (hmove : project.Moves now move next) :
    now.Effect project move next := by
  cases hmove with
  | edit files shared notices hspared htold => exact .edit files shared notices hspared htold
  | change files shared notices hspared hsame => exact .change files shared notices hspared hsame
  | begin hidle hfirst => exact .begin hidle (Task.config?_of_first hfirst)
  | build hbuild hstep =>
    rcases Project.of_run_advance_inl hstep with ⟨rfl, rfl, watcher, rfl, hwatcher⟩ |
      ⟨stage, other, rfl, rfl, hrun⟩
    · exact .watch hbuild hwatcher
    · refine .build hbuild (Project.stageLaw hrun fun error h ↦ nomatch h) fun h ↦ ?_
      rw [Task.generate.inj (Option.some.inj h)]
  | finish hbuild hstep =>
    obtain ⟨stage, rfl, hrun⟩ := Project.of_run_advance_inr hstep
    exact .build hbuild (Project.stageLaw hrun fun error h ↦ nomatch h) fun h ↦ nomatch h
  | fail hbuild hstep hwritable =>
    rcases Project.of_run_advance_error hstep with ⟨rfl, rfl⟩ | ⟨stage, rfl, hrun⟩
    · exact .unwatched hbuild
    · refine .build hbuild (Project.stageLaw hrun fun error h ↦ ?_) fun h ↦ nomatch h
      rw [← Except.error.inj h]
      exact hwritable
  | serve hidle hwatched hchanged => exact .serve hwatched
  | service hservice hstep =>
    refine .service hservice (Project.stageLaw hstep fun error h ↦ nomatch h) ?_
    simp
  | served hservice hstep =>
    refine .service hservice (Project.stageLaw hstep fun error h ↦ nomatch h) ?_
    simp
  | unserved hservice hstep hwritable =>
    refine .service hservice (Project.stageLaw hstep fun error h ↦ ?_) ?_
    · rw [← Except.error.inj h]
      exact hwritable
    · simp

/-! ### What holds at any time -/

/-- Configurations are those of the root directory, and of the service either as it is now or with a
change waiting. Where there is a service there is a watcher, and where there is a watcher the root
directory stands. -/
structure Sound (project : Project σ) (now : Interleaving σ) : Prop where
  build : ∀ {stage : Stage} {config : ProjectConfig}, now.build = some (.generate stage) →
    stage.config? = some config → config.root = project.root.target
  service : ∀ {stage : Stage} {config : ProjectConfig}, now.service = some stage →
    stage.config? = some config → config.root = project.root.target ∧
      (ProjectConfig.load now.state.files project.root = .ok config ∨ now.HasChange)
  watched : ∀ {stage : Stage}, now.service = some stage →
    ∃ watcher, now.state.watcher = some watcher
  root : ∀ {watcher : Watcher}, now.state.watcher = some watcher →
    project.root.Stands now.state.files

/-- Before there is a watcher, and with nothing to do, it holds. -/
theorem sound_of_idle (hbuild : now.build = none) (hservice : now.service = none)
    (hwatcher : now.state.watcher = none) : now.Sound project where
  build h := by
    rw [hbuild] at h
    cases h
  service h := by
    rw [hservice] at h
    cases h
  watched h := by
    rw [hservice] at h
    cases h
  root h := by
    rw [hwatcher] at h
    cases h

/-- It stays where the watcher stays, the root directory and the configuration are not changed under
it, and new configurations are those of the root directory as it is. -/
theorem Sound.keep (hsound : now.Sound project)
    (hwatcher : next.state.watcher = now.state.watcher)
    (hroot : ∀ {watcher : Watcher}, now.state.watcher = some watcher →
      project.root.Stands next.state.files ∧
        ProjectConfig.load next.state.files project.root =
          ProjectConfig.load now.state.files project.root)
    (hbuild : ∀ {stage : Stage} {config : ProjectConfig}, next.build = some (.generate stage) →
      stage.config? = some config → config.root = project.root.target)
    (hservice : ∀ {stage : Stage}, next.service = some stage →
      ∃ before, now.service = some before ∧ ∀ {config : ProjectConfig},
        stage.config? = some config → before.config? = some config ∨
          ProjectConfig.load now.state.files project.root = .ok config) : next.Sound project where
  build := hbuild
  service := by
    intro stage config hstage hconfig
    obtain ⟨before, hbefore, hsame⟩ := hservice hstage
    obtain ⟨watcher, hsome⟩ := hsound.watched hbefore
    rw [(hroot hsome).2]
    rcases hsame hconfig with hheld | hload
    · obtain ⟨htarget, hload | hchange⟩ := hsound.service hbefore hheld
      · exact ⟨htarget, Or.inl hload⟩
      · exact ⟨htarget, Or.inr (hchange.of_watcher hwatcher)⟩
    · exact ⟨ProjectConfig.root_of_load hload, Or.inl hload⟩
  watched := by
    intro stage hstage
    obtain ⟨before, hbefore, -⟩ := hservice hstage
    rw [hwatcher]
    exact hsound.watched hbefore
  root := by
    intro watcher hsome
    rw [hwatcher] at hsome
    exact (hroot hsome).1

/-- What happens outside keeps it, if an edit of the configuration leaves a change waiting. -/
theorem Sound.outside (hsound : now.Sound project) {files : FileSystem} {shared : σ}
    {notices : List Notice} (hspared : project.Spares now.state.files files)
    (htold : (∀ watcher ∈ now.state.watcher,
        ∃ notice ∈ notices, (notice.change? watcher.fileName).isSome = true) ∨
      ProjectConfig.load files project.root = ProjectConfig.load now.state.files project.root) :
    (now.outside files shared notices).Sound project where
  build := hsound.build
  service := by
    intro stage config hstage hconfig
    obtain ⟨htarget, hheld⟩ := hsound.service hstage hconfig
    refine ⟨htarget, ?_⟩
    rcases htold with htold | hsame
    · obtain ⟨watcher, hsome⟩ := hsound.watched hstage
      exact Or.inr (hasChange_outside hsome files shared (htold watcher hsome))
    · rcases hheld with hload | hchange
      · exact Or.inl (hsame.trans hload)
      · exact Or.inr (hchange.outside files shared notices)
  watched := by
    intro stage hstage
    obtain ⟨watcher, hsome⟩ := hsound.watched hstage
    exact ⟨_, congrArg (Option.map _) hsome⟩
  root := by
    intro watcher hsome
    obtain ⟨before, hbefore, -⟩ := Option.map_eq_some_iff.mp hsome
    exact hspared.root (hsound.root hbefore)

/-- While there is a watcher, a step of a generation leaves the root directory and the configuration
as they are. -/
theorem Sound.load_of_stageLaw (hsound : now.Sound project) {stage : Stage}
    {result : Except LifecycleError (Stage ⊕ WriteOutcome)} {after : BuildState σ}
    (hlaw : project.StageLaw stage now.state result after)
    (hroot : ∀ {config : ProjectConfig}, stage.config? = some config →
      config.root = project.root.target)
    {watcher : Watcher} (hsome : now.state.watcher = some watcher) :
    project.root.Stands after.files ∧
      ProjectConfig.load after.files project.root =
        ProjectConfig.load now.state.files project.root :=
  hlaw.load (hsound.root hsome) hroot

/-- A step of a generation of the build keeps it. -/
theorem Sound.build_stage (hsound : now.Sound project) {stage : Stage} {after : BuildState σ}
    {result : Except LifecycleError (Stage ⊕ WriteOutcome)} {task : Option Task}
    (hbuild : now.build = some (.generate stage))
    (hlaw : project.StageLaw stage now.state result after)
    (htask : ∀ {next : Stage}, task = some (.generate next) → result = .ok (.inl next)) :
    Sound project { now with state := after, build := task } := by
  refine hsound.keep hlaw.watcher (hsound.load_of_stageLaw hlaw (hsound.build hbuild))
    (fun hnext hconfig ↦ ?_) fun hservice ↦ ⟨_, hservice, Or.inl⟩
  rcases hlaw.goesOn (htask hnext) hconfig with hheld | hloaded
  · exact hsound.build hbuild hheld
  · exact ProjectConfig.root_of_load hloaded

/-- A step of a generation of the service keeps it. -/
theorem Sound.service_stage (hsound : now.Sound project) {stage : Stage} {after : BuildState σ}
    {result : Except LifecycleError (Stage ⊕ WriteOutcome)} {service : Option Stage}
    (hservice : now.service = some stage) (hlaw : project.StageLaw stage now.state result after)
    (hnext : ∀ {next : Stage}, service = some next → result = .ok (.inl next)) :
    Sound project { now with state := after, service := service } :=
  hsound.keep hlaw.watcher
    (hsound.load_of_stageLaw hlaw fun hconfig ↦ (hsound.service hservice hconfig).1)
    hsound.build fun hstage ↦ ⟨stage, hservice, hlaw.goesOn (hnext hstage)⟩

/-- A watcher that is there, or is created, keeps it. -/
theorem Sound.watch (hsound : now.Sound project) {watcher : Watcher}
    (hwatcher : now.state.watcher = some watcher ∨ now.state.watcher = none ∧
      Watcher.create now.state.files (project.root.join configFile) = .ok watcher) :
    Sound project { now with
      state := { now.state with watcher := some watcher }
      build := some (.generate .load) } := by
  rcases hwatcher with hsome | ⟨hnone, hcreate⟩
  · refine hsound.keep hsome.symm (fun _ ↦ ⟨hsound.root hsome, rfl⟩) (fun hbuild hconfig ↦ ?_)
      fun hservice ↦ ⟨_, hservice, Or.inl⟩
    obtain rfl := Task.generate.inj (Option.some.inj hbuild)
    cases hconfig
  · -- Without a watcher there has been no service so far.
    have hnoService : ∀ {stage : Stage}, now.service ≠ some stage := by
      intro stage hservice
      obtain ⟨found, hfound⟩ := hsound.watched hservice
      rw [hnone] at hfound
      cases hfound
    refine ⟨fun hbuild hconfig ↦ ?_, fun hservice ↦ absurd hservice hnoService,
      fun hservice ↦ absurd hservice hnoService, fun _ ↦ Watcher.stands_of_create hcreate⟩
    obtain rfl := Task.generate.inj (Option.some.inj hbuild)
    cases hconfig

/-- Every move keeps it. -/
theorem Sound.moves (hsound : now.Sound project) {move : Move}
    (hmove : project.Moves now move next) : next.Sound project := by
  cases effect_of_moves hmove with
  | edit files shared notices hspared htold => exact hsound.outside hspared (Or.inl htold)
  | change files shared notices hspared hsame => exact hsound.outside hspared (Or.inr hsame)
  | begin hidle hunloaded =>
    refine hsound.keep rfl (fun hsome ↦ ⟨hsound.root hsome, rfl⟩) (fun hbuild hconfig ↦ ?_)
      fun hservice ↦ ⟨_, hservice, Or.inl⟩
    obtain rfl := Option.some.inj hbuild
    cases hunloaded.symm.trans hconfig
  | watch hbuild hwatcher => exact hsound.watch hwatcher
  | unwatched hbuild =>
    exact hsound.keep rfl (fun hsome ↦ ⟨hsound.root hsome, rfl⟩) (fun h ↦ nomatch h)
      fun hservice ↦ ⟨_, hservice, Or.inl⟩
  | build hbuild hlaw hgoesOn => exact hsound.build_stage hbuild hlaw hgoesOn
  | serve hwatched =>
    refine ⟨hsound.build, fun hstage hconfig ↦ ?_, fun _ ↦ ⟨_, rfl⟩, fun _ ↦ hsound.root hwatched⟩
    obtain rfl := Option.some.inj hstage
    cases hconfig
  | service hservice hlaw hgoesOn => exact hsound.service_stage hservice hlaw hgoesOn.mp

/-! ### What holds while the configuration is not edited -/

/-- The configuration is what it was, the build works with it, and there is a watcher, or the build
is about to make sure that there is one. -/
structure Steady (project : Project σ) (loaded : Except ConfigError ProjectConfig)
    (now : Interleaving σ) : Prop where
  load : ProjectConfig.load now.state.files project.root = loaded
  build : ∀ {stage : Stage} {config : ProjectConfig}, now.build = some (.generate stage) →
    stage.config? = some config → loaded = .ok config
  watching : now.build = some .watch ∨ ∃ watcher, now.state.watcher = some watcher

variable {loaded : Except ConfigError ProjectConfig}

/-- A run that watches begins so. -/
theorem steady_of_watch (hbuild : now.build = some .watch) :
    now.Steady project (ProjectConfig.load now.state.files project.root) where
  load := rfl
  build h := by
    rw [hbuild] at h
    cases h
  watching := Or.inl hbuild

/-- A build that is not about to watch has a watcher. -/
theorem Steady.exists_watcher (hsteady : now.Steady project loaded)
    (hbuild : now.build ≠ some .watch) : ∃ watcher, now.state.watcher = some watcher :=
  hsteady.watching.resolve_left hbuild

/-- A step of a generation of the build keeps it. -/
theorem Steady.build_stage (hsteady : now.Steady project loaded) (hsound : now.Sound project)
    {stage : Stage} {after : BuildState σ}
    {result : Except LifecycleError (Stage ⊕ WriteOutcome)} {task : Option Task}
    (hbuild : now.build = some (.generate stage))
    (hlaw : project.StageLaw stage now.state result after)
    (htask : ∀ {next : Stage}, task = some (.generate next) → result = .ok (.inl next)) :
    Steady project loaded { now with state := after, build := task } := by
  obtain ⟨watcher, hsome⟩ := hsteady.exists_watcher (by
    rw [hbuild]
    exact fun h ↦ nomatch h)
  refine ⟨?_, fun hnext hconfig ↦ ?_, Or.inr ⟨watcher, hlaw.watcher.trans hsome⟩⟩
  · exact (hsound.load_of_stageLaw hlaw (hsound.build hbuild) hsome).2.trans hsteady.load
  · rcases hlaw.goesOn (htask hnext) hconfig with hheld | hloaded
    · exact hsteady.build hbuild hheld
    · exact hsteady.load.symm.trans hloaded

/-- A step of a generation of the service keeps it. -/
theorem Steady.service_stage (hsteady : now.Steady project loaded) (hsound : now.Sound project)
    {stage : Stage} {after : BuildState σ} {service : Option Stage}
    {result : Except LifecycleError (Stage ⊕ WriteOutcome)}
    (hservice : now.service = some stage) (hlaw : project.StageLaw stage now.state result after) :
    Steady project loaded { now with state := after, service := service } := by
  obtain ⟨watcher, hsome⟩ := hsound.watched hservice
  have hload := hsound.load_of_stageLaw hlaw (fun h ↦ (hsound.service hservice h).1) hsome
  exact ⟨hload.2.trans hsteady.load, hsteady.build, Or.inr ⟨watcher, hlaw.watcher.trans hsome⟩⟩

/-- A watcher stays whatever happens. -/
theorem exists_watcher_of_moves {move : Move} (hmove : project.Moves now move next)
    (hwatcher : ∃ watcher, now.state.watcher = some watcher) :
    ∃ watcher, next.state.watcher = some watcher := by
  cases effect_of_moves hmove with
  | edit | change =>
    obtain ⟨watcher, hsome⟩ := hwatcher
    exact ⟨_, congrArg (Option.map _) hsome⟩
  | begin | unwatched => exact hwatcher
  | watch | serve => exact ⟨_, rfl⟩
  | build hbuild hlaw | service hservice hlaw =>
    rw [← hlaw.watcher] at hwatcher
    exact hwatcher

/-- Every move but an edit of the configuration keeps it, if no run ends without a watcher. -/
theorem Steady.moves (hsteady : now.Steady project loaded) (hsound : now.Sound project)
    {move : Move} (hmove : project.Moves now move next) (hedit : move ≠ .edit)
    (hfails : ∀ error, move = .finish (.error error) →
      ∃ watcher, now.state.watcher = some watcher) : next.Steady project loaded := by
  cases effect_of_moves hmove with
  | edit => exact absurd rfl hedit
  | change files shared notices hspared hsame =>
    refine ⟨hsame.trans hsteady.load, hsteady.build, hsteady.watching.imp_right ?_⟩
    rintro ⟨watcher, hsome⟩
    exact ⟨_, congrArg (Option.map _) hsome⟩
  | begin hidle hunloaded =>
    refine ⟨hsteady.load, fun hbuild hconfig ↦ ?_, Or.inr (hsteady.exists_watcher ?_)⟩
    · obtain rfl := Option.some.inj hbuild
      cases hunloaded.symm.trans hconfig
    · rw [hidle]
      exact fun h ↦ nomatch h
  | watch hbuild hwatcher =>
    refine ⟨hsteady.load, fun h hconfig ↦ ?_, Or.inr ⟨_, rfl⟩⟩
    obtain rfl := Task.generate.inj (Option.some.inj h)
    cases hconfig
  | unwatched hbuild => exact ⟨hsteady.load, (fun h ↦ nomatch h), Or.inr (hfails _ rfl)⟩
  | build hbuild hlaw hgoesOn => exact hsteady.build_stage hsound hbuild hlaw hgoesOn
  | serve hwatched => exact ⟨hsteady.load, hsteady.build, Or.inr ⟨_, rfl⟩⟩
  | service hservice hlaw hgoesOn => exact hsteady.service_stage hsound hservice hlaw

/-! ### What holds after a run that watches -/

/-- The main module is that of the configuration, or the service has a change before it, or is
generating the main module of the configuration. -/
structure Settling (project : Project σ) (config : ProjectConfig) (now : Interleaving σ) :
    Prop where
  sound : now.Sound project
  steady : now.Steady project (.ok config)
  watched : ∃ watcher, now.state.watcher = some watcher
  settling : now.state.files.contentAt project.mainModulePath = .ok (Text.encode config.mainCode) ∨
    now.HasChange ∨ ∃ stage, now.service = some stage ∧
      ∀ {held : ProjectConfig}, stage.config? = some held → held = config

variable {config : ProjectConfig}

/-- The path of the main module of a configuration is that of the project. -/
theorem mainModulePath_of_root (hroot : config.root = project.root.target) :
    config.mainModulePath = project.mainModulePath := by
  unfold ProjectConfig.mainModulePath Project.mainModulePath
  rw [hroot]

/-- At the end of a generation of the configuration the main module is that of it. -/
theorem contentAt_of_stageLaw {stage : Stage} {before after : BuildState σ}
    {outcome : WriteOutcome} (hlaw : project.StageLaw stage before (.ok (.inr outcome)) after)
    (hconfig : ∀ {held : ProjectConfig}, stage.config? = some held →
      held = config ∧ held.root = project.root.target) :
    after.files.contentAt project.mainModulePath = .ok (Text.encode config.mainCode) := by
  obtain ⟨held, hheld, hcontent⟩ := hlaw.ends rfl
  obtain ⟨rfl, hroot⟩ := hconfig hheld
  rw [← mainModulePath_of_root hroot]
  exact hcontent

/-- Where files and watcher stay as they are, and the service where it is, it stays. -/
theorem Settling.of_same (hsettling : now.Settling project config) (hsound : next.Sound project)
    (hsteady : next.Steady project (.ok config)) (hfiles : next.state.files = now.state.files)
    (hwatcher : next.state.watcher = now.state.watcher) (hservice : next.service = now.service) :
    next.Settling project config where
  sound := hsound
  steady := hsteady
  watched := by
    rw [hwatcher]
    exact hsettling.watched
  settling := by
    rw [hfiles, hservice]
    exact hsettling.settling.imp_right (Or.imp_left fun h ↦ h.of_watcher hwatcher)

/-- After a step of the service the main module is that of the configuration, or the service is yet
to generate it. -/
theorem Settling.service_stage (hsettling : now.Settling project config) {stage : Stage}
    {result : Except LifecycleError (Stage ⊕ WriteOutcome)} {after : BuildState σ}
    {service : Option Stage} (hservice : now.service = some stage)
    (hlaw : project.StageLaw stage now.state result after)
    (hgoesOn : ∀ {next : Stage}, service = some next ↔ result = .ok (.inl next)) :
    after.files.contentAt project.mainModulePath = .ok (Text.encode config.mainCode) ∨
      HasChange { now with state := after, service := service } ∨
        ∃ next, service = some next ∧
          ∀ {held : ProjectConfig}, next.config? = some held → held = config := by
  have hheld : ∀ {held : ProjectConfig},
      ProjectConfig.load now.state.files project.root = .ok held → held = config := fun h ↦
    Except.ok.inj (h.symm.trans hsettling.steady.load)
  rcases result with error | other | outcome
  · obtain ⟨fault, hfault⟩ := hlaw.fails rfl
    rw [hsettling.steady.load] at hfault
    cases hfault
  · rcases hsettling.settling with hmain | hchange | ⟨held, hstage, hconfig⟩
    · refine Or.inl ?_
      rw [← hmain, ← hlaw.files fun _ h ↦ nomatch h]
    · exact Or.inr (Or.inl (hchange.of_watcher hlaw.watcher))
    · obtain rfl := Option.some.inj (hstage.symm.trans hservice)
      refine Or.inr (Or.inr ⟨other, hgoesOn.mpr rfl, fun h ↦ ?_⟩)
      rcases hlaw.goesOn rfl h with hbefore | hload
      · exact hconfig hbefore
      · exact hheld hload
  · -- What ends may be a generation with an older configuration, behind which a change waits.
    obtain ⟨held, hconfig, hcontent⟩ := hlaw.ends rfl
    obtain ⟨hroot, hload | hchange⟩ := hsettling.sound.service hservice hconfig
    · obtain rfl := hheld hload
      refine Or.inl ?_
      rw [← mainModulePath_of_root hroot]
      exact hcontent
    · exact Or.inr (Or.inl (hchange.of_watcher hlaw.watcher))

/-- Every move but an edit of the configuration keeps it. -/
theorem Settling.moves (hsettling : now.Settling project config) {move : Move}
    (hmove : project.Moves now move next) (hedit : move ≠ .edit) :
    next.Settling project config := by
  have hsound := hsettling.sound.moves hmove
  have hsteady := hsettling.steady.moves hsettling.sound hmove hedit fun _ _ ↦ hsettling.watched
  have hwatched := exists_watcher_of_moves hmove hsettling.watched
  cases effect_of_moves hmove with
  | edit => exact absurd rfl hedit
  | change files shared notices hspared hsame =>
    refine ⟨hsound, hsteady, hwatched, ?_⟩
    rcases hsettling.settling with hmain | hchange | hservice
    · exact Or.inl (hspared.mainModule.trans hmain)
    · exact Or.inr (Or.inl (hchange.outside files shared notices))
    · exact Or.inr (Or.inr hservice)
  | begin | unwatched => exact hsettling.of_same hsound hsteady rfl rfl rfl
  | watch hbuild hwatcher =>
    rcases hwatcher with hsome | ⟨hnone, -⟩
    · exact hsettling.of_same hsound hsteady rfl hsome.symm rfl
    · obtain ⟨found, hfound⟩ := hsettling.watched
      rw [hnone] at hfound
      cases hfound
  | @build _ stage result after task hbuild hlaw hgoesOn =>
    by_cases hends : ∃ outcome, result = .ok (.inr outcome)
    · obtain ⟨outcome, rfl⟩ := hends
      refine ⟨hsound, hsteady, hwatched, Or.inl (contentAt_of_stageLaw hlaw fun h ↦ ?_)⟩
      have hconfig := Except.ok.inj (hsettling.steady.build hbuild h)
      exact ⟨hconfig.symm, hsettling.sound.build hbuild h⟩
    · exact hsettling.of_same hsound hsteady (hlaw.files (not_exists.mp hends)) hlaw.watcher rfl
  | serve =>
    exact ⟨hsound, hsteady, hwatched, Or.inr (Or.inr ⟨.load, rfl, fun h ↦ nomatch h⟩)⟩
  | service hservice hlaw hgoesOn =>
    exact ⟨hsound, hsteady, hwatched, hsettling.service_stage hservice hlaw hgoesOn⟩

/-! ### Runs -/

variable {start final : Interleaving σ}

/-- Moves in two parts have a state between them. -/
theorem exists_of_reaches_append {first second : List Move}
    (h : project.Reaches start (first ++ second) final) :
    ∃ between, project.Reaches start first between ∧ project.Reaches between second final := by
  induction first generalizing start with
  | nil => exact ⟨start, .none, h⟩
  | cons move first ih =>
    cases h with
    | more hmove hrest =>
      obtain ⟨between, hfirst, hsecond⟩ := ih hrest
      exact ⟨between, .more hmove hfirst, hsecond⟩

/-- What every move keeps is kept by all moves. -/
theorem keeps_of_reaches (Kept : Interleaving σ → Prop) {moves : List Move}
    (h : project.Reaches start moves final)
    (hkeeps : ∀ {now next : Interleaving σ} {move : Move}, move ∈ moves → Kept now →
      project.Moves now move next → Kept next) (hstart : Kept start) : Kept final := by
  induction h with
  | none => exact hstart
  | @more start now final move moves hmove _ ih =>
    have hnow := hkeeps List.mem_cons_self hstart hmove
    exact ih (fun hmem ↦ hkeeps (List.mem_cons_of_mem move hmem)) hnow

/-- A run that watches begins by watching. -/
theorem build_of_begin_watchRun (h : project.Moves now (.begin .watchRun) next) :
    next.build = some .watch := by
  cases h with
  | begin hidle hfirst => exact hfirst.symm

/-- At the end of a run that watches, during which the configuration was not edited, the main module
is that of the configuration. -/
theorem settling_of_watchRun {begun : Interleaving σ} (hsound : begun.Sound project)
    (hbegun : begun.build = some .watch) {during : List Move} {outcome : WriteOutcome}
    (hreaches : project.Reaches begun during now)
    (hduring : ∀ move ∈ during, move ≠ .edit ∧ ∀ result, move ≠ .finish result)
    (hend : project.Moves now (.finish (.ok outcome)) next) :
    ∃ config, next.Settling project config := by
  obtain ⟨hsoundNow, hsteady⟩ := keeps_of_reaches (fun now ↦ now.Sound project ∧
    now.Steady project (ProjectConfig.load begun.state.files project.root)) hreaches
    (fun hmem hkept hmove ↦ ⟨hkept.1.moves hmove, hkept.2.moves hkept.1 hmove (hduring _ hmem).1
      fun error herror ↦ absurd herror ((hduring _ hmem).2 _)⟩)
    ⟨hsound, steady_of_watch hbegun⟩
  have hsoundNext := hsoundNow.moves hend
  have hsteadyNext := hsteady.moves hsoundNow hend (fun h ↦ nomatch h) fun error h ↦ nomatch h
  cases hend with
  | finish hbuild hstep =>
    obtain ⟨stage, rfl, hrun⟩ := Project.of_run_advance_inr hstep
    have hlaw := Project.stageLaw hrun fun error h ↦ nomatch h
    obtain ⟨config, hconfig, -⟩ := hlaw.ends rfl
    have hload := hsteady.build hbuild hconfig
    rw [hload] at hsteadyNext
    refine ⟨config, hsoundNext, hsteadyNext, ?_, Or.inl (contentAt_of_stageLaw hlaw fun h ↦ ?_)⟩
    · exact hsteadyNext.exists_watcher fun h ↦ nomatch h
    · exact ⟨Except.ok.inj ((hsteady.build hbuild h).symm.trans hload), hsoundNow.build hbuild h⟩

end Interleaving

/-- A build and the service of its watcher converge. Whatever they and anything outside have done
before: if a run that watches has begun after the last edit of the configuration and has succeeded,
then at any time later the main module is that of the configuration, if no change of it waits in the
queue of the watcher and the service is at no generation. -/
theorem contentAt_of_watchRun (project : Project σ) {start final : Interleaving σ}
    (hbuild : start.build = none) (hservice : start.service = none)
    (hwatcher : start.state.watcher = none) {earlier during later : List Move}
    {outcome : WriteOutcome}
    (hreaches : project.Reaches start (earlier ++ .begin .watchRun ::
      (during ++ .finish (.ok outcome) :: later)) final)
    (hduring : ∀ result, .finish result ∉ during) (hedits : .edit ∉ during ++ later)
    (hidle : final.service = none)
    (hqueue : ∀ watcher ∈ final.state.watcher, watcher.changed.1 = none) :
    ∃ config, ProjectConfig.load final.state.files project.root = .ok config ∧
      final.state.files.contentAt config.mainModulePath = .ok (Text.encode config.mainCode) := by
  obtain ⟨before, hearlier, hrest⟩ := Interleaving.exists_of_reaches_append hreaches
  obtain ⟨hsettled, hsettling⟩ : ∃ config, final.Settling project config := by
    cases hrest with
    | more hbegin hrest =>
      obtain ⟨last, hfirst, hrest⟩ := Interleaving.exists_of_reaches_append hrest
      cases hrest with
      | more hend hlater =>
        have hsound := Interleaving.keeps_of_reaches (·.Sound project) hearlier
          (fun _ hkept hmove ↦ hkept.moves hmove)
          (Interleaving.sound_of_idle hbuild hservice hwatcher)
        have hbegun := hsound.moves hbegin
        have hwatch := Interleaving.build_of_begin_watchRun hbegin
        obtain ⟨config, hsettling⟩ := Interleaving.settling_of_watchRun hbegun hwatch hfirst
          (fun move hmem ↦ ⟨fun h ↦ hedits (List.mem_append_left _ (h ▸ hmem)),
            fun result h ↦ hduring result (h ▸ hmem)⟩) hend
        refine ⟨config, Interleaving.keeps_of_reaches (·.Settling project config) hlater
          (fun hmem hkept hmove ↦ hkept.moves hmove fun h ↦ ?_) hsettling⟩
        exact hedits (List.mem_append_right _ (h ▸ hmem))
  refine ⟨_, hsettling.steady.load, ?_⟩
  have hroot := ProjectConfig.root_of_load hsettling.steady.load
  rw [Interleaving.mainModulePath_of_root hroot]
  rcases hsettling.settling with hmain | ⟨watcher, hsome, hchange⟩ | ⟨stage, hstage, -⟩
  · exact hmain
  · exact absurd hchange (Watcher.not_hasChange_of_changed (hqueue watcher hsome))
  · rw [hidle] at hstage
    cases hstage

/-- Something edits the configuration of the plain project, and its watcher is told. -/
def Turn.configure (text : String) : Turn :=
  .edit (fun files => files.configured text) [editNotice]

/-- The service has begun to generate the main module of the first edit when the second one comes. A
run that watches begins after that and succeeds, and then the service writes what it has begun. -/
def staleTurns : List Turn :=
  [.move (.begin .watchRun), .move .build, .move .build, .move .build,
    .move (.finish (.ok .written)),
    .configure "\x7b\"plugins\": [\"./first\"]\x7d", .move .serve, .move .service,
    .configure "\x7b\"plugins\": [\"./second\"]\x7d",
    .move (.begin .watchRun), .move .build, .move .service, .move .build, .move .build,
    .move (.finish (.ok .written)), .move .service]

/-- The service takes the second edit from the queue and deals with it. -/
def servingTurns : List Turn :=
  [.move .serve, .move .service, .move .service, .move .service]

/-- A main module that the service has written too late is not that of the configuration; it is once
the service has dealt with the edit behind it. -/
theorem contentAt_of_watchRun_staleTurns : ∃ stale final config,
    plainProject.Reaches ⟨plainState, none, none⟩ (staleTurns.map Turn.toMove) stale ∧
    plainProject.settledCode? stale.state = none ∧
    plainProject.Reaches stale (servingTurns.map Turn.toMove) final ∧
    final.state.files.contentAt plainProject.configLocation.target =
      .ok (Text.encode "\x7b\"plugins\": [\"./second\"]\x7d".toList) ∧
    ProjectConfig.load final.state.files plainProject.root = .ok config ∧
    final.state.files.contentAt config.mainModulePath = .ok (Text.encode config.mainCode) := by
  have hplayed : ((plainProject.play staleTurns ⟨plainState, none, none⟩).any fun stale =>
      (plainProject.settledCode? stale.state).isNone &&
        (plainProject.play servingTurns stale).any fun final =>
          final.service.isNone && final.state.watcher.all (·.changed.1.isNone) &&
            final.state.files.contentAt plainProject.configLocation.target =
              .ok (Text.encode "\x7b\"plugins\": [\"./second\"]\x7d".toList)) = true := by
    decide +kernel
  obtain ⟨stale, hstale, hplayed⟩ := (Option.any_eq_true _ _).mp hplayed
  obtain ⟨hunsettled, hplayed⟩ := Bool.and_eq_true_iff.mp hplayed
  obtain ⟨final, hfinal, hplayed⟩ := (Option.any_eq_true _ _).mp hplayed
  obtain ⟨hidle, hedited⟩ := Bool.and_eq_true_iff.mp hplayed
  obtain ⟨hidle, hqueue⟩ := Bool.and_eq_true_iff.mp hidle
  have hwhole : plainProject.play (staleTurns ++ servingTurns) ⟨plainState, none, none⟩ =
      some final := by
    unfold Project.play at hstale hfinal ⊢
    rw [List.foldlM_append, hstale]
    exact hfinal
  have hmoves : plainProject.Reaches ⟨plainState, none, none⟩
      ((staleTurns.take 9).map Turn.toMove ++ .begin .watchRun ::
        ([.build, .service, .build, .build] ++ .finish (.ok .written) ::
          (.service :: servingTurns.map Turn.toMove))) final :=
    Project.reaches_of_play hwhole
  have hnone : ∀ watcher ∈ final.state.watcher, watcher.changed.1 = none := by
    intro watcher hwatcher
    rw [Option.mem_def.mp hwatcher] at hqueue
    exact Option.isNone_iff_eq_none.mp hqueue
  obtain ⟨config, hload, hcontent⟩ := contentAt_of_watchRun plainProject rfl rfl rfl hmoves
    (by simp) (by simp [servingTurns, Turn.toMove]) (Option.isNone_iff_eq_none.mp hidle) hnone
  exact ⟨stale, final, config, Project.reaches_of_play hstale,
    Option.isNone_iff_eq_none.mp hunsettled, Project.reaches_of_play hfinal,
    of_decide_eq_true hedited, hload, hcontent⟩

end SsrBuild
