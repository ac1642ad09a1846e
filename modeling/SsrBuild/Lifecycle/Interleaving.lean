import SsrBuild.Lifecycle.Watching

/-!
The two sides of a build at the same time. The build handles one event after another; once there is
a watcher, a service takes one change after another from its queue and generates the main module for
each. A generation loads the configuration, compares the main module and writes it, and between any
two of these steps the other side may go on and files may be changed from outside.
-/

set_option autoImplicit false

namespace SsrBuild

/-- The next step of a generation. -/
inductive Stage
  | load
  | compare (config : ProjectConfig)
  | write (config : ProjectConfig)

/-- One step of a generation, which goes on with another one or has come to an outcome. -/
def Generation.advance (root : Location) : Stage → Generation (Stage ⊕ WriteOutcome)
  | .load => return .inl (.compare (← loadConfig root))
  | .compare config => do
    if ← isCurrent config.mainModulePath (Text.encode config.mainCode) then
      return .inr .unchanged
    else return .inl (.write config)
  | .write config => do
    store config.mainModulePath (Text.encode config.mainCode)
    return .inr .written

/-- The next step of an event. -/
inductive Task
  | watch
  | generate (stage : Stage)

/-- The first step of an event that generates the main module. -/
def Task.first? : BuildEvent → Option Task
  | .run => some (.generate .load)
  | .watchRun => some .watch
  | .emit | .afterEmit => none

namespace Project

variable {σ : Type} (project : Project σ)

/-- One step of a generation, which is under way from its first step on until it ends. -/
def advanceStage (stage : Stage) : Build σ (Stage ⊕ WriteOutcome) := do
  if stage matches .load then
    modify fun state => { state with activity := state.activity.enter }
  let (result, files) := (Generation.advance project.root stage).run.run (← get).files
  modify fun state => { state with files := files }
  match result with
  | .ok (.inl next) => return .inl next
  | .ok (.inr outcome) => do
    modify fun state => { state with activity := state.activity.leave }
    return .inr outcome
  | .error error => do
    modify fun state => { state with activity := state.activity.leave }
    throw (.generate error)

/-- One step of an event. -/
def advance : Task → Build σ (Task ⊕ WriteOutcome)
  | .watch => do
    project.watchConfig
    return .inl (.generate .load)
  | .generate stage => return (← project.advanceStage stage).map .generate id

/-- The path of the main module. -/
def mainModulePath : AbsolutePath :=
  project.root.target.resolve "node_modules/.uvue/main.js".toList

end Project

/-- A build and the service of its watcher at the same time. -/
structure Interleaving (σ : Type) where
  state : BuildState σ
  /-- The next step of the event that the build handles. -/
  build : Option Task
  /-- The next step of the generation that the service is at. -/
  service : Option Stage

/-- What can happen at any time. -/
inductive Move
  /-- Something outside edits the configuration. -/
  | edit
  /-- Something outside changes other files. -/
  | change
  | begin (event : BuildEvent)
  /-- The build goes on with its event. -/
  | build
  | finish (result : Except LifecycleError WriteOutcome)
  /-- The service takes a change from the queue. -/
  | serve
  /-- The service goes on with its generation, or ends it. -/
  | service

namespace Interleaving

variable {σ : Type}

/-- With files changed from outside, and what the hooks share; the watcher is notified. -/
def outside (now : Interleaving σ) (files : FileSystem) (shared : σ) (notices : List Notice) :
    Interleaving σ :=
  { now with state := { now.state with
      files := files, shared := shared
      watcher := now.state.watcher.map fun watcher =>
        { watcher with queue := watcher.queue ++ notices } } }

end Interleaving

/-- Something is where the path leads, if it leads through two dots. -/
def Location.Stands (location : Location) (files : FileSystem) : Prop :=
  FileSystem.above ∈ location.target.names → ∃ entry, files.entry location.target = .ok entry

/-- Nothing outside touches the main module, or takes away the root directory where two dots lead
to it. -/
structure Project.Spares {σ : Type} (project : Project σ) (before after : FileSystem) : Prop where
  mainModule : after.contentAt project.mainModulePath = before.contentAt project.mainModulePath
  root : project.root.Stands before → project.root.Stands after

/-- A file could not be read or written. -/
def LifecycleError.IsUnwritable (error : LifecycleError) : Prop :=
  ∃ path fault, error = .generate (.unwritable path fault)

/-- What a move makes of a build and its service, in a project where nothing outside touches the
main module, the watcher is told of every edit of the configuration, and files can be written. -/
inductive Project.Moves {σ : Type} (project : Project σ) :
    Interleaving σ → Move → Interleaving σ → Prop
  | edit {now : Interleaving σ} (files : FileSystem) (shared : σ) (notices : List Notice)
      (spared : project.Spares now.state.files files)
      (told : ∀ watcher ∈ now.state.watcher,
        ∃ notice ∈ notices, (notice.change? watcher.fileName).isSome = true) :
      Moves project now .edit (now.outside files shared notices)
  | change {now : Interleaving σ} (files : FileSystem) (shared : σ) (notices : List Notice)
      (spared : project.Spares now.state.files files)
      (same : ProjectConfig.load files project.root =
        ProjectConfig.load now.state.files project.root) :
      Moves project now .change (now.outside files shared notices)
  | begin {now : Interleaving σ} {event : BuildEvent} {task : Task} (idle : now.build = none)
      (first : Task.first? event = some task) :
      Moves project now (.begin event) { now with build := some task }
  | build {now : Interleaving σ} {task next : Task} {state : BuildState σ}
      (reached : now.build = some task)
      (step : (project.advance task).run.run now.state = (.ok (.inl next), state)) :
      Moves project now .build { now with state := state, build := some next }
  | finish {now : Interleaving σ} {task : Task} {outcome : WriteOutcome} {state : BuildState σ}
      (reached : now.build = some task)
      (step : (project.advance task).run.run now.state = (.ok (.inr outcome), state)) :
      Moves project now (.finish (.ok outcome)) { now with state := state, build := none }
  | fail {now : Interleaving σ} {task : Task} {error : LifecycleError} {state : BuildState σ}
      (reached : now.build = some task)
      (step : (project.advance task).run.run now.state = (.error error, state))
      (writable : ¬ error.IsUnwritable) :
      Moves project now (.finish (.error error)) { now with state := state, build := none }
  | serve {now : Interleaving σ} {watcher rest : Watcher} {event : FileEvent}
      (idle : now.service = none) (watched : now.state.watcher = some watcher)
      (changed : watcher.changed = (some event, rest)) :
      Moves project now .serve
        { now with state := { now.state with watcher := some rest }, service := some .load }
  | service {now : Interleaving σ} {stage next : Stage} {state : BuildState σ}
      (reached : now.service = some stage)
      (step : (project.advanceStage stage).run.run now.state = (.ok (.inl next), state)) :
      Moves project now .service { now with state := state, service := some next }
  | served {now : Interleaving σ} {stage : Stage} {outcome : WriteOutcome} {state : BuildState σ}
      (reached : now.service = some stage)
      (step : (project.advanceStage stage).run.run now.state = (.ok (.inr outcome), state)) :
      Moves project now .service { now with state := state, service := none }
  | unserved {now : Interleaving σ} {stage : Stage} {error : LifecycleError}
      {state : BuildState σ} (reached : now.service = some stage)
      (step : (project.advanceStage stage).run.run now.state = (.error error, state))
      (writable : ¬ error.IsUnwritable) :
      Moves project now .service { now with state := state, service := none }

/-- What some moves make of a build and its service. -/
inductive Project.Reaches {σ : Type} (project : Project σ) :
    Interleaving σ → List Move → Interleaving σ → Prop
  | none {now : Interleaving σ} : Reaches project now [] now
  | more {start now final : Interleaving σ} {move : Move} {moves : List Move}
      (first : project.Moves start move now) (rest : Reaches project now moves final) :
      Reaches project start (move :: moves) final

end SsrBuild
