import SsrBuild.Lifecycle.Interleaving

/-!
Plugins at work in one program. A plugin has a counter in the memory of the program, and all that
generates its main module reaches the counter through a handle: the builds that are called, any
number of them at a time, and the task that deals with the changes of its configuration. A
generation enters before it loads the configuration and leaves when it has come to a result, or when
it is given up on the way. Between any two of these steps the others may go on.
-/

set_option autoImplicit false

namespace SsrBuild

/-- A handle to a counter in memory. Its clones are handles to the same one. -/
structure StateHandle where
  counter : Nat
  deriving DecidableEq, Repr

namespace StateHandle

/-- One more generation begins. -/
def enter (handle : StateHandle) (counters : List Activity) : List Activity :=
  counters.modify handle.counter .enter

/-- A generation ends. -/
def leave (handle : StateHandle) (counters : List Activity) : List Activity :=
  counters.modify handle.counter .leave

/-- What the handle says of the generations, if there is a counter. -/
def state? (handle : StateHandle) (counters : List Activity) : Option LifecycleState :=
  counters[handle.counter]?.map Activity.state

end StateHandle

/-- How far a generation has come. -/
inductive Progress
  /-- There is none, or it has ended. -/
  | resting
  /-- It has been called and has not begun. -/
  | called
  /-- It has entered. -/
  | underWay (stage : Stage)
  /-- It has come to a result and has not left. -/
  | ending (result : Except GenerateError WriteOutcome)

namespace Progress

/-- A generation is in flight from entering on until it leaves. -/
def isInFlight : Progress → Bool
  | resting | called => false
  | underWay _ | ending _ => true

/-- How far a generation has come after a step. -/
def after : Except GenerateError (Stage ⊕ WriteOutcome) → Progress
  | .ok (.inl next) => underWay next
  | .ok (.inr outcome) => ending (.ok outcome)
  | .error error => ending (.error error)

end Progress

/-- Something that generates the main module of a plugin: a build, or the task of the watcher, which
does so for every change. -/
structure Worker where
  /-- The number of the plugin. -/
  plugin : Nat
  root : Location
  handle : StateHandle
  /-- The watcher, for the task. -/
  watcher : Option Watcher
  progress : Progress

namespace Worker

/-- The next step of a worker. -/
def proceed (worker : Worker) (files : FileSystem) (counters : List Activity) :
    Worker × FileSystem × List Activity :=
  match worker.progress with
  | .resting => (worker, files, counters)
  | .called => ({ worker with progress := .underWay .load }, files, worker.handle.enter counters)
  | .underWay stage =>
    let (result, files) := (Generation.advance worker.root stage).run.run files
    ({ worker with progress := .after result }, files, counters)
  | .ending _ => ({ worker with progress := .resting }, files, worker.handle.leave counters)

/-- A worker that is given up goes on no more. What is in flight leaves. -/
def giveUp (worker : Worker) (counters : List Activity) : Worker × List Activity :=
  ({ worker with watcher := none, progress := .resting },
    if worker.progress.isInFlight then worker.handle.leave counters else counters)

end Worker

/-- A plugin. -/
structure Plugin where
  root : Location
  state : StateHandle
  isWatching : Bool
  isDropped : Bool

/-- A clone of the handle of a plugin, which may be there longer than the plugin. -/
structure Clone where
  /-- The number of the plugin. -/
  plugin : Nat
  handle : StateHandle

/-- A program with its plugins. -/
structure Host where
  files : FileSystem
  counters : List Activity
  plugins : List Plugin
  /-- All that have been called, with those that have ended. -/
  workers : List Worker
  clones : List Clone

namespace Host

/-- A program without plugins. -/
def start (files : FileSystem) : Host := ⟨files, [], [], [], []⟩

/-- The number of generations in flight for a plugin. -/
def inFlight (host : Host) (number : Nat) : Nat :=
  host.workers.countP fun worker => worker.plugin == number && worker.progress.isInFlight

/-- What a move makes of a program. -/
inductive Moves : Host → Host → Prop
  /-- Something else changes files. -/
  | outside {host : Host} (files : FileSystem) : Moves host { host with files := files }
  /-- A watcher is notified. -/
  | notify {host : Host} {index : Nat} {worker : Worker} {watcher : Watcher}
      (reached : host.workers[index]? = some worker) (watched : worker.watcher = some watcher)
      (notice : Notice) :
      Moves host { host with
        workers := host.workers.set index { worker with watcher := some (watcher.notify notice) } }
  | create {host : Host} (root : Location) :
      Moves host { host with
        counters := host.counters ++ [.none]
        plugins := host.plugins ++ [⟨root, ⟨host.counters.length⟩, false, false⟩] }
  /-- A plugin gives out a clone of its handle. -/
  | give {host : Host} {number : Nat} {plugin : Plugin}
      (made : host.plugins[number]? = some plugin) (present : plugin.isDropped = false) :
      Moves host { host with clones := host.clones ++ [⟨number, plugin.state⟩] }
  /-- A clone is cloned in turn. -/
  | clone {host : Host} {clone : Clone} (given : clone ∈ host.clones) :
      Moves host { host with clones := host.clones ++ [clone] }
  /-- A build calls a plugin to generate its main module. -/
  | call {host : Host} {number : Nat} {plugin : Plugin}
      (made : host.plugins[number]? = some plugin) (present : plugin.isDropped = false) :
      Moves host { host with
        workers := host.workers ++ [⟨number, plugin.root, plugin.state, none, .called⟩] }
  /-- A plugin watches its configuration, once. -/
  | watch {host : Host} {number : Nat} {plugin : Plugin} {watcher : Watcher}
      (made : host.plugins[number]? = some plugin) (present : plugin.isDropped = false)
      (first : plugin.isWatching = false)
      (created : Watcher.create host.files (plugin.root.join configFile) = .ok watcher) :
      Moves host { host with
        plugins := host.plugins.set number { plugin with isWatching := true }
        workers := host.workers ++
          [⟨number, plugin.root, plugin.state, some watcher, .resting⟩] }
  /-- The task of a watcher takes a change from the queue. -/
  | serve {host : Host} {index : Nat} {worker : Worker} {watcher rest : Watcher}
      {event : FileEvent} (reached : host.workers[index]? = some worker)
      (watched : worker.watcher = some watcher) (idle : worker.progress = .resting)
      (changed : watcher.changed = (some event, rest)) :
      Moves host { host with
        workers := host.workers.set index
          { worker with watcher := some rest, progress := .called } }
  | proceed {host : Host} {index : Nat} {worker next : Worker} {files : FileSystem}
      {counters : List Activity} (reached : host.workers[index]? = some worker)
      (step : worker.proceed host.files host.counters = (next, files, counters)) :
      Moves host { host with
        files := files, counters := counters, workers := host.workers.set index next }
  /-- A build does not wait for what it has called. -/
  | giveUp {host : Host} {index : Nat} {worker next : Worker} {counters : List Activity}
      (reached : host.workers[index]? = some worker) (build : worker.watcher = none)
      (step : worker.giveUp host.counters = (next, counters)) :
      Moves host { host with counters := counters, workers := host.workers.set index next }
  /-- A plugin is dropped, when no build makes use of it any more. -/
  | drop {host : Host} {number : Nat} {plugin : Plugin}
      (made : host.plugins[number]? = some plugin) (present : plugin.isDropped = false)
      (unused : ∀ worker ∈ host.workers, worker.plugin = number → worker.watcher = none →
        worker.progress = .resting) :
      Moves host { host with plugins := host.plugins.set number { plugin with isDropped := true } }
  /-- The task of a plugin that has been dropped is aborted, some time after. What it has begun to
  write may still come to the files, which is a change from outside. -/
  | abort {host : Host} {index : Nat} {worker next : Worker} {plugin : Plugin}
      {counters : List Activity} (reached : host.workers[index]? = some worker)
      (task : worker.watcher.isSome = true) (made : host.plugins[worker.plugin]? = some plugin)
      (dropped : plugin.isDropped = true) (step : worker.giveUp host.counters = (next, counters)) :
      Moves host { host with counters := counters, workers := host.workers.set index next }

/-- The programs that moves lead to. -/
inductive Reached : Host → Prop
  | start (files : FileSystem) : Reached (start files)
  | more {host next : Host} (before : Reached host) (move : Moves host next) : Reached next

end Host

end SsrBuild
