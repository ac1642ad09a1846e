import SsrBuild.Lifecycle.Build

/-!
The watcher's side of a build: changes of files from outside reach the queue of the watcher, and
each change of the configuration in the queue generates the main module again. A generation that
fails leaves the watcher going.
-/

set_option autoImplicit false

namespace SsrBuild

/-- All changes of the file that wait in the queue of its watcher. -/
def Watcher.changes (watcher : Watcher) : List FileEvent :=
  match _h : Watcher.nextChange watcher.fileName watcher.queue with
  | (none, _) => []
  | (some event, rest) => event :: changes { watcher with queue := rest }
termination_by watcher.queue.length
decreasing_by exact Watcher.length_nextChange _h

namespace BuildState

variable {σ : Type}

/-- The notice of a change at a place, if the watched file is there or below. -/
def noticeOf (watcher : Watcher) (before after : FileSystem) (place : List (List Char)) :
    Option Notice :=
  let file := watcher.filePlace
  let isThere := (before.top.below? file).isSome || (after.top.below? file).isSome
  if place.isPrefixOf file && isThere then some (.event ⟨.modify, [⟨file⟩]⟩) else none

/-- The names that lead to a path before or after a change. -/
def placeOf? (before after : FileSystem) (path : AbsolutePath) : Option (List (List Char)) :=
  match before.locate path, after.locate path with
  | .ok place, _ | _, .ok place => some place
  | _, _ => none

/-- The state after an operation on a path by something outside of the build. -/
def alter (state : BuildState σ) (path : AbsolutePath) (operation : FileSystem.Operation Unit) :
    Except FileFault Unit × BuildState σ :=
  let (result, files) := operation.run.run state.files
  let notice := do
    noticeOf (← state.watcher) state.files files (← placeOf? state.files files path)
  let watcher := match result, notice with
    | .ok (), some notice => state.watcher.map (·.notify notice)
    | _, _ => state.watcher
  (result, { state with files := files, watcher := watcher })

end BuildState

namespace Project

variable {σ : Type} (project : Project σ)

/-- The state after the watcher has dealt with all changes in its queue. -/
def serveChanges (state : BuildState σ) : BuildState σ :=
  match state.watcher with
  | none => state
  | some watcher =>
    let idle := { state with watcher := some { watcher with queue := [] } }
    watcher.changes.foldl (fun state _ => (project.regenerate.run.run state).2) idle

/-- The text of the main module, if it is the one for the configuration as it is now. -/
def settledCode? (state : BuildState σ) : Option (List Char) :=
  match ProjectConfig.load state.files project.root with
  | .ok config =>
    match state.files.contentAt config.mainModulePath with
    | .ok content =>
      if content == Text.encode config.mainCode then some config.mainCode else none
    | .error _ => none
  | .error _ => none

end Project

end SsrBuild
