import SsrBuild.FileSystem.Basic
import SsrBuild.Watch.Event

/-!
Watchers of one file. What is watched is the directory, so the file may be made, replaced or
removed. Notices wait in a queue until they are asked for, and those that are no change of the file
are passed over.
-/

set_option autoImplicit false

namespace SsrBuild

/-- Why a file cannot be watched. -/
inductive WatcherError
  /-- The path does not end in the name of a file. -/
  | invalidPath (path : List Char)
  /-- The directory cannot be watched. -/
  | unwatchable
  deriving DecidableEq, Repr

/-- The wording of an error, where it has one. -/
def WatcherError.message? : WatcherError → Option String
  | invalidPath path => some ("Cannot watch " ++ String.ofList path ++ ": not a file path")
  | unwatchable => none

/-- A watcher of a file. -/
structure Watcher where
  /-- The names that lead from the top to the directory. -/
  place : List (List Char)
  fileName : List Char
  /-- The notices that have not been asked for. -/
  queue : List Notice
  deriving DecidableEq, Repr

namespace Watcher

/-- Watches a file from now on. -/
def create (files : FileSystem) (file : Location) : Except WatcherError Watcher := do
  match (AbsolutePath.mk (pathNames file.spelling)).fileName? with
  | none => throw (.invalidPath file.spelling)
  | some fileName =>
    match files.entry file.target.parent, files.locate file.target.parent with
    | .ok _, .ok place => return ⟨place, fileName, []⟩
    | _, _ => throw .unwatchable

/-- The names that lead from the top to the file. -/
def filePlace (watcher : Watcher) : List (List Char) := watcher.place ++ [watcher.fileName]

/-- Takes a notice at the end of the queue. -/
def notify (watcher : Watcher) (notice : Notice) : Watcher :=
  { watcher with queue := watcher.queue ++ [notice] }

/-- The first change of the file among notices, and the notices behind it. -/
def nextChange (fileName : List Char) : List Notice → Option FileEvent × List Notice
  | [] => (none, [])
  | notice :: rest =>
    match notice.change? fileName with
    | some event => (some event, rest)
    | none => nextChange fileName rest

/-- Waits for the next change of the file, as long as there are notices. -/
def changed (watcher : Watcher) : Option FileEvent × Watcher :=
  let (event, rest) := nextChange watcher.fileName watcher.queue
  (event, { watcher with queue := rest })

/-- A change has been taken from the queue. -/
theorem length_nextChange {fileName : List Char} {queue rest : List Notice} {event : FileEvent}
    (h : nextChange fileName queue = (some event, rest)) : rest.length < queue.length := by
  induction queue with
  | nil => simp [nextChange] at h
  | cons notice queue ih =>
    unfold nextChange at h
    split at h
    · simp only [Prod.mk.injEq] at h
      simp [h.2]
    · have := ih h
      simp only [List.length_cons]
      omega

end Watcher

end SsrBuild
