import Mathlib.Tactic.Common
import SsrBuild.Lifecycle.Interleaving

/-!
Runs that are played. The edits of the configuration are given, and what the build and its service
make of each turn is computed; where a move is not possible, or fails, there is no next turn. What
has been played is a run (`reaches_of_play`).
-/

set_option autoImplicit false

namespace SsrBuild

/-- A turn of a run. -/
inductive Turn
  /-- Something outside edits the configuration, and the watcher is notified. -/
  | edit (change : FileSystem → FileSystem) (notices : List Notice)
  | move (move : Move)

/-- The move of a turn. -/
def Turn.toMove : Turn → Move
  | edit .. => .edit
  | move made => made

open FileSystem (above)

namespace Project

variable {σ : Type} (project : Project σ)

/-- What is made of an edit that leaves the main module alone and of which the watcher is told. -/
def edited? (now : Interleaving σ) (files : FileSystem) (notices : List Notice) :
    Option (Interleaving σ) :=
  if above ∉ project.root.target.names ∧
      files.contentAt project.mainModulePath = now.state.files.contentAt project.mainModulePath ∧
      now.state.watcher.all (fun watcher =>
        notices.any fun notice => (notice.change? watcher.fileName).isSome) = true then
    some (now.outside files now.state.shared notices)
  else none

/-- What a move makes of a build and its service, if it goes well. -/
def moved? (now : Interleaving σ) : Move → Option (Interleaving σ)
  | .begin event =>
    match now.build, Task.first? event with
    | none, some task => some { now with build := some task }
    | _, _ => none
  | .build => do
    match (project.advance (← now.build)).run.run now.state with
    | (.ok (.inl next), state) => some { now with state := state, build := some next }
    | _ => none
  | .finish (.ok outcome) => do
    match (project.advance (← now.build)).run.run now.state with
    | (.ok (.inr found), state) =>
      if found = outcome then some { now with state := state, build := none } else none
    | _ => none
  | .serve =>
    match now.service, now.state.watcher.map (·.changed) with
    | none, some (some _, rest) =>
      some { now with
        state := { now.state with watcher := some rest }
        service := some .load }
    | _, _ => none
  | .service => do
    match (project.advanceStage (← now.service)).run.run now.state with
    | (.ok (.inl next), state) => some { now with state := state, service := some next }
    | (.ok (.inr _), state) => some { now with state := state, service := none }
    | (.error _, _) => none
  | .edit | .change | .finish (.error _) => none

/-- What a turn makes of a build and its service. -/
def turned? (now : Interleaving σ) : Turn → Option (Interleaving σ)
  | .edit change notices => project.edited? now (change now.state.files) notices
  | .move move => project.moved? now move

/-- What some turns make of a build and its service. -/
def play (turns : List Turn) (start : Interleaving σ) : Option (Interleaving σ) :=
  turns.foldlM project.turned? start

variable {project} {now next : Interleaving σ}

/-- An edit that is played is one. -/
theorem moves_of_edited? {files : FileSystem} {notices : List Notice}
    (h : project.edited? now files notices = some next) : project.Moves now .edit next := by
  unfold edited? at h
  split at h
  · next hpassed =>
    obtain ⟨hnames, hsame, htold⟩ := hpassed
    obtain rfl := Option.some.inj h
    refine .edit files now.state.shared notices ⟨hsame, fun _ hdots ↦ absurd hdots hnames⟩ ?_
    intro watcher hwatcher
    rw [Option.mem_def.mp hwatcher] at htold
    exact List.any_eq_true.mp htold
  · cases h

/-- A move that is played is one. -/
theorem moves_of_moved? {move : Move} (h : project.moved? now move = some next) :
    project.Moves now move next := by
  cases move with
  | edit | change => cases h
  | begin event =>
    simp only [moved?] at h
    split at h
    · next task hidle hfirst =>
      obtain rfl := Option.some.inj h
      exact .begin hidle hfirst
    · cases h
  | build =>
    obtain ⟨task, htask, h⟩ := Option.bind_eq_some_iff.mp h
    split at h
    · next other state hstep =>
      obtain rfl := Option.some.inj h
      exact .build htask hstep
    · cases h
  | finish result =>
    cases result with
    | error error => cases h
    | ok outcome =>
      obtain ⟨task, htask, h⟩ := Option.bind_eq_some_iff.mp h
      split at h
      · next found state hstep =>
        obtain ⟨rfl, hnext⟩ := Option.ite_none_right_eq_some.mp h
        obtain rfl := Option.some.inj hnext
        exact .finish htask hstep
      · cases h
  | serve =>
    simp only [moved?] at h
    split at h
    · next event rest hidle hchanged =>
      obtain rfl := Option.some.inj h
      obtain ⟨watcher, hwatched, hqueue⟩ := Option.map_eq_some_iff.mp hchanged
      exact .serve hidle hwatched hqueue
    · cases h
  | service =>
    obtain ⟨stage, hstage, h⟩ := Option.bind_eq_some_iff.mp h
    split at h
    · next other state hstep =>
      obtain rfl := Option.some.inj h
      exact .service hstage hstep
    · next outcome state hstep =>
      obtain rfl := Option.some.inj h
      exact .served hstage hstep
    · cases h

/-- What has been played is a run. -/
theorem reaches_of_play {turns : List Turn} : ∀ {start final : Interleaving σ},
    project.play turns start = some final →
      project.Reaches start (turns.map Turn.toMove) final := by
  induction turns with
  | nil =>
    intro start final h
    obtain rfl := Option.some.inj h
    exact .none
  | cons turn turns ih =>
    intro start final h
    obtain ⟨now, hturn, hrest⟩ := Option.bind_eq_some_iff.mp h
    refine .more ?_ (ih hrest)
    cases turn with
    | edit change notices => exact moves_of_edited? hturn
    | move move => exact moves_of_moved? hturn

end Project

end SsrBuild
