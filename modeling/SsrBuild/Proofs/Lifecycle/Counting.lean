import Mathlib.Logic.Relation
import SsrBuild.Lifecycle.Host
import SsrBuild.Proofs.Lifecycle.Alone

/-!
The counters of plugins count. A step of a worker changes a counter only when the worker comes to
be in flight or ceases to be, and then it is the counter of its plugin (`Worker.Becomes`). So after
any moves the counter of a plugin is the number of generations in flight for it (`Host.Counts`): no
worker leaves a counter at zero, and every clone of the handle says that the plugin is generating
exactly while something is in flight (`Host.Reached.counter_eq_inFlight`). A worker that has been
called and is left alone does what generating the main module of the project does, and is in flight
from before the configuration is loaded until there is a result (`Worker.proceeds_regenerate`).
-/

set_option autoImplicit false

namespace SsrBuild

/-- What is in a list with one more element at its end was in it, or is the last. -/
theorem of_getElem?_concat {α : Type} {list : List α} {last element : α} {index : Nat}
    (h : (list ++ [last])[index]? = some element) :
    list[index]? = some element ∨ index = list.length ∧ element = last := by
  rcases Nat.lt_or_ge index list.length with hlt | hge
  · exact Or.inl (List.getElem?_append_left hlt ▸ h)
  · rw [List.getElem?_append_right hge, List.getElem?_singleton, Option.ite_none_right_eq_some,
      Option.some.injEq] at h
    exact Or.inr ⟨by omega, h.2.symm⟩

/-! ### Counters -/

namespace Activity

/-- The state is the one that the number of generations says. -/
theorem state_eq_iff (activity : Activity) :
    (activity.state = .generating ↔ 0 < activity.underWay) ∧
      (activity.state = .idle ↔ activity.underWay = 0) := by
  unfold state
  split
  · next hpos => exact ⟨iff_of_true rfl hpos, iff_of_false nofun (Nat.ne_of_gt hpos)⟩
  · next hnot => exact ⟨iff_of_false nofun hnot, iff_of_true rfl (Nat.eq_zero_of_not_pos hnot)⟩

/-- What becomes of a counter when a worker was in flight or not, and is or is not from then on. -/
def follow (activity : Activity) : Bool → Bool → Activity
  | false, true => activity.enter
  | true, false => activity.leave
  | false, false | true, true => activity

/-- The counter then counts the worker if it is in flight, provided that it did so before. -/
theorem underWay_follow {activity : Activity} {was is : Bool}
    (h : was = true → 0 < activity.underWay) : (activity.follow was is).underWay =
      (activity.underWay - if was = true then 1 else 0) + if is = true then 1 else 0 := by
  cases was with
  | false => cases is <;> rfl
  | true =>
    cases is with
    | false => rfl
    | true => exact (Nat.sub_add_cancel (h rfl)).symm

end Activity

/-- Leaving undoes entering. -/
theorem StateHandle.leave_enter (handle : StateHandle) (counters : List Activity) :
    handle.leave (handle.enter counters) = counters := by
  rw [leave, enter, List.modify_modify_eq]
  exact List.modify_id ..

/-- After a step of a generation it is in flight, even if it has come to a result. -/
theorem Progress.isInFlight_after (result : Except GenerateError (Stage ⊕ WriteOutcome)) :
    (after result).isInFlight = true := by
  rcases result with error | next | outcome <;> rfl

/-! ### Steps of a worker -/

namespace Worker

variable {worker next : Worker} {files after : FileSystem} {counters others : List Activity}

/-- A worker keeps its plugin and its handle, and enters or leaves through the handle as it comes to
be in flight or ceases to be. -/
structure Becomes (worker : Worker) (counters : List Activity) (next : Worker)
    (others : List Activity) : Prop where
  plugin : next.plugin = worker.plugin
  handle : next.handle = worker.handle
  counters : others = counters.modify worker.handle.counter
    (·.follow worker.progress.isInFlight next.progress.isInFlight)

/-- What changes nothing about being in flight leaves the counters alone. -/
theorem becomes_of_isInFlight_eq (hplugin : next.plugin = worker.plugin)
    (hhandle : next.handle = worker.handle)
    (hflight : next.progress.isInFlight = worker.progress.isInFlight) :
    worker.Becomes counters next counters where
  plugin := hplugin
  handle := hhandle
  counters := by
    have hsame : (Activity.follow · worker.progress.isInFlight next.progress.isInFlight) = id := by
      funext activity
      rw [hflight]
      cases worker.progress.isInFlight <;> rfl
    rw [hsame, List.modify_id]

/-- The next step of a worker. -/
theorem becomes_of_proceed (h : worker.proceed files counters = (next, after, others)) :
    worker.Becomes counters next others := by
  obtain ⟨plugin, root, handle, watcher, progress⟩ := worker
  cases progress with
  | resting =>
    obtain ⟨rfl, -, rfl⟩ := h
    exact becomes_of_isInFlight_eq rfl rfl rfl
  | called =>
    obtain ⟨rfl, -, rfl⟩ := h
    exact ⟨rfl, rfl, rfl⟩
  | underWay stage =>
    obtain ⟨rfl, -, rfl⟩ := h
    exact becomes_of_isInFlight_eq rfl rfl (Progress.isInFlight_after _)
  | ending result =>
    obtain ⟨rfl, -, rfl⟩ := h
    exact ⟨rfl, rfl, rfl⟩

/-- A worker that is given up. -/
theorem becomes_of_giveUp (h : worker.giveUp counters = (next, others)) :
    worker.Becomes counters next others := by
  obtain ⟨rfl, rfl⟩ := h
  cases hflight : worker.progress.isInFlight with
  | false => exact becomes_of_isInFlight_eq rfl rfl hflight.symm
  | true => exact ⟨rfl, rfl, by rw [hflight]; rfl⟩

/-! ### A worker left alone -/

/-- A step of a worker, from the files and counters before it to those after it. -/
def Proceeds (before after : Worker × FileSystem × List Activity) : Prop :=
  before.1.proceed before.2.1 before.2.2 = after

/-- A generation that is under way comes to what is left of it, which changes no counters. -/
theorem proceeds_of_rest (worker : Worker) (counters : List Activity) {stage : Stage}
    {result : Except GenerateError WriteOutcome}
    (hrest : (Generation.rest worker.root stage).run.run files = (result, after)) :
    Relation.ReflTransGen Proceeds ({ worker with progress := .underWay stage }, files, counters)
      ({ worker with progress := .ending result }, after, counters) := by
  -- Every step that does not end the generation leaves less of it.
  induction hleft : (Task.generate stage).left using Nat.strongRecOn generalizing files stage with
  | ind left ih =>
    rcases hrun : (Generation.advance worker.root stage).run.run files with ⟨outcome, middle⟩
    have hstep : Proceeds ({ worker with progress := .underWay stage }, files, counters)
        ({ worker with progress := .after outcome }, middle, counters) := by
      simp only [Proceeds, proceed, hrun]
    rw [Generation.rest_eq] at hrest
    rcases outcome with error | next | outcome
    · obtain ⟨rfl, rfl⟩ := Prod.mk.inj ((run_bind_of_error hrun).symm.trans hrest)
      exact .single hstep
    · have hnext := (run_bind_of_ok hrun).symm.trans hrest
      have hless := Generation.left_lt_of_advance hrun
      exact (ih _ (hleft ▸ hless) hnext rfl).head hstep
    · obtain ⟨rfl, rfl⟩ := Prod.mk.inj ((run_bind_of_ok hrun).symm.trans hrest)
      exact .single hstep

/-- A worker that has been called and is left alone enters, comes to what generating the main module
of the project comes to, be it a failure, and leaves. -/
theorem proceeds_regenerate {σ : Type} (project : Project σ) (state : BuildState σ)
    (hroot : worker.root = project.root) (hcalled : worker.progress = .called) :
    ∃ result after,
      project.regenerate.run.run state =
        (result.mapError LifecycleError.generate, { state with files := after }) ∧
      Relation.ReflTransGen Proceeds (worker, state.files, counters)
        ({ worker with progress := .ending result }, after, worker.handle.enter counters) ∧
      Proceeds ({ worker with progress := .ending result }, after, worker.handle.enter counters)
        ({ worker with progress := .resting }, after, counters) := by
  rcases hrest : (Generation.regenerate project.root).run.run state.files with ⟨result, after⟩
  refine ⟨result, after, ?_, ?_, ?_⟩
  · rw [Project.run_regenerate, hrest]
  · have henter : Proceeds (worker, state.files, counters)
        ({ worker with progress := .underWay .load }, state.files,
          worker.handle.enter counters) := by
      rw [Proceeds, proceed, hcalled]
    have hload : (Generation.rest worker.root .load).run.run state.files = (result, after) := by
      rw [hroot]
      exact hrest
    exact (proceeds_of_rest worker _ hload).head henter
  · exact congrArg (({ worker with progress := .resting }, after, ·)) (worker.handle.leave_enter _)

end Worker

/-! ### Moves -/

namespace Host

variable {host next : Host}

/-- Each plugin has a counter, the handles to which are those of its workers and the clones, and the
counter is the number of generations in flight for the plugin. -/
structure Counts (host : Host) : Prop where
  counters : host.counters.length = host.plugins.length
  state : ∀ {number : Nat} {plugin : Plugin}, host.plugins[number]? = some plugin →
    plugin.state = ⟨number⟩
  worker : ∀ worker ∈ host.workers,
    worker.handle = ⟨worker.plugin⟩ ∧ worker.plugin < host.plugins.length
  clone : ∀ clone ∈ host.clones, clone.handle = ⟨clone.plugin⟩
  exact : ∀ {number : Nat} {activity : Activity}, host.counters[number]? = some activity →
    activity.underWay = host.inFlight number

/-- Without plugins there is nothing to count. -/
theorem counts_start (files : FileSystem) : (start files).Counts where
  counters := rfl
  state h := by simp [start] at h
  worker _ h := by cases h
  clone _ h := by cases h
  exact h := by simp [start] at h

/-- Files make no difference. -/
theorem Counts.files (h : host.Counts) (files : FileSystem) :
    Counts { host with files := files } where
  counters := h.counters
  state := h.state
  worker := h.worker
  clone := h.clone
  exact := h.exact

/-- A plugin that is created has a counter of its own, for which nothing is in flight. -/
theorem Counts.create (h : host.Counts) (root : Location) : Counts { host with
    counters := host.counters ++ [.none]
    plugins := host.plugins ++ [⟨root, ⟨host.counters.length⟩, false, false⟩] } where
  counters := by simp [h.counters]
  state hplugin := by
    rcases of_getElem?_concat hplugin with hold | ⟨rfl, rfl⟩
    · exact h.state hold
    · rw [h.counters]
  worker worker hworker := by
    obtain ⟨hhandle, hlt⟩ := h.worker worker hworker
    refine ⟨hhandle, ?_⟩
    rw [List.length_append]
    exact Nat.lt_add_right _ hlt
  clone := h.clone
  exact hactivity := by
    rcases of_getElem?_concat hactivity with hold | ⟨rfl, rfl⟩
    · exact h.exact hold
    · refine (List.countP_eq_zero.mpr fun worker hworker ↦ ?_).symm
      have hlt := h.counters ▸ (h.worker worker hworker).2
      simp [Nat.ne_of_lt hlt]

/-- What is noted of a plugin makes no difference, as long as it keeps its handle. -/
theorem Counts.note (h : host.Counts) {number : Nat} {plugin other : Plugin}
    (hplugin : host.plugins[number]? = some plugin) (hstate : other.state = plugin.state) :
    Counts { host with plugins := host.plugins.set number other } where
  counters := by simp [h.counters]
  state {index found} hfound := by
    rw [List.getElem?_set] at hfound
    split at hfound
    · next hindex =>
      obtain ⟨-, hfound⟩ := Option.ite_none_right_eq_some.mp hfound
      obtain rfl := Option.some.inj hfound
      rw [hstate, h.state hplugin, hindex]
    · exact h.state hfound
  worker := by simpa using h.worker
  clone := h.clone
  exact := h.exact

/-- A clone of a handle to the counter of its plugin is one. -/
theorem Counts.give (h : host.Counts) {clone : Clone} (hclone : clone.handle = ⟨clone.plugin⟩) :
    Counts { host with clones := host.clones ++ [clone] } where
  counters := h.counters
  state := h.state
  worker := h.worker
  clone := List.forall_mem_append.mpr ⟨h.clone, by simpa using hclone⟩
  exact := h.exact

/-- A worker that comes to a plugin is not in flight yet. -/
theorem Counts.employ (h : host.Counts) {number : Nat} {plugin : Plugin}
    (hplugin : host.plugins[number]? = some plugin) {worker : Worker}
    (hnumber : worker.plugin = number) (hhandle : worker.handle = plugin.state)
    (hrest : worker.progress.isInFlight = false) :
    Counts { host with workers := host.workers ++ [worker] } where
  counters := h.counters
  state := h.state
  worker := by
    refine List.forall_mem_append.mpr ⟨h.worker, fun other hother ↦ ?_⟩
    obtain rfl := List.mem_singleton.mp hother
    rw [hhandle, h.state hplugin, hnumber]
    exact ⟨rfl, (List.getElem?_eq_some_iff.mp hplugin).1⟩
  clone := h.clone
  exact {index activity} hactivity := by
    have hnone : [worker].countP (fun worker ↦
        worker.plugin == index && worker.progress.isInFlight) = 0 := by
      simp [hrest]
    rw [inFlight, List.countP_append, hnone, Nat.add_zero]
    exact h.exact hactivity

/-- The number of what is in flight says whether anything is. -/
theorem inFlight_pos_iff {number : Nat} : 0 < host.inFlight number ↔
    ∃ worker ∈ host.workers, worker.plugin = number ∧ worker.progress.isInFlight = true := by
  simp only [inFlight, List.countP_pos_iff, Bool.and_eq_true, beq_iff_eq]

/-- It is zero if nothing is. -/
theorem inFlight_eq_zero_iff {number : Nat} : host.inFlight number = 0 ↔
    ∀ worker ∈ host.workers, worker.plugin = number → worker.progress.isInFlight = false := by
  simp only [inFlight, List.countP_eq_zero, Bool.and_eq_true, beq_iff_eq, not_and,
    Bool.not_eq_true]

/-- A step of a worker changes the counter of its plugin as it changes what is in flight. -/
theorem Counts.replace (h : host.Counts) {index : Nat} {worker other : Worker}
    {counters : List Activity} (hworker : host.workers[index]? = some worker)
    (hbecomes : worker.Becomes host.counters other counters) :
    Counts { host with counters := counters, workers := host.workers.set index other } := by
  obtain ⟨hplugin, hhandle, rfl⟩ := hbecomes
  obtain ⟨hlt, hget⟩ := List.getElem?_eq_some_iff.mp hworker
  obtain ⟨hown, hbound⟩ := h.worker worker (List.mem_of_getElem? hworker)
  refine ⟨?_, h.state, fun found hfound ↦ ?_, h.clone, fun {number activity} hactivity ↦ ?_⟩
  · rw [List.length_modify, h.counters]
  · rcases List.mem_or_eq_of_mem_set hfound with hfound | rfl
    · exact h.worker found hfound
    · rw [hhandle, hplugin]
      exact ⟨hown, hbound⟩
  · rw [List.getElem?_modify, hown] at hactivity
    obtain ⟨before, hbefore, rfl⟩ := Option.map_eq_some_iff.mp hactivity
    have hexact := h.exact hbefore
    rw [inFlight, List.countP_set hlt, hget, hplugin]
    change before.underWay = host.workers.countP _ at hexact
    by_cases hnumber : worker.plugin = number
    · subst hnumber
      -- What is in flight has been counted, so that the subtraction takes nothing too much off.
      have hpos : worker.progress.isInFlight = true → 0 < host.inFlight worker.plugin :=
        fun hflight ↦ inFlight_pos_iff.mpr ⟨worker, List.mem_of_getElem? hworker, rfl, hflight⟩
      change _ → 0 < host.workers.countP _ at hpos
      rw [← hexact] at hpos ⊢
      simp only [if_pos, beq_self_eq_true, Bool.true_and]
      exact Activity.underWay_follow hpos
    · simp [hnumber, hexact]

/-- No move makes the counters wrong. -/
theorem Counts.of_moves (h : host.Counts) (hmoves : Moves host next) : next.Counts := by
  cases hmoves with
  | outside files => exact h.files files
  | notify hreached hwatched notice =>
    exact h.replace hreached (Worker.becomes_of_isInFlight_eq rfl rfl rfl)
  | create root => exact h.create root
  | give hmade hpresent => exact h.give (h.state hmade)
  | clone hgiven => exact h.give (h.clone _ hgiven)
  | call hmade hpresent => exact h.employ hmade rfl rfl rfl
  | watch hmade hpresent hfirst hcreated =>
    exact (h.employ hmade rfl rfl rfl).note hmade rfl
  | serve hreached hwatched hidle hchanged =>
    exact h.replace hreached (Worker.becomes_of_isInFlight_eq rfl rfl (by rw [hidle]; rfl))
  | proceed hreached hstep =>
    exact (h.replace hreached (Worker.becomes_of_proceed hstep)).files _
  | giveUp hreached hbuild hstep => exact h.replace hreached (Worker.becomes_of_giveUp hstep)
  | drop hmade hpresent hunused => exact h.note hmade rfl
  | abort hreached htask hmade hdropped hstep =>
    exact h.replace hreached (Worker.becomes_of_giveUp hstep)

/-- So they never are. -/
theorem Reached.counts (h : Reached host) : host.Counts := by
  induction h with
  | start files => exact counts_start files
  | more _ hmoves ih => exact ih.of_moves hmoves

/-- In every program that moves lead to, the counter of a plugin is the number of generations in
flight for it. What is in flight leaves a counter that is not zero. The handle and its clones say
that the plugin is generating if something is in flight, and that it is idle if nothing is. -/
theorem Reached.counter_eq_inFlight (h : Reached host) {number : Nat} {plugin : Plugin}
    (hplugin : host.plugins[number]? = some plugin) :
    (∃ activity, host.counters[plugin.state.counter]? = some activity ∧
      activity.underWay = host.inFlight number) ∧
    (∀ worker ∈ host.workers, worker.plugin = number → worker.progress.isInFlight = true →
      ∃ activity, host.counters[worker.handle.counter]? = some activity ∧
        0 < activity.underWay) ∧
    (∀ handle, handle = plugin.state ∨ ⟨number, handle⟩ ∈ host.clones →
      ∃ state, handle.state? host.counters = some state ∧
        (state = .generating ↔ ∃ worker ∈ host.workers,
          worker.plugin = number ∧ worker.progress.isInFlight = true) ∧
        (state = .idle ↔ ∀ worker ∈ host.workers,
          worker.plugin = number → worker.progress.isInFlight = false)) := by
  have hcounts := h.counts
  have hstate := hcounts.state hplugin
  have hlt : number < host.counters.length :=
    hcounts.counters ▸ (List.getElem?_eq_some_iff.mp hplugin).1
  have hactivity := List.getElem?_eq_getElem hlt
  have hexact := hcounts.exact hactivity
  refine ⟨⟨_, hstate ▸ hactivity, hexact⟩, ?_, ?_⟩
  · rintro worker hworker rfl hflight
    rw [(hcounts.worker worker hworker).1]
    exact ⟨_, hactivity, hexact ▸ inFlight_pos_iff.mpr ⟨worker, hworker, rfl, hflight⟩⟩
  · intro handle hhandle
    obtain rfl : handle = ⟨number⟩ := by
      rcases hhandle with rfl | hclone
      · exact hstate
      · exact hcounts.clone _ hclone
    obtain ⟨hgenerating, hidle⟩ := Activity.state_eq_iff host.counters[number]
    refine ⟨_, congrArg (Option.map Activity.state) hactivity, ?_, ?_⟩
    · rw [hgenerating, hexact, inFlight_pos_iff]
    · rw [hidle, hexact, inFlight_eq_zero_iff]

/-- The root directory of a plugin. -/
def overlapRoot : Location := ⟨.top, "/p".toList⟩

/-- A plugin generates for a build and for a change of its configuration at the same time. -/
def overlapping : Host where
  files := ⟨.directory [("p".toList, .emptyDirectory)]⟩
  counters := [⟨2⟩]
  plugins := [⟨overlapRoot, ⟨0⟩, true, false⟩]
  workers := [⟨0, overlapRoot, ⟨0⟩, some ⟨["p".toList], configFile, []⟩, .underWay .load⟩,
    ⟨0, overlapRoot, ⟨0⟩, none, .underWay .load⟩]
  clones := [⟨0, ⟨0⟩⟩]

/-- The build has been given up, and the plugin dropped while its task was at the change. -/
def abandoned : Host where
  files := ⟨.directory [("p".toList, .emptyDirectory)]⟩
  counters := [⟨0⟩]
  plugins := [⟨overlapRoot, ⟨0⟩, true, true⟩]
  workers := [⟨0, overlapRoot, ⟨0⟩, none, .resting⟩, ⟨0, overlapRoot, ⟨0⟩, none, .resting⟩]
  clones := [⟨0, ⟨0⟩⟩]

/-- The plugin watches, its configuration changes and a build calls; both generations enter. -/
theorem reached_overlapping : Reached overlapping := by
  have hcreate : Watcher.create overlapping.files (overlapRoot.join configFile) =
      .ok ⟨["p".toList], configFile, []⟩ := by
    decide
  have hmade := (Reached.start overlapping.files).more (.create overlapRoot)
  have hgiven := hmade.more (.give (show _[0]? = _ from rfl) rfl)
  have hwatches := hgiven.more (.watch (show _[0]? = _ from rfl) rfl rfl hcreate)
  have htold := hwatches.more (.notify (show _[0]? = _ from rfl) rfl
    (.event ⟨.modify, [⟨["p".toList, configFile]⟩]⟩))
  have hserves := htold.more (.serve (show _[0]? = _ from rfl) rfl rfl (by rfl))
  have htask := hserves.more (.proceed (show _[0]? = _ from rfl) rfl)
  have hcalled := htask.more (.call (show _[0]? = _ from rfl) rfl)
  exact hcalled.more (.proceed (show _[1]? = _ from rfl) rfl)

/-- Then the build gives up, the plugin is dropped and its task aborted. -/
theorem reached_abandoned : Reached abandoned := by
  have hgivenUp := reached_overlapping.more (.giveUp (show _[1]? = _ from rfl) rfl rfl)
  have hdropped := hgivenUp.more (.drop (show _[0]? = _ from rfl) rfl (by simp [overlapping]))
  exact hdropped.more (.abort (show _[0]? = _ from rfl) rfl (show _[0]? = _ from rfl) rfl rfl)

/-- The clone says that the plugin is generating while both are in flight, and that it is idle in
the end. -/
theorem counter_eq_inFlight_overlapping :
    Reached overlapping ∧ overlapping.inFlight 0 = 2 ∧ Reached abandoned ∧
    StateHandle.state? ⟨0⟩ overlapping.counters = some .generating ∧
    StateHandle.state? ⟨0⟩ abandoned.counters = some .idle := by
  obtain ⟨⟨activity, hactivity, hexact⟩, -, hclones⟩ :=
    reached_overlapping.counter_eq_inFlight (show _[0]? = _ from rfl)
  obtain ⟨-, -, hafter⟩ := reached_abandoned.counter_eq_inFlight (show _[0]? = _ from rfl)
  obtain ⟨busy, hbusy, hgenerating, -⟩ := hclones ⟨0⟩ (Or.inr List.mem_cons_self)
  obtain ⟨quiet, hquiet, -, hidle⟩ := hafter ⟨0⟩ (Or.inr List.mem_cons_self)
  obtain rfl := hgenerating.mpr ⟨_, List.mem_cons_self, rfl, rfl⟩
  obtain rfl := hidle.mpr (by simp [abandoned, Progress.isInFlight])
  obtain rfl : ⟨2⟩ = activity := Option.some.inj hactivity
  exact ⟨reached_overlapping, hexact.symm, reached_abandoned, hbusy, hquiet⟩

end Host

end SsrBuild
