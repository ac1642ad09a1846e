import SsrBuild.Proofs.Lifecycle.Steps

/-!
Steps that follow one another. What is left of a generation after some of its steps is what they
would have come to (`run_rest_of_inl`), so an event of which all steps follow one another, with
nothing in between, comes to what handling it comes to (`handle_of_reaches`, `reaches_of_handle`),
and a change of the configuration to another generation (`regenerate_of_reaches`).
-/

set_option autoImplicit false

namespace SsrBuild

namespace Generation

variable {root : Location}

/-- What is left of a generation. -/
def rest (root : Location) : Stage → Generation WriteOutcome
  | .load => regenerate root
  | .compare config => writeMain config
  | .write config => do
    store config.mainModulePath (Text.encode config.mainCode)
    return .written

/-- What is left of a generation is its next step, and what is left after it. -/
theorem rest_eq (root : Location) (stage : Stage) : rest root stage = do
    match ← advance root stage with
    | .inl next => rest root next
    | .inr outcome => return outcome := by
  cases stage with
  | load => simp [rest, advance, regenerate]
  | compare config =>
    simp only [rest, advance, writeMain, bind_assoc]
    congr 1
    funext isThere
    cases isThere with
    | true => simp
    | false => simp
  | write config => simp [rest, advance]

end Generation

/-- How many steps of an event there are at most before its last one. -/
def Task.left : Task → Nat
  | .watch => 3
  | .generate .load => 2
  | .generate (.compare _) => 1
  | .generate (.write _) => 0

/-- Every step of a generation before the last one leaves less of it. -/
theorem Generation.left_lt_of_advance {root : Location} {stage next : Stage}
    {files after : FileSystem} (h : (advance root stage).run.run files = (.ok (.inl next), after)) :
    (Task.generate next).left < (Task.generate stage).left := by
  rcases advance_cases h with ⟨config, rfl, -, hnext, -⟩ | ⟨config, rfl, -, hnext | ⟨hnext, -⟩⟩ |
    ⟨config, rfl, hnext, -⟩
  · obtain rfl := Sum.inl.inj hnext
    exact Nat.lt_succ_self 1
  · obtain rfl := Sum.inl.inj hnext
    exact Nat.lt_succ_self 0
  · cases hnext
  · cases hnext

namespace Project

variable {σ : Type} {project : Project σ} {state after : BuildState σ}

/-- What is left of an event. -/
def rest (project : Project σ) : Task → Build σ WriteOutcome
  | .watch => do
    project.watchConfig
    project.regenerate
  | .generate stage => do
    if stage matches .load then
      modify fun state => { state with activity := state.activity.enter }
    let (result, files) := (Generation.rest project.root stage).run.run (← get).files
    modify fun state => { state with files := files, activity := state.activity.leave }
    match result with
    | .ok outcome => return outcome
    | .error error => throw (.generate error)

/-- What is left of a generation changes files, and it is no longer under way afterwards. -/
theorem run_rest_generate (project : Project σ) (stage : Stage) (state : BuildState σ)
    {outcome : Except GenerateError WriteOutcome} {files : FileSystem}
    (h : (Generation.rest project.root stage).run.run state.files = (outcome, files)) :
    (project.rest (.generate stage)).run.run state = (outcome.mapError .generate,
      { state with
        files := files
        activity := stage.underWay (outcome.map .inr) state.activity }) := by
  cases stage with
  | load =>
    refine (run_bind_of_ok (run_modify _ state)).trans ((run_bind_of_ok (run_get _)).trans ?_)
    rw [h]
    cases outcome with
    | error error => rfl
    | ok outcome => rfl
  | compare config | write config =>
    refine (run_bind_of_ok (run_get _)).trans ?_
    rw [h]
    cases outcome with
    | error error => rfl
    | ok outcome => rfl

/-- A step of a generation that goes on leaves what is left of it. -/
theorem run_rest_of_inl {stage next : Stage}
    (h : (project.advanceStage stage).run.run state = (.ok (.inl next), after)) :
    (project.rest (.generate stage)).run.run state =
      (project.rest (.generate next)).run.run after := by
  rcases hrun : (Generation.advance project.root stage).run.run state.files with ⟨outcome, files⟩
  rw [run_advanceStage project stage state hrun] at h
  obtain ⟨hnext, rfl⟩ := Prod.mk.inj h
  rcases outcome with error | found | found
  · cases hnext
  · obtain rfl := Sum.inl.inj (Except.ok.inj hnext)
    rcases hrest : (Generation.rest project.root found).run.run files with ⟨result, final⟩
    have hwhole : (Generation.rest project.root stage).run.run state.files = (result, final) := by
      rw [Generation.rest_eq]
      exact (run_bind_of_ok hrun).trans hrest
    have hunderWay : stage.underWay (result.map .inr) state.activity =
        found.underWay (result.map .inr) (stage.underWay (.ok (.inl found)) state.activity) := by
      rcases Generation.advance_cases hrun with ⟨config, rfl, -, hfound, -⟩ |
        ⟨config, rfl, -, hfound | ⟨hfound, -⟩⟩ | ⟨config, rfl, hfound, -⟩
      · obtain rfl := Sum.inl.inj hfound
        cases result <;> rfl
      · obtain rfl := Sum.inl.inj hfound
        cases result <;> rfl
      · cases hfound
      · cases hfound
    rw [run_rest_generate project stage state hwhole, run_rest_generate project found _ hrest,
      hunderWay]
  · cases hnext

/-- A step with which a generation ends is all that was left of it. -/
theorem run_rest_of_end {stage : Stage} {result : Except LifecycleError WriteOutcome}
    (h : (project.advanceStage stage).run.run state = (result.map .inr, after)) :
    (project.rest (.generate stage)).run.run state = (result, after) := by
  rcases hrun : (Generation.advance project.root stage).run.run state.files with ⟨outcome, files⟩
  rw [run_advanceStage project stage state hrun] at h
  obtain ⟨hresult, rfl⟩ := Prod.mk.inj h
  cases result with
  | error error =>
    rcases outcome with fault | found | found
    · obtain rfl := Except.error.inj hresult
      have hwhole : (Generation.rest project.root stage).run.run state.files =
          (.error fault, files) := by
        rw [Generation.rest_eq]
        exact run_bind_of_error hrun
      exact run_rest_generate project stage state hwhole
    · cases hresult
    · cases hresult
  | ok last =>
    rcases outcome with fault | found | found
    · cases hresult
    · cases hresult
    · obtain rfl := Sum.inr.inj (Except.ok.inj hresult)
      have hwhole : (Generation.rest project.root stage).run.run state.files =
          (.ok found, files) := by
        rw [Generation.rest_eq]
        exact run_bind_of_ok hrun
      exact run_rest_generate project stage state hwhole

/-- A step of an event that goes on leaves what is left of it. -/
theorem run_rest_of_advance {task next : Task}
    (h : (project.advance task).run.run state = (.ok (.inl next), after)) :
    (project.rest task).run.run state = (project.rest next).run.run after := by
  cases task with
  | watch =>
    obtain ⟨done, middle, hwatched, hnext⟩ := of_run_bind_ok h
    obtain ⟨hsome, rfl⟩ := Prod.mk.inj hnext
    obtain rfl := Sum.inl.inj (Except.ok.inj hsome)
    exact run_bind_of_ok hwatched
  | generate stage =>
    rcases of_run_advance_inl h with ⟨hwatch, -⟩ | ⟨found, other, hstage, rfl, hrun⟩
    · cases hwatch
    · obtain rfl := Task.generate.inj hstage
      exact run_rest_of_inl hrun

/-- A step with which an event ends is all that was left of it. -/
theorem run_rest_of_advance_end {task : Task} {result : Except LifecycleError WriteOutcome}
    (h : (project.advance task).run.run state = (result.map .inr, after)) :
    (project.rest task).run.run state = (result, after) := by
  cases result with
  | ok outcome =>
    obtain ⟨stage, rfl, hrun⟩ := of_run_advance_inr h
    exact run_rest_of_end hrun
  | error error =>
    cases task with
    | watch =>
      rcases of_run_bind_error h with hwatched | ⟨done, middle, -, hnext⟩
      · exact run_bind_of_error hwatched
      · cases (Prod.mk.inj hnext).1
    | generate stage =>
      rcases of_run_advance_error h with ⟨hwatch, -⟩ | ⟨found, hstage, hrun⟩
      · cases hwatch
      · obtain rfl := Task.generate.inj hstage
        have hend : (project.advanceStage stage).run.run state =
            ((.error error : Except LifecycleError WriteOutcome).map .inr, after) := hrun
        exact run_rest_of_end hend

/-! ### Moves that follow one another -/

/-- The steps of a build that follow one another come to what was left of its event. -/
theorem run_rest_of_reaches {n : Nat} {result : Except LifecycleError WriteOutcome} :
    ∀ {now final : Interleaving σ} {task : Task}, now.build = some task →
      project.Reaches now (List.replicate n .build ++ [.finish result]) final →
        (project.rest task).run.run now.state = (result, final.state) ∧
          final.service = now.service := by
  induction n with
  | zero =>
    intro now final task htask hreaches
    cases hreaches with
    | more hend hrest =>
      cases hrest
      cases hend with
      | finish hbuild hstep =>
        obtain rfl := Option.some.inj (htask.symm.trans hbuild)
        exact ⟨run_rest_of_advance_end hstep, rfl⟩
      | @fail _ error state hbuild hstep hwritable =>
        obtain rfl := Option.some.inj (htask.symm.trans hbuild)
        have hfailed : (project.advance task).run.run now.state =
            ((.error error : Except LifecycleError WriteOutcome).map .inr, state) := hstep
        exact ⟨run_rest_of_advance_end hfailed, rfl⟩
  | succ n ih =>
    intro now final task htask hreaches
    cases hreaches with
    | more hfirst hrest =>
      cases hfirst with
      | build hbuild hstep =>
        obtain rfl := Option.some.inj (htask.symm.trans hbuild)
        rw [run_rest_of_advance hstep]
        exact ih rfl hrest

/-- The build can come to what is left of an event without anything in between. -/
def Finishes (project : Project σ) (task : Task) : Prop :=
  ∀ {now : Interleaving σ} {result : Except LifecycleError WriteOutcome} {after : BuildState σ},
    now.build = some task → (project.rest task).run.run now.state = (result, after) →
      (∀ error, result = .error error → ¬ error.IsUnwritable) →
        ∃ n, project.Reaches now (List.replicate n .build ++ [.finish result])
          { now with state := after, build := none }

/-- It can if it can from wherever the next step leads. -/
theorem finishes_of_advance {task : Task}
    (h : ∀ {state after : BuildState σ} {next : Task},
      (project.advance task).run.run state = (.ok (.inl next), after) → project.Finishes next) :
    project.Finishes task := by
  intro now result after hbuild hrest hwritable
  rcases hstep : (project.advance task).run.run now.state with ⟨outcome, middle⟩
  rcases outcome with error | next | outcome
  · have hfailed : (project.advance task).run.run now.state =
        ((.error error : Except LifecycleError WriteOutcome).map .inr, middle) := hstep
    obtain ⟨rfl, rfl⟩ := Prod.mk.inj (hrest.symm.trans (run_rest_of_advance_end hfailed))
    exact ⟨0, .more (.fail hbuild hstep (hwritable error rfl)) .none⟩
  · rw [run_rest_of_advance hstep] at hrest
    have hnow : Interleaving.build { now with state := middle, build := some next } = some next :=
      rfl
    obtain ⟨n, hn⟩ := h hstep hnow hrest hwritable
    exact ⟨n + 1, .more (.build hbuild hstep) hn⟩
  · have hended : (project.advance task).run.run now.state =
        ((.ok outcome : Except LifecycleError WriteOutcome).map .inr, middle) := hstep
    obtain ⟨rfl, rfl⟩ := Prod.mk.inj (hrest.symm.trans (run_rest_of_advance_end hended))
    exact ⟨0, .more (.finish hbuild hstep) .none⟩

/-- Every step before the last one brings it nearer. -/
theorem left_lt_of_advance {task next : Task}
    (h : (project.advance task).run.run state = (.ok (.inl next), after)) :
    next.left < task.left := by
  rcases of_run_advance_inl h with ⟨rfl, rfl, -⟩ | ⟨stage, other, rfl, rfl, hrun⟩
  · exact Nat.lt_succ_self 2
  · obtain ⟨outcome, hfiles, hresult, -⟩ := of_run_advanceStage hrun
    rcases outcome with error | found | found
    · cases hresult
    · obtain rfl := Sum.inl.inj (Except.ok.inj hresult)
      exact Generation.left_lt_of_advance hfiles
    · cases hresult

/-- Every event can. -/
theorem finishes (project : Project σ) (task : Task) : project.Finishes task :=
  finishes_of_advance fun {_ _ next} _ ↦ finishes project next
termination_by task.left
decreasing_by exact left_lt_of_advance ‹_›

/-! ### Events and changes -/

/-- What an event comes to is what is left of it at its first step. -/
theorem run_handle_of_first {event : BuildEvent} {task : Task} (h : Task.first? event = some task)
    {result : Except LifecycleError WriteOutcome}
    (hrest : (project.rest task).run.run state = (result, after)) :
    (project.handle event).run.run state = (result.map fun _ ↦ (), after) := by
  have hmap : ∀ {whole : Build σ WriteOutcome}, whole.run.run state = (result, after) →
      (whole >>= fun _ ↦ pure ()).run.run state = (result.map fun _ ↦ (), after) := by
    intro whole hwhole
    cases result with
    | error error => exact run_bind_of_error hwhole
    | ok outcome => exact run_bind_of_ok hwhole
  cases event with
  | run =>
    obtain rfl := Option.some.inj h
    exact hmap hrest
  | watchRun =>
    obtain rfl := Option.some.inj h
    have hwhole : project.handle .watchRun = project.rest .watch >>= fun _ ↦ pure () :=
      (bind_assoc _ _ _).symm
    rw [hwhole]
    exact hmap hrest
  | emit | afterEmit => cases h

/-- An event of which all steps follow one another comes to what handling it comes to. -/
theorem handle_of_reaches {now final : Interleaving σ} {event : BuildEvent} {n : Nat}
    {result : Except LifecycleError WriteOutcome}
    (h : project.Reaches now (.begin event :: (List.replicate n .build ++ [.finish result]))
      final) :
    (project.handle event).run.run now.state = (result.map fun _ ↦ (), final.state) ∧
      final.service = now.service := by
  cases h with
  | more hbegin hrest =>
    cases hbegin with
    | begin hidle hfirst =>
      obtain ⟨hrun, hservice⟩ := run_rest_of_reaches rfl hrest
      exact ⟨run_handle_of_first hfirst hrun, hservice⟩

/-- An event can come to what handling it comes to, with nothing in between. -/
theorem reaches_of_handle {now : Interleaving σ} {event : BuildEvent} {task : Task}
    {outcome : Except LifecycleError Unit} (hidle : now.build = none)
    (hfirst : Task.first? event = some task)
    (hrun : (project.handle event).run.run now.state = (outcome, after))
    (hwritable : ∀ error, outcome = .error error → ¬ error.IsUnwritable) :
    ∃ n result, outcome = result.map (fun _ ↦ ()) ∧
      project.Reaches now (.begin event :: (List.replicate n .build ++ [.finish result]))
        { now with state := after } := by
  rcases hrest : (project.rest task).run.run now.state with ⟨result, final⟩
  obtain ⟨rfl, rfl⟩ := Prod.mk.inj (hrun.symm.trans (run_handle_of_first hfirst hrest))
  have hbegun : Interleaving.build { now with build := some task } = some task := rfl
  obtain ⟨n, hn⟩ := finishes project task hbegun hrest fun error herror ↦
    hwritable error (by rw [herror]; rfl)
  refine ⟨n, result, rfl, .more (.begin hidle hfirst) ?_⟩
  rw [hidle]
  exact hn

/-- A service that has nothing to do takes no steps. -/
theorem eq_of_reaches_services {now final : Interleaving σ} {n : Nat} (hidle : now.service = none)
    (h : project.Reaches now (List.replicate n .service) final) : final = now := by
  cases n with
  | zero =>
    cases h
    rfl
  | succ n =>
    cases h with
    | more hmove hrest =>
      cases hmove with
      | service hservice | served hservice | unserved hservice =>
        rw [hidle] at hservice
        cases hservice

/-- The steps of the service that follow one another come to what was left of its generation. -/
theorem run_rest_of_services {n : Nat} : ∀ {now final : Interleaving σ} {stage : Stage},
    now.service = some stage → project.Reaches now (List.replicate n .service) final →
      final.service = none → ∃ result,
        (project.rest (.generate stage)).run.run now.state = (result, final.state) ∧
          final.build = now.build := by
  induction n with
  | zero =>
    intro now final stage hstage hreaches hend
    cases hreaches
    rw [hstage] at hend
    cases hend
  | succ n ih =>
    intro now final stage hstage hreaches hend
    cases hreaches with
    | more hfirst hrest =>
      cases hfirst with
      | service hservice hstep =>
        obtain rfl := Option.some.inj (hstage.symm.trans hservice)
        rw [run_rest_of_inl hstep]
        exact ih rfl hrest hend
      | @served _ outcome state hservice hstep =>
        obtain rfl := Option.some.inj (hstage.symm.trans hservice)
        have hended : (project.advanceStage stage).run.run now.state =
            ((.ok outcome : Except LifecycleError WriteOutcome).map .inr, state) := hstep
        rw [eq_of_reaches_services rfl hrest]
        exact ⟨_, run_rest_of_end hended, rfl⟩
      | @unserved _ error state hservice hstep hwritable =>
        obtain rfl := Option.some.inj (hstage.symm.trans hservice)
        have hfailed : (project.advanceStage stage).run.run now.state =
            ((.error error : Except LifecycleError WriteOutcome).map .inr, state) := hstep
        rw [eq_of_reaches_services rfl hrest]
        exact ⟨_, run_rest_of_end hfailed, rfl⟩

/-- A change that the service takes and deals with, with nothing in between, comes to generating the
main module. -/
theorem regenerate_of_reaches {now final : Interleaving σ} {n : Nat}
    (h : project.Reaches now (.serve :: List.replicate n .service) final)
    (hend : final.service = none) :
    ∃ watcher rest event, now.state.watcher = some watcher ∧ watcher.changed = (some event, rest) ∧
      (project.regenerate.run.run { now.state with watcher := some rest }).2 = final.state ∧
      final.build = now.build := by
  cases h with
  | more hserve hrest =>
    cases hserve with
    | serve hidle hwatched hchanged =>
      obtain ⟨result, hrun, hbuild⟩ := run_rest_of_services rfl hrest hend
      exact ⟨_, _, _, hwatched, hchanged, congrArg Prod.snd hrun, hbuild⟩

end Project

end SsrBuild
