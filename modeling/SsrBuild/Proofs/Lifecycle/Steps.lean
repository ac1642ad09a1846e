import SsrBuild.Proofs.FileSystem.Growth
import SsrBuild.Proofs.Lifecycle.Build
import SsrBuild.Proofs.Watch.Change

/-!
What the steps of a generation do, for any root directory. Storing the main module leaves its
content where its path leads (`contentAt_of_run_store`) and changes nothing about the configuration
(`load_of_run_store`). A step that does not end the generation changes no files (`stageLaw`).
-/

set_option autoImplicit false

namespace SsrBuild

open FileSystem (above HasGained)

/-! ### Where the configuration is -/

/-- The configuration is looked for in the root directory. -/
theorem Location.names_target_join (location : Location) :
    (location.join configFile).target.names = location.target.names ++ [configFile] := by
  have hrelative := isAbsolutePath_of_isName isName_configFile
  unfold Location.target Location.join AbsolutePath.resolve
  rw [isAbsolutePath_joinedPath hrelative, pathNames_joinedPath hrelative,
    pathNames_of_isName isName_configFile]
  split_ifs
  · rfl
  · exact (List.append_assoc _ _ _).symm

/-- The configuration depends on what stands at its path, and on nothing else. -/
theorem ProjectConfig.load_eq_of_contentAt_eq {before after : FileSystem} {root : Location}
    (h : after.contentAt ⟨root.target.names ++ [configFile]⟩ =
      before.contentAt ⟨root.target.names ++ [configFile]⟩) :
    ProjectConfig.load after root = ProjectConfig.load before root := by
  have hpath : (root.join configFile).target = ⟨root.target.names ++ [configFile]⟩ :=
    congrArg AbsolutePath.mk root.names_target_join
  unfold ProjectConfig.load ProjectConfig.readValue ProjectConfig.readText
  simp only [hpath, h]

/-- A watcher of the configuration is created only if the root directory is there. -/
theorem Watcher.stands_of_create {files : FileSystem} {root : Location} {watcher : Watcher}
    (h : Watcher.create files (root.join configFile) = .ok watcher) : root.Stands files := by
  have hparent : (root.join configFile).target.parent = root.target := by
    unfold AbsolutePath.parent
    rw [root.names_target_join, List.dropLast_concat]
  obtain ⟨-, hentry, -⟩ := Watcher.create_eq_ok_iff.mp h
  rw [hparent] at hentry
  exact fun _ ↦ hentry

namespace Generation

/-! ### Storing -/

variable {path : AbsolutePath} {content : Bytes} {files after : FileSystem}

/-- Storing that succeeds makes directories first, and then writes the file. -/
theorem of_run_store_ok (h : (store path content).run.run files = (.ok (), after)) :
    ∃ middle, (FileSystem.Operation.makeDirectories path.parent).run.run files = (.ok (), middle) ∧
      (FileSystem.Operation.writeFile path content).run.run middle = (.ok (), after) := by
  obtain ⟨done, middle, hmade, hwritten⟩ := of_run_bind_ok h
  exact ⟨middle, of_run_adapt_ok hmade, of_run_adapt_ok hwritten⟩

/-- What has been stored in a directory is the content of the file. -/
theorem contentAt_of_run_store {directory : List (List Char)} {name : List Char}
    (hpath : path.names = directory ++ [name]) (hname : name ≠ above)
    (h : (store path content).run.run files = (.ok (), after)) :
    after.contentAt path = .ok content := by
  obtain ⟨middle, -, hwritten⟩ := of_run_store_ok h
  obtain ⟨place, hlocate, hplace, rfl⟩ := FileSystem.Operation.of_run_writeFile_ok hwritten
  have hnames : above ∉ [name] := by simpa using hname.symm
  have hopen : middle.top.IsOpen place := by
    unfold FileSystem.locate at hlocate
    rw [hpath] at hlocate
    exact FileSystem.isOpen_of_follow hnames hlocate
  have hstill : FileSystem.locate ⟨Entry.put (.file content) place middle.top⟩ path = .ok place :=
    FileSystem.follow_of_hasDirectory (fun _ ↦ Entry.hasDirectory_put hopen hplace) hlocate
  have hfound := Entry.below?_put_self (.file content) hopen
  exact bind_eq_ok_iff.mpr ⟨.file content, FileSystem.entry_of_locate hstill hfound, rfl⟩

/-- Storing below a directory that is there leaves it where it is, and what stands at another name
in it. -/
theorem run_store_spares {directory rest : List (List Char)} {name last other : List Char}
    (hpath : path.names = directory ++ name :: (rest ++ [last]))
    (hnames : above ∉ name :: (rest ++ [last])) (hother : other ≠ above) (hne : other ≠ name)
    (hstands : ∃ entry, files.entry ⟨directory⟩ = .ok entry)
    (h : (store path content).run.run files = (.ok (), after)) :
    (∃ entry, after.entry ⟨directory⟩ = .ok entry) ∧
      after.contentAt ⟨directory ++ [other]⟩ = files.contentAt ⟨directory ++ [other]⟩ := by
  obtain ⟨middle, hmade, hwritten⟩ := of_run_store_ok h
  obtain ⟨place, hlocate, hplace, rfl⟩ := FileSystem.Operation.of_run_writeFile_ok hwritten
  have hparent : path.parent = ⟨directory ++ name :: rest⟩ := by
    unfold AbsolutePath.parent
    rw [hpath, ← List.cons_append, ← List.append_assoc, List.dropLast_concat]
  have hparentNames : above ∉ name :: rest := fun hmem ↦ hnames (by
    rw [← List.cons_append]
    exact List.mem_append_left [last] hmem)
  have hspared := FileSystem.Operation.run_makeDirectories_spares hparentNames hother hne hstands
  rw [← hparent, hmade] at hspared
  have hlocated : middle.locate ⟨directory ++ name :: (rest ++ [last])⟩ = .ok place := by
    rw [← hpath]
    exact hlocate
  have hput := FileSystem.entry_and_contentAt_put hnames hother hne hlocated hplace
    (Entry.below?_file content)
  exact ⟨hput.1, hput.2.trans hspared.2⟩

/-- Storing at a path without two dots succeeds only where nothing is in the way. -/
theorem not_isBlocked_of_run_store (hnames : above ∉ path.names)
    (h : (store path content).run.run files = (.ok (), after)) : ¬ files.IsBlocked path := by
  obtain ⟨middle, hmade, hwritten⟩ := of_run_store_ok h
  obtain ⟨place, hlocate, hplace, -⟩ := FileSystem.Operation.of_run_writeFile_ok hwritten
  have hparentNames : above ∉ path.parent.names := fun hmem ↦
    hnames (List.dropLast_subset _ hmem)
  have hstays := fun upper ↦ FileSystem.Operation.run_makeDirectories_stays hparentNames files upper
  simp only [hmade] at hstays
  obtain ⟨rfl, hopen⟩ := FileSystem.isOpen_of_locate hnames hlocate
  rintro (⟨upper, hupper, hfile⟩ | hdirectory)
  · exact (hopen upper hupper).not_hasFile ((hstays upper).2 hfile)
  · exact hplace ((hstays path.names).1 hdirectory)

/-- Storing at a path without two dots leaves all else as it was. -/
theorem hasGained_of_run_store {name : List Char}
    (hpath : path.names = path.parent.names ++ [name]) (hnames : above ∉ path.names)
    (h : (store path content).run.run files = (.ok (), after)) :
    HasGained path content files after := by
  obtain ⟨found, hfound, hgained⟩ :=
    exists_run_store hpath hnames (not_isBlocked_of_run_store hnames h) content
  obtain ⟨-, rfl⟩ := Prod.mk.inj (h.symm.trans hfound)
  exact hgained

/-- What stands at another name in a directory stays when a file is stored below the directory. -/
theorem contentAt_eq_of_hasGained {directory rest : List (List Char)} {name last other : List Char}
    (hpath : path.names = directory ++ name :: (rest ++ [last])) (hdirectory : above ∉ directory)
    (hother : other ≠ above) (hne : other ≠ name) (hblocked : ¬ files.IsBlocked path)
    (h : HasGained path content files after) :
    after.contentAt ⟨directory ++ [other]⟩ = files.contentAt ⟨directory ++ [other]⟩ := by
  have hnames : above ∉ directory ++ [other] := by
    simpa using ⟨hdirectory, hother.symm⟩
  have hupper : ∀ upper, IsAbove upper (directory ++ [other]) → IsAbove upper path.names := by
    intro upper habove
    rw [hpath]
    rcases isAbove_append_singleton_iff.mp habove with rfl | ⟨next, more, rfl⟩
    · exact ⟨name, rest ++ [last], rfl⟩
    · exact ⟨next, more ++ name :: (rest ++ [last]), by rw [List.append_assoc, List.cons_append]⟩
  have hsame : after.top.below? (directory ++ [other]) =
      files.top.below? (directory ++ [other]) := by
    refine h.elsewhere _ ?_ ?_
    · rw [hpath]
      intro heq
      exact hne (List.cons.inj (List.append_cancel_left heq)).1
    · rw [hpath]
      rintro ⟨next, more, heq⟩
      rw [List.append_assoc] at heq
      exact hne (List.cons.inj (List.append_cancel_left heq)).1.symm
  rcases files.top.hasDirectory_or_hasFile_or_none (directory ++ [other]) with
    ⟨entries, hentries⟩ | ⟨found, hfound⟩ | hnone
  · rw [FileSystem.contentAt_of_directory hnames ⟨entries, hentries⟩,
      FileSystem.contentAt_of_directory hnames ⟨entries, hsame.trans hentries⟩]
  · rw [FileSystem.contentAt_of_file hnames hfound,
      FileSystem.contentAt_of_file hnames (hsame.trans hfound)]
  · have hbefore : ∀ upper, IsAbove upper (directory ++ [other]) → ¬ files.top.HasFile upper :=
      fun upper habove ↦ FileSystem.not_hasFile_of_not_isBlocked hblocked (hupper upper habove)
    have hafter : ∀ upper, IsAbove upper (directory ++ [other]) → ¬ after.top.HasFile upper :=
      fun upper habove ↦ (h.above upper (hupper upper habove)).not_hasFile
    rw [FileSystem.contentAt_of_missing hnames hbefore hnone,
      FileSystem.contentAt_of_missing hnames hafter (hsame.trans hnone)]

variable {root : Location} {config : ProjectConfig}

/-- After a main module has been stored the file holds it. -/
theorem contentAt_mainModulePath_of_run_store
    (h : (store config.mainModulePath content).run.run files = (.ok (), after)) :
    after.contentAt config.mainModulePath = .ok content := by
  have hname : "main.js".toList ≠ above := by decide +kernel
  exact contentAt_of_run_store (names_mainModulePath_parent config) hname h

/-- Storing the main module leaves the root directory and the configuration as they are. -/
theorem load_of_run_store (hroot : config.root = root.target) (hstands : root.Stands files)
    (h : (store config.mainModulePath content).run.run files = (.ok (), after)) :
    root.Stands after ∧ ProjectConfig.load after root = ProjectConfig.load files root := by
  have hpath : config.mainModulePath.names =
      root.target.names ++ "node_modules".toList :: ([".uvue".toList] ++ ["main.js".toList]) := by
    rw [names_mainModulePath, hroot]
    rfl
  have hnames : above ∉ "node_modules".toList :: ([".uvue".toList] ++ ["main.js".toList]) := by
    decide +kernel
  have hother : configFile ≠ above := by decide +kernel
  have hne : configFile ≠ "node_modules".toList := by decide +kernel
  by_cases habove : above ∈ root.target.names
  · obtain ⟨hstill, hsame⟩ := run_store_spares hpath hnames hother hne (hstands habove) h
    exact ⟨fun _ ↦ hstill, ProjectConfig.load_eq_of_contentAt_eq hsame⟩
  · have hmain : above ∉ config.mainModulePath.names := above_not_mem_mainModulePath (by
      rw [hroot]
      exact habove)
    have hgained := hasGained_of_run_store (names_mainModulePath_parent config) hmain h
    refine ⟨fun hmem ↦ absurd hmem habove, ProjectConfig.load_eq_of_contentAt_eq ?_⟩
    exact contentAt_eq_of_hasGained hpath habove hother hne (not_isBlocked_of_run_store hmain h)
      hgained

/-! ### Stages -/

/-- The file holds the content, or does not hold it, or cannot be read. -/
theorem run_isCurrent_cases (path : AbsolutePath) (content : Bytes) (files : FileSystem) :
    ((isCurrent path content).run.run files = (.ok true, files) ∧
      files.contentAt path = .ok content) ∨
    (isCurrent path content).run.run files = (.ok false, files) ∨
    ∃ fault, (isCurrent path content).run.run files =
      (.error (.unwritable path.normalized fault), files) := by
  have hstart : (isCurrent path content).run.run files = _ := run_bind_of_ok (run_get files)
  rw [hstart]
  cases hfound : files.contentAt path with
  | error fault =>
    by_cases hmissing : fault = .notFound
    · subst hmissing
      exact Or.inr (Or.inl rfl)
    · refine Or.inr (Or.inr ⟨fault, ?_⟩)
      cases fault with
      | notFound => exact absurd rfl hmissing
      | alreadyExists | notDirectory | isDirectory | notText => rfl
  | ok existing =>
    by_cases heq : existing = content
    · subst heq
      refine Or.inl ⟨?_, rfl⟩
      show ((.ok (existing == existing), files) : Except GenerateError Bool × FileSystem) = _
      rw [beq_self_eq_true]
    · refine Or.inr (Or.inl ?_)
      show ((.ok (existing == content), files) : Except GenerateError Bool × FileSystem) = _
      rw [beq_false_of_ne heq]

/-- What a step of a generation has done if it has not failed. -/
theorem advance_cases {stage : Stage} {next : Stage ⊕ WriteOutcome}
    (h : (advance root stage).run.run files = (.ok next, after)) :
    (∃ config, stage = .load ∧ ProjectConfig.load files root = .ok config ∧
      next = .inl (.compare config) ∧ after = files) ∨
    (∃ config, stage = .compare config ∧ after = files ∧
      (next = .inl (.write config) ∨ next = .inr .unchanged ∧
        files.contentAt config.mainModulePath = .ok (Text.encode config.mainCode))) ∨
    (∃ config, stage = .write config ∧ next = .inr .written ∧
      (store config.mainModulePath (Text.encode config.mainCode)).run.run files =
        (.ok (), after)) := by
  cases stage with
  | load =>
    obtain ⟨config, middle, hload, hnext⟩ := of_run_bind_ok h
    rw [run_loadConfig] at hload
    obtain ⟨hresult, rfl⟩ := Prod.mk.inj hload
    obtain ⟨hsome, rfl⟩ := Prod.mk.inj hnext
    cases hfound : ProjectConfig.load files root with
    | error error =>
      rw [hfound] at hresult
      cases hresult
    | ok found =>
      rw [hfound] at hresult
      obtain rfl := Except.ok.inj hresult
      exact Or.inl ⟨found, rfl, rfl, (Except.ok.inj hsome).symm, rfl⟩
  | compare config =>
    refine Or.inr (Or.inl ⟨config, rfl, ?_⟩)
    rcases run_isCurrent_cases config.mainModulePath (Text.encode config.mainCode) files with
      ⟨hcurrent, hcontent⟩ | hcurrent | ⟨fault, hcurrent⟩
    · have hnext := (run_bind_of_ok hcurrent).symm.trans h
      obtain ⟨hsome, rfl⟩ := Prod.mk.inj hnext
      exact ⟨rfl, Or.inr ⟨(Except.ok.inj hsome).symm, hcontent⟩⟩
    · have hnext := (run_bind_of_ok hcurrent).symm.trans h
      obtain ⟨hsome, rfl⟩ := Prod.mk.inj hnext
      exact ⟨rfl, Or.inl (Except.ok.inj hsome).symm⟩
    · have hnext := (run_bind_of_error hcurrent).symm.trans h
      cases (Prod.mk.inj hnext).1
  | write config =>
    obtain ⟨done, middle, hstored, hnext⟩ := of_run_bind_ok h
    obtain ⟨hsome, rfl⟩ := Prod.mk.inj hnext
    exact Or.inr (Or.inr ⟨config, rfl, (Except.ok.inj hsome).symm, hstored⟩)

/-- A step of a generation fails because the configuration cannot be loaded, which changes nothing,
or because of the file. -/
theorem advance_error_cases {stage : Stage} {error : GenerateError}
    (h : (advance root stage).run.run files = (.error error, after)) :
    ((∃ fault, ProjectConfig.load files root = .error fault) ∧ after = files) ∨
      ∃ path fault, error = .unwritable path fault := by
  cases stage with
  | load =>
    left
    rcases of_run_bind_error h with hload | ⟨config, middle, -, hnext⟩
    · rw [run_loadConfig] at hload
      obtain ⟨hresult, hfiles⟩ := Prod.mk.inj hload
      refine ⟨?_, hfiles.symm⟩
      cases hfound : ProjectConfig.load files root with
      | error fault => exact ⟨fault, rfl⟩
      | ok config =>
        rw [hfound] at hresult
        cases hresult
    · cases (Prod.mk.inj hnext).1
  | compare config =>
    right
    rcases run_isCurrent_cases config.mainModulePath (Text.encode config.mainCode) files with
      ⟨hcurrent, -⟩ | hcurrent | ⟨fault, hcurrent⟩
    · cases (Prod.mk.inj ((run_bind_of_ok hcurrent).symm.trans h)).1
    · cases (Prod.mk.inj ((run_bind_of_ok hcurrent).symm.trans h)).1
    · have hsome := (Prod.mk.inj ((run_bind_of_error hcurrent).symm.trans h)).1
      exact ⟨_, fault, (Except.error.inj hsome).symm⟩
  | write config =>
    right
    rcases of_run_bind_error h with hstored | ⟨done, middle, -, hnext⟩
    · rcases of_run_bind_error hstored with hmade | ⟨done, middle, -, hwritten⟩
      · obtain ⟨fault, herror, -⟩ := of_run_adapt_error hmade
        exact ⟨_, fault, herror.symm⟩
      · obtain ⟨fault, herror, -⟩ := of_run_adapt_error hwritten
        exact ⟨_, fault, herror.symm⟩
    · cases (Prod.mk.inj hnext).1

end Generation

/-- The configuration that a step of a generation works with, once it has been loaded. -/
def Stage.config? : Stage → Option ProjectConfig
  | .load => none
  | .compare config | .write config => some config

/-- What is under way after a step of a generation: the generation from its first step on, until it
ends. -/
def Stage.underWay (stage : Stage) (outcome : Except GenerateError (Stage ⊕ WriteOutcome))
    (activity : Activity) : Activity :=
  let entered := match stage with
    | .load => activity.enter
    | .compare _ | .write _ => activity
  match outcome with
  | .ok (.inl _) => entered
  | .ok (.inr _) | .error _ => entered.leave

namespace Project

variable {σ : Type} {project : Project σ} {state after : BuildState σ}

/-- A step of a generation in a project changes no more than the files and what is under way. -/
theorem run_advanceStage (project : Project σ) (stage : Stage) (state : BuildState σ)
    {outcome : Except GenerateError (Stage ⊕ WriteOutcome)} {files : FileSystem}
    (h : (Generation.advance project.root stage).run.run state.files = (outcome, files)) :
    (project.advanceStage stage).run.run state = (outcome.mapError .generate,
      { state with files := files, activity := stage.underWay outcome state.activity }) := by
  cases stage with
  | load =>
    refine (run_bind_of_ok (run_modify _ state)).trans ((run_bind_of_ok (run_get _)).trans ?_)
    rw [h]
    rcases outcome with error | next | outcome
    · rfl
    · rfl
    · rfl
  | compare config | write config =>
    refine (run_bind_of_ok (run_get _)).trans ?_
    rw [h]
    rcases outcome with error | next | outcome
    · rfl
    · rfl
    · rfl

/-- What a step of a generation in a project has come to. -/
theorem of_run_advanceStage {stage : Stage} {result : Except LifecycleError (Stage ⊕ WriteOutcome)}
    (h : (project.advanceStage stage).run.run state = (result, after)) :
    ∃ outcome, (Generation.advance project.root stage).run.run state.files =
      (outcome, after.files) ∧ result = outcome.mapError .generate ∧
        after.watcher = state.watcher := by
  rcases hrun : (Generation.advance project.root stage).run.run state.files with ⟨outcome, files⟩
  rw [run_advanceStage project stage state hrun] at h
  obtain ⟨rfl, rfl⟩ := Prod.mk.inj h
  exact ⟨outcome, rfl, rfl, rfl⟩

/-- What holds of a step of a generation where the files can be read and written. -/
structure StageLaw (project : Project σ) (stage : Stage) (before : BuildState σ)
    (result : Except LifecycleError (Stage ⊕ WriteOutcome)) (after : BuildState σ) : Prop where
  /-- The watcher stays as it is. -/
  watcher : after.watcher = before.watcher
  /-- Only the end of a generation can change files. -/
  files : (∀ outcome, result ≠ .ok (.inr outcome)) → after.files = before.files
  /-- A generation goes on with its configuration, or with that which it has loaded. -/
  goesOn : ∀ {next : Stage} {config : ProjectConfig}, result = .ok (.inl next) →
    next.config? = some config → stage.config? = some config ∨
      ProjectConfig.load before.files project.root = .ok config
  /-- It ends with the main module of its configuration in the file. -/
  ends : ∀ {outcome : WriteOutcome}, result = .ok (.inr outcome) →
    ∃ config, stage.config? = some config ∧
      after.files.contentAt config.mainModulePath = .ok (Text.encode config.mainCode)
  /-- It fails only where the configuration cannot be loaded. -/
  fails : ∀ {error : LifecycleError}, result = .error error →
    ∃ fault, ProjectConfig.load before.files project.root = .error fault
  /-- The root directory stays, and so does the configuration. -/
  load : project.root.Stands before.files →
    (∀ {config : ProjectConfig}, stage.config? = some config → config.root = project.root.target) →
      project.root.Stands after.files ∧
        ProjectConfig.load after.files project.root = ProjectConfig.load before.files project.root

/-- A step that changes no files, and ends no generation, keeps the law. -/
theorem stageLaw_of_files_eq {stage : Stage}
    {result : Except LifecycleError (Stage ⊕ WriteOutcome)}
    (hwatcher : after.watcher = state.watcher) (hfiles : after.files = state.files)
    (hends : ∀ outcome, result ≠ .ok (.inr outcome))
    (hgoesOn : ∀ {next : Stage} {config : ProjectConfig}, result = .ok (.inl next) →
      next.config? = some config → stage.config? = some config ∨
        ProjectConfig.load state.files project.root = .ok config)
    (hfails : ∀ {error : LifecycleError}, result = .error error →
      ∃ fault, ProjectConfig.load state.files project.root = .error fault) :
    StageLaw project stage state result after where
  watcher := hwatcher
  files _ := hfiles
  goesOn := hgoesOn
  ends h := absurd h (hends _)
  fails := hfails
  load hstands _ := by
    rw [hfiles]
    exact ⟨hstands, rfl⟩

/-- The end of a generation keeps the law if its main module is in the file, and the root directory
and the configuration stay. -/
theorem stageLaw_of_ends {stage : Stage} {outcome : WriteOutcome} {config : ProjectConfig}
    (hwatcher : after.watcher = state.watcher) (hconfig : stage.config? = some config)
    (hcontent : after.files.contentAt config.mainModulePath = .ok (Text.encode config.mainCode))
    (hload : config.root = project.root.target → project.root.Stands state.files →
      project.root.Stands after.files ∧ ProjectConfig.load after.files project.root =
        ProjectConfig.load state.files project.root) :
    StageLaw project stage state (.ok (.inr outcome)) after where
  watcher := hwatcher
  files hnot := absurd rfl (hnot outcome)
  goesOn h := nomatch h
  ends _ := ⟨config, hconfig, hcontent⟩
  fails h := nomatch h
  load hstands hroot := hload (hroot hconfig) hstands

/-- Every step of a generation keeps the law. -/
theorem stageLaw {stage : Stage} {result : Except LifecycleError (Stage ⊕ WriteOutcome)}
    (h : (project.advanceStage stage).run.run state = (result, after))
    (hwritable : ∀ error, result = .error error → ¬ error.IsUnwritable) :
    StageLaw project stage state result after := by
  obtain ⟨outcome, hrun, rfl, hwatcher⟩ := of_run_advanceStage h
  cases outcome with
  | error error =>
    rcases Generation.advance_error_cases hrun with ⟨hload, hfiles⟩ | ⟨path, fault, rfl⟩
    · refine stageLaw_of_files_eq hwatcher hfiles (fun outcome h ↦ ?_) (fun h ↦ ?_) fun _ ↦ hload
      · cases h
      · cases h
    · exact absurd ⟨path, fault, rfl⟩ (hwritable _ rfl)
  | ok next =>
    rcases Generation.advance_cases hrun with ⟨config, -, hload, rfl, hfiles⟩ |
      ⟨config, hstage, hfiles, rfl | ⟨rfl, hcontent⟩⟩ | ⟨config, hstage, rfl, hstored⟩
    · refine stageLaw_of_files_eq hwatcher hfiles (fun outcome h ↦ ?_)
        (fun {next held} h hheld ↦ ?_) fun h ↦ nomatch h
      · cases h
      · obtain rfl := Sum.inl.inj (Except.ok.inj h)
        obtain rfl := Option.some.inj hheld
        exact Or.inr hload
    · refine stageLaw_of_files_eq hwatcher hfiles (fun outcome h ↦ ?_)
        (fun {next held} h hheld ↦ ?_) fun h ↦ nomatch h
      · cases h
      · obtain rfl := Sum.inl.inj (Except.ok.inj h)
        rw [hstage]
        exact Or.inl hheld
    · refine stageLaw_of_ends hwatcher (congrArg Stage.config? hstage) ?_ fun _ hstands ↦ ?_
      · rw [hfiles]
        exact hcontent
      · rw [hfiles]
        exact ⟨hstands, rfl⟩
    · exact stageLaw_of_ends hwatcher (congrArg Stage.config? hstage)
        (Generation.contentAt_mainModulePath_of_run_store hstored)
        fun hroot hstands ↦ Generation.load_of_run_store hroot hstands hstored

/-- To be watched, the configuration needs a watcher, the one that is there or a new one. -/
theorem watch_cases {result : Except LifecycleError (Task ⊕ WriteOutcome)}
    (h : (project.advance .watch).run.run state = (result, after)) :
    (∃ watcher, result = .ok (.inl (.generate .load)) ∧
      after = { state with watcher := some watcher } ∧
      (state.watcher = some watcher ∨ state.watcher = none ∧
        Watcher.create state.files (project.root.join configFile) = .ok watcher)) ∨
    (∃ error, result = .error (.watcher error) ∧ after = state) := by
  cases hsome : state.watcher with
  | some watcher =>
    have hwatched : project.watchConfig.run.run state = (.ok (), state) :=
      run_watchConfig_of_some hsome
    have hrun := (run_bind_of_ok hwatched).symm.trans h
    obtain ⟨rfl, rfl⟩ := Prod.mk.inj hrun
    exact Or.inl ⟨watcher, rfl, by rw [← hsome], Or.inl rfl⟩
  | none =>
    cases hcreate : Watcher.create state.files (project.root.join configFile) with
    | ok watcher =>
      have hrun := (run_bind_of_ok (run_watchConfig_of_ok hsome hcreate)).symm.trans h
      obtain ⟨rfl, rfl⟩ := Prod.mk.inj hrun
      exact Or.inl ⟨watcher, rfl, rfl, Or.inr ⟨rfl, rfl⟩⟩
    | error error =>
      have hrun := (run_bind_of_error (run_watchConfig_of_error hsome hcreate)).symm.trans h
      obtain ⟨rfl, rfl⟩ := Prod.mk.inj hrun
      exact Or.inr ⟨error, rfl, rfl⟩

/-- A step of an event that generates the main module is a step of the generation. -/
theorem of_run_advance_generate {stage : Stage}
    {result : Except LifecycleError (Task ⊕ WriteOutcome)}
    (h : (project.advance (.generate stage)).run.run state = (result, after)) :
    ∃ outcome, (project.advanceStage stage).run.run state = (outcome, after) ∧
      result = outcome.map (Sum.map .generate id) := by
  rcases hrun : (project.advanceStage stage).run.run state with ⟨outcome, middle⟩
  cases outcome with
  | error error =>
    obtain ⟨rfl, rfl⟩ := Prod.mk.inj ((run_bind_of_error hrun).symm.trans h)
    exact ⟨_, rfl, rfl⟩
  | ok next =>
    obtain ⟨rfl, rfl⟩ := Prod.mk.inj ((run_bind_of_ok hrun).symm.trans h)
    exact ⟨_, rfl, rfl⟩

/-- An event goes on with generating after its step if it was watching, or the generation does. -/
theorem of_run_advance_inl {task next : Task}
    (h : (project.advance task).run.run state = (.ok (.inl next), after)) :
    (task = .watch ∧ next = .generate .load ∧ ∃ watcher,
      after = { state with watcher := some watcher } ∧
        (state.watcher = some watcher ∨ state.watcher = none ∧
          Watcher.create state.files (project.root.join configFile) = .ok watcher)) ∨
    ∃ stage other, task = .generate stage ∧ next = .generate other ∧
      (project.advanceStage stage).run.run state = (.ok (.inl other), after) := by
  cases task with
  | watch =>
    rcases watch_cases h with ⟨watcher, hresult, hafter, hwatcher⟩ | ⟨error, hresult, -⟩
    · exact Or.inl ⟨rfl, Sum.inl.inj (Except.ok.inj hresult), watcher, hafter, hwatcher⟩
    · cases hresult
  | generate stage =>
    obtain ⟨outcome, hrun, hresult⟩ := of_run_advance_generate h
    rcases outcome with error | other | outcome
    · cases hresult
    · exact Or.inr ⟨stage, other, rfl, Sum.inl.inj (Except.ok.inj hresult), hrun⟩
    · cases hresult

/-- An event ends with the generation. -/
theorem of_run_advance_inr {task : Task} {outcome : WriteOutcome}
    (h : (project.advance task).run.run state = (.ok (.inr outcome), after)) :
    ∃ stage, task = .generate stage ∧
      (project.advanceStage stage).run.run state = (.ok (.inr outcome), after) := by
  cases task with
  | watch =>
    rcases watch_cases h with ⟨watcher, hresult, -⟩ | ⟨error, hresult, -⟩
    · cases hresult
    · cases hresult
  | generate stage =>
    obtain ⟨found, hrun, hresult⟩ := of_run_advance_generate h
    rcases found with error | other | found
    · cases hresult
    · cases hresult
    · obtain rfl := Sum.inr.inj (Except.ok.inj hresult)
      exact ⟨stage, rfl, hrun⟩

/-- An event fails when it is to watch, which changes nothing, or with the generation. -/
theorem of_run_advance_error {task : Task} {error : LifecycleError}
    (h : (project.advance task).run.run state = (.error error, after)) :
    (task = .watch ∧ after = state) ∨ ∃ stage, task = .generate stage ∧
      (project.advanceStage stage).run.run state = (.error error, after) := by
  cases task with
  | watch =>
    rcases watch_cases h with ⟨watcher, hresult, -⟩ | ⟨fault, -, hafter⟩
    · cases hresult
    · exact Or.inl ⟨rfl, hafter⟩
  | generate stage =>
    obtain ⟨outcome, hrun, hresult⟩ := of_run_advance_generate h
    rcases outcome with fault | other | outcome
    · rw [Except.error.inj hresult]
      exact Or.inr ⟨stage, rfl, hrun⟩
    · cases hresult
    · cases hresult

end Project

end SsrBuild
