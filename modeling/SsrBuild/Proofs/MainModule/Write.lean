import SsrBuild.MainModule.Write
import SsrBuild.Proofs.FileSystem.Operation

/-!
What writing the main module does to the files. If the file holds the module already, nothing
happens; if a file stands above it or a directory in its place, writing fails and nothing happens;
otherwise the file is there afterwards, with the directories it needs, and all else is as it was
(`run_writeMain_cases`).
-/

set_option autoImplicit false

namespace SsrBuild

namespace FileSystem

/-- A file of this content stands at the path. -/
def Holds (files : FileSystem) (path : AbsolutePath) (content : Bytes) : Prop :=
  files.top.below? path.names = some (.file content)

/-- No file can be written at the path: a file stands above, or a directory in its place. -/
def IsBlocked (files : FileSystem) (path : AbsolutePath) : Prop :=
  (∃ upper, IsAbove upper path.names ∧ files.top.HasFile upper) ∨
    files.top.HasDirectory path.names

/-- A file has been put at a path, with directories above it, and all else is as it was. -/
structure HasGained (path : AbsolutePath) (content : Bytes) (before after : FileSystem) : Prop where
  file : after.Holds path content
  above : ∀ upper, IsAbove upper path.names → after.top.HasDirectory upper
  elsewhere : SameElsewhere path.names before after

variable {files : FileSystem} {path : AbsolutePath} {content : Bytes}

/-- Nothing is in the way of a file that is there. -/
theorem Holds.not_isBlocked (hholds : files.Holds path content) : ¬ files.IsBlocked path := by
  rintro (⟨upper, hupper, old, hold⟩ | ⟨entries, hentries⟩)
  · obtain ⟨entries, hentries⟩ := Entry.isOpen_of_below? hholds upper hupper
    rw [hold] at hentries
    cases hentries
  · rw [hholds] at hentries
    cases hentries

/-- Above a path that is not blocked no file stands. -/
theorem not_hasFile_of_not_isBlocked (hblocked : ¬ files.IsBlocked path) {upper : List (List Char)}
    (hupper : IsAbove upper path.names) : ¬ files.top.HasFile upper :=
  fun hfile ↦ hblocked (Or.inl ⟨upper, hupper, hfile⟩)

end FileSystem

namespace Generation

open FileSystem (above Holds IsBlocked HasGained SameElsewhere)

variable {files : FileSystem} {path : AbsolutePath} {content : Bytes}

/-- A file is current if it holds the content. -/
theorem run_isCurrent_of_holds (hnames : above ∉ path.names) (hholds : files.Holds path content) :
    (isCurrent path content).run.run files = (.ok true, files) := by
  refine (run_bind_of_ok (run_get files)).trans ?_
  rw [FileSystem.contentAt_of_file hnames hholds]
  show ((.ok (content == content), files) : Except GenerateError Bool × FileSystem) = _
  rw [beq_self_eq_true]

/-- A path that is blocked cannot be read either. -/
theorem run_isCurrent_of_isBlocked (hnames : above ∉ path.names) (hblocked : files.IsBlocked path) :
    ∃ fault, (isCurrent path content).run.run files =
      (.error (.unwritable path.normalized fault), files) := by
  rcases hblocked with ⟨upper, hupper, hfile⟩ | hdirectory
  · refine ⟨.notDirectory, (run_bind_of_ok (run_get files)).trans ?_⟩
    rw [FileSystem.contentAt_of_blocked hnames hupper hfile]
    rfl
  · refine ⟨.isDirectory, (run_bind_of_ok (run_get files)).trans ?_⟩
    rw [FileSystem.contentAt_of_directory hnames hdirectory]
    rfl

/-- What is missing, or holds something else, is not current. -/
theorem run_isCurrent_of_not_holds (hnames : above ∉ path.names)
    (hholds : ¬ files.Holds path content) (hblocked : ¬ files.IsBlocked path) :
    (isCurrent path content).run.run files = (.ok false, files) := by
  refine (run_bind_of_ok (run_get files)).trans ?_
  rcases files.top.hasDirectory_or_hasFile_or_none path.names with hdirectory | ⟨old, hold⟩ | hnone
  · exact absurd (Or.inr hdirectory) hblocked
  · have hne : (old == content) = false := by
      refine beq_false_of_ne fun heq ↦ hholds ?_
      rw [← heq]
      exact hold
    rw [FileSystem.contentAt_of_file hnames hold]
    show ((.ok (old == content), files) : Except GenerateError Bool × FileSystem) = _
    rw [hne]
  · rw [FileSystem.contentAt_of_missing hnames
      (fun _ ↦ FileSystem.not_hasFile_of_not_isBlocked hblocked) hnone]
    rfl

/-- Where nothing is in the way, a file and the directories above it are made. -/
theorem exists_run_store {name : List Char} (hpath : path.names = path.parent.names ++ [name])
    (hnames : above ∉ path.names) (hblocked : ¬ files.IsBlocked path) (content : Bytes) :
    ∃ after, (store path content).run.run files = (.ok (), after) ∧
      HasGained path content files after := by
  have hupper : ∀ upper, upper = path.parent.names ∨ IsAbove upper path.parent.names →
      IsAbove upper path.names := fun upper h ↦ by
    rw [hpath]
    exact isAbove_append_singleton_iff.mpr h
  have hfiles : ∀ upper, IsAbove upper path.names → ¬ files.top.HasFile upper :=
    fun _ ↦ FileSystem.not_hasFile_of_not_isBlocked hblocked
  have hparentNames : above ∉ path.parent.names := fun hmem ↦ hnames (by
    rw [hpath]
    exact List.mem_append_left [name] hmem)
  obtain ⟨middle, hmiddle, hdirectory, hsame⟩ := FileSystem.Operation.run_makeDirectories
    hparentNames (hfiles _ (hupper _ (Or.inl rfl)))
    fun upper h ↦ hfiles upper (hupper upper (Or.inr h))
  have hopen : middle.top.IsOpen path.names := by
    rw [hpath]
    exact Entry.isOpen_append_singleton hdirectory
  have hplace : ¬ middle.top.HasDirectory path.names := by
    obtain ⟨hne, habove⟩ := not_isAbove_of_append_singleton path.parent.names name
    rintro ⟨entries, hentries⟩
    rw [hpath, hsame _ hne habove, ← hpath] at hentries
    exact hblocked (Or.inr ⟨entries, hentries⟩)
  have hwritten := FileSystem.Operation.run_writeFile hnames hopen hplace content
  refine ⟨_, (run_bind_of_ok (run_adapt_of_ok hmiddle)).trans (run_adapt_of_ok hwritten), ?_⟩
  refine ⟨Entry.below?_put_self _ hopen, Entry.isOpen_put _ hopen, fun other hne habove ↦ ?_⟩
  have hput := FileSystem.sameElsewhere_put (Entry.below?_file content) hopen hplace other hne habove
  exact hput.trans (hsame other (fun heq ↦ habove (hupper other (Or.inl heq)))
    fun h ↦ habove (hupper other (Or.inr h)))

/-! ### The main module -/

/-- The place of the main module in the project. -/
theorem names_mainModulePath (config : ProjectConfig) : config.mainModulePath.names =
    config.root.names ++ ["node_modules".toList, ".uvue".toList, "main.js".toList] := by
  have habsolute : isAbsolutePath "node_modules/.uvue/main.js".toList = false := by decide +kernel
  have hnames : pathNames "node_modules/.uvue/main.js".toList =
      ["node_modules".toList, ".uvue".toList, "main.js".toList] := by decide +kernel
  unfold ProjectConfig.mainModulePath AbsolutePath.resolve
  rw [habsolute, hnames]
  rfl

/-- Two dots are no part of it if they are no part of the root directory. -/
theorem above_not_mem_mainModulePath {config : ProjectConfig} (hroot : above ∉ config.root.names) :
    above ∉ config.mainModulePath.names := by
  have hnames : above ∉ ["node_modules".toList, ".uvue".toList, "main.js".toList] := by
    decide +kernel
  rw [names_mainModulePath, List.mem_append]
  exact not_or.mpr ⟨hroot, hnames⟩

/-- The main module is a file in a directory. -/
theorem names_mainModulePath_parent (config : ProjectConfig) :
    config.mainModulePath.names = config.mainModulePath.parent.names ++ ["main.js".toList] := by
  have hparent : config.mainModulePath.parent.names =
      config.root.names ++ ["node_modules".toList, ".uvue".toList] := by
    show config.mainModulePath.names.dropLast = _
    rw [names_mainModulePath, List.dropLast_append_of_ne_nil (by simp)]
    rfl
  rw [hparent, names_mainModulePath, List.append_assoc]
  rfl

variable {config : ProjectConfig}

/-- A main module that is there already is left alone. -/
theorem run_writeMain_of_holds (hroot : above ∉ config.root.names)
    (hholds : files.Holds config.mainModulePath (Text.encode config.mainCode)) :
    (writeMain config).run.run files = (.ok .unchanged, files) := by
  have hcurrent := run_isCurrent_of_holds (above_not_mem_mainModulePath hroot) hholds
  exact (run_bind_of_ok hcurrent).trans rfl

/-- Where something is in the way of the main module, nothing is done. -/
theorem run_writeMain_of_isBlocked (hroot : above ∉ config.root.names)
    (hblocked : files.IsBlocked config.mainModulePath) :
    ∃ fault, (writeMain config).run.run files =
      (.error (.unwritable config.mainModulePath.normalized fault), files) := by
  obtain ⟨fault, hcurrent⟩ :=
    run_isCurrent_of_isBlocked (above_not_mem_mainModulePath hroot) hblocked
  exact ⟨fault, run_bind_of_error hcurrent⟩

/-- Otherwise the main module is written. -/
theorem run_writeMain_of_not_holds (hroot : above ∉ config.root.names)
    (hholds : ¬ files.Holds config.mainModulePath (Text.encode config.mainCode))
    (hblocked : ¬ files.IsBlocked config.mainModulePath) :
    ∃ after, (writeMain config).run.run files = (.ok .written, after) ∧
      HasGained config.mainModulePath (Text.encode config.mainCode) files after := by
  have hnames := above_not_mem_mainModulePath hroot
  have hcurrent := run_isCurrent_of_not_holds hnames hholds hblocked
  obtain ⟨after, hstored, hgained⟩ := exists_run_store (names_mainModulePath_parent config) hnames
    hblocked (Text.encode config.mainCode)
  exact ⟨after, (run_bind_of_ok hcurrent).trans ((run_bind_of_ok hstored).trans rfl), hgained⟩

/-- The main module is found, cannot be written, or is written. -/
theorem run_writeMain_or (hroot : above ∉ config.root.names) (files : FileSystem) :
    (files.Holds config.mainModulePath (Text.encode config.mainCode) ∧
      (writeMain config).run.run files = (.ok .unchanged, files)) ∨
    (∃ error, (writeMain config).run.run files = (.error error, files)) ∨
    ∃ after, (writeMain config).run.run files = (.ok .written, after) ∧
      HasGained config.mainModulePath (Text.encode config.mainCode) files after := by
  by_cases hholds : files.Holds config.mainModulePath (Text.encode config.mainCode)
  · exact Or.inl ⟨hholds, run_writeMain_of_holds hroot hholds⟩
  · by_cases hblocked : files.IsBlocked config.mainModulePath
    · obtain ⟨fault, hfailed⟩ := run_writeMain_of_isBlocked hroot hblocked
      exact Or.inr (Or.inl ⟨_, hfailed⟩)
    · exact Or.inr (Or.inr (run_writeMain_of_not_holds hroot hholds hblocked))

/-- After a success the file holds the main module. -/
theorem holds_of_run_writeMain (hroot : above ∉ config.root.names) {outcome : WriteOutcome}
    {after : FileSystem} (hrun : (writeMain config).run.run files = (.ok outcome, after)) :
    after.Holds config.mainModulePath (Text.encode config.mainCode) := by
  rcases run_writeMain_or hroot files with ⟨hholds, hfound⟩ | ⟨error, hfailed⟩ | ⟨new, hnew, hgained⟩
  · rw [hfound] at hrun
    obtain ⟨-, rfl⟩ := Prod.mk.inj hrun
    exact hholds
  · rw [hfailed] at hrun
    cases hrun
  · rw [hnew] at hrun
    obtain ⟨-, rfl⟩ := Prod.mk.inj hrun
    exact hgained.file

/-- Writing the main module does one of three things. If the file holds it, nothing happens. If
something is in the way, which is then not the case, writing fails and nothing happens. Otherwise
the file and the directories above it are there afterwards, and all else is as it was. After any
success writing once more finds the main module and changes nothing. -/
theorem run_writeMain_cases (config : ProjectConfig) (hroot : above ∉ config.root.names)
    (files : FileSystem) :
    (files.Holds config.mainModulePath (Text.encode config.mainCode) →
      ¬ files.IsBlocked config.mainModulePath ∧
        (writeMain config).run.run files = (.ok .unchanged, files)) ∧
    (files.IsBlocked config.mainModulePath →
      ∃ fault, (writeMain config).run.run files =
        (.error (.unwritable config.mainModulePath.normalized fault), files)) ∧
    (¬ files.Holds config.mainModulePath (Text.encode config.mainCode) →
      ¬ files.IsBlocked config.mainModulePath →
        ∃ after, (writeMain config).run.run files = (.ok .written, after) ∧
          HasGained config.mainModulePath (Text.encode config.mainCode) files after) ∧
    ∀ outcome after, (writeMain config).run.run files = (.ok outcome, after) →
      (writeMain config).run.run after = (.ok .unchanged, after) :=
  ⟨fun hholds ↦ ⟨hholds.not_isBlocked, run_writeMain_of_holds hroot hholds⟩,
    run_writeMain_of_isBlocked hroot, run_writeMain_of_not_holds hroot,
    fun _ _ hrun ↦ run_writeMain_of_holds hroot (holds_of_run_writeMain hroot hrun)⟩

/-- A project in a directory below the top that declares nothing. -/
def plainConfig : ProjectConfig :=
  ⟨⟨["p".toList]⟩, ⟨["p".toList, "src".toList, "main".toList]⟩, [], [], Json.emptyObject⟩

/-- In an empty directory its main module is written, and is found when it is written once more. -/
theorem run_writeMain_plainConfig : ∃ after,
    (writeMain plainConfig).run.run ⟨.directory [("p".toList, .emptyDirectory)]⟩ =
      (.ok .written, after) ∧
    after.Holds plainConfig.mainModulePath (Text.encode plainConfig.mainCode) ∧
    (writeMain plainConfig).run.run after = (.ok .unchanged, after) := by
  have hcases := run_writeMain_cases plainConfig (by decide +kernel)
    ⟨.directory [("p".toList, .emptyDirectory)]⟩
  have hnames : plainConfig.mainModulePath.names =
      ["p".toList, "node_modules".toList, ".uvue".toList, "main.js".toList] :=
    names_mainModulePath plainConfig
  have hholds : ¬ FileSystem.Holds ⟨.directory [("p".toList, .emptyDirectory)]⟩
      plainConfig.mainModulePath (Text.encode plainConfig.mainCode) := by
    unfold FileSystem.Holds
    rw [hnames]
    intro h
    cases h
  have hblocked : ¬ FileSystem.IsBlocked ⟨.directory [("p".toList, .emptyDirectory)]⟩
      plainConfig.mainModulePath := by
    unfold FileSystem.IsBlocked
    rw [hnames]
    rintro (⟨upper, hupper, content, hcontent⟩ | ⟨entries, hentries⟩)
    · simp only [isAbove_cons_iff, not_isAbove_nil, and_false, exists_false, or_false,
        exists_eq_right, and_or_left, exists_or] at hupper
      rcases hupper with rfl | rfl | rfl | rfl <;> cases hcontent
    · cases hentries
  obtain ⟨after, hwritten, hgained⟩ := hcases.2.2.1 hholds hblocked
  exact ⟨after, hwritten, hgained.file, hcases.2.2.2 _ _ hwritten⟩

end Generation

end SsrBuild
