import SsrBuild.FileSystem.Operation
import SsrBuild.Proofs.FileSystem.Place
import SsrBuild.Proofs.Outcome

/-!
What the operations on files do when nothing is in their way. Making directories fails only where a
file stands at one of the places, and then adds those that are missing (`run_makeDirectoriesUp`);
writing a file puts it at its place (`run_writeFile`). All other places stay as they are
(`SameElsewhere`).
-/

set_option autoImplicit false

namespace SsrBuild.FileSystem

/-- All that is not at a place and not above it is as it was. -/
def SameElsewhere (place : List (List Char)) (before after : FileSystem) : Prop :=
  ∀ other, other ≠ place → ¬ IsAbove other place → after.top.below? other = before.top.below? other

variable {files : FileSystem} {path : AbsolutePath}

/-- Putting an entry where nothing or a file stands changes nothing elsewhere. -/
theorem sameElsewhere_put {new : Entry} (hnew : ∀ name rest, new.below? (name :: rest) = none)
    {place : List (List Char)} (hopen : files.top.IsOpen place)
    (hplace : ¬ files.top.HasDirectory place) :
    SameElsewhere place files ⟨Entry.put new place files.top⟩ := fun _ hne habove ↦
  Entry.below?_put_of_ne hnew hopen hplace hne habove

namespace Operation

/-- Finding out where a path leads changes nothing. -/
theorem run_locate {outcome : Except FileFault (List (List Char))}
    (h : files.locate path = outcome) :
    (liftM (files.locate path) : Operation (List (List Char))).run.run files = (outcome, files) := by
  rw [run_liftM, h]

/-- A directory is made at an open place where nothing stands. -/
theorem run_makeDirectory_of_none (hpath : above ∉ path.names) (hopen : files.top.IsOpen path.names)
    (hnone : files.top.below? path.names = none) :
    (makeDirectory path).run.run files =
      (.ok (), ⟨Entry.put .emptyDirectory path.names files.top⟩) := by
  have hlocated := run_locate (locate_of_isOpen hpath hopen)
  refine (run_bind_of_ok (run_get files)).trans ((run_bind_of_ok hlocated).trans ?_)
  rw [hnone]
  rfl

/-- Where a directory stands, none is made. -/
theorem run_makeDirectory_of_directory (hpath : above ∉ path.names)
    (hdirectory : files.top.HasDirectory path.names) :
    (makeDirectory path).run.run files = (.error .alreadyExists, files) := by
  obtain ⟨entries, hentries⟩ := hdirectory
  have hlocated := run_locate (locate_of_isOpen hpath (Entry.isOpen_of_below? hentries))
  refine (run_bind_of_ok (run_get files)).trans ((run_bind_of_ok hlocated).trans ?_)
  rw [hentries]
  rfl

/-- Below a directory that is missing, none is made. -/
theorem run_makeDirectory_of_missing (hlocate : files.locate path = .error .notFound) :
    (makeDirectory path).run.run files = (.error .notFound, files) :=
  (run_bind_of_ok (run_get files)).trans (run_bind_of_error (run_locate hlocate))

/-- A directory that is there is enough. -/
theorem run_failUnlessDirectory (hpath : above ∉ path.names)
    (hdirectory : files.top.HasDirectory path.names) (fault : FileFault) :
    (failUnlessDirectory path fault).run.run files = (.ok (), files) := by
  obtain ⟨entries, hentries⟩ := hdirectory
  have hisDirectory : files.isDirectory path = true := by
    unfold FileSystem.isDirectory
    rw [entry_of_isOpen hpath (Entry.isOpen_of_below? hentries), hentries]
    rfl
  refine (run_bind_of_ok (run_get files)).trans ?_
  rw [if_pos hisDirectory]
  rfl

/-- In a directory that is there, a directory is made; where there is one already, that is asked for
in its place. -/
theorem exists_run_makeDirectory (instead : FileFault → Operation Unit)
    (hinstead : instead .alreadyExists = failUnlessDirectory path .alreadyExists)
    {place : List (List Char)} {name : List Char} (hpath : path.names = place ++ [name])
    (hnames : above ∉ path.names) (hplace : files.top.HasDirectory place)
    (hfile : ¬ files.top.HasFile path.names) :
    ∃ after, (tryCatch (makeDirectory path) instead).run.run files = (.ok (), after) ∧
      after.top.HasDirectory path.names ∧ SameElsewhere path.names files after := by
  have hopen : files.top.IsOpen path.names := by
    rw [hpath]
    exact Entry.isOpen_append_singleton hplace
  rcases files.top.hasDirectory_or_hasFile_or_none path.names with hdirectory | hisFile | hnone
  · have hrun := run_makeDirectory_of_directory hnames hdirectory
    refine ⟨files, (run_tryCatch_of_error hrun).trans ?_, hdirectory, fun _ _ _ ↦ rfl⟩
    rw [hinstead]
    exact run_failUnlessDirectory hnames hdirectory .alreadyExists
  · exact absurd hisFile hfile
  · have hnot := (Entry.not_hasDirectory_and_not_hasFile hnone).1
    exact ⟨_, run_tryCatch_of_ok (run_makeDirectory_of_none hnames hopen hnone),
      ⟨[], Entry.below?_put_self .emptyDirectory hopen⟩,
      sameElsewhere_put Entry.below?_emptyDirectory hopen hnot⟩

/-- Where no file is in the way, the directories that are missing are made. -/
theorem run_makeDirectoriesUp (upwards : List (List Char)) : ∀ {files : FileSystem},
    above ∉ upwards.reverse → ¬ files.top.HasFile upwards.reverse →
      (∀ upper, IsAbove upper upwards.reverse → ¬ files.top.HasFile upper) →
        ∃ after, (makeDirectoriesUp upwards).run.run files = (.ok (), after) ∧
          after.top.HasDirectory upwards.reverse ∧ SameElsewhere upwards.reverse files after := by
  induction upwards with
  | nil =>
    intro files hnames hfile _
    have hdirectory : files.top.HasDirectory [] := by
      rcases files.top.hasDirectory_or_hasFile_or_none [] with hdirectory | hisFile | hnone
      · exact hdirectory
      · exact absurd hisFile hfile
      · cases hnone
    exact ⟨files, run_failUnlessDirectory hnames hdirectory _, hdirectory, fun _ _ _ ↦ rfl⟩
  | cons name upwards ih =>
    intro files hnames hfile hfiles
    set path : AbsolutePath := ⟨(name :: upwards).reverse⟩
    have hpath : path.names = upwards.reverse ++ [name] := List.reverse_cons
    have hplaceAbove : ∀ upper, upper = upwards.reverse ∨ IsAbove upper upwards.reverse →
        IsAbove upper path.names := fun upper hupper ↦ by
      rw [hpath]
      exact isAbove_append_singleton_iff.mpr hupper
    have hplaceFile := hfiles _ (hplaceAbove _ (Or.inl rfl))
    have hplaceNames : above ∉ upwards.reverse := fun hmem ↦ hnames (by
      show above ∈ path.names
      rw [hpath]
      exact List.mem_append_left [name] hmem)
    rcases files.top.hasDirectory_or_hasFile_or_none upwards.reverse with
      hdirectory | hisFile | hnone
    · exact exists_run_makeDirectory _ rfl hpath hnames hdirectory hfile
    · exact absurd hisFile hplaceFile
    · -- The directory above is missing, so it is made first.
      have hmissing := run_makeDirectory_of_missing
        (locate_of_missing hnames hfiles (hplaceAbove _ (Or.inl rfl)) hnone)
      obtain ⟨middle, hmiddle, hdirectory, hsameMiddle⟩ := ih hplaceNames hplaceFile
        fun upper hupper ↦ hfiles upper (hplaceAbove upper (Or.inr hupper))
      have hstill : middle.top.below? path.names = none := by
        obtain ⟨hne, habove⟩ := not_isAbove_of_append_singleton upwards.reverse name
        rw [hpath, hsameMiddle _ hne habove, Entry.below?_append, hnone]
        rfl
      have hfree := (Entry.not_hasDirectory_and_not_hasFile hstill).2
      obtain ⟨after, hrun, hmade, hsame⟩ :=
        exists_run_makeDirectory (failUnlessDirectory path) rfl hpath hnames hdirectory hfree
      refine ⟨after, (run_tryCatch_of_error hmissing).trans ((run_bind_of_ok hmiddle).trans hrun),
        hmade, fun other hne habove ↦ (hsame other hne habove).trans ?_⟩
      exact hsameMiddle other (fun heq ↦ habove (hplaceAbove other (Or.inl heq)))
        fun hupper ↦ habove (hplaceAbove other (Or.inr hupper))

/-- The directories on the way to a place are made where no file stands at or above it. -/
theorem run_makeDirectories (hnames : above ∉ path.names) (hfile : ¬ files.top.HasFile path.names)
    (hfiles : ∀ upper, IsAbove upper path.names → ¬ files.top.HasFile upper) :
    ∃ after, (makeDirectories path).run.run files = (.ok (), after) ∧
      after.top.HasDirectory path.names ∧ SameElsewhere path.names files after := by
  rw [← List.reverse_reverse path.names] at hnames hfile hfiles ⊢
  exact run_makeDirectoriesUp path.names.reverse hnames hfile hfiles

/-- A file is written at an open place where no directory stands. -/
theorem run_writeFile (hnames : above ∉ path.names) (hopen : files.top.IsOpen path.names)
    (hplace : ¬ files.top.HasDirectory path.names) (content : Bytes) :
    (writeFile path content).run.run files =
      (.ok (), ⟨Entry.put (.file content) path.names files.top⟩) := by
  have hlocated := run_locate (locate_of_isOpen hnames hopen)
  refine (run_bind_of_ok (run_get files)).trans ((run_bind_of_ok hlocated).trans ?_)
  cases hfound : files.top.below? path.names with
  | none => rfl
  | some found =>
    cases found with
    | file old => rfl
    | directory entries => exact absurd ⟨entries, hfound⟩ hplace

end Operation

end SsrBuild.FileSystem
