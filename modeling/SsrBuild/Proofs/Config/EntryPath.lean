import SsrBuild.Proofs.Config.Spelling
import SsrBuild.Proofs.Path.Absolute
import SsrBuild.Resource.Class

/-!
The path of the entry module as it stands in modules. It is put together from names and only then
rid of its backslashes, so it is clean (`IsCleanPath`) exactly if no name falls apart into an empty
part or a dot at its backslashes (`mainPath_clean_iff`). Names without backslashes never do, but an
entry module that is spelled with backslashes may leave a dot in its path
(`mainPath_dottedBackslash`).
-/

set_option autoImplicit false

namespace SsrBuild

/-- A path as it is reported for a file: from the top directory on, without backslashes, and with
names that are neither empty nor a dot between its slashes, unless it is the top directory. -/
structure IsCleanPath (path : List Char) : Prop where
  absolute : isAbsolutePath path = true
  backslash_not_mem : '\\' ∉ path
  segments : path = ['/'] ∨ ∀ segment ∈ path.tail.splitOn '/', segment ≠ [] ∧ segment ≠ ['.']

namespace AbsolutePath

variable {path : AbsolutePath}

/-- Only the top directory is spelled by a slash alone. -/
theorem normalized_eq_slash_iff (hproper : path.IsProper) :
    path.normalized = ['/'] ↔ path.names = [] := by
  constructor
  · intro htop
    have hlength := congrArg List.length htop
    have hjoined : ['/'].intercalate path.names = [] := by
      simpa [normalized, text, slashed] using hlength
    by_contra hnone
    -- A text without characters is one name between slashes, which is empty.
    have hsplit := List.splitOn_intercalate '/'
      (fun name hname ↦ (hproper name hname).slash_not_mem) hnone
    rw [hjoined, List.splitOn_nil] at hsplit
    have hempty : [] ∈ path.names := hsplit ▸ List.mem_singleton_self []
    exact (hproper [] hempty).ne_nil rfl
  · intro hnone
    unfold normalized text
    rw [hnone]
    rfl

/-- What stands between the slashes of a path are the parts of its names. -/
theorem splitOn_tail_normalized (hproper : path.IsProper) (hnone : path.names ≠ []) :
    path.normalized.tail.splitOn '/' = path.names.flatMap (·.splitOn '\\') := by
  have htail : path.normalized.tail = slashed (['/'].intercalate path.names) := rfl
  rw [htail, splitOn_slashed,
    List.splitOn_intercalate '/' (fun name hname ↦ (hproper name hname).slash_not_mem) hnone]

/-- A path is clean exactly if its names have no empty part and no dot between backslashes. -/
theorem isCleanPath_normalized_iff (hproper : path.IsProper) :
    IsCleanPath path.normalized ↔
      ∀ name ∈ path.names, ∀ part ∈ name.splitOn '\\', part ≠ [] ∧ part ≠ ['.'] := by
  have hclean : IsCleanPath path.normalized ↔ path.normalized = ['/'] ∨
      ∀ segment ∈ path.normalized.tail.splitOn '/', segment ≠ [] ∧ segment ≠ ['.'] :=
    ⟨IsCleanPath.segments, fun h ↦ ⟨rfl, backslash_not_mem_slashed _, h⟩⟩
  rw [hclean, normalized_eq_slash_iff hproper]
  by_cases hnone : path.names = []
  · simp [hnone]
  · rw [or_iff_right hnone, splitOn_tail_normalized hproper hnone]
    simp only [List.mem_flatMap, forall_exists_index, and_imp]
    exact ⟨fun h name hname part hpart ↦ h part name hname hpart,
      fun h part name hname hpart ↦ h name hname part hpart⟩

/-- A path is clean if there are no backslashes in its names. -/
theorem isCleanPath_normalized (hproper : path.IsProper)
    (hplain : ∀ name ∈ path.names, '\\' ∉ name) : IsCleanPath path.normalized := by
  refine (isCleanPath_normalized_iff hproper).mpr fun name hname part hpart ↦ ?_
  rw [List.splitOn_eq_singleton (hplain name hname), List.mem_singleton] at hpart
  rw [hpart]
  exact ⟨(hproper name hname).ne_nil, (hproper name hname).ne_dot⟩

end AbsolutePath

namespace ProjectConfig

/-- Wherever a project is and however its entry module is spelled, the path of the entry module
starts at the top directory and has no backslashes. It is clean exactly if no name on it falls apart
into an empty part or a dot at its backslashes, so it is if the names have no backslashes. -/
theorem mainPath_clean_iff {directory spelling : List Char} {value : Json} {config : ProjectConfig}
    (haccepted : ofJson ⟨AbsolutePath.top.resolve directory, spelling⟩ value = .ok config) :
    isAbsolutePath config.mainPath = true ∧ '\\' ∉ config.mainPath ∧
    (IsCleanPath config.mainPath ↔
      ∀ name ∈ config.main.names, ∀ part ∈ name.splitOn '\\', part ≠ [] ∧ part ≠ ['.']) ∧
    ((∀ name ∈ config.main.names, '\\' ∉ name) → IsCleanPath config.mainPath) := by
  obtain ⟨-, declared, -, rfl⟩ := ofJson_eq_ok_iff_declaring.mp haccepted
  have htop : AbsolutePath.top.IsProper := fun name hname ↦ nomatch hname
  have hproper : AbsolutePath.IsProper
      (((AbsolutePath.top.resolve directory).resolve spelling).resolve
        (withoutEntrySuffix (declared.main.getD defaultMain))) :=
    ((htop.resolve directory).resolve spelling).resolve _
  exact ⟨rfl, backslash_not_mem_slashed _, AbsolutePath.isCleanPath_normalized_iff hproper,
    AbsolutePath.isCleanPath_normalized hproper⟩

/-- An entry module with a dot for the directory and an ending. -/
def dottedEntry : Json :=
  .object [("paths".toList, .object [("main".toList, .string "./app//entry.ts".toList)])]

theorem mainPath_dottedEntry : ∃ config,
    ofJson ⟨.resolve .top "/home".toList, "project/.".toList⟩ dottedEntry = .ok config ∧
    config.mainPath = "/home/project/app/entry".toList ∧
    (∀ name ∈ config.main.names, '\\' ∉ name) ∧ IsCleanPath config.mainPath := by
  have haccepted : ofJson ⟨.resolve .top "/home".toList, "project/.".toList⟩ dottedEntry =
    .ok _ := rfl
  obtain ⟨-, -, -, hclean⟩ := mainPath_clean_iff haccepted
  exact ⟨_, haccepted, by decide +kernel, by decide +kernel, hclean (by decide +kernel)⟩

/-- An entry module whose dot for the directory has a backslash behind it. -/
def dottedBackslash : Json :=
  .object [("paths".toList, .object [("main".toList, .string ".\\src\\main".toList)])]

/-- The dot of such an entry module is left in its path, so its file is not recognized. -/
theorem mainPath_dottedBackslash : ∃ config,
    ofJson ⟨.resolve .top "/".toList, "/project".toList⟩ dottedBackslash = .ok config ∧
    config.mainPath = "/project/./src/main".toList ∧ ¬ IsCleanPath config.mainPath ∧
    ResourceClass.ofPath config "/project/src/main.js".toList = .unrelated := by
  have haccepted : ofJson ⟨.resolve .top "/".toList, "/project".toList⟩ dottedBackslash =
    .ok _ := rfl
  refine ⟨_, haccepted, by decide +kernel, fun hclean ↦ ?_, by decide +kernel⟩
  exact absurd hclean.segments (by decide +kernel)

end ProjectConfig

end SsrBuild
