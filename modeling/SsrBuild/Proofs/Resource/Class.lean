import SsrBuild.Proofs.Config.Respelling
import SsrBuild.Proofs.Text.Pattern
import SsrBuild.Resource.Class

/-!
What the path of a module says about it. The pattern of the files that start an app is found in the
paths that end in the names of such a file and in no others (`isBootstrap_iff`), so the class of a
module depends on the last three names of its path and on the path of the entry module, and not on
the direction of slashes (`ofPath_exact`). The file of an entry module is recognized however the
module is spelled: an ending that is taken from the last name before the path is put together, or
put behind it afterwards, is the same (`normalized_resolve_append`, `ofPath_entryFile`).
-/

set_option autoImplicit false

namespace SsrBuild.ResourceClass

/-! ### Files that start an app -/

/-- The files of the library that start an app. -/
def IsBootstrapFile (file : List Char) : Prop :=
  file = "client.js".toList ∨ file = "server.js".toList

/-- The last three names of the path are those of a file that starts an app. -/
def EndsInBootstrap (path : List Char) : Prop :=
  ∃ folders file, path.splitOn '/' = folders ++ ["@uvue".toList, "core".toList, file] ∧
    IsBootstrapFile file

theorem isBootstrapFile_iff {file : List Char} :
    IsBootstrapFile file ↔
      ∃ name, (name = "client".toList ∨ name = "server".toList) ∧ file = name ++ ".js".toList := by
  constructor
  · rintro (rfl | rfl)
    · exact ⟨_, .inl rfl, rfl⟩
    · exact ⟨_, .inr rfl, rfl⟩
  · rintro ⟨name, rfl | rfl, rfl⟩
    · exact .inl rfl
    · exact .inr rfl

/-- The pattern reads up to the end of a text, and from its beginning or from a slash on. -/
theorem reads_bootstrapPattern_iff {before found behind : List Char} :
    bootstrapPattern.Reads before found behind ↔
      behind = [] ∧ ∃ file, IsBootstrapFile file ∧
        (before = [] ∧ found = "@uvue/core/".toList ++ file ∨
          found = "/@uvue/core/".toList ++ file) := by
  simp only [bootstrapPattern, Text.Pattern.Reads, isBootstrapFile_iff]
  constructor
  · rintro ⟨start, _, rfl, hstart, folders, _, rfl, rfl, name, _, rfl, hname, _, _, rfl, rfl, rfl,
      rfl⟩
    refine ⟨rfl, _, ⟨name, hname, rfl⟩, ?_⟩
    rcases hstart with ⟨hbefore, rfl⟩ | rfl
    · exact .inl ⟨hbefore, by simp⟩
    · exact .inr (by simp)
  · rintro ⟨rfl, _, ⟨name, hname, rfl⟩, hfound⟩
    obtain ⟨start, hstart, rfl⟩ : ∃ start, (before = [] ∧ start = [] ∨ start = "/".toList) ∧
        found = start ++ ("@uvue/core/".toList ++ (name ++ ".js".toList)) := by
      rcases hfound with ⟨hbefore, rfl⟩ | rfl
      · exact ⟨[], .inl ⟨hbefore, rfl⟩, rfl⟩
      · exact ⟨_, .inr rfl, rfl⟩
    exact ⟨start, _, rfl, hstart, _, _, rfl, rfl, name, _, rfl, hname, _, [],
      (List.append_nil _).symm, rfl, rfl, rfl⟩

/-- The names are last in a path that is made of them or has them behind a slash at its end. -/
theorem endsInBootstrap_iff {path : List Char} :
    EndsInBootstrap path ↔ ∃ file, IsBootstrapFile file ∧
      (path = "@uvue/core/".toList ++ file ∨ "/@uvue/core/".toList ++ file <:+ path) := by
  have hfile : ∀ file, IsBootstrapFile file →
      (["@uvue".toList, "core".toList, file] <:+ path.splitOn '/' ↔
        path = "@uvue/core/".toList ++ file ∨ "/@uvue/core/".toList ++ file <:+ path) := by
    intro file hfile
    have hnames : ∀ name ∈ ["@uvue".toList, "core".toList, file], '/' ∉ name := by
      rcases hfile with rfl | rfl
      · decide
      · decide
    have hjoined : ['/'].intercalate ["@uvue".toList, "core".toList, file] =
        "@uvue/core/".toList ++ file := by
      simp [List.intercalate_cons_cons]
    rw [suffix_splitOn_iff (List.cons_ne_nil _ _) hnames, hjoined]
    rfl
  constructor
  · rintro ⟨folders, file, hsplit, hname⟩
    exact ⟨file, hname, (hfile file hname).mp ⟨folders, hsplit.symm⟩⟩
  · rintro ⟨file, hname, hpath⟩
    obtain ⟨folders, hsplit⟩ := (hfile file hname).mpr hpath
    exact ⟨folders, file, hsplit.symm, hname⟩

/-- The pattern is found in the paths that end in these names. -/
theorem isBootstrap_iff {path : List Char} : isBootstrap path = true ↔ EndsInBootstrap path := by
  rw [endsInBootstrap_iff, isBootstrap, Text.Pattern.isFoundIn_iff]
  simp only [reads_bootstrapPattern_iff]
  constructor
  · rintro ⟨before, found, _, rfl, rfl, file, hname, ⟨rfl, rfl⟩ | rfl⟩
    · exact ⟨file, hname, .inl (List.append_nil _)⟩
    · exact ⟨file, hname, .inr ⟨before, by rw [List.append_nil]⟩⟩
  · rintro ⟨file, hname, rfl | ⟨before, rfl⟩⟩
    · exact ⟨[], _, [], (List.append_nil _).symm, rfl, file, hname, .inl ⟨rfl, rfl⟩⟩
    · exact ⟨before, _, [], by rw [List.append_nil], rfl, file, hname, .inr rfl⟩

/-! ### The three classes -/

section

variable {config : ProjectConfig} {path : List Char}

/-- The path is the entry module with one of its endings. -/
def IsEntry (config : ProjectConfig) (path : List Char) : Prop :=
  path = config.mainPath ++ ".js".toList ∨ path = config.mainPath ++ ".ts".toList

theorem isEntry_iff :
    IsEntry config path ↔ ∃ suffix ∈ entrySuffixes, path = config.mainPath ++ suffix := by
  simp [IsEntry, entrySuffixes]

theorem ofPath_of_endsInBootstrap (h : EndsInBootstrap (slashed path)) :
    ofPath config path = .libraryBootstrap := by
  unfold ofPath
  rw [if_pos (isBootstrap_iff.mpr h)]

theorem ofPath_of_isEntry (h : ¬ EndsInBootstrap (slashed path))
    (hentry : IsEntry config (slashed path)) : ofPath config path = .userEntryModule := by
  unfold ofPath
  rw [if_neg (isBootstrap_iff.not.mpr h), if_pos]
  simpa using isEntry_iff.mp hentry

theorem ofPath_of_not_isEntry (h : ¬ EndsInBootstrap (slashed path))
    (hentry : ¬ IsEntry config (slashed path)) : ofPath config path = .unrelated := by
  unfold ofPath
  rw [if_neg (isBootstrap_iff.not.mpr h), if_neg]
  simpa using isEntry_iff.not.mp hentry

end

/-- A module starts an app exactly if its path ends in the names of such a file. Of the others it is
the entry module exactly if its path is that of the entry module with one of the two endings, and it
is unrelated otherwise. In all this a slash and a backslash mean the same. -/
theorem ofPath_exact (config : ProjectConfig) (path : List Char) :
    (ofPath config path = .libraryBootstrap ↔ EndsInBootstrap (slashed path)) ∧
    (ofPath config path = .userEntryModule ↔
      ¬ EndsInBootstrap (slashed path) ∧ IsEntry config (slashed path)) ∧
    (ofPath config path = .unrelated ↔
      ¬ EndsInBootstrap (slashed path) ∧ ¬ IsEntry config (slashed path)) ∧
    ∀ other, SameButSlashes path other → ofPath config other = ofPath config path := by
  have hother : ∀ other, SameButSlashes path other → ofPath config other = ofPath config path := by
    intro other h
    unfold ofPath
    rw [slashed_eq_slashed_iff.mpr h]
  by_cases hboot : EndsInBootstrap (slashed path)
  · refine ⟨?_, ?_, ?_, hother⟩ <;> simp [ofPath_of_endsInBootstrap hboot, hboot]
  · by_cases hentry : IsEntry config (slashed path)
    · refine ⟨?_, ?_, ?_, hother⟩ <;> simp [ofPath_of_isEntry hboot hentry, hboot, hentry]
    · refine ⟨?_, ?_, ?_, hother⟩ <;> simp [ofPath_of_not_isEntry hboot hentry, hboot, hentry]

/-- A file that starts an app, with a line end in the name of a folder and slashes in both
directions. -/
def brokenFolder : List Char := "C:\\a\nb\\@uvue\\core/server.js".toList

theorem ofPath_brokenFolder : ∃ config,
    ProjectConfig.ofJson ⟨.top, "/project".toList⟩ Json.emptyObject = .ok config ∧
    SameButSlashes brokenFolder "C:/a\nb/@uvue\\core\\server.js".toList ∧
    ofPath config brokenFolder = .libraryBootstrap ∧
    ofPath config "C:/a\nb/@uvue\\core\\server.js".toList = .libraryBootstrap := by
  have haccepted : ProjectConfig.ofJson ⟨.top, "/project".toList⟩ Json.emptyObject = .ok _ := rfl
  have hsame : SameButSlashes brokenFolder "C:/a\nb/@uvue\\core\\server.js".toList :=
    slashed_eq_slashed_iff.mp (by decide +kernel)
  have hends : EndsInBootstrap (slashed brokenFolder) :=
    ⟨["C:".toList, "a\nb".toList], _, by decide +kernel, .inr rfl⟩
  obtain ⟨hboot, -, -, hother⟩ := ofPath_exact _ brokenFolder
  exact ⟨_, haccepted, hsame, hboot.mpr hends, (hother _ hsame).trans (hboot.mpr hends)⟩

/-! ### Files of the entry module -/

/-- The files of an entry module: the module itself if it has an ending of such files, and else the
module with one of them. -/
def entryFiles (main : List Char) : List (List Char) :=
  if entrySuffixes.any fun suffix ↦ suffix.isSuffixOf main then [main]
  else entrySuffixes.map (main ++ ·)

/-- What stands behind the last slash of a file, without the ending of an entry module. -/
def entryName (file : List Char) : List Char := lastName (withoutEntrySuffix file)

/-- A file of an entry module is the module without its ending, and an ending. -/
theorem exists_suffix_of_mem_entryFiles {main file : List Char} (h : file ∈ entryFiles main) :
    ∃ suffix ∈ entrySuffixes, file = withoutEntrySuffix main ++ suffix := by
  unfold entryFiles at h
  split_ifs at h with hsuffix
  · obtain ⟨suffix, hmem, hends⟩ := List.any_eq_true.mp hsuffix
    obtain ⟨stem, rfl⟩ := List.isSuffixOf_iff_suffix.mp hends
    rw [List.mem_singleton.mp h]
    exact ⟨suffix, hmem, by rw [withoutEntrySuffix_append hmem]⟩
  · have hbare : ∀ suffix ∈ entrySuffixes, ¬ suffix <:+ main := by
      intro suffix hmem hends
      exact hsuffix (List.any_eq_true.mpr ⟨suffix, hmem, List.isSuffixOf_iff_suffix.mpr hends⟩)
    obtain ⟨suffix, hmem, rfl⟩ := List.mem_map.mp h
    exact ⟨suffix, hmem, by rw [withoutEntrySuffix_of_bare hbare]⟩

/-- With an ending behind its last name, a text leads to the path with the ending behind it. -/
theorem normalized_resolve_append {stem suffix : List Char} (hnil : lastName stem ≠ [])
    (hdot : lastName stem ≠ ['.']) (hsuffix : suffix ∈ entrySuffixes) (directory : AbsolutePath) :
    (directory.resolve (stem ++ suffix)).normalized =
      (directory.resolve stem).normalized ++ suffix := by
  have hplain : ∀ suffix ∈ entrySuffixes, suffix ≠ [] ∧ '/' ∉ suffix ∧ '\\' ∉ suffix := by decide
  obtain ⟨hending, hslash, hbackslash⟩ := hplain suffix hsuffix
  unfold AbsolutePath.normalized
  rw [directory.text_resolve_append hnil hdot hending hslash, slashed_append,
    slashed_of_not_mem hbackslash]

/-- The file that is configured as the entry module is recognized, unless it is a file that starts an
app. However the module is spelled, each of its files that has a name leads to a path of the entry
module, whatever the direction of the slashes in the path. -/
theorem ofPath_entryFile {root : Location} {value : Json} {config : ProjectConfig}
    {declared : Declarations} {main file : List Char}
    (haccepted : ProjectConfig.ofJson root value = .ok config)
    (hdeclared : Declarations.ofJson value = .ok declared) (hmain : declared.main = some main)
    (hfile : file ∈ entryFiles main) (hnil : entryName file ≠ []) (hdot : entryName file ≠ ['.'])
    {path : List Char} (hpath : SameButSlashes (config.resolve file).normalized path) :
    ofPath config path ≠ .libraryBootstrap → ofPath config path = .userEntryModule := by
  intro hother
  obtain ⟨suffix, hsuffix, rfl⟩ := exists_suffix_of_mem_entryFiles hfile
  obtain ⟨-, found, hspells, rfl⟩ := ProjectConfig.ofJson_eq_ok_iff_declaring.mp haccepted
  obtain rfl : declared = found :=
    Except.ok.inj (hdeclared.symm.trans (Declarations.ofJson_eq_ok_iff.mpr hspells))
  rw [entryName, withoutEntrySuffix_append hsuffix] at hnil hdot
  -- A path that is put together has no backslashes, so it is what its respelling is slashed to.
  have hslashed : slashed path =
      (root.target.resolve (withoutEntrySuffix main)).normalized ++ suffix := by
    rw [← slashed_eq_slashed_iff.mpr hpath, AbsolutePath.normalized,
      slashed_of_not_mem (backslash_not_mem_slashed _)]
    exact normalized_resolve_append hnil hdot hsuffix root.target
  have hentry : IsEntry (ProjectConfig.declaring root.target declared value) (slashed path) := by
    refine isEntry_iff.mpr ⟨suffix, hsuffix, ?_⟩
    rw [hslashed, ProjectConfig.mainPath, ProjectConfig.declaring, hmain, Option.getD_some]
  by_cases hboot : EndsInBootstrap (slashed path)
  · exact absurd (ofPath_of_endsInBootstrap hboot) hother
  · exact ofPath_of_isEntry hboot hentry

/-- An entry module with two endings, a dot for the directory and two slashes. -/
def doubledEnding : List Char := "./src//main.ts.js".toList

theorem ofPath_doubledEnding : ∃ config,
    ProjectConfig.ofJson ⟨.top, "/project".toList⟩
      (.object [("paths".toList, .object [("main".toList, .string doubledEnding)])]) = .ok config ∧
    doubledEnding ∈ entryFiles doubledEnding ∧
    entryName doubledEnding ≠ [] ∧ entryName doubledEnding ≠ ['.'] ∧
    SameButSlashes (config.resolve doubledEnding).normalized
      "\\project/src\\main.ts.js".toList ∧
    ofPath config "\\project/src\\main.ts.js".toList = .userEntryModule := by
  have haccepted : ProjectConfig.ofJson ⟨.top, "/project".toList⟩
      (.object [("paths".toList, .object [("main".toList, .string doubledEnding)])]) = .ok _ := rfl
  have hfile : doubledEnding ∈ entryFiles doubledEnding := by decide +kernel
  have hnil : entryName doubledEnding ≠ [] := by decide +kernel
  have hdot : entryName doubledEnding ≠ ['.'] := by decide +kernel
  refine ⟨_, haccepted, hfile, hnil, hdot, slashed_eq_slashed_iff.mp (by decide +kernel), ?_⟩
  exact ofPath_entryFile haccepted rfl rfl hfile hnil hdot
    (slashed_eq_slashed_iff.mp (by decide +kernel)) (by decide +kernel)

end SsrBuild.ResourceClass
