import SsrBuild.MainModule.Code
import SsrBuild.Proofs.Config.Spelling
import SsrBuild.Proofs.Path.Absolute

/-!
Configurations that are spelled in different ways. The spelling of an import or a plugin, the
direction of slashes, the options of plugins and the ending of the entry module say nothing that the
main module holds, nor do fields that are not read. So a configuration that is spelled in another
way (`Respells`) is accepted too, and has the same main module (`mainCode_of_respells`).
-/

set_option autoImplicit false

namespace SsrBuild

/-! ### The entry module -/

/-- A path from the directory on that has no ending of an entry module. -/
structure IsPlainEntry (path : List Char) : Prop where
  relative : isAbsolutePath path = false
  bare : ∀ suffix ∈ entrySuffixes, ¬ suffix <:+ path

/-- An entry module is spelled alone, with an ending, or with a dot for the directory. -/
inductive SpellsMain (path : List Char) : List Char → Prop
  | alone : SpellsMain path path
  | suffixed {suffix : List Char} (h : suffix ∈ entrySuffixes) : SpellsMain path (path ++ suffix)
  | dotted : SpellsMain path ('.' :: '/' :: path)

/-- Two texts spell one entry module. -/
def SameMain (first second : List Char) : Prop :=
  first = second ∨ ∃ path, IsPlainEntry path ∧ SpellsMain path first ∧ SpellsMain path second

/-- Nothing is taken from a path without an ending. -/
theorem withoutEntrySuffix_of_bare {path : List Char}
    (h : ∀ suffix ∈ entrySuffixes, ¬ suffix <:+ path) : withoutEntrySuffix path = path := by
  have hnone : entrySuffixes.findSome? (fun suffix ↦ suffix.isSuffixOf? path) = none := by
    refine List.findSome?_eq_none_iff.mpr fun suffix hsuffix ↦ ?_
    cases hfound : suffix.isSuffixOf? path with
    | none => rfl
    | some init =>
      exact absurd ⟨init, List.isSuffixOf?_eq_some_iff_append_eq.mp hfound⟩ (h suffix hsuffix)
  unfold withoutEntrySuffix
  rw [hnone]
  rfl

/-- One ending is taken from a path. -/
theorem withoutEntrySuffix_append {suffix : List Char} (h : suffix ∈ entrySuffixes)
    (path : List Char) : withoutEntrySuffix (path ++ suffix) = path := by
  have hlength : ∀ suffix ∈ entrySuffixes, suffix.length = 3 := by decide
  unfold withoutEntrySuffix
  cases hfound : entrySuffixes.findSome? (fun other ↦ other.isSuffixOf? (path ++ suffix)) with
  | none =>
    have hnone := List.findSome?_eq_none_iff.mp hfound suffix h
    rw [List.isSuffixOf?_eq_some_iff_append_eq.mpr rfl] at hnone
    cases hnone
  | some init =>
    -- Whichever ending is found, it is as long as the one that was put there.
    obtain ⟨other, hother, hinit⟩ := List.exists_of_findSome?_eq_some hfound
    have happend := List.isSuffixOf?_eq_some_iff_append_eq.mp hinit
    exact (List.append_inj' happend ((hlength other hother).trans (hlength suffix h).symm)).1

/-- A dot for the directory brings no ending with it. -/
theorem not_suffix_dotSlash {suffix path : List Char} (hsuffix : suffix ∈ entrySuffixes)
    (h : ¬ suffix <:+ path) : ¬ suffix <:+ '.' :: '/' :: path := by
  have hsecond : suffix ≠ '/' :: path := by
    rintro rfl
    revert hsuffix
    simp [entrySuffixes]
  have hfirst : suffix ≠ '.' :: '/' :: path := by
    rintro rfl
    revert hsuffix
    simp [entrySuffixes]
  rw [List.suffix_cons_iff, List.suffix_cons_iff]
  rintro (heq | heq | hrest)
  · exact hfirst heq
  · exact hsecond heq
  · exact h hrest

/-- Every spelling of an entry module leads to it. -/
theorem resolve_of_spellsMain {path spelling : List Char} (hplain : IsPlainEntry path)
    (h : SpellsMain path spelling) (directory : AbsolutePath) :
    directory.resolve (withoutEntrySuffix spelling) = directory.resolve path := by
  cases h with
  | alone => rw [withoutEntrySuffix_of_bare hplain.bare]
  | suffixed hsuffix => rw [withoutEntrySuffix_append hsuffix]
  | dotted =>
    have hbare : ∀ suffix ∈ entrySuffixes, ¬ suffix <:+ '.' :: '/' :: path :=
      fun suffix hsuffix ↦ not_suffix_dotSlash hsuffix (hplain.bare suffix hsuffix)
    rw [withoutEntrySuffix_of_bare hbare, directory.resolve_dotSlash hplain.relative]

/-- Spellings of one entry module lead to the same place. -/
theorem SameMain.resolve_eq {first second : List Char} (h : SameMain first second)
    (directory : AbsolutePath) :
    directory.resolve (withoutEntrySuffix second) =
      directory.resolve (withoutEntrySuffix first) := by
  rcases h with rfl | ⟨path, hplain, hfirst, hsecond⟩
  · rfl
  · rw [resolve_of_spellsMain hplain hfirst, resolve_of_spellsMain hplain hsecond]

namespace Declarations

/-! ### The parts -/

/-- Two values spell one import: the same source, but for the direction of its slashes, with the
same eligibility. -/
def SameImport (first second : Json) : Prop :=
  ∃ declared, SpellsImport first declared ∧ SpellsImport second declared

/-- Two values spell one plugin, with whatever options. -/
def SamePlugin (first second : Json) : Prop :=
  ∃ path options others, SpellsPlugin first ⟨path, options⟩ ∧ SpellsPlugin second ⟨path, others⟩

/-- The elements of a part that is a list; a part that is absent has none. -/
def elements? : Option Json → Option (List Json)
  | none => some []
  | some (.array elements) => some elements
  | some _ => none

/-- Two parts are lists of the same things, spelled in whatever way. -/
def SameElements (same : Json → Json → Prop) (first second : Option Json) : Prop :=
  ∃ elements others, elements? first = some elements ∧ elements? second = some others ∧
    List.Forall₂ same elements others

/-- Two parts spell the paths with one entry module. -/
def SamePaths (first second : Option Json) : Prop :=
  ∃ main other, SpellsPart SpellsPaths none first main ∧ SpellsPart SpellsPaths none second other ∧
    SameMain (main.getD defaultMain) (other.getD defaultMain)

/-- The second value spells the configuration that the first one spells, but for options. -/
structure Respells (first second : Json) : Prop where
  hasParts : HasParts second
  paths : SamePaths (part? "paths".toList 0 first) (part? "paths".toList 0 second)
  imports : SameElements SameImport (part? "imports".toList 1 first)
    (part? "imports".toList 1 second)
  plugins : SameElements SamePlugin (part? "plugins".toList 2 first)
    (part? "plugins".toList 2 second)

variable {α : Type} {first second : Json}

/-- A part that may be absent spells what its elements spell. -/
theorem spellsPart_list_iff {spells : Json → α → Prop} {part : Option Json} {results : List α} :
    SpellsPart (SpellsList spells) [] part results ↔
      ∃ elements, elements? part = some elements ∧ List.Forall₂ spells elements results := by
  cases part with
  | none =>
    constructor
    · rintro rfl
      exact ⟨[], rfl, .nil⟩
    · rintro ⟨elements, hempty, h⟩
      cases hempty
      exact List.forall₂_nil_left_iff.mp h
  | some value =>
    constructor
    · rintro ⟨elements, rfl, h⟩
      exact ⟨elements, rfl, h⟩
    · rintro ⟨elements, hlist, h⟩
      cases value with
      | array found => exact ⟨found, rfl, Option.some.inj hlist ▸ h⟩
      | _ => cases hlist

/-- What elements spell carries over to other elements one by one. -/
theorem exists_forall₂_spells {same : Json → Json → Prop} {spells : Json → α → Prop}
    {keeps : α → α → Prop}
    (hone : ∀ element other result, same element other → spells element result →
      ∃ image, spells other image ∧ keeps result image)
    {elements others : List Json} {results : List α} (hsame : List.Forall₂ same elements others)
    (h : List.Forall₂ spells elements results) :
    ∃ images, List.Forall₂ spells others images ∧ List.Forall₂ keeps results images := by
  induction hsame generalizing results with
  | nil =>
    obtain rfl := List.forall₂_nil_left_iff.mp h
    exact ⟨[], .nil, .nil⟩
  | cons hfirst _ ih =>
    obtain ⟨result, rest, hresult, hrest, rfl⟩ := List.forall₂_cons_left_iff.mp h
    obtain ⟨image, himage, hkept⟩ := hone _ _ _ hfirst hresult
    obtain ⟨images, himages, hkepts⟩ := ih hrest
    exact ⟨image :: images, .cons himage himages, .cons hkept hkepts⟩

/-- What a list spells carries over to a list of the same things. -/
theorem SameElements.exists_spellsPart {same : Json → Json → Prop} {spells : Json → α → Prop}
    {keeps : α → α → Prop}
    (hone : ∀ element other result, same element other → spells element result →
      ∃ image, spells other image ∧ keeps result image)
    {part other : Option Json} {results : List α} (hsame : SameElements same part other)
    (h : SpellsPart (SpellsList spells) [] part results) :
    ∃ images, SpellsPart (SpellsList spells) [] other images ∧
      List.Forall₂ keeps results images := by
  obtain ⟨elements, others, helements, hothers, hsame⟩ := hsame
  obtain ⟨found, hfound, hspells⟩ := spellsPart_list_iff.mp h
  obtain rfl : elements = found := Option.some.inj (helements.symm.trans hfound)
  obtain ⟨images, himages, hkept⟩ := exists_forall₂_spells hone hsame hspells
  exact ⟨images, spellsPart_list_iff.mpr ⟨others, hothers, himages⟩, hkept⟩

/-- The same import is spelled by both values. -/
theorem SameImport.exists_spells {declared : ImportDeclaration} (hsame : SameImport first second)
    (h : SpellsImport first declared) : ∃ image, SpellsImport second image ∧ declared = image := by
  obtain ⟨found, hfirst, hsecond⟩ := hsame
  refine ⟨found, hsecond, ?_⟩
  exact Except.ok.inj ((importOf_eq_ok_iff.mpr h).symm.trans (importOf_eq_ok_iff.mpr hfirst))

/-- The same plugin is spelled by both values. -/
theorem SamePlugin.exists_spells {declared : PluginDeclaration} (hsame : SamePlugin first second)
    (h : SpellsPlugin first declared) :
    ∃ image, SpellsPlugin second image ∧ declared.modulePath = image.modulePath := by
  obtain ⟨path, options, others, hfirst, hsecond⟩ := hsame
  refine ⟨_, hsecond, ?_⟩
  rw [Except.ok.inj ((pluginOf_eq_ok_iff.mpr h).symm.trans (pluginOf_eq_ok_iff.mpr hfirst))]

/-- The same entry module is spelled by both values. -/
theorem SamePaths.exists_spellsPart {part other : Option Json} {main : Option (List Char)}
    (hsame : SamePaths part other) (h : SpellsPart SpellsPaths none part main) :
    ∃ image, SpellsPart SpellsPaths none other image ∧
      SameMain (main.getD defaultMain) (image.getD defaultMain) := by
  obtain ⟨found, image, hfirst, hsecond, hmain⟩ := hsame
  have hread : ∀ result, SpellsPart SpellsPaths none part result →
      orDefault none mainOf part = .ok result :=
    fun _ ↦ (orDefault_eq_ok_iff fun _ _ ↦ mainOf_eq_ok_iff).mpr
  obtain rfl : main = found := Except.ok.inj ((hread _ h).symm.trans (hread _ hfirst))
  exact ⟨image, hsecond, hmain⟩

/-- Another spelling of a configuration spells the same imports and plugins and the same entry
module. -/
theorem Respells.exists_spells {declared : Declarations} (h : Respells first second)
    (hspells : Spells first declared) : ∃ other, Spells second other ∧
      other.imports = declared.imports ∧
      other.plugins.map (·.modulePath) = declared.plugins.map (·.modulePath) ∧
      SameMain (declared.main.getD defaultMain) (other.main.getD defaultMain) := by
  obtain ⟨main, hmain, hsameMain⟩ := h.paths.exists_spellsPart hspells.paths
  obtain ⟨imports, himports, hsameImports⟩ := h.imports.exists_spellsPart
    (fun _ _ _ hsame ↦ hsame.exists_spells) hspells.imports
  obtain ⟨plugins, hplugins, hsamePlugins⟩ := h.plugins.exists_spellsPart
    (fun _ _ _ hsame ↦ hsame.exists_spells) hspells.plugins
  refine ⟨⟨main, imports, plugins⟩, ⟨h.hasParts, hmain, himports, hplugins⟩, ?_, ?_, hsameMain⟩
  · rw [List.forall₂_eq_eq_eq] at hsameImports
    exact hsameImports.symm
  · have hmodules : declared.plugins.map (·.modulePath) = plugins.map (·.modulePath) := by
      rwa [← List.forall₂_eq_eq_eq, List.forall₂_map_left_iff, List.forall₂_map_right_iff]
    exact hmodules.symm

end Declarations

namespace ProjectConfig

open Declarations

variable {root : Location} {first second : Json} {config : ProjectConfig}

/-- What the main module is made of: where the project is, its entry module, its imports and the
modules of its plugins. -/
theorem mainCode_eq {other : ProjectConfig} (hroot : other.root = config.root)
    (hmain : other.main = config.main) (himports : other.imports = config.imports)
    (hplugins : other.plugins.map (·.modulePath) = config.plugins.map (·.modulePath)) :
    other.mainCode = config.mainCode := by
  unfold mainCode MainModule.ofConfig mainPath configPath
  rw [hroot, hmain, himports, hplugins]

/-- A project whose configuration file holds an empty object has the configuration of one. -/
theorem load_of_emptyObject {files : FileSystem}
    (h : files.contentAt (root.join configFile).target = .ok (Text.encode "\x7b\x7d".toList)) :
    load files root = ofJson root Json.emptyObject := by
  refine load_of_readValue ?_
  unfold readValue readText
  simp only [h]
  rfl

/-- A configuration that is spelled in another way is accepted if it was, with the same main module,
whatever its directory is. And a project whose configuration file is missing is as one whose file
holds an empty object. -/
theorem mainCode_of_respells (haccepted : ofJson root first = .ok config)
    (h : Respells first second) :
    (∃ other, ofJson root second = .ok other ∧ other.mainCode = config.mainCode) ∧
    ∀ files others : FileSystem,
      files.contentAt (root.join configFile).target = .error .notFound →
      others.contentAt (root.join configFile).target = .ok (Text.encode "\x7b\x7d".toList) →
      load files root = load others root := by
  obtain ⟨hroot, declared, hspells, rfl⟩ := ofJson_eq_ok_iff_declaring.mp haccepted
  obtain ⟨other, hother, himports, hplugins, hmain⟩ := h.exists_spells hspells
  refine ⟨⟨declaring root.target other second,
    ofJson_eq_ok_iff_declaring.mpr ⟨hroot, other, hother, rfl⟩, ?_⟩, ?_⟩
  · exact mainCode_eq rfl (hmain.resolve_eq root.target) himports hplugins
  · intro files others hmissing hempty
    exact (load_of_notFound hmissing).trans (load_of_emptyObject hempty).symm

/-- A project with an entry module, an import for clients, another import and a plugin. -/
def spelledProject : Json :=
  .object [("imports".toList, .array [.string "a/b".toList,
      .object [("src".toList, .string "c".toList), ("ssr".toList, .boolean false)]]),
    ("paths".toList, .object [("main".toList, .string "src/app".toList)]),
    ("plugins".toList, .array [.string "p".toList])]

/-- The same project with a backslash, an object for a text, a pair for a module, a dot before the
entry module and fields that nothing reads. -/
def respelledProject : Json :=
  .object [("imports".toList, .array [
      .object [("src".toList, .string "a\\b".toList), ("ssr".toList, .boolean true)],
      .object [("note".toList, .null), ("src".toList, .string "c".toList),
        ("ssr".toList, .boolean false)]]),
    ("paths".toList, .object [("main".toList, .string "./src/app".toList)]),
    ("plugins".toList, .array [.array [.string "p".toList, .integer 1]]), ("server".toList, .null)]

theorem respells_respelledProject : Respells spelledProject respelledProject := by
  have hmain : SameMain "src/app".toList "./src/app".toList :=
    .inr ⟨"src/app".toList, ⟨rfl, by decide +kernel⟩, .alone, .dotted⟩
  have hbackslash : SpellsImport
      (.object [("src".toList, .string "a\\b".toList), ("ssr".toList, .boolean true)])
      ⟨slashed "a\\b".toList, true⟩ := .entry rfl (.inl rfl)
  have hslashed : slashed "a/b".toList = slashed "a\\b".toList := by decide +kernel
  have hslash : SameImport (.string "a/b".toList)
      (.object [("src".toList, .string "a\\b".toList), ("ssr".toList, .boolean true)]) :=
    ⟨_, hslashed ▸ .source _, hbackslash⟩
  have hclient : SameImport
      (.object [("src".toList, .string "c".toList), ("ssr".toList, .boolean false)])
      (.object [("note".toList, .null), ("src".toList, .string "c".toList),
        ("ssr".toList, .boolean false)]) :=
    ⟨_, .entry rfl (.inl rfl), .entry rfl (.inl rfl)⟩
  have hplugin : SamePlugin (.string "p".toList) (.array [.string "p".toList, .integer 1]) :=
    ⟨_, _, _, .alone _, .pair _ _⟩
  exact ⟨.object _, ⟨_, _, .object (.path _), .object (.path _), hmain⟩,
    ⟨_, _, rfl, rfl, .cons hslash (.cons hclient .nil)⟩, ⟨_, _, rfl, rfl, .cons hplugin .nil⟩⟩

/-- A file system with an empty object as the configuration of the project. -/
def bareProject : FileSystem :=
  ⟨.directory [("project".toList,
    .directory [(configFile, .file (Text.encode "\x7b\x7d".toList))])]⟩

theorem mainCode_respelledProject : (∃ config other,
    ofJson ⟨.top, "/project".toList⟩ spelledProject = .ok config ∧
    Respells spelledProject respelledProject ∧
    ofJson ⟨.top, "/project".toList⟩ respelledProject = .ok other ∧
    other.mainCode = config.mainCode) ∧
    load ⟨.emptyDirectory⟩ ⟨.top, "/project".toList⟩ =
      load bareProject ⟨.top, "/project".toList⟩ := by
  have haccepted : ofJson ⟨.top, "/project".toList⟩ spelledProject = .ok _ := rfl
  obtain ⟨⟨other, hother, hcode⟩, hload⟩ :=
    mainCode_of_respells haccepted respells_respelledProject
  exact ⟨⟨_, other, haccepted, respells_respelledProject, hother, hcode⟩,
    hload ⟨.emptyDirectory⟩ bareProject rfl rfl⟩

/-- A list is no other spelling of an import that is spelled as its source. -/
theorem ofJson_refuses_listedSource :
    (∃ config, ofJson ⟨.top, "/project".toList⟩
      (.object [("imports".toList, .array [.string "a".toList])]) = .ok config ∧
      config.imports = [⟨"a".toList, true⟩]) ∧
    ofJson ⟨.top, "/project".toList⟩
        (.object [("imports".toList, .array [.array [.string "a".toList]])]) =
      .error (.mismatched "/project/uvue.config.json".toList (.noSpelling "RawImport")) :=
  ⟨⟨_, rfl, rfl⟩, rfl⟩

end ProjectConfig

end SsrBuild
