import Mathlib.Data.List.Forall2
import SsrBuild.Config.Load
import SsrBuild.Proofs.Outcome

/-!
The values that spell a configuration. A value spells declarations (`Declarations.Spells`) by its
parts, which are the fields of an object or the elements of a list, and each part spells its own.
What is read from a value is what it spells, and a value that spells nothing is refused
(`ofJson_eq_ok_iff`).
-/

set_option autoImplicit false

namespace SsrBuild.Declarations

variable {α : Type} {value : Json}

/-! ### Spellings -/

/-- An import is spelled as its source, or as an object with its source that may say whether it is
eligible on the server. -/
inductive SpellsImport : Json → ImportDeclaration → Prop
  | source (source : List Char) : SpellsImport (.string source) ⟨slashed source, true⟩
  | entry {fields : List (List Char × Json)} {source : List Char} {eligible : Bool}
      (hsource : Dictionary.get? "src".toList fields = some (.string source))
      (heligible : Dictionary.get? "ssr".toList fields = some (.boolean eligible) ∨
        Dictionary.get? "ssr".toList fields = none ∧ eligible = true) :
      SpellsImport (.object fields) ⟨slashed source, eligible⟩

/-- A plugin is spelled as its module, or as a pair with any value for its options. -/
inductive SpellsPlugin : Json → PluginDeclaration → Prop
  | alone (path : List Char) : SpellsPlugin (.string path) ⟨slashed path, Json.emptyObject⟩
  | pair (path : List Char) (options : Json) :
      SpellsPlugin (.array [.string path, options]) ⟨slashed path, options⟩

/-- An entry module is spelled as its path, or left open by null. -/
inductive SpellsEntry : Json → Option (List Char) → Prop
  | path (path : List Char) : SpellsEntry (.string path) (some path)
  | null : SpellsEntry .null none

/-- What a part spells that may be absent. -/
def SpellsPart (spells : Json → α → Prop) (default : α) : Option Json → α → Prop
  | none, result => result = default
  | some value, result => spells value result

/-- The paths are an object that may name the entry module, or a list of the entry module alone. -/
inductive SpellsPaths : Json → Option (List Char) → Prop
  | object {fields : List (List Char × Json)} {main : Option (List Char)}
      (h : SpellsPart SpellsEntry none (Dictionary.get? "main".toList fields) main) :
      SpellsPaths (.object fields) main
  | list {entry : Json} {main : Option (List Char)} (h : SpellsEntry entry main) :
      SpellsPaths (.array [entry]) main

/-- A list spells what its elements spell, one after the other. -/
def SpellsList (spells : Json → α → Prop) (value : Json) (results : List α) : Prop :=
  ∃ elements, value = .array elements ∧ List.Forall₂ spells elements results

/-- A part of a configuration, which has a name in an object and a place in a list. -/
def part? (name : List Char) (place : Nat) : Json → Option Json
  | .object fields => Dictionary.get? name fields
  | .array parts => parts[place]?
  | _ => none

/-- A configuration is an object, whatever other fields it has, or a list of three parts at most. -/
inductive HasParts : Json → Prop
  | object (fields : List (List Char × Json)) : HasParts (.object fields)
  | list {parts : List Json} (h : parts.length ≤ 3) : HasParts (.array parts)

/-- The declarations that a value spells. -/
structure Spells (value : Json) (declared : Declarations) : Prop where
  hasParts : HasParts value
  paths : SpellsPart SpellsPaths none (part? "paths".toList 0 value) declared.main
  imports : SpellsPart (SpellsList SpellsImport) [] (part? "imports".toList 1 value)
    declared.imports
  plugins : SpellsPart (SpellsList SpellsPlugin) [] (part? "plugins".toList 2 value)
    declared.plugins

/-! ### Reading the parts -/

/-- A text is what a value holds that is a string. -/
theorem text?_eq_some_iff {text : List Char} : value.text? = some text ↔ value = .string text := by
  constructor
  · intro h
    cases value with
    | string found => rw [Option.some.inj h]
    | _ => cases h
  · rintro rfl
    rfl

/-- An object is eligible as it says, and eligible if it does not say it. -/
theorem eligibility?_eq_some_iff {fields : List (List Char × Json)} {eligible : Bool} :
    eligibility? (.object fields) = some eligible ↔
      Dictionary.get? "ssr".toList fields = some (.boolean eligible) ∨
        Dictionary.get? "ssr".toList fields = none ∧ eligible = true := by
  unfold eligibility?
  show _ ↔ (Json.object fields).field? "ssr".toList = some (.boolean eligible) ∨
    (Json.object fields).field? "ssr".toList = none ∧ eligible = true
  generalize (Json.object fields).field? "ssr".toList = told
  cases told with
  | none => simp [eq_comm]
  | some value => cases value <;> simp

/-- An import is read from an object that spells it. -/
theorem importOfObject?_eq_some_iff {fields : List (List Char × Json)}
    {declared : ImportDeclaration} :
    importOfObject? (.object fields) = some declared ↔ SpellsImport (.object fields) declared := by
  constructor
  · intro h
    obtain ⟨value, hvalue, h⟩ := Option.bind_eq_some_iff.mp h
    obtain ⟨source, hsource, h⟩ := Option.bind_eq_some_iff.mp h
    obtain ⟨eligible, heligible, h⟩ := Option.bind_eq_some_iff.mp h
    obtain rfl := Option.some.inj h
    obtain rfl := text?_eq_some_iff.mp hsource
    exact .entry hvalue (eligibility?_eq_some_iff.mp heligible)
  · intro h
    cases h with
    | entry hsource heligible =>
      refine Option.bind_eq_some_iff.mpr ⟨_, hsource, ?_⟩
      refine Option.bind_eq_some_iff.mpr ⟨_, text?_eq_some_iff.mpr rfl, ?_⟩
      exact Option.bind_eq_some_iff.mpr ⟨_, eligibility?_eq_some_iff.mpr heligible, rfl⟩

/-- An import is read from the values that spell it. -/
theorem importOf_eq_ok_iff {declared : ImportDeclaration} :
    importOf value = .ok declared ↔ SpellsImport value declared := by
  cases value with
  | string source =>
    constructor
    · intro h
      obtain rfl := Except.ok.inj h
      exact .source source
    · rintro (_ | _)
      rfl
  | object fields =>
    rw [← importOfObject?_eq_some_iff]
    simp only [importOf]
    generalize importOfObject? (.object fields) = found
    cases found with
    | none => simp
    | some found => simp
  | _ => exact iff_of_false (fun h ↦ nomatch h) (fun h ↦ nomatch h)

/-- A plugin is read from the values that spell it. -/
theorem pluginOf_eq_ok_iff {declared : PluginDeclaration} :
    pluginOf value = .ok declared ↔ SpellsPlugin value declared := by
  constructor
  · intro h
    unfold pluginOf at h
    split at h
    · obtain rfl := Except.ok.inj h
      exact .alone _
    · obtain rfl := Except.ok.inj h
      exact .pair _ _
    · cases h
  · rintro (_ | _)
    · rfl
    · rfl

/-- An entry module is read from the values that spell it. -/
theorem asOptionalText_eq_ok_iff {main : Option (List Char)} :
    value.asOptionalText = .ok main ↔ SpellsEntry value main := by
  constructor
  · intro h
    cases value with
    | null =>
      obtain rfl := Except.ok.inj h
      exact .null
    | string path =>
      obtain rfl := Except.ok.inj h
      exact .path path
    | _ => cases h
  · rintro (_ | _)
    · rfl
    · rfl

/-- A list is admitted if it is not longer than the record has fields. -/
theorem checkLength_eq_ok_iff {fields : Nat} {elements : List Json} {checked : Unit} :
    Json.checkLength fields elements = .ok checked ↔ elements.length ≤ fields := by
  unfold Json.checkLength
  split_ifs with h
  · exact iff_of_false (fun h ↦ nomatch h) (Nat.not_le_of_lt h)
  · exact iff_of_true rfl (Nat.le_of_not_lt h)

section Part

variable {spells : Json → α → Prop} {read : Json → Except Json.Mismatch α}

/-- A part that may be absent is read if it is, whatever it spells. -/
theorem orDefault_eq_ok_iff (hread : ∀ value result, read value = .ok result ↔ spells value result)
    {default result : α} {part : Option Json} :
    orDefault default read part = .ok result ↔ SpellsPart spells default part result := by
  cases part with
  | none =>
    constructor
    · intro h
      exact (Except.ok.inj h).symm
    · rintro rfl
      rfl
  | some value => exact hread value result

/-- A list is read if its elements are. -/
theorem asSequence_eq_ok_iff
    (hread : ∀ value result, read value = .ok result ↔ spells value result) {results : List α} :
    Json.asSequence read value = .ok results ↔ SpellsList spells value results := by
  constructor
  · intro h
    cases value with
    | array elements =>
      exact ⟨elements, rfl, (mapM_eq_ok_iff.mp h).imp fun _ _ ↦ (hread _ _).mp⟩
    | _ => cases h
  · rintro ⟨elements, rfl, h⟩
    exact mapM_eq_ok_iff.mpr (h.imp fun _ _ ↦ (hread _ _).mpr)

end Part

/-- The entry module is read from the values that spell the paths. -/
theorem mainOf_eq_ok_iff {main : Option (List Char)} :
    mainOf value = .ok main ↔ SpellsPaths value main := by
  constructor
  · intro h
    unfold mainOf at h
    split at h
    · cases h
    · next entry others =>
      obtain ⟨found, hfound, h⟩ := bind_eq_ok_iff.mp h
      obtain ⟨_, hlength, h⟩ := bind_eq_ok_iff.mp h
      obtain rfl := Except.ok.inj h
      -- A list of one part has no others.
      have hothers : others = [] := by
        have := checkLength_eq_ok_iff.mp hlength
        simpa using this
      subst hothers
      exact .list (asOptionalText_eq_ok_iff.mp hfound)
    · exact .object ((orDefault_eq_ok_iff fun _ _ ↦ asOptionalText_eq_ok_iff).mp h)
    · cases h
  · rintro (h | h)
    · exact (orDefault_eq_ok_iff fun _ _ ↦ asOptionalText_eq_ok_iff).mpr h
    · refine bind_eq_ok_iff.mpr ⟨_, asOptionalText_eq_ok_iff.mpr h, ?_⟩
      exact bind_eq_ok_iff.mpr ⟨(), checkLength_eq_ok_iff.mpr (Nat.le_refl 1), rfl⟩

/-! ### Reading the whole -/

/-- What is read from a value is what the value spells. -/
theorem ofJson_eq_ok_iff {declared : Declarations} :
    ofJson value = .ok declared ↔ Spells value declared := by
  have hpaths : ∀ part main, orDefault none mainOf part = .ok main ↔
      SpellsPart SpellsPaths none part main :=
    fun _ _ ↦ orDefault_eq_ok_iff fun _ _ ↦ mainOf_eq_ok_iff
  have himports : ∀ part imports, orDefault [] (Json.asSequence importOf) part = .ok imports ↔
      SpellsPart (SpellsList SpellsImport) [] part imports :=
    fun _ _ ↦ orDefault_eq_ok_iff fun _ _ ↦ asSequence_eq_ok_iff fun _ _ ↦ importOf_eq_ok_iff
  have hplugins : ∀ part plugins, orDefault [] (Json.asSequence pluginOf) part = .ok plugins ↔
      SpellsPart (SpellsList SpellsPlugin) [] part plugins :=
    fun _ _ ↦ orDefault_eq_ok_iff fun _ _ ↦ asSequence_eq_ok_iff fun _ _ ↦ pluginOf_eq_ok_iff
  cases value with
  | object fields =>
    unfold ofJson
    simp only [bind_eq_ok_iff, hpaths, himports, hplugins]
    constructor
    · rintro ⟨imports, himports, main, hmain, plugins, hplugins, h⟩
      obtain rfl := Except.ok.inj h
      exact ⟨.object fields, hmain, himports, hplugins⟩
    · rintro ⟨-, hmain, himports, hplugins⟩
      exact ⟨_, himports, _, hmain, _, hplugins, rfl⟩
  | array parts =>
    unfold ofJson
    simp only [bind_eq_ok_iff, hpaths, himports, hplugins, checkLength_eq_ok_iff]
    constructor
    · rintro ⟨main, hmain, imports, himports, plugins, hplugins, _, hlength, h⟩
      obtain rfl := Except.ok.inj h
      exact ⟨.list hlength, hmain, himports, hplugins⟩
    · rintro ⟨hparts, hmain, himports, hplugins⟩
      cases hparts with
      | list hlength => exact ⟨_, hmain, _, himports, _, hplugins, (), hlength, rfl⟩
  | _ => exact iff_of_false (fun h ↦ nomatch h) (fun h ↦ nomatch h.hasParts)

end SsrBuild.Declarations

namespace SsrBuild.ProjectConfig

open Declarations

variable {root : Location} {value : Json} {config : ProjectConfig}

/-- The configuration of a project with some declarations. -/
def declaring (root : AbsolutePath) (declared : Declarations) (value : Json) : ProjectConfig where
  root := root
  main := root.resolve (withoutEntrySuffix (declared.main.getD defaultMain))
  imports := declared.imports
  plugins := declared.plugins
  raw := value

/-- The project in a directory has what is declared; if nothing can be read, the file is at fault. -/
theorem ofJson_of_declarations (hroot : root.spelling ≠ []) (value : Json) :
    ofJson root value = match Declarations.ofJson value with
      | .error mismatch =>
        .error (.mismatched (root.target.resolve configFile).normalized mismatch)
      | .ok declared => .ok (declaring root.target declared value) := by
  have hpath : root.path? = some root.target := by
    unfold Location.path?
    rw [if_neg (by simpa using hroot)]
    rfl
  unfold ofJson
  rw [hpath]
  rfl

/-- A project has the configuration that the value spells, unless its directory has no name. -/
theorem ofJson_eq_ok_iff_declaring :
    ofJson root value = .ok config ↔ root.spelling ≠ [] ∧
      ∃ declared, Spells value declared ∧ config = declaring root.target declared value := by
  by_cases hroot : root.spelling = []
  · refine iff_of_false (fun h ↦ ?_) fun h ↦ h.1 hroot
    unfold ofJson Location.path? at h
    rw [if_pos (by simpa using hroot)] at h
    cases h
  · simp only [← Declarations.ofJson_eq_ok_iff]
    rw [ofJson_of_declarations hroot]
    cases Declarations.ofJson value with
    | error mismatch => simp
    | ok declared => simp [hroot, eq_comm]

/-! ### Loading -/

/-- A configuration is that of the directory it has been loaded for. -/
theorem root_of_load {files : FileSystem} (h : load files root = .ok config) :
    config.root = root.target := by
  obtain ⟨value, -, hvalue⟩ := bind_eq_ok_iff.mp h
  obtain ⟨-, declared, -, rfl⟩ := ofJson_eq_ok_iff_declaring.mp hvalue
  rfl

/-- A project has the configuration of the value that is read. -/
theorem load_of_readValue {files : FileSystem} {value : Json}
    (h : readValue files root = .ok value) : load files root = ofJson root value := by
  unfold load
  rw [h]
  rfl

/-- Without a configuration file a project has the configuration of an empty object. -/
theorem load_of_notFound {files : FileSystem}
    (h : files.contentAt (root.join configFile).target = .error .notFound) :
    load files root = ofJson root Json.emptyObject := by
  refine load_of_readValue ?_
  unfold readValue readText
  simp only [h]
  rfl

/-! ### Acceptance -/

/-- In a directory that has a name the values are accepted that spell a configuration, and the
project has what they spell: the imports and plugins in their order and each path with slashes;
what is imported is eligible on the server unless it is told otherwise, and a plugin alone has an
empty object. With every other value the shape of the file is at fault. -/
theorem ofJson_accepts_spellings (root : Location) (hroot : root.spelling ≠ []) (value : Json) :
    (∀ config, ofJson root value = .ok config ↔
      ∃ declared, Spells value declared ∧ config = declaring root.target declared value) ∧
    ((∃ config, ofJson root value = .ok config) ↔ ∃ declared, Spells value declared) ∧
    ((∀ declared, ¬ Spells value declared) → ∃ mismatch,
      ofJson root value =
        .error (.mismatched (root.target.resolve configFile).normalized mismatch)) := by
  have haccepts : ∀ config, ofJson root value = .ok config ↔
      ∃ declared, Spells value declared ∧ config = declaring root.target declared value := by
    intro config
    rw [ofJson_eq_ok_iff_declaring, and_iff_right hroot]
  refine ⟨haccepts, ?_, fun hnone ↦ ?_⟩
  · constructor
    · rintro ⟨config, hconfig⟩
      obtain ⟨declared, hspells, -⟩ := (haccepts config).mp hconfig
      exact ⟨declared, hspells⟩
    · rintro ⟨declared, hspells⟩
      exact ⟨_, (haccepts _).mpr ⟨declared, hspells, rfl⟩⟩
  · rw [ofJson_of_declarations hroot]
    cases hdeclared : Declarations.ofJson value with
    | error mismatch => exact ⟨mismatch, rfl⟩
    | ok declared => exact absurd (ofJson_eq_ok_iff.mp hdeclared) (hnone declared)

/-- A configuration with several spellings, one of them with a backslash and one with a field that
nothing reads. -/
def mixedSpellings : Json :=
  .object [("imports".toList, .array [.string "a\\b".toList, .object [("other".toList, .null),
      ("src".toList, .string "c".toList), ("ssr".toList, .boolean false)]]),
    ("paths".toList, .array [.null]),
    ("plugins".toList, .array [.string "p".toList, .array [.string "q".toList, .integer 1]])]

theorem ofJson_accepts_mixedSpellings :
    "/project".toList ≠ [] ∧ ∃ config,
      ofJson ⟨.top, "/project".toList⟩ mixedSpellings = .ok config ∧
      config.imports = [⟨"a/b".toList, true⟩, ⟨"c".toList, false⟩] := by
  have hentry : SpellsImport (.object [("other".toList, .null), ("src".toList, .string "c".toList),
      ("ssr".toList, .boolean false)]) ⟨slashed "c".toList, false⟩ := .entry rfl (.inl rfl)
  have hspells : Spells mixedSpellings ⟨none, [⟨"a/b".toList, true⟩, ⟨"c".toList, false⟩],
      [⟨"p".toList, Json.emptyObject⟩, ⟨"q".toList, .integer 1⟩]⟩ :=
    ⟨.object _, .list .null, ⟨_, rfl, .cons (.source _) (.cons hentry .nil)⟩,
      ⟨_, rfl, .cons (.alone _) (.cons (.pair _ _) .nil)⟩⟩
  have hroot : "/project".toList ≠ [] := by decide
  have haccepts := (ofJson_accepts_spellings ⟨.top, "/project".toList⟩ hroot mixedSpellings).1
  exact ⟨hroot, _, (haccepts _).mpr ⟨_, hspells, rfl⟩, rfl⟩

/-- An import is not spelled as a list of its source and its eligibility. -/
theorem ofJson_refuses_listedImport :
    ofJson ⟨.top, "/project".toList⟩
        (.object [("imports".toList, .array [.array [.string "a".toList, .boolean false]])]) =
      .error (.mismatched "/project/uvue.config.json".toList (.noSpelling "RawImport")) := rfl

end SsrBuild.ProjectConfig
