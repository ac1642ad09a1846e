import SsrBuild.Proofs.Config.Spelling
import SsrBuild.Proofs.Path.Component

/-!
The root directory of a configuration. However the directory is spelled, the root is the cleaned
text of the spelling made absolute. A configuration is read again from its own root, wherever one
works, and so are the configurations of all spellings that have the same components once they are
absolute (`ofJson_root_projection`). Paths of a project are cleaned in the same way, which changes
nothing the second time (`resolve_resolve`).
-/

set_option autoImplicit false

namespace SsrBuild.ProjectConfig

open PathComponent (ofText)

variable {directory : AbsolutePath} {spelling : List Char} {value : Json}
variable {declared : Declarations}

/-- A value that holds declarations is a configuration for every directory that has a name. -/
theorem ofJson_eq_ok_declaring (hspelling : spelling ≠ [])
    (haccepted : Declarations.ofJson value = .ok declared) (directory : AbsolutePath) :
    ofJson ⟨directory, spelling⟩ value =
      .ok (declaring (directory.resolve spelling) declared value) := by
  have hroot : (⟨directory, spelling⟩ : Location).spelling ≠ [] := hspelling
  rw [ofJson_of_declarations hroot, haccepted]
  rfl

/-- A path of a project is found again by its text. -/
theorem resolve_resolve {config : ProjectConfig} (h : config.root.IsProper) (path : List Char) :
    config.resolve (config.resolve path).text = config.resolve path :=
  (h.resolve path).resolve_text config.root

/-- With a value that holds declarations a directory that has a name has a configuration. Its root
is the spelling made absolute and cleaned: it starts at the top, and between its slashes there is
neither an empty part nor a dot. The root has the same configuration, from every directory on, and
so has every spelling that has the same components once it is absolute. A path of the project is put
behind the root and cleaned, and is found again by its text. -/
theorem ofJson_root_projection (hdirectory : directory.IsProper) (hspelling : spelling ≠ [])
    (haccepted : Declarations.ofJson value = .ok declared) :
    ∃ config, ofJson ⟨directory, spelling⟩ value = .ok config ∧
      config.root.text = cleanedText (absoluteText directory.text spelling) ∧
      isAbsolutePath config.root.text ∧
      (config.root.text = ['/'] ∨
        ∀ part ∈ config.root.text.tail.splitOn '/', part ≠ [] ∧ part ≠ ['.']) ∧
      (∀ elsewhere, ofJson ⟨elsewhere, config.root.text⟩ value = .ok config) ∧
      (∀ (elsewhere : AbsolutePath) (respelling : List Char), elsewhere.IsProper →
        respelling ≠ [] →
        ofText (absoluteText elsewhere.text respelling) =
          ofText (absoluteText directory.text spelling) →
        ofJson ⟨elsewhere, respelling⟩ value = .ok config) ∧
      ∀ path, (config.resolve path).text = cleanedText (joinedPath config.root.text path) ∧
        config.resolve (config.resolve path).text = config.resolve path := by
  have hroot := hdirectory.resolve spelling
  refine ⟨_, ofJson_eq_ok_declaring hspelling haccepted directory,
    (cleanedText_absoluteText hdirectory spelling).symm, rfl, ?parts, ?again, ?respelled,
    fun path ↦ ⟨(cleanedText_joinedPath hroot path).symm, resolve_resolve hroot path⟩⟩
  case parts =>
    refine hroot.text_eq_slash_or_forall_isName.imp_right fun hnames part hpart ↦ ?_
    exact ⟨(hnames part hpart).ne_nil, (hnames part hpart).ne_dot⟩
  case again =>
    intro elsewhere
    have hnamed : (directory.resolve spelling).text ≠ [] := List.cons_ne_nil _ _
    have hagain := ofJson_eq_ok_declaring hnamed haccepted elsewhere
    rw [hroot.resolve_text elsewhere] at hagain
    exact hagain
  case respelled =>
    intro elsewhere respelling helsewhere hrespelling hcomponents
    rw [ofJson_eq_ok_declaring hrespelling haccepted elsewhere,
      resolve_eq_of_ofText_eq helsewhere hdirectory hcomponents]

theorem ofJson_root_dotted :
    (AbsolutePath.top.resolve "/home/u".toList).IsProper ∧ "./a/../b//./".toList ≠ [] ∧
      Declarations.ofJson Json.emptyObject = .ok ⟨none, [], []⟩ ∧
      ∃ config, ofJson ⟨AbsolutePath.top.resolve "/home/u".toList, "./a/../b//./".toList⟩
          Json.emptyObject = .ok config ∧
        config.root.text = "/home/u/a/../b".toList ∧
        ofJson ⟨.top, "/home/u/a/../b".toList⟩ Json.emptyObject = .ok config ∧
        ofJson ⟨.top, "//home/u/./a/../b".toList⟩ Json.emptyObject = .ok config := by
  have hdirectory := AbsolutePath.isProper_top.resolve "/home/u".toList
  have hspelling : "./a/../b//./".toList ≠ [] := by decide
  have haccepted : Declarations.ofJson Json.emptyObject = .ok ⟨none, [], []⟩ := rfl
  obtain ⟨config, hconfig, hroot, -, -, hagain, hrespelled, -⟩ :=
    ofJson_root_projection hdirectory hspelling haccepted
  have htext : config.root.text = "/home/u/a/../b".toList := hroot.trans (by decide)
  refine ⟨hdirectory, hspelling, haccepted, config, hconfig, htext, htext ▸ hagain .top, ?_⟩
  exact hrespelled .top _ AbsolutePath.isProper_top (by decide) (by decide)

end SsrBuild.ProjectConfig
