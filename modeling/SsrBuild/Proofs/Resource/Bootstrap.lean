import SsrBuild.Proofs.Grammar.Scanning
import SsrBuild.Proofs.MainModule.Write
import SsrBuild.Proofs.Path.Absolute
import SsrBuild.Resource.Transform

/-!
The files that start an app, linked to the main module. The path of the main module takes the place
of the first `./main` and of no other (`replaceFirst_quoted`). Between quotes it is put as it is,
without escapes, so what was a string holds the path exactly if the directory of the project has
neither the quote nor a line end in its names (`linkBootstrap_literal`,
`linkBootstrap_apostropheRoot`).
-/

set_option autoImplicit false

namespace SsrBuild

open Grammar

/-! ### The first place of a word -/

namespace Text

variable {word text : List Char}

theorem replaceFirst_cons {c : Char} (h : ¬ word <+: c :: text) (replacement : List Char) :
    replaceFirst word replacement (c :: text) = c :: replaceFirst word replacement text := by
  have hnone : word.isPrefixOf? (c :: text) = none := by
    rw [Option.eq_none_iff_forall_ne_some]
    intro rest hrest
    exact h ⟨rest, List.isPrefixOf?_eq_some_iff_append_eq.mp hrest⟩
  rw [replaceFirst, hnone]

/-- A text without the word is left as it is. -/
theorem replaceFirst_of_not_infix (h : ¬ word <:+: text) (replacement : List Char) :
    replaceFirst word replacement text = text := by
  induction text with
  | nil => rfl
  | cons c text ih =>
    rw [replaceFirst_cons (fun hprefix ↦ h hprefix.isInfix),
      ih fun hfound ↦ h (hfound.trans (List.suffix_cons c text).isInfix)]

/-- At the beginning of a text the word is replaced. -/
theorem replaceFirst_append (hword : word ≠ []) (replacement rest : List Char) :
    replaceFirst word replacement (word ++ rest) = replacement ++ rest := by
  cases word with
  | nil => exact absurd rfl hword
  | cons c word =>
    rw [List.cons_append, replaceFirst, ← List.cons_append,
      List.isPrefixOf?_eq_some_iff_append_eq.mpr rfl]

/-- A word without the quote does not reach over the quote. -/
theorem prefix_of_prefix_append {quote : Char} (hquote : quote ∉ word) {front rest : List Char}
    (h : word <+: front ++ quote :: rest) : word <+: front := by
  obtain ⟨after, hafter⟩ := h
  rcases List.append_eq_append_iff.mp hafter with ⟨more, hfront, -⟩ | ⟨more, hword, hrest⟩
  · exact ⟨more, hfront.symm⟩
  · cases more with
    | nil => exact ⟨[], by rw [hword, List.append_nil, List.append_nil]⟩
    | cons c more =>
      obtain ⟨rfl, -⟩ := List.cons.inj hrest
      exact absurd (hword ▸ List.mem_append_right front List.mem_cons_self) hquote

/-- Behind a quote the word is replaced, if it does not stand before the quote. -/
theorem replaceFirst_quoted {quote : Char} (hquote : quote ∉ word) (hword : word ≠ [])
    {before : List Char} (hbefore : ¬ word <:+: before) (replacement rest : List Char) :
    replaceFirst word replacement (before ++ quote :: (word ++ rest)) =
      before ++ quote :: (replacement ++ rest) := by
  induction before with
  | nil =>
    have hnone : ¬ word <+: [] ++ quote :: (word ++ rest) := fun h ↦
      hbefore (prefix_of_prefix_append hquote h).isInfix
    rw [List.nil_append] at hnone
    rw [List.nil_append, replaceFirst_cons hnone, replaceFirst_append hword, List.nil_append]
  | cons c before ih =>
    have hnone : ¬ word <+: (c :: before) ++ quote :: (word ++ rest) := fun h ↦
      hbefore (prefix_of_prefix_append hquote h).isInfix
    rw [List.cons_append] at hnone
    rw [List.cons_append, replaceFirst_cons hnone,
      ih fun h ↦ hbefore (h.trans (List.suffix_cons c before).isInfix), List.cons_append]

end Text

/-! ### The link to the main module -/

namespace ProjectConfig

/-- A character that is no part of the folders of the main module and no slash is in its path if it
is in a name of the directory of the project. -/
theorem not_mem_mainModulePath_iff {config : ProjectConfig} {c : Char} (hslash : ¬ IsSlash c)
    (hfolders : ∀ name ∈ ["node_modules".toList, ".uvue".toList, "main.js".toList], c ∉ name) :
    c ∉ config.mainModulePath.normalized ↔ ∀ name ∈ config.root.names, c ∉ name := by
  rw [AbsolutePath.mem_normalized_iff hslash, Generation.names_mainModulePath]
  constructor
  · intro h name hname hmem
    exact h ⟨name, List.mem_append_left _ hname, hmem⟩
  · rintro h ⟨name, hname, hmem⟩
    rcases List.mem_append.mp hname with hname | hname
    · exact h name hname hmem
    · exact hfolders name hname hmem

/-- Where the first `./main` of a file stands between quotes, the path of the main module stands
between the same quotes afterwards, and nothing else is changed. There it is a string that holds the
path exactly if no name of the directory of the project has the quote or a line end in it, for the
path is put without escapes. A file without `./main` is left as it is. -/
theorem linkBootstrap_literal (config : ProjectConfig) {quote : Char}
    (hquote : Lexeme.IsQuote quote) {before : List Char} (hfirst : ¬ mainImport <:+: before)
    (after : List Char) :
    config.linkBootstrap (before ++ quote :: (mainImport ++ quote :: after)) =
      before ++ quote :: (config.mainModulePath.normalized ++ quote :: after) ∧
    (∀ afterLineEnd, (Lexeme.read before.length afterLineEnd
        (quote :: (config.mainModulePath.normalized ++ quote :: after))).Is .string
          config.mainModulePath.normalized after ↔
      ∀ name ∈ config.root.names, quote ∉ name ∧ '\n' ∉ name ∧ '\r' ∉ name) ∧
    ∀ content, ¬ mainImport <:+: content → config.linkBootstrap content = content := by
  have hword : quote ∉ mainImport := by
    rcases hquote with rfl | rfl
    · decide
    · decide
  have hends : quote ∉ config.mainModulePath.normalized ↔
      ∀ name ∈ config.root.names, quote ∉ name := by
    rcases hquote with rfl | rfl
    · exact not_mem_mainModulePath_iff (by decide) (by decide)
    · exact not_mem_mainModulePath_iff (by decide) (by decide)
  have hnewline : '\n' ∉ config.mainModulePath.normalized ↔
      ∀ name ∈ config.root.names, '\n' ∉ name :=
    not_mem_mainModulePath_iff (by decide) (by decide)
  have hreturn : '\r' ∉ config.mainModulePath.normalized ↔
      ∀ name ∈ config.root.names, '\r' ∉ name :=
    not_mem_mainModulePath_iff (by decide) (by decide)
  have hpath : (∀ c ∈ config.mainModulePath.normalized, c ≠ quote ∧ c ≠ '\n' ∧ c ≠ '\r') ↔
      ∀ name ∈ config.root.names, quote ∉ name ∧ '\n' ∉ name ∧ '\r' ∉ name := by
    simp only [imp_and, forall_and, ne_eq, List.forall_mem_ne']
    rw [hends, hnewline, hreturn]
  refine ⟨Text.replaceFirst_quoted hword (by decide) hfirst _ _, fun afterLineEnd ↦ ?_,
    fun content hnone ↦ Text.replaceFirst_of_not_infix hnone _⟩
  exact (Lexeme.read_quoted_iff hquote (backslash_not_mem_slashed _) _ _ _).trans hpath

/-- What stands before the first `./main` of a file that starts an app. -/
def bootstrapHead : List Char := "import createApp from ".toList

/-- What stands behind it, with a second `./main`. -/
def bootstrapRest : List Char := ";\nconst other = './main';\n".toList

/-- The file. -/
def bootstrapFile : List Char :=
  bootstrapHead ++ '\x27' :: (mainImport ++ '\x27' :: bootstrapRest)

theorem linkBootstrap_bootstrapFile : ∃ config,
    ofJson ⟨.top, "/my \"project\"".toList⟩ Json.emptyObject = .ok config ∧
    ¬ mainImport <:+: bootstrapHead ∧
    config.linkBootstrap bootstrapFile = bootstrapHead ++
      '\x27' :: (config.mainModulePath.normalized ++ '\x27' :: bootstrapRest) ∧
    (Lexeme.read bootstrapHead.length false
      ('\x27' :: (config.mainModulePath.normalized ++ '\x27' :: bootstrapRest))).Is .string
        "/my \"project\"/node_modules/.uvue/main.js".toList bootstrapRest := by
  have haccepted : ofJson ⟨.top, "/my \"project\"".toList⟩ Json.emptyObject = .ok _ := rfl
  have hfirst : ¬ mainImport <:+: bootstrapHead := by decide +kernel
  obtain ⟨hlinked, hstring, -⟩ := linkBootstrap_literal _ (.inr rfl) hfirst bootstrapRest
  exact ⟨_, haccepted, hfirst, hlinked, (hstring false).mpr (by decide +kernel)⟩

/-- In a directory with an apostrophe in its name, a file that was a program is none once it has been
linked, for its string has ended within the path. -/
theorem linkBootstrap_apostropheRoot : ∃ config,
    ofJson ⟨.top, "/it's".toList⟩ Json.emptyObject = .ok config ∧
    (parseProgram ⟨true, false, true⟩ bootstrapFile).isSome ∧
    parseProgram ⟨true, false, true⟩ (config.linkBootstrap bootstrapFile) = none ∧
    (Lexeme.read bootstrapHead.length false
      ((config.linkBootstrap bootstrapFile).drop bootstrapHead.length)).value = "/it".toList := by
  have haccepted : ofJson ⟨.top, "/it's".toList⟩ Json.emptyObject = .ok _ := rfl
  exact ⟨_, haccepted, by decide +kernel, by decide +kernel, by decide +kernel⟩

end ProjectConfig

end SsrBuild
