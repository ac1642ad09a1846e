import Mathlib.Data.List.Basic
import Mathlib.Tactic.Common
import SsrBuild.MainModule.Code

/-!
Reading a main module back. A reader takes the text apart into lines and each line into the words
around a literal (`read?`). Literals end where they were meant to and stay on their line
(`literal?_append`, `newline_not_mem_literal`), so every line of the module is a line of the text
(`splitOn_text`), and what is read is what was written but for carriage returns (`read?_text`).
-/

set_option autoImplicit false

namespace SsrBuild.MainModule

/-! ### Literals -/

/-- A text without its carriage returns. -/
def withoutReturns (text : List Char) : List Char := text.filter (· != '\r')

/-- The character that a letter behind a backslash stands for. -/
def escaped? : Char → Option Char
  | '\\' => some '\\'
  | '"' => some '"'
  | 'n' => some '\n'
  | _ => none

/-- Reads a literal from behind its first quote on: its value, and what stands behind its last
quote. A literal does not go beyond its line. -/
def literalBody? : List Char → Option (List Char × List Char)
  | [] => none
  | '"' :: rest => some ([], rest)
  | '\n' :: _ => none
  | '\\' :: letter :: rest => do
    let c ← escaped? letter
    (literalBody? rest).map fun found ↦ (c :: found.1, found.2)
  | c :: rest => (literalBody? rest).map fun found ↦ (c :: found.1, found.2)

/-- Reads a literal: its value, and what stands behind it. -/
def literal? : List Char → Option (List Char × List Char)
  | '"' :: rest => literalBody? rest
  | _ => none

/-- A character is one of the four that are not written as they are, or it is written as it is. -/
theorem literalChar_cases (c : Char) :
    c = '\\' ∨ c = '"' ∨ c = '\n' ∨ c = '\r' ∨
      (c ≠ '\\' ∧ c ≠ '"' ∧ c ≠ '\n' ∧ c ≠ '\r' ∧ literalChar c = [c]) := by
  unfold literalChar
  split
  · simp
  · simp
  · simp
  · simp
  · next hbackslash hquote hnewline hreturn =>
    exact .inr (.inr (.inr (.inr ⟨hbackslash, hquote, hnewline, hreturn, rfl⟩)))

/-- What is written for a character is read as the character, if it is no carriage return. -/
theorem literalBody?_literalChar_append (c : Char) (rest : List Char) :
    literalBody? (literalChar c ++ rest) = if c = '\r' then literalBody? rest
      else (literalBody? rest).map fun found ↦ (c :: found.1, found.2) := by
  obtain rfl | rfl | rfl | rfl | ⟨hbackslash, hquote, hnewline, hreturn, hself⟩ :=
    literalChar_cases c
  · rfl
  · rfl
  · rfl
  · rfl
  · rw [hself, if_neg hreturn, List.singleton_append, literalBody?.eq_def]
    simp_all

/-- What is written for a text is read as the text. -/
theorem literalBody?_append (text rest : List Char) :
    literalBody? (text.flatMap literalChar ++ '"' :: rest) = some (withoutReturns text, rest) := by
  induction text with
  | nil => rfl
  | cons c text ih =>
    rw [List.flatMap_cons, List.append_assoc, literalBody?_literalChar_append, ih]
    by_cases hreturn : c = '\r'
    · simp [withoutReturns, hreturn]
    · simp [withoutReturns, hreturn]

/-- A literal is read to its end and no further, whatever stands behind it. -/
theorem literal?_append (text rest : List Char) :
    literal? (literal text ++ rest) = some (withoutReturns text, rest) := by
  unfold literal literal?
  rw [List.cons_append, List.append_assoc]
  exact literalBody?_append text rest

/-- A literal stays on its line. -/
theorem newline_not_mem_literal (text : List Char) : '\n' ∉ literal text := by
  have hchar : ∀ c, '\n' ∉ literalChar c := by
    intro c
    obtain rfl | rfl | rfl | rfl | ⟨-, -, hnewline, -, hself⟩ := literalChar_cases c
    · decide
    · decide
    · decide
    · decide
    · rw [hself, List.mem_singleton]
      exact hnewline.symm
  have hbody : '\n' ∉ text.flatMap literalChar := by
    simpa [List.mem_flatMap] using fun c _ ↦ hchar c
  unfold literal
  simpa using hbody

/-- Carriage returns make no difference to a literal. -/
theorem literal_withoutReturns (text : List Char) :
    literal (withoutReturns text) = literal text := by
  have hbody : (withoutReturns text).flatMap literalChar = text.flatMap literalChar := by
    induction text with
    | nil => rfl
    | cons c text ih =>
      by_cases hreturn : c = '\r'
      · subst hreturn
        simpa [withoutReturns, literalChar] using ih
      · simpa [withoutReturns, hreturn] using ih
  unfold literal
  rw [hbody]

/-! ### Lines -/

/-- Reads a line that is a literal between two stretches of text. -/
def between? (before after line : List Char) : Option (List Char) := do
  let (value, rest) ← literal? (← before.isPrefixOf? line)
  if rest = after then some value else none

/-- Reads a statement that loads a module. -/
def require? (line : List Char) : Option (List Char) :=
  between? "require(".toList ");".toList line

/-- Reads a statement that registers a plugin: its module, and the place of its options. -/
def registration? (line : List Char) : Option (List Char × Nat) := do
  let (path, rest) ← literal? (← "UVue.use(interopDefault(require(".toList.isPrefixOf? line)
  let number ← ")), uvuePlugins[".toList.isPrefixOf? rest
  let digits := number.takeWhile Char.isDigit
  if number.drop digits.length = "][1]);".toList ∧ digits ≠ [] then
    some (path, Nat.ofDigitChars 10 digits 0)
  else none

/-- A literal between two stretches of text is read from the line. -/
theorem between?_append (before after text : List Char) :
    between? before after (before ++ literal text ++ after) = some (withoutReturns text) := by
  have hbefore : before.isPrefixOf? (before ++ literal text ++ after) =
      some (literal text ++ after) := by
    rw [List.isPrefixOf?_eq_some_iff_append_eq, List.append_assoc]
  simp only [between?, hbefore, Option.bind_eq_bind, Option.bind_some, literal?_append, if_pos]

/-- The line that loads a module. -/
def requireLine (path : List Char) : List Char := required path ++ [';']

/-- The line that registers a plugin. -/
def registrationLine (path : List Char) (place : Nat) : List Char :=
  "UVue.use(interopDefault(".toList ++ required path ++ "), uvuePlugins[".toList ++
    decimalDigits place ++ "][1]);".toList

theorem requireLine_eq (path : List Char) :
    requireLine path = "require(".toList ++ literal path ++ ");".toList :=
  List.append_assoc _ ")".toList [';']

theorem registrationLine_eq (path : List Char) (place : Nat) :
    registrationLine path place = "UVue.use(interopDefault(require(".toList ++
      (literal path ++ (")), uvuePlugins[".toList ++
        (decimalDigits place ++ "][1]);".toList))) := by
  have hbefore : "UVue.use(interopDefault(require(".toList =
      "UVue.use(interopDefault(".toList ++ "require(".toList := by decide +kernel
  have hbetween : ")), uvuePlugins[".toList = ")".toList ++ "), uvuePlugins[".toList := by
    decide +kernel
  rw [hbefore, hbetween]
  unfold registrationLine required
  simp only [List.append_assoc]

theorem require?_requireLine (path : List Char) :
    require? (requireLine path) = some (withoutReturns path) := by
  rw [require?, requireLine_eq, between?_append]

theorem registration?_registrationLine (path : List Char) (place : Nat) :
    registration? (registrationLine path place) = some (withoutReturns path, place) := by
  have hline := registrationLine_eq path place
  set digits := decimalDigits place with hplace
  have hdigits : (digits ++ "][1]);".toList).takeWhile Char.isDigit = digits := by
    have hall : ∀ c ∈ digits, c.isDigit = true := fun c hc ↦
      Nat.isDigit_of_mem_toDigits (b := 10) (by decide) (by decide) hc
    rw [List.takeWhile_append_of_pos hall]
    exact List.append_nil digits
  have hnumber : Nat.ofDigitChars 10 digits 0 = place := Nat.ofDigitChars_ten_toDigits
  have hne : digits ≠ [] := Nat.toDigits_ne_nil
  unfold registration?
  rw [hline, List.isPrefixOf?_eq_some_iff_append_eq.mpr rfl]
  simp only [Option.bind_eq_bind, Option.bind_some, literal?_append,
    List.isPrefixOf?_eq_some_iff_append_eq.mpr rfl]
  rw [hdigits, List.drop_left, if_pos ⟨rfl, hne⟩, hnumber]

/-! ### The lines of a module -/

/-- The line that exports the app. -/
def exportLine : List Char := "export \x7b createApp \x7d;".toList

/-- The line behind which the modules for clients only are loaded. -/
def openingLine : List Char := "if (process.client) \x7b".toList

/-- The line before which the modules for clients only are loaded. -/
def closingLine : List Char := "\x7d".toList

/-- The lines that load some modules; without any, an empty line. -/
def groupLines (paths : List (List Char)) : List (List Char) :=
  if paths.isEmpty then [[]] else paths.map requireLine

/-- The lines that register the plugins, if there are any. They end in an empty line. -/
def registryLines (config : List Char) (plugins : List (List Char)) : List (List Char) :=
  if plugins.isEmpty then []
  else
    ("import UVue from ".toList ++ literal pluginHost ++ ";".toList) ::
      ("import uvueConfig from ".toList ++ literal config ++ ";".toList) ::
      pluginPairs.dropLast :: defaultOf.dropLast ::
      (plugins.zipIdx.map (fun plugin ↦ registrationLine plugin.1 plugin.2) ++ [[]])

/-- The lines of a main module. -/
def lines (main : MainModule) : List (List Char) :=
  ("import createApp from ".toList ++ literal main.app ++ ";".toList) :: exportLine ::
    (groupLines main.imports ++ openingLine ::
      (groupLines main.clientImports ++ closingLine :: registryLines main.config main.plugins))

/-- Lines with line ends between them, and one more behind, all end in one. -/
theorem intercalate_append_newline {lines : List (List Char)} (h : lines ≠ []) :
    ['\n'].intercalate lines ++ ['\n'] = lines.flatMap (· ++ ['\n']) := by
  induction lines with
  | nil => exact absurd rfl h
  | cons line rest ih =>
    by_cases hrest : rest = []
    · subst hrest
      simp
    · rw [List.intercalate_cons_of_ne_nil hrest, List.append_assoc, ih hrest, List.flatMap_cons]

/-- The statements of a group with a line end behind them are its lines. -/
theorem requireLines_append_newline (paths : List (List Char)) :
    requireLines paths ++ ['\n'] = (groupLines paths).flatMap (· ++ ['\n']) := by
  cases paths with
  | nil => rfl
  | cons path rest => exact intercalate_append_newline (List.cons_ne_nil _ _)

/-- The registrations with a line end behind them are what stands behind the end of a line. -/
theorem pluginLines_append_newline (config : List Char) (plugins : List (List Char)) :
    pluginLines config plugins ++ ['\n'] =
      '\n' :: (registryLines config plugins).flatMap (· ++ ['\n']) := by
  unfold pluginLines registryLines
  by_cases hempty : plugins.isEmpty
  · rw [if_pos hempty, if_pos hempty]
    rfl
  · have hregistrations : ∀ line : List Char × Nat → List Char,
        (∀ plugin, line plugin = registration plugin.1 plugin.2) →
          plugins.zipIdx.flatMap line = (plugins.zipIdx.map fun plugin ↦
            registrationLine plugin.1 plugin.2).flatMap (· ++ ['\n']) := by
      intro line hline
      rw [List.flatMap_map]
      congr 1
      funext plugin
      rw [hline]
      unfold registration registrationLine
      rw [List.append_assoc _ _ ['\n']]
      rfl
    have hhost : "\nimport UVue from ".toList = '\n' :: "import UVue from ".toList := rfl
    have hconfig : ";\nimport uvueConfig from ".toList =
        ";".toList ++ '\n' :: "import uvueConfig from ".toList := rfl
    have hend : ";\n".toList = ";".toList ++ ['\n'] := rfl
    have hpairs : pluginPairs = pluginPairs.dropLast ++ ['\n'] := by decide +kernel
    have hinterop : defaultOf = defaultOf.dropLast ++ ['\n'] := by decide +kernel
    rw [if_neg hempty, if_neg hempty, hregistrations _ fun plugin ↦ rfl, hhost, hconfig, hend]
    simp only [List.flatMap_cons, List.flatMap_append, List.flatMap_nil, ← hpairs, ← hinterop,
      List.append_assoc, List.cons_append, List.nil_append, List.append_nil]

/-- A main module is its lines. -/
theorem text_eq_intercalate (main : MainModule) : main.text = ['\n'].intercalate main.lines := by
  have hne : main.lines ≠ [] := List.cons_ne_nil _ _
  refine (List.append_left_inj ['\n']).mp ?_
  rw [intercalate_append_newline hne]
  unfold text lines exportLines clientBlock
  simp only [List.flatMap_cons, List.flatMap_append, ← requireLines_append_newline,
    List.append_assoc, List.cons_append, pluginLines_append_newline]
  rfl

/-- A line around a literal holds no line end of its own. -/
theorem newline_not_mem_around {before after : List Char} (text : List Char)
    (hbefore : '\n' ∉ before) (hafter : '\n' ∉ after) :
    '\n' ∉ before ++ literal text ++ after := by
  have hliteral := newline_not_mem_literal text
  simp only [List.mem_append, not_or]
  exact ⟨⟨hbefore, hliteral⟩, hafter⟩

/-- No line of a group holds a line end. -/
theorem newline_not_mem_groupLines (paths : List (List Char)) :
    ∀ line ∈ groupLines paths, '\n' ∉ line := by
  unfold groupLines
  split_ifs
  · simp
  · intro line hline
    obtain ⟨path, -, rfl⟩ := List.mem_map.mp hline
    rw [requireLine_eq]
    exact newline_not_mem_around path (by decide) (by decide)

/-- No line that registers a plugin holds a line end. -/
theorem newline_not_mem_registrationLine (path : List Char) (place : Nat) :
    '\n' ∉ registrationLine path place := by
  have hdigits : '\n' ∉ decimalDigits place := fun hmem ↦ by
    have hdigit := Nat.isDigit_of_mem_toDigits (b := 10) (by decide) (by decide) hmem
    cases hdigit
  rw [registrationLine_eq, ← List.append_assoc]
  refine newline_not_mem_around path (by decide) ?_
  simp only [List.mem_append, not_or]
  exact ⟨by decide, hdigits, by decide⟩

/-- No line of a main module holds a line end. -/
theorem newline_not_mem_lines (main : MainModule) : ∀ line ∈ main.lines, '\n' ∉ line := by
  have hregistry : ∀ line ∈ registryLines main.config main.plugins, '\n' ∉ line := by
    unfold registryLines
    split_ifs
    · simp
    · have hpairs : '\n' ∉ pluginPairs.dropLast := by decide +kernel
      have hinterop : '\n' ∉ defaultOf.dropLast := by decide +kernel
      simp only [List.forall_mem_cons, List.forall_mem_append]
      refine ⟨newline_not_mem_around _ (by decide) (by decide),
        newline_not_mem_around _ (by decide) (by decide), hpairs, hinterop, ?_, List.not_mem_nil,
        by simp⟩
      intro line hline
      obtain ⟨plugin, -, rfl⟩ := List.mem_map.mp hline
      exact newline_not_mem_registrationLine plugin.1 plugin.2
  unfold lines
  simp only [List.forall_mem_cons, List.forall_mem_append]
  exact ⟨newline_not_mem_around _ (by decide) (by decide), by decide,
    newline_not_mem_groupLines _, by decide, newline_not_mem_groupLines _, by decide, hregistry⟩

/-- The lines of the text are those of the main module, whatever its parts hold. -/
theorem splitOn_text (main : MainModule) : main.text.splitOn '\n' = main.lines := by
  rw [text_eq_intercalate, List.splitOn_intercalate '\n' (newline_not_mem_lines main)
    (List.cons_ne_nil _ _)]

/-! ### The reader -/

/-- What is read from a main module. -/
structure Contents where
  app : List Char
  imports : List (List Char)
  clientImports : List (List Char)
  /-- The configuration and the plugins, each with the place of its options, if there are any. -/
  registry : Option (List Char × List (List Char × Nat))
  deriving DecidableEq, Repr

/-- Reads the first of some lines. -/
def next? {α : Type} (read : List Char → Option α) : List (List Char) →
    Option (α × List (List Char))
  | [] => none
  | line :: rest => (read line).map fun value ↦ (value, rest)

/-- Reads a line that is always the same. -/
def exactly? (wanted line : List Char) : Option Unit :=
  if line = wanted then some () else none

/-- Reads as many lines as there are that load modules. -/
def requires : List (List Char) → List (List Char) × List (List Char)
  | [] => ([], [])
  | line :: rest =>
    match require? line with
    | some path => (path :: (requires rest).1, (requires rest).2)
    | none => ([], line :: rest)

/-- Reads a group of lines that load modules. An empty line is a group that loads none. -/
def group? : List (List Char) → Option (List (List Char) × List (List Char))
  | [] :: rest => some ([], rest)
  | lines => if (requires lines).1.isEmpty then none else some (requires lines)

/-- Reads registrations up to the empty line at the end. -/
def registrations? : List (List Char) → Option (List (List Char × Nat))
  | [] => none
  | [[]] => some []
  | line :: rest => do
    let plugin ← registration? line
    (registrations? rest).map (plugin :: ·)

/-- Reads what registers the plugins. Without any plugin there is no line of it. -/
def registered? : List (List Char) → Option (Option (List Char × List (List Char × Nat)))
  | [] => some none
  | lines => do
    let (_, lines) ← next? (exactly? "import UVue from \"@uvue/core\";".toList) lines
    let (config, lines) ← next? (between? "import uvueConfig from ".toList ";".toList) lines
    let (_, lines) ← next? (exactly? pluginPairs.dropLast) lines
    let (_, lines) ← next? (exactly? defaultOf.dropLast) lines
    let plugins ← registrations? lines
    return some (config, plugins)

/-- Reads a main module, line by line. -/
def read? (text : List Char) : Option Contents := do
  let (app, lines) ← next? (between? "import createApp from ".toList ";".toList) (text.splitOn '\n')
  let (_, lines) ← next? (exactly? exportLine) lines
  let (imports, lines) ← group? lines
  let (_, lines) ← next? (exactly? openingLine) lines
  let (clientImports, lines) ← group? lines
  let (_, lines) ← next? (exactly? closingLine) lines
  return ⟨app, imports, clientImports, ← registered? lines⟩

/-- The first line is read, and the others are left. -/
theorem next?_cons {α : Type} {read : List Char → Option α} {line : List Char} {value : α}
    (h : read line = some value) (rest : List (List Char)) :
    next? read (line :: rest) = some (value, rest) := by
  rw [next?, h, Option.map_some]

/-- A line that is always the same is read. -/
theorem exactly?_self (line : List Char) : exactly? line line = some () := if_pos rfl

/-- The lines of a group are read to the line behind it. -/
theorem requires_append {stop : List Char} (hstop : require? stop = none) (paths : List (List Char))
    (rest : List (List Char)) :
    requires (paths.map requireLine ++ stop :: rest) =
      (paths.map withoutReturns, stop :: rest) := by
  induction paths with
  | nil => simp [requires, hstop]
  | cons path paths ih => simp [requires, require?_requireLine, ih]

/-- A group is read to the line behind it. -/
theorem group?_append {stop : List Char} (hstop : require? stop = none) (paths : List (List Char))
    (rest : List (List Char)) :
    group? (groupLines paths ++ stop :: rest) =
      some (paths.map withoutReturns, stop :: rest) := by
  cases paths with
  | nil => rfl
  | cons path paths =>
    have hread := requires_append hstop (path :: paths) rest
    unfold groupLines
    rw [if_neg (by simp), List.map_cons, List.cons_append, group?, ← List.cons_append,
      ← List.map_cons, hread]
    · rfl
    · intro others hempty
      cases (List.cons.inj hempty).1

/-- Registrations are read to the end, each with its place. -/
theorem registrations?_append (plugins : List (List Char × Nat)) :
    registrations? (plugins.map (fun plugin ↦ registrationLine plugin.1 plugin.2) ++ [[]]) =
      some (plugins.map fun plugin ↦ (withoutReturns plugin.1, plugin.2)) := by
  induction plugins with
  | nil => rfl
  | cons plugin plugins ih =>
    have hne : registrationLine plugin.1 plugin.2 ≠ [] := List.cons_ne_nil _ _
    rw [List.map_cons, List.cons_append, registrations?, registration?_registrationLine,
      Option.bind_eq_bind, Option.bind_some, ih]
    · rfl
    · exact fun hempty ↦ absurd hempty hne

/-- What registers the plugins is read as it was written. -/
theorem registered?_registryLines (config : List Char) (plugins : List (List Char)) :
    registered? (registryLines config plugins) = some (if plugins.isEmpty then none
      else some (withoutReturns config, (plugins.map withoutReturns).zipIdx)) := by
  unfold registryLines
  split_ifs
  · rfl
  · have hhost : exactly? "import UVue from \"@uvue/core\";".toList
        ("import UVue from ".toList ++ literal pluginHost ++ ";".toList) = some () := by
      decide +kernel
    have hplugins := registrations?_append plugins.zipIdx
    have hplaces : plugins.zipIdx.map (fun plugin ↦ (withoutReturns plugin.1, plugin.2)) =
        (plugins.map withoutReturns).zipIdx := by
      rw [List.zipIdx_map]
      rfl
    rw [hplaces] at hplugins
    rw [registered?, next?_cons hhost, Option.bind_eq_bind, Option.bind_some]
    · refine Option.bind_eq_some_iff.mpr ⟨_, next?_cons (between?_append _ _ config) _, ?_⟩
      refine Option.bind_eq_some_iff.mpr ⟨_, next?_cons (exactly?_self _) _, ?_⟩
      refine Option.bind_eq_some_iff.mpr ⟨_, next?_cons (exactly?_self _) _, ?_⟩
      exact Option.bind_eq_some_iff.mpr ⟨_, hplugins, rfl⟩
    · exact List.cons_ne_nil _ _

/-- What a main module holds, without carriage returns. The configuration counts only for its
plugins. -/
def contents (main : MainModule) : Contents where
  app := withoutReturns main.app
  imports := main.imports.map withoutReturns
  clientImports := main.clientImports.map withoutReturns
  registry := if main.plugins.isEmpty then none
    else some (withoutReturns main.config, (main.plugins.map withoutReturns).zipIdx)

/-- What is read from the text of a main module is what the main module holds. -/
theorem read?_text (main : MainModule) : read? main.text = some main.contents := by
  have hopening : require? openingLine = none := by decide +kernel
  have hclosing : require? closingLine = none := by decide +kernel
  unfold read?
  rw [splitOn_text, lines]
  refine Option.bind_eq_some_iff.mpr ⟨_, next?_cons (between?_append _ _ main.app) _, ?_⟩
  refine Option.bind_eq_some_iff.mpr ⟨_, next?_cons (exactly?_self _) _, ?_⟩
  refine Option.bind_eq_some_iff.mpr ⟨_, group?_append hopening main.imports _, ?_⟩
  refine Option.bind_eq_some_iff.mpr ⟨_, next?_cons (exactly?_self _) _, ?_⟩
  refine Option.bind_eq_some_iff.mpr ⟨_, group?_append hclosing main.clientImports _, ?_⟩
  refine Option.bind_eq_some_iff.mpr ⟨_, next?_cons (exactly?_self _) _, ?_⟩
  exact Option.bind_eq_some_iff.mpr ⟨_, registered?_registryLines main.config main.plugins, rfl⟩

/-! ### Texts and contents -/

/-- The main module that holds some contents. -/
def Contents.module (contents : Contents) : MainModule where
  app := contents.app
  imports := contents.imports
  clientImports := contents.clientImports
  config := (contents.registry.map Prod.fst).getD []
  plugins := ((contents.registry.map Prod.snd).getD []).map Prod.fst

/-- Carriage returns make no difference to a group. -/
theorem requireLines_withoutReturns (paths : List (List Char)) :
    requireLines (paths.map withoutReturns) = requireLines paths := by
  unfold requireLines required
  rw [List.map_map]
  simp only [Function.comp_def, literal_withoutReturns]

/-- Carriage returns make no difference to the registrations. -/
theorem pluginLines_withoutReturns (config : List Char) (plugins : List (List Char)) :
    pluginLines (withoutReturns config) (plugins.map withoutReturns) =
      pluginLines config plugins := by
  unfold pluginLines registration required
  simp only [List.isEmpty_map, List.zipIdx_map, List.flatMap_map, Prod.map, literal_withoutReturns,
    id]

/-- The text of a main module is that of its contents. -/
theorem text_contents (main : MainModule) : main.contents.module.text = main.text := by
  have hplugins : pluginLines main.contents.module.config main.contents.module.plugins =
      pluginLines main.config main.plugins := by
    unfold Contents.module contents
    by_cases hempty : main.plugins.isEmpty
    · rw [if_pos hempty]
      unfold pluginLines
      rw [if_pos hempty]
      rfl
    · rw [if_neg hempty]
      simpa only [Option.map_some, Option.getD_some, List.zipIdx_map_fst] using
        pluginLines_withoutReturns main.config main.plugins
  unfold text
  rw [hplugins]
  unfold exportLines clientBlock Contents.module contents
  simp only [literal_withoutReturns, requireLines_withoutReturns]

end SsrBuild.MainModule

namespace SsrBuild

open MainModule

/-- What the main module of a configuration says: the paths of the configuration without carriage
returns, in the order in which they were declared. -/
def ProjectConfig.moduleContents (config : ProjectConfig) : MainModule.Contents where
  app := withoutReturns config.mainPath
  imports := (config.imports.filter (·.ssrEligible)).map fun entry ↦ withoutReturns entry.sourcePath
  clientImports := (config.imports.filter (!·.ssrEligible)).map fun entry ↦
    withoutReturns entry.sourcePath
  registry := if config.plugins = [] then none
    else some (withoutReturns config.configPath.normalized,
      (config.plugins.map fun plugin ↦ withoutReturns plugin.modulePath).zipIdx)

/-- The contents of the main module of a configuration are what it says. -/
theorem ProjectConfig.contents_ofConfig (config : ProjectConfig) :
    (MainModule.ofConfig config).contents = config.moduleContents := by
  unfold MainModule.ofConfig MainModule.contents moduleContents
  simp only [List.map_map, List.isEmpty_map, List.isEmpty_iff, Function.comp_def]

/-- Whatever characters stand in a configuration, the lines of its main module are these: the app,
what is loaded everywhere up to the line that opens the block, what clients load up to the line that
closes it, and the registrations, if there are plugins. What is read from the module is what the
configuration declares, and configurations with the same main module declare the same. -/
theorem ProjectConfig.read?_mainCode (config : ProjectConfig) :
    config.mainCode.splitOn '\n' =
      ("import createApp from ".toList ++ literal config.mainPath ++ ";".toList) :: exportLine ::
        (groupLines ((config.imports.filter (·.ssrEligible)).map (·.sourcePath)) ++ openingLine ::
          (groupLines ((config.imports.filter (!·.ssrEligible)).map (·.sourcePath)) ++
            closingLine ::
              registryLines config.configPath.normalized (config.plugins.map (·.modulePath)))) ∧
    read? config.mainCode = some config.moduleContents ∧
    ∀ other : ProjectConfig, other.mainCode = config.mainCode ↔
      other.moduleContents = config.moduleContents := by
  have hread : ∀ config : ProjectConfig, read? config.mainCode = some config.moduleContents := by
    intro config
    rw [← config.contents_ofConfig]
    exact read?_text _
  refine ⟨splitOn_text _, hread config, fun other ↦ ⟨fun hcode ↦ ?_, fun hcontents ↦ ?_⟩⟩
  · have hother := hread other
    rw [hcode, hread config] at hother
    exact (Option.some.inj hother).symm
  · unfold mainCode
    rw [← text_contents (ofConfig other), other.contents_ofConfig, hcontents,
      ← config.contents_ofConfig, text_contents]

end SsrBuild
