import SsrBuild.Proofs.Grammar.Scanning
import SsrBuild.Proofs.MainModule.Reading

/-!
What a main module names, as a program is read. A literal is one token, and its value is the text
without carriage returns (`read_literal`). All the rest of a main module is written from pieces that
fit, so the whole module can be read token by token, and the strings behind `from` and in the calls
of `require` are those of its paths (`names_text`).
-/

set_option autoImplicit false

namespace SsrBuild.MainModule

open Grammar Grammar.Lexeme

/-! ### Literals as tokens -/

/-- What is written for a character is read as the character, if it is no carriage return. -/
theorem readString_literalChar_append (c : Char) (rest read : List Char) (offset : Nat) :
    readString '"' 0 offset read true (literalChar c ++ rest) =
      readString '"' 0 (offset + (literalChar c).length) ((withoutReturns [c]).reverse ++ read) true
        rest := by
  obtain rfl | rfl | rfl | rfl | ⟨hbackslash, hquote, hnewline, hreturn, hself⟩ :=
    literalChar_cases c
  · rfl
  · rfl
  · rfl
  · rfl
  · rw [hself, List.singleton_append, readString_cons hquote hbackslash hnewline hreturn]
    simp [withoutReturns, hreturn]

/-- What is written for a text is read as the text. -/
theorem readString_append (text rest read : List Char) (offset : Nat) :
    readString '"' 0 offset read true (text.flatMap literalChar ++ '"' :: rest) =
      some ⟨read.reverse ++ withoutReturns text, true,
        offset + (text.flatMap literalChar).length + 1, rest⟩ := by
  induction text generalizing offset read with
  | nil => simp [readString, withoutReturns]
  | cons c text ih =>
    have hvalue : ((withoutReturns [c]).reverse ++ read).reverse ++ withoutReturns text =
        read.reverse ++ withoutReturns (c :: text) := by
      rw [List.reverse_append, List.reverse_reverse, List.append_assoc, withoutReturns,
        withoutReturns, withoutReturns, ← List.filter_append, List.singleton_append]
    rw [List.flatMap_cons, List.append_assoc, readString_literalChar_append, ih, hvalue,
      List.length_append, Nat.add_assoc offset]

/-- A literal is one token, whatever stands behind it. -/
theorem read_literal (text rest : List Char) (start : Nat) (afterLineEnd : Bool) :
    Lexeme.read start afterLineEnd (literal text ++ rest) =
      { token := .string, start, stop := start + (literal text).length, afterLineEnd,
        value := withoutReturns text, escaped := false, cooked := true, isPaired := true,
        sound := true, text := literal text ++ rest, rest } := by
  have hlength : start + 1 + (text.flatMap literalChar).length + 1 =
      start + (literal text).length := by
    simp [literal]
    omega
  have hstring := readString_append text rest [] (start + 1)
  rw [hlength] at hstring
  have hcons : literal text ++ rest = '"' :: (text.flatMap literalChar ++ '"' :: rest) := by
    simp [literal]
  rw [hcons, Lexeme.read]
  dsimp only
  rw [if_pos (by decide), hstring]
  rfl

theorem scans_literal {text rest : List Char} {tokens : List (Token × List Char)}
    (h : Scans rest tokens) :
    Scans (literal text ++ rest) ((.string, withoutReturns text) :: tokens) := by
  have hread : ∀ start afterLineEnd,
      (Lexeme.read start afterLineEnd (literal text ++ rest)).Is .string (withoutReturns text)
        rest := by
    intro start afterLineEnd
    rw [read_literal]
    exact ⟨rfl, rfl, rfl, rfl, rfl⟩
  exact h.first (by decide) (by decide) (by decide) hread

/-! ### Replacements one after the other -/

/-- A text with a text in the place of a character, wherever it stands. -/
def substituted (found : Char) (replacement text : List Char) : List Char :=
  text.flatMap fun c ↦ if c = found then replacement else [c]

/-- A literal is what four replacements leave of the text, between quotes. No replacement touches
what the ones before it have put in, but for backslashes, which are replaced first. -/
theorem literal_eq_substituted (text : List Char) :
    literal text = '"' :: (substituted '\r' [] (substituted '\n' ['\\', 'n']
      (substituted '"' ['\\', '"'] (substituted '\\' ['\\', '\\'] text))) ++ ['"']) := by
  have hchar : ∀ c, literalChar c = substituted '\r' [] (substituted '\n' ['\\', 'n']
      (substituted '"' ['\\', '"'] (substituted '\\' ['\\', '\\'] [c]))) := by
    intro c
    obtain rfl | rfl | rfl | rfl | ⟨hbackslash, hquote, hnewline, hreturn, hself⟩ :=
      literalChar_cases c
    · rfl
    · rfl
    · rfl
    · rfl
    · rw [hself]
      simp [substituted, hbackslash, hquote, hnewline, hreturn]
  have hbody : text.flatMap literalChar = substituted '\r' [] (substituted '\n' ['\\', 'n']
      (substituted '"' ['\\', '"'] (substituted '\\' ['\\', '\\'] text))) := by
    induction text with
    | nil => rfl
    | cons c text ih =>
      rw [List.flatMap_cons, hchar, ih]
      simp [substituted]
  rw [literal, hbody]

/-! ### Places of module names -/

/-- What stands before a token, as far as it makes a string the name of a module. -/
inductive Place
  | anywhere
  | behindRequire
  | specifier
  deriving DecidableEq

/-- The place behind a token. -/
def Place.behind : Place → Token → Place
  | _, .kwFrom => .specifier
  | _, .kwRequire => .behindRequire
  | .behindRequire, .lparen => .specifier
  | _, _ => .anywhere

/-- The modules that are named by tokens: the strings behind `from`, and behind `require` with its
bracket. -/
def specifiers : Place → List (Token × List Char) → List (List Char)
  | _, [] => []
  | place, (token, value) :: tokens =>
    let others := specifiers (place.behind token) tokens
    if place = .specifier ∧ token = .string then value :: others else others

/-- The place behind several tokens. -/
def Place.behindAll (place : Place) (tokens : List (Token × List Char)) : Place :=
  tokens.foldl (fun place found ↦ place.behind found.1) place

theorem specifiers_append (place : Place) (first second : List (Token × List Char)) :
    specifiers place (first ++ second) =
      specifiers place first ++ specifiers (place.behindAll first) second := by
  induction first generalizing place with
  | nil => rfl
  | cons found first ih =>
    obtain ⟨token, value⟩ := found
    have hothers := ih (place.behind token)
    by_cases hname : place = .specifier ∧ token = .string
    · simpa [specifiers, hname, Place.behindAll] using hothers
    · simpa [specifiers, hname, Place.behindAll] using hothers

/-- The text can be read token by token, and its modules are these. -/
def Names (place : Place) (text : List Char) (paths : List (List Char)) : Prop :=
  ∃ tokens, Scans text tokens ∧ specifiers place tokens = paths

/-- Do pieces fit and lead from one place to another without a name? -/
def leads (before : Place) (pieces : List Piece) (behind : Place) : Bool :=
  let tokens := pieces.filterMap Piece.token?
  allFit pieces && (specifiers before tokens).isEmpty && before.behindAll tokens == behind

theorem Names.pieces (pieces : List Piece) (behind : Place) {before : Place} {rest : List Char}
    {paths : List (List Char)} (hleads : leads before pieces behind = true)
    (h : Names behind rest paths) : Names before (writtenText pieces ++ rest) paths := by
  obtain ⟨hpieces, hbehind⟩ := Bool.and_eq_true_iff.mp hleads
  obtain ⟨hfit, hnone⟩ := Bool.and_eq_true_iff.mp hpieces
  obtain ⟨tokens, hscans, hnames⟩ := h
  refine ⟨_, hscans.pieces hfit, ?_⟩
  rw [specifiers_append, List.isEmpty_iff.mp hnone, beq_iff_eq.mp hbehind, hnames]
  rfl

theorem Names.path {path rest : List Char} {paths : List (List Char)}
    (h : Names .anywhere rest paths) :
    Names .specifier (literal path ++ rest) (withoutReturns path :: paths) := by
  obtain ⟨tokens, hscans, hnames⟩ := h
  exact ⟨_, scans_literal hscans, congrArg (_ :: ·) hnames⟩

theorem Names.number {rest : List Char} {paths : List (List Char)} (n : Nat)
    (h : Names .anywhere (']' :: rest) paths) :
    Names .anywhere (decimalDigits n ++ ']' :: rest) paths := by
  obtain ⟨tokens, hscans, hnames⟩ := h
  exact ⟨_, hscans.number n, hnames⟩

theorem Names.newline {rest : List Char} {paths : List (List Char)} {place : Place}
    (h : Names place rest paths) : Names place ('\n' :: rest) paths := by
  obtain ⟨tokens, hscans, hnames⟩ := h
  exact ⟨tokens, hscans.blank (by decide), hnames⟩

/-! ### The pieces of a main module -/

/-- What stands before the path of a module that is imported. -/
def importPieces (name : List Char) : List Piece :=
  [.word "import".toList, .blank ' ', .word name, .blank ' ', .word "from".toList, .blank ' ']

/-- What stands behind the path of a module that is imported. -/
def importEnd : List Piece := [.single ';', .blank '\n']

/-- What stands behind the path of the app. -/
def exportPieces : List Piece :=
  [.single ';', .blank '\n', .word "export".toList, .blank ' ', .single '{', .blank ' ',
    .word "createApp".toList, .blank ' ', .single '}', .single ';', .blank '\n']

/-- What stands before the path of a module that is loaded. -/
def requirePieces : List Piece := [.word "require".toList, .single '(']

/-- What stands behind the path of a module that is loaded. -/
def requireEnd : List Piece := [.single ')', .single ';', .blank '\n']

/-- What stands before the modules for clients only. -/
def openingPieces : List Piece :=
  [.word "if".toList, .blank ' ', .single '(', .word "process".toList, .dot, .word "client".toList,
    .single ')', .blank ' ', .single '{', .blank '\n']

/-- The line that brings every plugin into the form of a pair. -/
def pairPieces : List Piece :=
  [.word "const".toList, .blank ' ', .word "uvuePlugins".toList, .blank ' ', .operator "=".toList,
    .blank ' ', .single '(', .word "uvueConfig".toList, .dot, .word "plugins".toList, .blank ' ',
    .operator "||".toList, .blank ' ', .single '[', .single ']', .single ')', .dot,
    .word "map".toList, .single '(', .word "plugin".toList, .blank ' ', .operator "=>".toList,
    .blank ' ', .single '(', .word "typeof".toList, .blank ' ', .word "plugin".toList, .blank ' ',
    .operator "===".toList, .blank ' ', .quoted "string".toList, .blank ' ',
    .operator "?".toList, .blank ' ', .single '[', .word "plugin".toList, .single ',', .blank ' ',
    .single '{', .single '}', .single ']', .blank ' ', .single ':', .blank ' ',
    .word "plugin".toList, .single ')', .single ')', .single ';', .blank '\n']

/-- The line that takes the default export out of a module. -/
def defaultPieces : List Piece :=
  [.word "const".toList, .blank ' ', .word "interopDefault".toList, .blank ' ',
    .operator "=".toList, .blank ' ', .word "module".toList, .blank ' ', .operator "=>".toList,
    .blank ' ', .single '(', .word "module".toList, .blank ' ', .operator "&&".toList, .blank ' ',
    .word "module".toList, .dot, .word "__esModule".toList, .blank ' ', .operator "?".toList,
    .blank ' ', .word "module".toList, .dot, .word "default".toList, .blank ' ', .single ':',
    .blank ' ', .word "module".toList, .single ')', .single ';', .blank '\n']

/-- What stands before the path of a plugin. -/
def registrationPieces : List Piece :=
  [.word "UVue".toList, .dot, .word "use".toList, .single '(', .word "interopDefault".toList,
    .single '(', .word "require".toList, .single '(']

/-- What stands between the path of a plugin and the place of its options. -/
def optionsPieces : List Piece :=
  [.single ')', .single ')', .single ',', .blank ' ', .word "uvuePlugins".toList, .single '[']

/-- What stands behind the place of the options of a plugin. -/
def registrationEnd : List Piece :=
  [.single ']', .single '[', .number 1, .single ']', .single ')', .single ';', .blank '\n']

variable {rest : List Char} {paths : List (List Char)}

/-- The lines that load some modules name them. -/
theorem Names.requireLines (modules : List (List Char)) (h : Names .anywhere rest paths) :
    Names .anywhere (requireLines modules ++ '\n' :: rest)
      (modules.map withoutReturns ++ paths) := by
  have hline : ∀ path, requireLine path ++ ['\n'] =
      writtenText requirePieces ++ literal path ++ writtenText requireEnd := by
    intro path
    rw [requireLine_eq, show writtenText requirePieces = "require(".toList by decide +kernel,
      show writtenText requireEnd = ");".toList ++ ['\n'] by decide +kernel]
    simp only [List.append_assoc]
  have hlines : Names .anywhere ((modules.map requireLine).flatMap (· ++ ['\n']) ++ rest)
      (modules.map withoutReturns ++ paths) := by
    induction modules with
    | nil => exact h
    | cons path modules ih =>
      rw [List.map_cons, List.flatMap_cons, hline]
      simp only [List.append_assoc]
      refine .pieces requirePieces .specifier (by decide +kernel) (.path ?_)
      exact .pieces requireEnd .anywhere (by decide +kernel) ih
  rw [← List.singleton_append, ← List.append_assoc, requireLines_append_newline, groupLines]
  split_ifs with hnone
  · obtain rfl := List.isEmpty_iff.mp hnone
    exact h.newline
  · exact hlines

/-- The lines that register plugins name them. -/
theorem Names.registrations (plugins : List (List Char × Nat)) (h : Names .anywhere rest paths) :
    Names .anywhere (plugins.flatMap (fun plugin ↦ registration plugin.1 plugin.2) ++ rest)
      (plugins.map (fun plugin ↦ withoutReturns plugin.1) ++ paths) := by
  have hline : ∀ path place, registration path place = writtenText registrationPieces ++
      (literal path ++ (writtenText optionsPieces ++
        (decimalDigits place ++ writtenText registrationEnd))) := by
    intro path place
    have hbefore : writtenText registrationPieces =
        "UVue.use(interopDefault(".toList ++ "require(".toList := by decide +kernel
    have hoptions : writtenText optionsPieces = ")".toList ++ "), uvuePlugins[".toList := by
      decide +kernel
    have hend : writtenText registrationEnd = "][1]);\n".toList := by decide +kernel
    unfold registration required
    simp only [hbefore, hoptions, hend, List.append_assoc]
  induction plugins with
  | nil => exact h
  | cons plugin plugins ih =>
    rw [List.flatMap_cons, hline]
    simp only [List.append_assoc]
    refine .pieces registrationPieces .specifier (by decide +kernel) (.path ?_)
    refine .pieces optionsPieces .anywhere (by decide +kernel) (.number _ ?_)
    exact .pieces registrationEnd .anywhere (by decide +kernel) ih

/-- What registers the plugins names the module that takes them, the configuration and the plugins,
if there are any. -/
theorem Names.pluginLines (config : List Char) (plugins : List (List Char)) :
    Names .anywhere (pluginLines config plugins)
      ((if plugins.isEmpty then [] else pluginHost :: config :: plugins).map withoutReturns) := by
  have hend : Names .anywhere [] [] := ⟨[], .empty, rfl⟩
  unfold MainModule.pluginLines
  split_ifs
  · exact hend
  · have hregistrations := Names.registrations plugins.zipIdx hend
    have hplugins : plugins.zipIdx.map (fun plugin ↦ withoutReturns plugin.1) =
        plugins.map withoutReturns := by
      rw [← Function.comp_def, ← List.map_map, List.zipIdx_map_fst]
    rw [hplugins, List.append_nil, List.append_nil] at hregistrations
    rw [show "\nimport UVue from ".toList = '\n' :: writtenText (importPieces "UVue".toList)
        by decide +kernel,
      show ";\nimport uvueConfig from ".toList =
        writtenText importEnd ++ writtenText (importPieces "uvueConfig".toList) by decide +kernel,
      show ";\n".toList = writtenText importEnd by decide +kernel,
      show pluginPairs = writtenText pairPieces by decide +kernel,
      show defaultOf = writtenText defaultPieces by decide +kernel]
    simp only [List.append_assoc, List.cons_append]
    refine .newline (.pieces (importPieces _) .specifier (by decide +kernel) (.path ?_))
    refine .pieces importEnd .anywhere (by decide +kernel) ?_
    refine .pieces (importPieces _) .specifier (by decide +kernel) (.path ?_)
    refine .pieces importEnd .anywhere (by decide +kernel) ?_
    refine .pieces pairPieces .anywhere (by decide +kernel) ?_
    exact .pieces defaultPieces .anywhere (by decide +kernel) hregistrations

/-- The paths of a main module, in the order in which it names them. -/
def modulePaths (main : MainModule) : List (List Char) :=
  main.app :: (main.imports ++ main.clientImports ++
    if main.plugins.isEmpty then [] else pluginHost :: main.config :: main.plugins)

/-- A main module names its paths without their carriage returns, and no other modules. -/
theorem names_text (main : MainModule) :
    Names .anywhere main.text (main.modulePaths.map withoutReturns) := by
  unfold text exportLines clientBlock modulePaths
  rw [show "import createApp from ".toList = writtenText (importPieces "createApp".toList)
      by decide +kernel,
    show ";\nexport \x7b createApp \x7d;\n".toList = writtenText exportPieces by decide +kernel,
    show "if (process.client) \x7b\n".toList = writtenText openingPieces by decide +kernel,
    show "\n\x7d".toList = '\n' :: writtenText [.single '}'] by decide +kernel]
  simp only [List.append_assoc, List.cons_append, List.map_cons, List.map_append]
  refine .pieces (importPieces _) .specifier (by decide +kernel) (.path ?_)
  refine .pieces exportPieces .anywhere (by decide +kernel) (.requireLines main.imports ?_)
  refine .pieces openingPieces .anywhere (by decide +kernel) (.requireLines main.clientImports ?_)
  exact .pieces [.single '}'] .anywhere (by decide +kernel) (.pluginLines main.config main.plugins)

end SsrBuild.MainModule

namespace SsrBuild

open MainModule Grammar

/-- The modules that the main module of a configuration is to name: the app, what is imported
everywhere, what is imported by clients only, and, if there are plugins, the module that takes them,
the configuration and the plugins. -/
def ProjectConfig.modulePaths (config : ProjectConfig) : List (List Char) :=
  config.mainPath :: ((config.imports.filter (·.ssrEligible)).map (·.sourcePath) ++
    (config.imports.filter (!·.ssrEligible)).map (·.sourcePath) ++
    if config.plugins = [] then []
    else pluginHost :: config.configPath.normalized :: config.plugins.map (·.modulePath))

/-- The main module of a configuration names the paths of the configuration. -/
theorem ProjectConfig.modulePaths_ofConfig (config : ProjectConfig) :
    (MainModule.ofConfig config).modulePaths = config.modulePaths := by
  unfold MainModule.ofConfig MainModule.modulePaths modulePaths
  simp only [List.isEmpty_map, List.isEmpty_iff]

/-- A text has its carriage returns only if it has any. -/
theorem MainModule.withoutReturns_eq_self_iff (text : List Char) :
    withoutReturns text = text ↔ '\r' ∉ text := by
  rw [withoutReturns, List.filter_eq_self]
  refine ⟨fun h hmem ↦ absurd (h _ hmem) (by decide), fun h c hc ↦ ?_⟩
  rw [bne_iff_ne]
  rintro rfl
  exact h hc

/-- A literal, written by four replacements one after the other, is one token with nothing left
over, and its value is the text without its carriage returns; so it is the text exactly if the text
has none. A main module can be read token by token, and what it imports and requires are the paths
of its configuration without their carriage returns. -/
theorem ProjectConfig.specifiers_mainCode :
    (∀ text : List Char, literal text = '"' :: (substituted '\r' [] (substituted '\n' ['\\', 'n']
      (substituted '"' ['\\', '"'] (substituted '\\' ['\\', '\\'] text))) ++ ['"'])) ∧
    (∀ (text rest : List Char) (start : Nat) (afterLineEnd : Bool),
      Lexeme.read start afterLineEnd (literal text ++ rest) =
        { token := .string, start, stop := start + (literal text).length, afterLineEnd,
          value := withoutReturns text, escaped := false, cooked := true, isPaired := true,
          sound := true, text := literal text ++ rest, rest }) ∧
    (∀ text : List Char, withoutReturns text = text ↔ '\r' ∉ text) ∧
    ∀ config : ProjectConfig, ∃ tokens, Lexeme.ReadsAs ⟨0, config.mainCode⟩ tokens ∧
      specifiers .anywhere tokens = config.modulePaths.map withoutReturns := by
  refine ⟨literal_eq_substituted, read_literal, withoutReturns_eq_self_iff, fun config ↦ ?_⟩
  obtain ⟨tokens, hscans, hnames⟩ := names_text (MainModule.ofConfig config)
  rw [config.modulePaths_ofConfig] at hnames
  exact ⟨tokens, hscans.readsAs 0, hnames⟩

/-- A path with a carriage return is not the value of its literal. -/
theorem MainModule.read_literal_carriageReturn :
    (Lexeme.read 0 false (literal "a\rb".toList)).value = "ab".toList ∧
      (Lexeme.read 0 false (literal "a\rb".toList)).value ≠ "a\rb".toList := by
  decide +kernel

end SsrBuild
