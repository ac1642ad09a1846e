import SsrBuild.MainModule.Code
import SsrBuild.Proofs.Config.Spelling

/-!
The options that plugins are registered with. The lines of the main module that register the plugins
are written from two expressions (`pluginPairs_eq`, `registration_eq`), which are evaluated here on
the value that the configuration has been read from. Where it is an object, every plugin is
registered with its declared options; a list of parts has no member with the plugins, and there the
registrations fail (`agreesAtRunTime_iff`).
-/

set_option autoImplicit false

namespace SsrBuild.MainModule

/-! ### Expressions -/

/-- The expressions in the lines that register plugins. -/
inductive Expression
  | name (identifier : String)
  | member (owner : Expression) (property : String)
  | element (list : Expression) (place : Nat)
  | either (first second : Expression)
  | emptyList
  | pair (first second : Expression)
  | emptyObject
  | mapped (list : Expression) (parameter : String) (body : Expression)
  | isText (operand : Expression)
  | choice (test accepted refused : Expression)
  | grouped (inner : Expression)

/-- What an expression comes to: a value of the data format, or nothing at all. -/
inductive Value
  | undefined
  | data (value : Json)

/-- Why an evaluation ends. -/
inductive EvaluationFault
  /-- A name stands for nothing. -/
  | unbound
  /-- Nothing at all and null have no members. -/
  | noMembers
  /-- Only lists are gone through element by element. -/
  | noList
  /-- The result is no value of the data format. -/
  | outside
  deriving DecidableEq, Repr

namespace Value

/-- The value that may be there. -/
def ofOption : Option Json → Value
  | some value => data value
  | none => undefined

/-- Does the value count as true in a test? -/
def isTrue : Value → Bool
  | undefined => false
  | data .null => false
  | data (.boolean value) => value
  | data (.integer value) => value != 0
  | data (.real value) => value.significand != 0
  | data (.string text) => !text.isEmpty
  | data (.array _) => true
  | data (.object _) => true

def isText : Value → Bool
  | data (.string _) => true
  | _ => false

/-- The value as an element of a list. -/
def held : Value → Except EvaluationFault Json
  | undefined => .error .outside
  | data value => .ok value

/-- The elements of a list. -/
def elements : Value → Except EvaluationFault (List Json)
  | data (.array elements) => .ok elements
  | _ => .error .noList

/-- A member by its name, which is none of those that lists and texts have. -/
def member (property : List Char) : Value → Except EvaluationFault Value
  | undefined | data .null => .error .noMembers
  | data value => .ok (ofOption (value.field? property))

/-- A member by its place. The parts of a text may be halves of characters. -/
def element (place : Nat) : Value → Except EvaluationFault Value
  | undefined | data .null => .error .noMembers
  | data (.array elements) => .ok (ofOption elements[place]?)
  | data (.object fields) => .ok (ofOption (Dictionary.get? (decimalDigits place) fields))
  | data (.string _) => .error .outside
  | data _ => .ok undefined

end Value

namespace Expression

/-- The expression as it is written. -/
def text : Expression → List Char
  | name identifier => identifier.toList
  | member owner property => owner.text ++ '.' :: property.toList
  | element list place => list.text ++ '[' :: (decimalDigits place ++ [']'])
  | either first second => first.text ++ " || ".toList ++ second.text
  | emptyList => "[]".toList
  | pair first second => '[' :: (first.text ++ ", ".toList ++ second.text ++ [']'])
  | emptyObject => "\x7b\x7d".toList
  | mapped list parameter body =>
    list.text ++ ".map(".toList ++ parameter.toList ++ " => ".toList ++ body.text ++ [')']
  | isText operand => "typeof ".toList ++ operand.text ++ " === 'string'".toList
  | choice test accepted refused =>
    test.text ++ " ? ".toList ++ accepted.text ++ " : ".toList ++ refused.text
  | grouped inner => '(' :: (inner.text ++ [')'])

/-- What the expression comes to, by what the names stand for. -/
def eval : Expression → List (String × Json) → Except EvaluationFault Value
  | name identifier, bound =>
    match bound.lookup identifier with
    | some value => .ok (.data value)
    | none => .error .unbound
  | member owner property, bound => do (← owner.eval bound).member property.toList
  | element list place, bound => do (← list.eval bound).element place
  | either first second, bound => do
    let value ← first.eval bound
    if value.isTrue then return value else second.eval bound
  | emptyList, _ => return .data (.array [])
  | pair first second, bound => do
    return .data (.array [← (← first.eval bound).held, ← (← second.eval bound).held])
  | emptyObject, _ => return .data Json.emptyObject
  | mapped list parameter body, bound => do
    let elements ← (← list.eval bound).elements
    let images ← elements.mapM fun value => do (← body.eval ((parameter, value) :: bound)).held
    return .data (.array images)
  | isText operand, bound => do return .data (.boolean (← operand.eval bound).isText)
  | choice test accepted refused, bound => do
    if (← test.eval bound).isTrue then accepted.eval bound else refused.eval bound
  | grouped inner, bound => inner.eval bound

/-- A plugin in the form of a pair. -/
def asPair : Expression :=
  choice (isText (name "plugin")) (pair (name "plugin") emptyObject) (name "plugin")

/-- The plugins of the configuration in the form of pairs. -/
def pairs : Expression :=
  mapped (grouped (either (member (name "uvueConfig") "plugins") emptyList)) "plugin"
    (grouped asPair)

/-- The options of the plugin in a place. -/
def options (place : Nat) : Expression := element (element (name "uvuePlugins") place) 1

end Expression

theorem pluginPairs_eq :
    pluginPairs = "const uvuePlugins = ".toList ++ Expression.pairs.text ++ ";\n".toList := by
  decide +kernel

theorem registration_eq (path : List Char) (place : Nat) :
    registration path place = "UVue.use(interopDefault(".toList ++ required path ++ "), ".toList ++
      (Expression.options place).text ++ ");\n".toList := by
  have hbefore : "), uvuePlugins[".toList = "), ".toList ++ "uvuePlugins".toList ++ ['['] := by
    decide +kernel
  have hafter : "][1]);\n".toList = [']', '[', '1', ']'] ++ ");\n".toList := by decide +kernel
  have hone : '[' :: (decimalDigits 1 ++ [']']) = ['[', '1', ']'] := by decide +kernel
  have hoptions : (Expression.options place).text =
      "uvuePlugins".toList ++ ('[' :: (decimalDigits place ++ [']'])) ++ ['[', '1', ']'] := by
    rw [← hone]
    rfl
  unfold registration
  rw [hbefore, hafter, hoptions]
  simp only [List.append_assoc, List.cons_append, List.nil_append]

/-! ### Evaluation -/

open Declarations

/-- The lines that register plugins come to the plugins as they are declared: as many pairs, each
with the options in its second place. -/
def AgreesAtRunTime (value : Json) (plugins : List PluginDeclaration) : Prop :=
  ∃ pairs, Expression.pairs.eval [("uvueConfig", value)] = .ok (.data (.array pairs)) ∧
    pairs.length = plugins.length ∧
    ∀ (place : Nat) (h : place < plugins.length),
      (Expression.options place).eval [("uvuePlugins", .array pairs)] =
        .ok (.data plugins[place].options)

/-- A plugin in the form of a pair has its options in the second place. -/
def IsPairOf (pair : Json) (plugin : PluginDeclaration) : Prop :=
  ∃ path, pair = .array [path, plugin.options]

/-- Either spelling of a plugin comes to a pair with its options. -/
theorem exists_eval_asPair {spelling : Json} {plugin : PluginDeclaration}
    (h : SpellsPlugin spelling plugin) (bound : List (String × Json)) :
    ∃ pair, Expression.asPair.eval (("plugin", spelling) :: bound) = .ok (.data pair) ∧
      IsPairOf pair plugin := by
  cases h with
  | alone path => exact ⟨_, rfl, .string path, rfl⟩
  | pair path options => exact ⟨_, rfl, .string path, rfl⟩

/-- The spellings of plugins come to pairs one after the other. -/
theorem exists_mapM_asPair {spellings : List Json} {plugins : List PluginDeclaration}
    (h : List.Forall₂ SpellsPlugin spellings plugins) (bound : List (String × Json)) :
    ∃ pairs, (spellings.mapM fun spelling ↦ do
        (← (Expression.grouped Expression.asPair).eval (("plugin", spelling) :: bound)).held) =
          .ok pairs ∧ List.Forall₂ IsPairOf pairs plugins := by
  induction h with
  | nil => exact ⟨[], rfl, .nil⟩
  | cons hfirst _ ih =>
    obtain ⟨pair, heval, hpair⟩ := exists_eval_asPair hfirst bound
    obtain ⟨pairs, hevals, hpairs⟩ := ih
    refine ⟨pair :: pairs, ?_, .cons hpair hpairs⟩
    rw [List.mapM_cons, Expression.eval, heval, hevals]
    rfl

/-- The options in a place are those of the pair in that place. -/
theorem eval_options_of_isPairOf {pairs : List Json} {plugins : List PluginDeclaration}
    (h : List.Forall₂ IsPairOf pairs plugins) (place : Nat) (hplace : place < plugins.length) :
    (Expression.options place).eval [("uvuePlugins", .array pairs)] =
      .ok (.data plugins[place].options) := by
  have hpairs : place < pairs.length := h.length_eq ▸ hplace
  obtain ⟨path, hpair⟩ := h.get hpairs hplace
  have hfound : pairs[place]? = some (.array [path, plugins[place].options]) :=
    (List.getElem?_eq_getElem hpairs).trans (congrArg some hpair)
  have hlist : (Expression.element (.name "uvuePlugins") place).eval
      [("uvuePlugins", .array pairs)] = .ok (.data (.array [path, plugins[place].options])) := by
    show Except.ok (Value.ofOption pairs[place]?) = _
    rw [hfound]
    rfl
  unfold Expression.options
  rw [Expression.eval, hlist]
  rfl

/-- From an object the plugins come in the form of pairs, if it has any. -/
theorem agreesAtRunTime_of_object {fields : List (List Char × Json)}
    {plugins : List PluginDeclaration} (hne : plugins ≠ [])
    (h : SpellsPart (SpellsList SpellsPlugin) []
      (Dictionary.get? "plugins".toList fields) plugins) :
    AgreesAtRunTime (.object fields) plugins := by
  cases hpart : Dictionary.get? "plugins".toList fields with
  | none =>
    rw [hpart] at h
    exact absurd h hne
  | some value =>
    rw [hpart] at h
    obtain ⟨spellings, rfl, hspellings⟩ := h
    obtain ⟨pairs, heval, hpairs⟩ :=
      exists_mapM_asPair hspellings [("uvueConfig", .object fields)]
    have hmember : (Expression.member (.name "uvueConfig") "plugins").eval
        [("uvueConfig", .object fields)] = .ok (.data (.array spellings)) := by
      show Except.ok (Value.ofOption (Dictionary.get? "plugins".toList fields)) = _
      rw [hpart]
      rfl
    have hlist : (Expression.grouped (.either (.member (.name "uvueConfig") "plugins")
        .emptyList)).eval [("uvueConfig", .object fields)] = .ok (.data (.array spellings)) := by
      rw [Expression.eval, Expression.eval, hmember]
      rfl
    refine ⟨pairs, ?_, hpairs.length_eq, eval_options_of_isPairOf hpairs⟩
    unfold Expression.pairs
    rw [Expression.eval, hlist]
    refine bind_eq_ok_iff.mpr ⟨.data (.array spellings), rfl, ?_⟩
    exact bind_eq_ok_iff.mpr ⟨spellings, rfl, bind_eq_ok_iff.mpr ⟨pairs, heval, rfl⟩⟩

/-- A list of parts has no member with the plugins, so no pairs come of it. -/
theorem eval_pairs_array (parts : List Json) :
    Expression.pairs.eval [("uvueConfig", .array parts)] = .ok (.data (.array [])) := rfl

/-- A module with plugins ends in the lines that register them, which are written from the
expressions. -/
theorem exists_text_eq (main : MainModule) (hplugins : main.plugins ≠ []) :
    ∃ before, main.text = before ++
      ("const uvuePlugins = ".toList ++ Expression.pairs.text ++ ";\n".toList) ++ defaultOf ++
      main.plugins.zipIdx.flatMap fun plugin ↦ "UVue.use(interopDefault(".toList ++
        required plugin.1 ++ "), ".toList ++ (Expression.options plugin.2).text ++
        ");\n".toList := by
  unfold text pluginLines
  rw [if_neg (by simpa using hplugins), ← pluginPairs_eq]
  simp only [← registration_eq, ← List.append_assoc]
  exact ⟨_, rfl⟩

/-- For every configuration with plugins the lines that register them come to the declared options
exactly if the configuration has been read from an object. If it has been read from a list of
parts, no pairs come of it, and the options of a plugin, in whatever place, are looked for in
nothing at all. -/
theorem agreesAtRunTime_iff {root : Location} {value : Json} {config : ProjectConfig}
    (haccepted : ProjectConfig.ofJson root value = .ok config) (hplugins : config.plugins ≠ []) :
    (∃ before, config.mainCode = before ++
      ("const uvuePlugins = ".toList ++ Expression.pairs.text ++ ";\n".toList) ++ defaultOf ++
      (config.plugins.map (·.modulePath)).zipIdx.flatMap fun plugin ↦
        "UVue.use(interopDefault(".toList ++ required plugin.1 ++ "), ".toList ++
          (Expression.options plugin.2).text ++ ");\n".toList) ∧
    (AgreesAtRunTime value config.plugins ↔ ∃ fields, value = .object fields) ∧
    ∀ parts, value = .array parts →
      Expression.pairs.eval [("uvueConfig", value)] = .ok (.data (.array [])) ∧
      ∀ place, (Expression.options place).eval [("uvuePlugins", .array [])] =
        .error .noMembers := by
  obtain ⟨-, declared, hspells, rfl⟩ := ProjectConfig.ofJson_eq_ok_iff_declaring.mp haccepted
  refine ⟨?_, ⟨?_, ?_⟩, ?_⟩
  · exact exists_text_eq _ (by simpa [MainModule.ofConfig] using hplugins)
  · rintro ⟨pairs, heval, hlength, -⟩
    cases hspells.hasParts with
    | object fields => exact ⟨fields, rfl⟩
    | list _ =>
      rw [eval_pairs_array] at heval
      cases heval
      exact absurd (List.length_eq_zero_iff.mp hlength.symm) hplugins
  · rintro ⟨fields, rfl⟩
    exact agreesAtRunTime_of_object hplugins hspells.plugins
  · rintro parts rfl
    exact ⟨rfl, fun place ↦ rfl⟩

/-- A project with one plugin alone and one with options. -/
def mixedPlugins : Json :=
  .object [("plugins".toList, .array [.string "first".toList,
    .array [.string "second".toList, .object [("fetch".toList, .boolean true)]]])]

theorem agreesAtRunTime_mixedPlugins : ∃ config,
    ProjectConfig.ofJson ⟨.top, "/project".toList⟩ mixedPlugins = .ok config ∧
    config.plugins ≠ [] ∧ AgreesAtRunTime mixedPlugins config.plugins := by
  have haccepted : ProjectConfig.ofJson ⟨.top, "/project".toList⟩ mixedPlugins = .ok _ := rfl
  have hplugins : [PluginDeclaration.mk "first".toList Json.emptyObject,
      ⟨"second".toList, .object [("fetch".toList, .boolean true)]⟩] ≠ [] := List.cons_ne_nil _ _
  exact ⟨_, haccepted, hplugins, (agreesAtRunTime_iff haccepted hplugins).2.1.mpr ⟨_, rfl⟩⟩

/-- The parts of a project with a plugin, as a list. -/
def listedPlugin : Json := .array [Json.emptyObject, .array [], .array [.string "p".toList]]

/-- From a list of parts a plugin is declared, and at run time there is none. -/
theorem not_agreesAtRunTime_listedPlugin : ∃ config,
    ProjectConfig.ofJson ⟨.top, "/project".toList⟩ listedPlugin = .ok config ∧
    config.plugins.length = 1 ∧
    Expression.pairs.eval [("uvueConfig", listedPlugin)] = .ok (.data (.array [])) ∧
    ¬ AgreesAtRunTime listedPlugin config.plugins := by
  refine ⟨_, rfl, rfl, rfl, ?_⟩
  rintro ⟨pairs, heval, hlength, -⟩
  cases heval
  cases hlength

end SsrBuild.MainModule
