import SsrBuild.Proofs.Config.Spelling
import SsrBuild.Proofs.Path.Absolute

/-!
Looking things up in a configuration. A dotted key leads from a value to what stands behind its
names, each the field of what the name before it leads to (`Json.Leads`), and a configuration finds
what the key leads to (`get?_eq_some_iff`). So a key of two parts is looked up one part after the
other, wherever the dot between them stands (`get?_append`). A setting of the server is one field,
whatever its name: it is what the dotted key finds that begins with the server exactly for the names
without dots (`get?_parts_and_serverSetting?`).
-/

set_option autoImplicit false

namespace SsrBuild

/-! ### Where a dotted key leads -/

namespace Json

/-- A dotted key leads from a value to another one: its first name is a field of the value, and what
is behind the dot leads on from there. -/
inductive Leads : List Char → Json → Json → Prop
  | name {name : List Char} {value found : Json} (hname : '.' ∉ name)
      (hfield : value.field? name = some found) : Leads name value found
  | dot {name rest : List Char} {value inner found : Json} (hname : '.' ∉ name)
      (hfield : value.field? name = some inner) (hrest : Leads rest inner found) :
      Leads (name ++ '.' :: rest) value found

/-- One name is looked up as a field. -/
@[simp] theorem lookup_singleton (name : List Char) (value : Json) :
    value.lookup [name] = value.field? name := by
  simp [lookup]

/-- The first of several names is looked up as a field, and the others in what it holds. -/
theorem lookup_cons (name : List Char) (names : List (List Char)) (value : Json) :
    value.lookup (name :: names) = (value.field? name).bind (lookup names) := by
  rw [← List.singleton_append, lookup_append, lookup_singleton]

/-- What the names between dots find is what the key leads to. -/
theorem lookup_splitOn_eq_some_iff {key : List Char} {value found : Json} :
    value.lookup (key.splitOn '.') = some found ↔ Leads key value found := by
  constructor
  · induction key using separatorInduction '.' generalizing value with
    | single name hname =>
      intro h
      rw [List.splitOn_eq_singleton hname, lookup_singleton] at h
      exact .name hname h
    | more name rest hname ih =>
      intro h
      rw [List.splitOn_append_cons_self_of_not_mem hname, lookup_cons] at h
      obtain ⟨inner, hfield, hrest⟩ := Option.bind_eq_some_iff.mp h
      exact .dot hname hfield (ih hrest)
  · intro h
    induction h with
    | name hname hfield => rw [List.splitOn_eq_singleton hname, lookup_singleton, hfield]
    | dot hname hfield _ ih =>
      rw [List.splitOn_append_cons_self_of_not_mem hname, lookup_cons, hfield, Option.bind_some, ih]

end Json

namespace ProjectConfig

variable {root : Location} {value : Json} {config : ProjectConfig}

/-! ### What a configuration finds -/

/-- A configuration looks things up in the value that it has been read from. -/
theorem raw_of_ofJson (haccepted : ofJson root value = .ok config) : config.raw = value := by
  obtain ⟨-, declared, -, rfl⟩ := ofJson_eq_ok_iff_declaring.mp haccepted
  rfl

/-- A configuration finds what the key leads to. -/
theorem get?_eq_some_iff (haccepted : ofJson root value = .ok config) {key : List Char}
    {found : Json} : config.get? key = some found ↔ Json.Leads key value found := by
  rw [get?, raw_of_ofJson haccepted, Json.lookup_splitOn_eq_some_iff]

/-- The part of a key behind a dot is looked up in what the part before it finds. -/
theorem get?_append (config : ProjectConfig) (first second : List Char) :
    config.get? (first ++ '.' :: second) =
      (config.get? first).bind (Json.lookup (second.splitOn '.')) := by
  rw [get?, List.splitOn_append_cons_self, Json.lookup_append, ← get?]

/-- A key without a dot is the name of a field. -/
theorem get?_of_not_mem (haccepted : ofJson root value = .ok config) {name : List Char}
    (hname : '.' ∉ name) : config.get? name = value.field? name := by
  rw [get?, raw_of_ofJson haccepted, List.splitOn_eq_singleton hname, Json.lookup_singleton]

/-- A setting of the server is a field of what the value has for the server. -/
theorem serverSetting?_eq (haccepted : ofJson root value = .ok config) (name : List Char) :
    config.serverSetting? name =
      (value.field? "server".toList).bind fun server ↦ server.field? name := by
  have hserver : '.' ∉ "server".toList := by decide
  rw [serverSetting?, get?_of_not_mem haccepted hserver]

/-- A setting whose name has no dot is behind the dotted key that begins with the server. -/
theorem serverSetting?_of_not_mem (config : ProjectConfig) {name : List Char} (hname : '.' ∉ name) :
    config.serverSetting? name = config.get? ("server.".toList ++ name) := by
  have hkey : "server.".toList ++ name = "server".toList ++ '.' :: name := rfl
  rw [hkey, get?_append, List.splitOn_eq_singleton hname, serverSetting?]
  congr 1
  funext server
  exact (Json.lookup_singleton name server).symm

/-! ### Names with dots -/

/-- A configuration of the server with one setting. -/
def oneSetting (name : List Char) : Json :=
  .object [("server".toList, .object [(name, .boolean true)])]

/-- It is a configuration for every directory that has a name. -/
theorem exists_ofJson_oneSetting (hroot : root.spelling ≠ []) (name : List Char) :
    ∃ config, ofJson root (oneSetting name) = .ok config :=
  ⟨_, ofJson_eq_ok_iff_declaring.mpr
    ⟨hroot, ⟨none, [], []⟩, ⟨.object _, rfl, rfl, rfl⟩, rfl⟩⟩

/-- The setting is there under its name. -/
theorem serverSetting?_oneSetting {name : List Char}
    (haccepted : ofJson root (oneSetting name) = .ok config) :
    config.serverSetting? name = some (.boolean true) := by
  rw [serverSetting?_eq haccepted]
  simp [oneSetting, Json.field?, Dictionary.get?]

/-- A name with a dot falls apart in a dotted key, and the setting is not found. -/
theorem get?_oneSetting_of_mem {name : List Char} (hname : '.' ∈ name)
    (haccepted : ofJson root (oneSetting name) = .ok config) :
    config.get? ("server.".toList ++ name) = none := by
  obtain ⟨first, rest, rfl, hfirst⟩ := List.eq_append_cons_of_mem hname
  have hserver : '.' ∉ "server".toList := by decide
  have hkey : "server.".toList ++ (first ++ '.' :: rest) =
    "server".toList ++ '.' :: (first ++ '.' :: rest) := rfl
  have hother : (first == first ++ '.' :: rest) = false :=
    beq_false_of_ne fun h ↦ hfirst (h ▸ hname)
  rw [hkey, get?_append, get?_of_not_mem haccepted hserver,
    List.splitOn_append_cons_self_of_not_mem hfirst]
  simp [oneSetting, Json.field?, Dictionary.get?, Json.lookup_cons, List.lookup_cons, hother]

/-- A configuration finds what the key leads to in the value that it has been read from, for keys of
any form, and a key in two parts is looked up one part after the other: behind the dot it leads on
from what the part before the dot finds, and finds nothing where that part finds nothing. The name
of a setting of the server is not taken apart: it is one field of the server. So the setting is what
the dotted key finds that has the name behind the server, if there is no dot in the name; and for
every name that has one there is a configuration in which the two differ. -/
theorem get?_parts_and_serverSetting? (haccepted : ofJson root value = .ok config) :
    (∀ key found, config.get? key = some found ↔ Json.Leads key value found) ∧
    (∀ first second found, config.get? (first ++ '.' :: second) = some found ↔
      ∃ inner, config.get? first = some inner ∧ Json.Leads second inner found) ∧
    (∀ name found, config.serverSetting? name = some found ↔
      ∃ server, config.get? "server".toList = some server ∧ server.field? name = some found) ∧
    ∀ name, (∀ other otherConfig, ofJson root other = .ok otherConfig →
      otherConfig.serverSetting? name = otherConfig.get? ("server.".toList ++ name)) ↔
        '.' ∉ name := by
  refine ⟨fun key found ↦ get?_eq_some_iff haccepted, fun first second found ↦ ?parts,
    fun name found ↦ Option.bind_eq_some_iff, fun name ↦ ⟨fun hagree hname ↦ ?differ,
      fun hname other otherConfig _ ↦ serverSetting?_of_not_mem otherConfig hname⟩⟩
  case parts =>
    simp only [get?_append, Option.bind_eq_some_iff, Json.lookup_splitOn_eq_some_iff]
  case differ =>
    have hroot := (ofJson_eq_ok_iff_declaring.mp haccepted).1
    obtain ⟨otherConfig, hother⟩ := exists_ofJson_oneSetting hroot name
    have hsame := hagree _ otherConfig hother
    rw [serverSetting?_oneSetting hother, get?_oneSetting_of_mem hname hother] at hsame
    cases hsame

/-- A configuration with several ways to spell a key, one of them through an empty name. -/
def nestedSettings : Json :=
  .object [("server".toList, .object [([], .object [("a.b".toList, .null),
      ("c".toList, .integer 1)]), ("port".toList, .integer 8080)])]

theorem get?_nestedSettings : ∃ config,
    ofJson ⟨.top, "/project".toList⟩ nestedSettings = .ok config ∧
    config.get? "server..c".toList = some (.integer 1) ∧
    config.get? "server..a.b".toList = none ∧
    config.serverSetting? "port".toList = config.get? "server.port".toList := by
  have haccepted : ofJson ⟨.top, "/project".toList⟩ nestedSettings = .ok _ := rfl
  obtain ⟨hleads, -, -, hagree⟩ := get?_parts_and_serverSetting? haccepted
  have hname : '.' ∉ "port".toList := by decide
  refine ⟨_, haccepted, (hleads _ _).mpr ?_, rfl, (hagree _).mpr hname _ _ haccepted⟩
  have hserver : '.' ∉ "server".toList := by decide
  have hlast : '.' ∉ "c".toList := by decide
  exact .dot hserver rfl (.dot List.not_mem_nil rfl (.name hlast rfl))

/-- A configuration of the server with a setting in another one. -/
def dottedSetting : Json :=
  .object [("server".toList, .object [("a".toList, .object [("b".toList, .integer 1)])])]

/-- The dotted key finds it, and the name with a dot is no setting. -/
theorem serverSetting?_dottedSetting : ∃ config,
    ofJson ⟨.top, "/project".toList⟩ dottedSetting = .ok config ∧
    config.get? "server.a.b".toList = some (.integer 1) ∧
    config.serverSetting? "a.b".toList = none :=
  ⟨_, rfl, rfl, rfl⟩

end ProjectConfig

end SsrBuild
