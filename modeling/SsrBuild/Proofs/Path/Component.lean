import SsrBuild.Proofs.Path.Absolute

/-!
Paths as texts, taken apart and put together step by step. A text has components: the top directory
or a dot at its beginning, and what stands between its slashes. A text is made absolute by putting
its components behind a working directory (`absoluteText`), where two slashes at the beginning and
one at the end stay, and it is cleaned by putting its components together anew without a dot
(`cleanedText`). One after the other this is the path from the working directory on
(`cleanedText_absoluteText`), and a path that is put behind a directory and cleaned is the path from
the directory on (`cleanedText_joinedPath`).
-/

set_option autoImplicit false

namespace SsrBuild

/-- A component of a path. -/
inductive PathComponent
  | top | dot | up
  | name (text : List Char)
  deriving DecidableEq, Repr

namespace PathComponent

/-- A component as a text. -/
def text : PathComponent → List Char
  | top => ['/']
  | dot => ['.']
  | up => ['.', '.']
  | name text => text

/-- The component that a part between slashes is; an empty part and a dot are none. -/
def ofPart? (part : List Char) : Option PathComponent :=
  if part.isEmpty || part == ['.'] then none
  else if part == ['.', '.'] then some up
  else some (name part)

/-- The component at the beginning of a text that is no part between slashes, or is a dot. -/
def leading (text : List Char) : List PathComponent :=
  if isAbsolutePath text then [top]
  else if (text.splitOn '/').head? == some ['.'] then [dot]
  else []

/-- The components between the slashes of a text. -/
def between (text : List Char) : List PathComponent := (text.splitOn '/').filterMap ofPart?

/-- The components of a text. -/
def ofText (text : List Char) : List PathComponent := leading text ++ between text

/-- Puts components behind a text, one after the other. -/
def putBehind (base : List Char) (components : List PathComponent) : List Char :=
  components.foldl (fun path component ↦ joinedPath path component.text) base

/-- Components without a dot at the beginning. -/
def withoutDot : List PathComponent → List PathComponent
  | dot :: rest => rest
  | components => components

end PathComponent

open PathComponent

/-- A text put together anew from its components, without a dot. -/
def cleanedText (text : List Char) : List Char := putBehind [] ((ofText text).filter (· != dot))

/-- Does a text begin with two slashes and no more? -/
def hasTwoSlashes (text : List Char) : Bool :=
  "//".toList.isPrefixOf text && !"///".toList.isPrefixOf text

/-- The components of a text behind a working directory, unless the text starts from the top. Two
slashes at the beginning are kept. -/
def startedText (workingDirectory text : List Char) : List Char :=
  let components := withoutDot (ofText text)
  if hasTwoSlashes text then putBehind "//".toList components.tail
  else if isAbsolutePath text then putBehind [] components
  else putBehind workingDirectory components

/-- A text made absolute. A slash at its end is kept. -/
def absoluteText (workingDirectory text : List Char) : List Char :=
  if text.getLast? == some '/' then joinedPath (startedText workingDirectory text) []
  else startedText workingDirectory text

/-! ### Components as names -/

namespace PathComponent

/-- A part between slashes has the text of its component, if it is one. -/
theorem map_text_ofPart? (part : List Char) :
    (ofPart? part).map PathComponent.text =
      Option.guard (fun part ↦ !(part.isEmpty || part == ['.'])) part := by
  unfold ofPart? Option.guard
  by_cases hnil : part = []
  · simp [hnil]
  by_cases hdot : part = ['.']
  · simp [hdot]
  by_cases hup : part = ['.', '.']
  · simp [hup, PathComponent.text]
  · simp [hnil, hdot, hup, PathComponent.text]

/-- The components between slashes are the names of a path. -/
theorem map_text_between (text : List Char) :
    (between text).map PathComponent.text = pathNames text := by
  unfold between pathNames
  simp only [List.map_filterMap, map_text_ofPart?]
  exact congrFun List.filterMap_eq_filter _

theorem isName_of_mem_between (text : List Char) :
    ∀ component ∈ between text, IsName component.text := by
  intro component hmem
  have hname : component.text ∈ pathNames text := by
    rw [← map_text_between]
    exact List.mem_map_of_mem hmem
  exact isName_of_mem_pathNames hname

theorem dot_not_mem_between (text : List Char) : dot ∉ between text :=
  fun hmem ↦ (isName_of_mem_between text dot hmem).ne_dot rfl

/-- Without the dot at the beginning there are the top directory, if the text starts there, and the
components between slashes. -/
theorem withoutDot_ofText (text : List Char) :
    withoutDot (ofText text) = (if isAbsolutePath text then [top] else []) ++ between text := by
  unfold ofText leading
  split_ifs with habsolute hdot
  · rfl
  · rfl
  · rw [List.nil_append]
    cases hbetween : between text with
    | nil => rfl
    | cons first rest =>
      have hfirst : first ≠ dot := by
        rintro rfl
        exact dot_not_mem_between text (hbetween ▸ List.mem_cons_self)
      cases first with
      | dot => exact absurd rfl hfirst
      | _ => rfl

/-- A dot is at the beginning only. -/
theorem filter_ofText (text : List Char) :
    (ofText text).filter (· != dot) = withoutDot (ofText text) := by
  have hbetween : (between text).filter (· != dot) = between text := by
    refine List.filter_eq_self.mpr fun component hmem ↦ bne_iff_ne.mpr ?_
    rintro rfl
    exact dot_not_mem_between text hmem
  rw [withoutDot_ofText]
  unfold ofText leading
  rw [List.filter_append, hbetween]
  split_ifs with habsolute hdot
  · rfl
  · rfl
  · rfl

end PathComponent

/-! ### Texts of paths -/

namespace AbsolutePath

theorem isAbsolutePath_text (path : AbsolutePath) : isAbsolutePath path.text := rfl

/-- The text of a path of names does not end in a slash. -/
theorem getLast?_text {last : List Char} (hlast : IsName last) (init : List (List Char)) :
    (text ⟨init ++ [last]⟩).getLast? ≠ some '/' := by
  rcases last.eq_nil_or_concat with rfl | ⟨front, c, rfl⟩
  · exact absurd rfl hlast.ne_nil
  · have hc : c ≠ '/' := fun heq ↦ hlast.slash_not_mem (by simp [heq])
    rw [List.concat_eq_append, text_append, List.getLast?_append]
    simpa using hc

/-- A name behind an absolute path is the last name of the path. -/
theorem joinedPath_text {names : List (List Char)} (hnames : ∀ name ∈ names, IsName name)
    {name : List Char} (hname : IsName name) :
    joinedPath (text ⟨names⟩) name = text ⟨names ++ [name]⟩ := by
  unfold joinedPath
  rw [isAbsolutePath_of_isName hname, if_neg Bool.false_ne_true]
  -- The top directory alone ends in a slash, so it alone gets none before the name.
  rcases names.eq_nil_or_concat with rfl | ⟨init, last, rfl⟩
  · rw [if_pos (by decide)]
    unfold text
    rw [List.nil_append, List.intercalate_singleton]
    rfl
  · rw [List.concat_eq_append] at hnames ⊢
    have hlast := hnames last (List.mem_append_right _ List.mem_cons_self)
    have hend := getLast?_text hlast init
    rw [if_neg (by simpa [text] using hend)]
    unfold text
    rw [intercalate_append (List.append_ne_nil_of_right_ne_nil _ (List.cons_ne_nil _ _))
      (List.cons_ne_nil _ _), List.intercalate_singleton]
    rfl

/-- The names in the text of a path of names are those of the path. -/
theorem IsProper.pathNames_text {path : AbsolutePath} (h : path.IsProper) :
    pathNames path.text = path.names := by
  have hrest : pathNames (['/'].intercalate path.names) = path.names := by
    by_cases hnone : path.names = []
    · rw [hnone]
      rfl
    · unfold pathNames
      rw [List.splitOn_intercalate '/' (fun name hname ↦ (h name hname).slash_not_mem) hnone]
      refine List.filter_eq_self.mpr fun name hname ↦ ?_
      simpa using ⟨(h name hname).ne_nil, (h name hname).ne_dot⟩
  exact (pathNames_append_slash [] _).trans hrest

/-- What stands between the slashes of a path of names are names, unless it is the top. -/
theorem IsProper.text_eq_slash_or_forall_isName {path : AbsolutePath} (h : path.IsProper) :
    path.text = ['/'] ∨ ∀ part ∈ path.text.tail.splitOn '/', IsName part := by
  by_cases hnone : path.names = []
  · left
    unfold text
    rw [hnone]
    rfl
  · right
    unfold text
    rw [List.tail_cons,
      List.splitOn_intercalate '/' (fun name hname ↦ (h name hname).slash_not_mem) hnone]
    exact h

/-- A path of names is found again by its text, from any directory on. -/
theorem IsProper.resolve_text {path : AbsolutePath} (h : path.IsProper) (directory : AbsolutePath) :
    directory.resolve path.text = path :=
  congrArg AbsolutePath.mk h.pathNames_text

end AbsolutePath

/-! ### Putting together -/

namespace PathComponent

/-- Behind a path that has names, further names follow. -/
theorem names_putBehind {components : List PathComponent}
    (h : ∀ component ∈ components, IsName component.text) (base : List Char) :
    isAbsolutePath (putBehind base components) = isAbsolutePath base ∧
      pathNames (putBehind base components) =
        pathNames base ++ components.map PathComponent.text := by
  induction components generalizing base with
  | nil => exact ⟨rfl, (List.append_nil _).symm⟩
  | cons component rest ih =>
    obtain ⟨hfirst, hrest⟩ := List.forall_mem_cons.mp h
    have hrelative := isAbsolutePath_of_isName hfirst
    obtain ⟨habsolute, hnames⟩ := ih hrest (joinedPath base component.text)
    refine ⟨habsolute.trans (isAbsolutePath_joinedPath hrelative base), hnames.trans ?_⟩
    rw [pathNames_joinedPath hrelative, pathNames_of_isName hfirst, List.append_assoc]
    rfl

/-- Names behind an absolute path are the last names of the path. -/
theorem putBehind_text {components : List PathComponent}
    (h : ∀ component ∈ components, IsName component.text) {path : AbsolutePath}
    (hproper : path.IsProper) :
    putBehind path.text components =
      AbsolutePath.text ⟨path.names ++ components.map PathComponent.text⟩ := by
  induction components generalizing path with
  | nil =>
    rw [List.map_nil, List.append_nil]
    rfl
  | cons component rest ih =>
    obtain ⟨hfirst, hrest⟩ := List.forall_mem_cons.mp h
    have hlonger : AbsolutePath.IsProper ⟨path.names ++ [component.text]⟩ := by
      intro name hname
      rcases List.mem_append.mp hname with hname | hname
      · exact hproper name hname
      · exact List.mem_singleton.mp hname ▸ hfirst
    have hstep := ih hrest hlonger
    rw [List.append_assoc] at hstep
    rw [← AbsolutePath.joinedPath_text hproper hfirst] at hstep
    exact hstep

end PathComponent

/-! ### Cleaning -/

/-- A text from the top on is cleaned into the text of its names. -/
theorem cleanedText_of_isAbsolutePath {text : List Char} (h : isAbsolutePath text) :
    cleanedText text = AbsolutePath.text ⟨pathNames text⟩ := by
  have hbehind := putBehind_text (isName_of_mem_between text) AbsolutePath.isProper_top
  rw [map_text_between] at hbehind
  unfold cleanedText
  rw [filter_ofText, withoutDot_ofText, if_pos h]
  exact hbehind

/-- A path behind the text of a directory is cleaned into the text of the path from the directory
on. -/
theorem cleanedText_joinedPath {directory : AbsolutePath} (h : directory.IsProper)
    (path : List Char) :
    cleanedText (joinedPath directory.text path) = (directory.resolve path).text := by
  unfold AbsolutePath.resolve
  split_ifs with habsolute
  · unfold joinedPath
    rw [if_pos habsolute, cleanedText_of_isAbsolutePath habsolute]
  · have hrelative : isAbsolutePath path = false := Bool.eq_false_iff.mpr habsolute
    have hstart := (isAbsolutePath_joinedPath hrelative directory.text).trans
      directory.isAbsolutePath_text
    rw [cleanedText_of_isAbsolutePath hstart, pathNames_joinedPath hrelative, h.pathNames_text]

/-! ### Starting from a directory -/

theorem isAbsolutePath_of_hasTwoSlashes {text : List Char} (h : hasTwoSlashes text) :
    isAbsolutePath text := by
  unfold hasTwoSlashes at h
  obtain ⟨rest, rfl⟩ := List.isPrefixOf_iff_prefix.mp (Bool.and_eq_true_iff.mp h).1
  rfl

/-- The names of a text that is started are those from the working directory on. -/
theorem names_startedText {workingDirectory : AbsolutePath} (h : workingDirectory.IsProper)
    (text : List Char) :
    isAbsolutePath (startedText workingDirectory.text text) ∧
      pathNames (startedText workingDirectory.text text) =
        (workingDirectory.resolve text).names := by
  have hbehind := names_putBehind (isName_of_mem_between text)
  simp only [map_text_between] at hbehind
  unfold startedText AbsolutePath.resolve
  rw [withoutDot_ofText]
  by_cases htwo : hasTwoSlashes text
  · have habsolute := isAbsolutePath_of_hasTwoSlashes htwo
    rw [if_pos htwo, if_pos habsolute, if_pos habsolute]
    exact hbehind "//".toList
  · rw [if_neg htwo]
    by_cases habsolute : isAbsolutePath text
    · rw [if_pos habsolute, if_pos habsolute, if_pos habsolute]
      exact hbehind ['/']
    · rw [if_neg habsolute, if_neg habsolute, if_neg habsolute, List.nil_append]
      have hworking := hbehind workingDirectory.text
      rw [h.pathNames_text] at hworking
      exact hworking

/-- The names of a text that is made absolute are those from the working directory on. -/
theorem names_absoluteText {workingDirectory : AbsolutePath} (h : workingDirectory.IsProper)
    (text : List Char) :
    isAbsolutePath (absoluteText workingDirectory.text text) ∧
      pathNames (absoluteText workingDirectory.text text) =
        (workingDirectory.resolve text).names := by
  obtain ⟨habsolute, hnames⟩ := names_startedText h text
  unfold absoluteText
  split_ifs
  · refine ⟨(isAbsolutePath_joinedPath rfl _).trans habsolute, ?_⟩
    rw [pathNames_joinedPath rfl, hnames]
    exact List.append_nil _
  · exact ⟨habsolute, hnames⟩

/-- Made absolute and cleaned, a text is the path from the working directory on. -/
theorem cleanedText_absoluteText {workingDirectory : AbsolutePath} (h : workingDirectory.IsProper)
    (text : List Char) :
    cleanedText (absoluteText workingDirectory.text text) =
      (workingDirectory.resolve text).text := by
  obtain ⟨habsolute, hnames⟩ := names_absoluteText h text
  rw [cleanedText_of_isAbsolutePath habsolute, hnames]

/-- Texts that have the same components once they are made absolute lead to the same path. -/
theorem resolve_eq_of_ofText_eq {first second : AbsolutePath} (hfirst : first.IsProper)
    (hsecond : second.IsProper) {text other : List Char}
    (h : ofText (absoluteText first.text text) = ofText (absoluteText second.text other)) :
    first.resolve text = second.resolve other := by
  have hcleaned : cleanedText (absoluteText first.text text) =
      cleanedText (absoluteText second.text other) := by
    unfold cleanedText
    rw [h]
  rw [cleanedText_absoluteText hfirst, cleanedText_absoluteText hsecond] at hcleaned
  have hnames := congrArg pathNames hcleaned
  rw [(hfirst.resolve text).pathNames_text, (hsecond.resolve other).pathNames_text] at hnames
  exact congrArg AbsolutePath.mk hnames

end SsrBuild
