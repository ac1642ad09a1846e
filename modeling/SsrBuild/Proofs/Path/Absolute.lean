import Mathlib.Data.List.Basic
import Mathlib.Data.List.Forall2
import Mathlib.Tactic.Common
import SsrBuild.Path.Absolute

/-!
Texts that spell paths. The names of a text are those on both sides of a slash
(`pathNames_append_slash`), so the names of a path behind another one follow those of the other one,
and a dot in front of a relative path makes no difference (`AbsolutePath.resolve_dotSlash`). What
stands between the slashes of a text tells its end (`suffix_splitOn_iff`), and once the backslashes
are slashes too, what stood between slashes falls apart at its backslashes (`splitOn_slashed`).
-/

set_option autoImplicit false

namespace SsrBuild

/-! ### The direction of slashes -/

/-- A slash in one of the two directions. -/
def IsSlash (c : Char) : Prop := c = '/' ∨ c = '\\'

instance : DecidablePred IsSlash := fun c ↦ inferInstanceAs (Decidable (c = '/' ∨ c = '\\'))

/-- Two texts differ in the direction of slashes only. -/
def SameButSlashes (first second : List Char) : Prop :=
  List.Forall₂ (fun c d ↦ c = d ∨ IsSlash c ∧ IsSlash d) first second

/-- With slashes in place of backslashes two such texts are the same. -/
theorem slashed_eq_slashed_iff {first second : List Char} :
    slashed first = slashed second ↔ SameButSlashes first second := by
  have hchar : ∀ c d : Char, (if c == '\\' then '/' else c) = (if d == '\\' then '/' else d) ↔
      c = d ∨ IsSlash c ∧ IsSlash d := by
    intro c d
    simp only [beq_iff_eq, IsSlash]
    split_ifs with hc hd hd
    · simp [hc, hd]
    · simp [hc, hd, eq_comm]
    · simp [hc, hd]
    · simp only [hc, hd, or_false]
      constructor
      · exact .inl
      · rintro (h | ⟨rfl, rfl⟩)
        · exact h
        · rfl
  unfold slashed Text.replaceAll SameButSlashes
  rw [← List.forall₂_eq_eq_eq, List.forall₂_map_left_iff, List.forall₂_map_right_iff]
  simp only [hchar]

theorem slashed_append (first second : List Char) :
    slashed (first ++ second) = slashed first ++ slashed second :=
  Text.replaceAll_append _ _ first second

theorem slashed_of_not_mem {text : List Char} (h : '\\' ∉ text) : slashed text = text := by
  have hchar : ∀ c ∈ text, (if c == '\\' then '/' else c) = c := by
    intro c hc
    rw [if_neg]
    intro heq
    exact h (beq_iff_eq.mp heq ▸ hc)
  exact (List.map_congr_left hchar).trans (List.map_id' text)

theorem mem_slashed_iff {c : Char} (h : ¬ IsSlash c) {text : List Char} :
    c ∈ slashed text ↔ c ∈ text := by
  obtain ⟨hslash, hbackslash⟩ := not_or.mp h
  have hchar : ∀ d, (if d == '\\' then '/' else d) = c ↔ d = c := by
    intro d
    split_ifs with hd
    · rw [beq_iff_eq.mp hd]
      exact iff_of_false (Ne.symm hslash) (Ne.symm hbackslash)
    · rfl
  unfold slashed Text.replaceAll
  simp only [List.mem_map, hchar, exists_eq_right]

theorem backslash_not_mem_slashed (text : List Char) : '\\' ∉ slashed text :=
  Text.not_mem_replaceAll (by decide) text

/-! ### Between separators -/

/-- What holds of texts without a separator, and of a text with one if it holds of the rest behind
the first, holds of every text. -/
theorem separatorInduction {motive : List Char → Prop} (separator : Char)
    (single : ∀ text, separator ∉ text → motive text)
    (more : ∀ front rest, separator ∉ front → motive rest → motive (front ++ separator :: rest))
    (text : List Char) : motive text := by
  by_cases h : separator ∈ text
  · obtain ⟨front, rest, rfl, hfront⟩ := List.eq_append_cons_of_mem h
    exact more front rest hfront (separatorInduction separator single more rest)
  · exact single text h
termination_by text.length
decreasing_by
  subst_vars
  rw [List.length_append, List.length_cons]
  omega

theorem slash_not_mem_of_mem_splitOn {name text : List Char} (h : name ∈ text.splitOn '/') :
    '/' ∉ name := by
  induction text using separatorInduction '/' with
  | single text htext =>
    rw [List.splitOn_eq_singleton htext, List.mem_singleton] at h
    rwa [h]
  | more front rest hfront ih =>
    rw [List.splitOn_append_cons_self_of_not_mem hfront, List.mem_cons] at h
    rcases h with rfl | h
    · exact hfront
    · exact ih h

/-- What stands behind the last slash of a text. -/
def lastName (text : List Char) : List Char :=
  (text.splitOn '/').getLast (List.splitOn_ne_nil '/' text)

theorem splitOn_slashed_of_not_mem {name : List Char} (h : '/' ∉ name) :
    (slashed name).splitOn '/' = name.splitOn '\\' := by
  induction name using separatorInduction '\\' with
  | single name hname =>
    rw [slashed_of_not_mem hname, List.splitOn_eq_singleton h, List.splitOn_eq_singleton hname]
  | more front rest hfront ih =>
    obtain ⟨hslash, hrest⟩ : '/' ∉ front ∧ '/' ∉ rest := by simpa using h
    have hslashed : slashed (front ++ '\\' :: rest) = front ++ '/' :: slashed rest := by
      rw [slashed_append, slashed_of_not_mem hfront]
      rfl
    rw [hslashed, List.splitOn_append_cons_self_of_not_mem hslash,
      List.splitOn_append_cons_self_of_not_mem hfront, ih hrest]

/-- What stands between slashes falls apart at its backslashes once these are slashes. -/
theorem splitOn_slashed (text : List Char) :
    (slashed text).splitOn '/' = (text.splitOn '/').flatMap (·.splitOn '\\') := by
  induction text using separatorInduction '/' with
  | single text htext =>
    rw [splitOn_slashed_of_not_mem htext, List.splitOn_eq_singleton htext, List.flatMap_singleton]
  | more front rest hfront ih =>
    have hslashed : slashed (front ++ '/' :: rest) = slashed front ++ '/' :: slashed rest :=
      slashed_append front ('/' :: rest)
    rw [hslashed, List.splitOn_append_cons_self, List.splitOn_append_cons_self_of_not_mem hfront,
      splitOn_slashed_of_not_mem hfront, ih, List.flatMap_cons]

theorem intercalate_append {front names : List (List Char)} (hfront : front ≠ [])
    (hnames : names ≠ []) :
    ['/'].intercalate (front ++ names) =
      ['/'].intercalate front ++ '/' :: ['/'].intercalate names := by
  induction front with
  | nil => exact absurd rfl hfront
  | cons name front ih =>
    cases front with
    | nil =>
      rw [List.singleton_append, List.intercalate_cons_of_ne_nil hnames, List.intercalate_singleton,
        List.append_assoc, List.singleton_append]
    | cons other front =>
      rw [List.cons_append, List.intercalate_cons_of_ne_nil (by simp), ih (List.cons_ne_nil _ _),
        List.intercalate_cons_cons]
      simp only [List.append_assoc]

theorem mem_intercalate_iff {c : Char} (hslash : c ≠ '/') {names : List (List Char)} :
    c ∈ ['/'].intercalate names ↔ ∃ name ∈ names, c ∈ name := by
  induction names with
  | nil => simp
  | cons name names ih =>
    by_cases hnone : names = []
    · simp [hnone]
    · rw [List.intercalate_cons_of_ne_nil hnone]
      simp [ih, hslash]

/-- A text ends in some names between slashes if it is made of them, or they stand behind a slash at
its end. -/
theorem suffix_splitOn_iff {names : List (List Char)} {text : List Char} (hnone : names ≠ [])
    (hnames : ∀ name ∈ names, '/' ∉ name) :
    names <:+ text.splitOn '/' ↔
      text = ['/'].intercalate names ∨ '/' :: ['/'].intercalate names <:+ text := by
  have hsplit := List.splitOn_intercalate '/' hnames hnone
  constructor
  · rintro ⟨front, hfront⟩
    have htext : ['/'].intercalate (text.splitOn '/') = text := List.intercalate_splitOn '/'
    rw [← hfront] at htext
    by_cases hempty : front = []
    · rw [hempty, List.nil_append] at htext
      exact .inl htext.symm
    · rw [intercalate_append hempty hnone] at htext
      exact .inr ⟨_, htext⟩
  · rintro (rfl | ⟨before, rfl⟩)
    · exact ⟨[], hsplit.symm⟩
    · rw [List.splitOn_append_cons_self, hsplit]
      exact List.suffix_append _ names

/-- A text is its last name, or ends in a slash and the name. -/
theorem eq_or_exists_lastName (text : List Char) :
    '/' ∉ lastName text ∧
      (text = lastName text ∨ ∃ front, text = front ++ '/' :: lastName text) := by
  have hslash : '/' ∉ lastName text :=
    slash_not_mem_of_mem_splitOn (List.getLast_mem (List.splitOn_ne_nil '/' text))
  have hsuffix : [lastName text] <:+ text.splitOn '/' := ⟨_, List.dropLast_append_getLast _⟩
  rw [suffix_splitOn_iff (List.cons_ne_nil _ _) (by simpa using hslash),
    List.intercalate_singleton] at hsuffix
  refine ⟨hslash, hsuffix.imp_right ?_⟩
  rintro ⟨front, hfront⟩
  exact ⟨front, hfront.symm⟩

/-! ### Names -/

/-- A name of a file or a directory has no slash in it and is neither empty nor a dot. -/
structure IsName (name : List Char) : Prop where
  slash_not_mem : '/' ∉ name
  ne_nil : name ≠ []
  ne_dot : name ≠ ['.']

theorem isName_of_mem_pathNames {name text : List Char} (h : name ∈ pathNames text) :
    IsName name := by
  obtain ⟨hmem, htest⟩ := List.mem_filter.mp h
  obtain ⟨hnil, hdot⟩ : name ≠ [] ∧ name ≠ ['.'] := by simpa using htest
  exact ⟨slash_not_mem_of_mem_splitOn hmem, hnil, hdot⟩

theorem pathNames_of_isName {name : List Char} (h : IsName name) : pathNames name = [name] := by
  have htest : (!(name.isEmpty || name == ['.'])) = true := by simpa using ⟨h.ne_nil, h.ne_dot⟩
  unfold pathNames
  rw [List.splitOn_eq_singleton h.slash_not_mem, List.filter_singleton, htest]
  rfl

theorem isAbsolutePath_of_isName {name : List Char} (h : IsName name) :
    isAbsolutePath name = false := by
  cases name with
  | nil => rfl
  | cons first rest =>
    have hfirst : first ≠ '/' := fun heq ↦ h.slash_not_mem (heq ▸ List.mem_cons_self)
    simpa [isAbsolutePath] using hfirst

/-- Every part of the path is a name. -/
def AbsolutePath.IsProper (path : AbsolutePath) : Prop := ∀ name ∈ path.names, IsName name

theorem AbsolutePath.isProper_top : top.IsProper := fun _ hname ↦ nomatch hname

/-- From a directory that is spelled, a text leads to a path of names. -/
theorem AbsolutePath.IsProper.resolve {directory : AbsolutePath} (h : directory.IsProper)
    (text : List Char) : (directory.resolve text).IsProper := by
  intro name hname
  unfold AbsolutePath.resolve at hname
  split_ifs at hname with habsolute
  · exact isName_of_mem_pathNames hname
  · rcases List.mem_append.mp hname with hname | hname
    · exact h name hname
    · exact isName_of_mem_pathNames hname

/-- Any character of a path but a slash is one of its names. -/
theorem AbsolutePath.mem_normalized_iff {c : Char} (h : ¬ IsSlash c) {path : AbsolutePath} :
    c ∈ path.normalized ↔ ∃ name ∈ path.names, c ∈ name := by
  obtain ⟨hslash, -⟩ := not_or.mp h
  unfold AbsolutePath.normalized AbsolutePath.text
  rw [mem_slashed_iff h, List.mem_cons, or_iff_right hslash, mem_intercalate_iff hslash]

/-! ### Paths behind others -/

/-- Names on both sides of a slash are the names of the two texts. -/
theorem pathNames_append_slash (first second : List Char) :
    pathNames (first ++ '/' :: second) = pathNames first ++ pathNames second := by
  unfold pathNames
  rw [List.splitOn_append_cons_self, List.filter_append]

/-- The names of a path behind another one come after those of the other one. -/
theorem pathNames_joinedPath {path : List Char} (hrelative : isAbsolutePath path = false)
    (base : List Char) : pathNames (joinedPath base path) = pathNames base ++ pathNames path := by
  unfold joinedPath
  rw [hrelative]
  rcases base.eq_nil_or_concat with rfl | ⟨init, last, rfl⟩
  · rfl
  · rw [List.concat_eq_append]
    by_cases hslash : last = '/'
    · subst hslash
      have hinit := pathNames_append_slash init []
      rw [show pathNames [] = [] from rfl, List.append_nil] at hinit
      rw [if_neg Bool.false_ne_true, if_pos (by simp), hinit, List.append_assoc]
      exact pathNames_append_slash init path
    · rw [if_neg Bool.false_ne_true, if_neg (by simpa using hslash)]
      exact pathNames_append_slash _ path

/-- A path behind another one starts where the other one starts. -/
theorem isAbsolutePath_joinedPath {path : List Char} (hrelative : isAbsolutePath path = false)
    (base : List Char) : isAbsolutePath (joinedPath base path) = isAbsolutePath base := by
  unfold joinedPath
  rw [hrelative]
  cases base with
  | nil => exact hrelative
  | cons first rest =>
    rw [if_neg Bool.false_ne_true]
    split_ifs
    · rfl
    · rfl

/-- A relative path is the same from the directory on. -/
theorem AbsolutePath.resolve_dotSlash (directory : AbsolutePath) {path : List Char}
    (hrelative : isAbsolutePath path = false) :
    directory.resolve ('.' :: '/' :: path) = directory.resolve path := by
  have hnames : pathNames ('.' :: '/' :: path) = pathNames path := pathNames_append_slash ['.'] path
  unfold resolve
  rw [hnames, hrelative]
  rfl

/-! ### Endings of names -/

/-- What is put behind the last name of a path stands behind the text of the path. -/
theorem AbsolutePath.text_append (names : List (List Char)) (name suffix : List Char) :
    AbsolutePath.text ⟨names ++ [name ++ suffix]⟩ =
      AbsolutePath.text ⟨names ++ [name]⟩ ++ suffix := by
  unfold AbsolutePath.text
  by_cases hnames : names = []
  · simp [hnames]
  · rw [intercalate_append hnames (List.cons_ne_nil _ _),
      intercalate_append hnames (List.cons_ne_nil _ _)]
    simp

/-- An ending belongs to the last name of the text that it is put behind. -/
theorem pathNames_append {stem suffix : List Char} (hnil : lastName stem ≠ [])
    (hdot : lastName stem ≠ ['.']) (hending : suffix ≠ []) (hslash : '/' ∉ suffix) :
    ∃ names, pathNames stem = names ++ [lastName stem] ∧
      pathNames (stem ++ suffix) = names ++ [lastName stem ++ suffix] := by
  obtain ⟨hstem, hends⟩ := eq_or_exists_lastName stem
  have hname : pathNames (lastName stem) = [lastName stem] :=
    pathNames_of_isName ⟨hstem, hnil, hdot⟩
  have hlong : pathNames (lastName stem ++ suffix) = [lastName stem ++ suffix] := by
    refine pathNames_of_isName ⟨by simp [hstem, hslash], by simp [hnil], fun hsingle ↦ ?_⟩
    have hlength := congrArg List.length hsingle
    have := List.length_pos_iff.mpr hnil
    have := List.length_pos_iff.mpr hending
    rw [List.length_append, List.length_singleton] at hlength
    omega
  generalize lastName stem = name at *
  rcases hends with rfl | ⟨front, rfl⟩
  · exact ⟨[], hname, hlong⟩
  · refine ⟨pathNames front, ?_, ?_⟩
    · rw [pathNames_append_slash, hname]
    · rw [List.append_assoc, List.cons_append, pathNames_append_slash, hlong]

/-- The path of a text with an ending has the text of the path with the ending behind it. -/
theorem AbsolutePath.text_resolve_append {stem suffix : List Char} (hnil : lastName stem ≠ [])
    (hdot : lastName stem ≠ ['.']) (hending : suffix ≠ []) (hslash : '/' ∉ suffix)
    (directory : AbsolutePath) :
    (directory.resolve (stem ++ suffix)).text = (directory.resolve stem).text ++ suffix := by
  obtain ⟨names, hstem, hlong⟩ := pathNames_append hnil hdot hending hslash
  have habsolute : isAbsolutePath (stem ++ suffix) = isAbsolutePath stem := by
    cases stem with
    | nil => exact absurd rfl hnil
    | cons c stem => rfl
  unfold resolve
  rw [habsolute, hstem, hlong]
  split_ifs
  · exact text_append names (lastName stem) suffix
  · rw [← List.append_assoc, ← List.append_assoc]
    exact text_append (directory.names ++ names) (lastName stem) suffix

end SsrBuild
