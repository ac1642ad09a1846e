import Mathlib.Tactic.Common
import SsrBuild.FileSystem.Basic

/-!
Places in a tree of directories, and what stands there. Putting an entry at a place that is open
changes what stands there and below, and nothing else (`below?_put_self`, `below?_put_of_apart`). A
path without two dots leads to the place of its names if every place above is a directory; otherwise
the first one that is not decides how it fails (`locate_of_isOpen`, `locate_of_missing`,
`locate_of_file`).
-/

set_option autoImplicit false

namespace SsrBuild

/-- The first place is strictly above the second one. -/
def IsAbove (upper place : List (List Char)) : Prop :=
  ∃ name rest, place = upper ++ name :: rest

/-- Nothing is above the top. -/
theorem not_isAbove_nil (upper : List (List Char)) : ¬ IsAbove upper [] := by
  rintro ⟨name, rest, h⟩
  simp at h

/-- What is above a place in a directory is the directory, or above the place in it. -/
theorem isAbove_cons_iff {upper place : List (List Char)} {name : List Char} :
    IsAbove upper (name :: place) ↔
      upper = [] ∨ ∃ inner, upper = name :: inner ∧ IsAbove inner place := by
  constructor
  · rintro ⟨next, rest, h⟩
    cases upper with
    | nil => exact Or.inl rfl
    | cons first inner =>
      obtain ⟨rfl, hplace⟩ := List.cons.inj h
      exact Or.inr ⟨inner, rfl, next, rest, hplace⟩
  · rintro (rfl | ⟨inner, rfl, next, rest, rfl⟩)
    · exact ⟨name, place, rfl⟩
    · exact ⟨next, rest, rfl⟩

/-- What is above a place in a directory is the directory, or above it. -/
theorem isAbove_append_singleton_iff {upper place : List (List Char)} {name : List Char} :
    IsAbove upper (place ++ [name]) ↔ upper = place ∨ IsAbove upper place := by
  induction place generalizing upper with
  | nil => simp [isAbove_cons_iff, not_isAbove_nil]
  | cons first place ih =>
    rw [List.cons_append, isAbove_cons_iff, isAbove_cons_iff]
    simp only [ih]
    constructor
    · rintro (rfl | ⟨inner, rfl, rfl | hinner⟩)
      · exact Or.inr (Or.inl rfl)
      · exact Or.inl rfl
      · exact Or.inr (Or.inr ⟨inner, rfl, hinner⟩)
    · rintro (rfl | rfl | ⟨inner, rfl, hinner⟩)
      · exact Or.inr ⟨place, rfl, Or.inl rfl⟩
      · exact Or.inl rfl
      · exact Or.inr ⟨inner, rfl, Or.inr hinner⟩

/-- A place in a directory is not the directory and not above it. -/
theorem not_isAbove_of_append_singleton (place : List (List Char)) (name : List Char) :
    place ++ [name] ≠ place ∧ ¬ IsAbove (place ++ [name]) place := by
  refine ⟨by simp, ?_⟩
  rintro ⟨next, rest, h⟩
  have := congrArg List.length h
  simp only [List.length_append, List.length_cons] at this
  omega

namespace Entry

/-- A directory stands at the place. -/
def HasDirectory (entry : Entry) (place : List (List Char)) : Prop :=
  ∃ entries, entry.below? place = some (directory entries)

/-- A file stands at the place. -/
def HasFile (entry : Entry) (place : List (List Char)) : Prop :=
  ∃ content, entry.below? place = some (file content)

/-- Where a directory stands no file does. -/
theorem HasDirectory.not_hasFile {entry : Entry} {place : List (List Char)}
    (h : entry.HasDirectory place) : ¬ entry.HasFile place := by
  obtain ⟨entries, hentries⟩ := h
  rintro ⟨content, hcontent⟩
  rw [hentries] at hcontent
  cases hcontent

/-- Every place above is a directory. -/
def IsOpen (entry : Entry) (place : List (List Char)) : Prop :=
  ∀ upper, IsAbove upper place → entry.HasDirectory upper

/-- What stands below a place stands below what stands at the place. -/
theorem below?_append (entry : Entry) (first second : List (List Char)) :
    entry.below? (first ++ second) = (entry.below? first).bind (below? second) := by
  induction first generalizing entry with
  | nil => rfl
  | cons name first ih =>
    simp only [List.cons_append, below?]
    cases entry.child? name with
    | none => rfl
    | some child => exact ih child

/-- Nothing stands below a file or below an empty directory. -/
theorem below?_file (content : Bytes) (name : List Char) (rest : List (List Char)) :
    (file content).below? (name :: rest) = none := rfl

theorem below?_emptyDirectory (name : List Char) (rest : List (List Char)) :
    emptyDirectory.below? (name :: rest) = none := rfl

/-- Where anything stands, every place above is a directory. -/
theorem isOpen_of_below? {entry found : Entry} {place : List (List Char)}
    (h : entry.below? place = some found) : entry.IsOpen place := by
  rintro upper ⟨name, rest, rfl⟩
  rw [below?_append] at h
  obtain ⟨middle, hmiddle, hrest⟩ := Option.bind_eq_some_iff.mp h
  cases middle with
  | file content => cases hrest
  | directory entries => exact ⟨entries, hmiddle⟩

/-- A place in a directory that is there is open. -/
theorem isOpen_append_singleton {entry : Entry} {place : List (List Char)} {name : List Char}
    (h : entry.HasDirectory place) : entry.IsOpen (place ++ [name]) := by
  intro upper hupper
  obtain ⟨entries, hentries⟩ := h
  rcases isAbove_append_singleton_iff.mp hupper with rfl | habove
  · exact ⟨entries, hentries⟩
  · exact isOpen_of_below? hentries upper habove

/-- A place in a directory is open if the directory is there and what is below it is open. -/
theorem IsOpen.of_cons {entry : Entry} {name : List Char} {rest : List (List Char)}
    (h : entry.IsOpen (name :: rest)) : ∃ entries, entry = directory entries ∧
      ((Dictionary.get? name entries).getD emptyDirectory).IsOpen rest := by
  obtain ⟨entries, hentries⟩ := h [] ⟨name, rest, rfl⟩
  obtain rfl : entry = directory entries := Option.some.inj hentries
  refine ⟨entries, rfl, fun upper hupper ↦ ?_⟩
  obtain ⟨found, hfound⟩ := h (name :: upper) (isAbove_cons_iff.mpr (Or.inr ⟨upper, rfl, hupper⟩))
  obtain ⟨child, hchild, hbelow⟩ := Option.bind_eq_some_iff.mp hfound
  have hget : Dictionary.get? name entries = some child := hchild
  rw [hget, Option.getD_some]
  exact ⟨found, hbelow⟩

/-- What stands at a place is a directory, a file or nothing. -/
theorem hasDirectory_or_hasFile_or_none (entry : Entry) (place : List (List Char)) :
    entry.HasDirectory place ∨ entry.HasFile place ∨ entry.below? place = none := by
  cases hfound : entry.below? place with
  | none => exact Or.inr (Or.inr rfl)
  | some found =>
    cases found with
    | file content => exact Or.inr (Or.inl ⟨content, hfound⟩)
    | directory entries => exact Or.inl ⟨entries, hfound⟩

/-- Where nothing stands, neither a directory nor a file does. -/
theorem not_hasDirectory_and_not_hasFile {entry : Entry} {place : List (List Char)}
    (h : entry.below? place = none) : ¬ entry.HasDirectory place ∧ ¬ entry.HasFile place := by
  constructor
  · rintro ⟨entries, hentries⟩
    rw [h] at hentries
    cases hentries
  · rintro ⟨content, hcontent⟩
    rw [h] at hcontent
    cases hcontent

/-- Where no place above is a file, a place is not open because one above is missing. -/
theorem exists_missing_of_not_isOpen {entry : Entry} {place : List (List Char)}
    (hopen : ¬ entry.IsOpen place)
    (hfiles : ∀ upper, IsAbove upper place → ¬ entry.HasFile upper) :
    ∃ upper, IsAbove upper place ∧ entry.below? upper = none := by
  by_contra hmissing
  refine hopen fun upper hupper ↦ ?_
  rcases entry.hasDirectory_or_hasFile_or_none upper with hdirectory | hfile | hnone
  · exact hdirectory
  · exact absurd hfile (hfiles upper hupper)
  · exact absurd ⟨upper, hupper, hnone⟩ hmissing

/-! ### Putting an entry at a place -/

/-- What has been put at an open place stands there. -/
theorem below?_put_self (new : Entry) {entry : Entry} {place : List (List Char)}
    (hopen : entry.IsOpen place) : (put new place entry).below? place = some new := by
  induction place generalizing entry with
  | nil => rfl
  | cons name rest ih =>
    obtain ⟨entries, rfl, hrest⟩ := hopen.of_cons
    simp only [put, below?, child?, Dictionary.get?_insert_self, Option.bind_some]
    exact ih hrest

/-- Directories above an open place stay. -/
theorem isOpen_put (new : Entry) {entry : Entry} {place : List (List Char)}
    (hopen : entry.IsOpen place) : (put new place entry).IsOpen place :=
  isOpen_of_below? (below?_put_self new hopen)

/-- Places neither above nor below have what they had. -/
theorem below?_put_of_apart (new : Entry) {place other : List (List Char)}
    (habove : ¬ other <+: place) (hbelow : ¬ place <+: other) (entry : Entry) :
    (put new place entry).below? other = entry.below? other := by
  induction place generalizing other entry with
  | nil => exact absurd List.nil_prefix hbelow
  | cons name rest ih =>
    cases entry with
    | file content => rfl
    | directory entries =>
      cases other with
      | nil => exact absurd List.nil_prefix habove
      | cons first others =>
        simp only [put, below?, child?]
        by_cases heq : first = name
        · subst heq
          rw [List.cons_prefix_cons] at habove hbelow
          have habove : ¬ others <+: rest := fun h ↦ habove ⟨rfl, h⟩
          have hbelow : ¬ rest <+: others := fun h ↦ hbelow ⟨rfl, h⟩
          rw [Dictionary.get?_insert_self, Option.bind_some, ih habove hbelow]
          cases Dictionary.get? first entries with
          | some child => rfl
          | none =>
            cases others with
            | nil => exact absurd List.nil_prefix habove
            | cons next others => rfl
        · rw [Dictionary.get?_insert_of_ne heq]

/-- Where nothing or a file stands, putting an entry below which there is nothing changes only what
stands there and above. -/
theorem below?_put_of_ne {new : Entry} (hnew : ∀ name rest, new.below? (name :: rest) = none)
    {entry : Entry} {place : List (List Char)} (hopen : entry.IsOpen place)
    (hplace : ¬ entry.HasDirectory place) {other : List (List Char)} (hne : other ≠ place)
    (habove : ¬ IsAbove other place) :
    (put new place entry).below? other = entry.below? other := by
  by_cases hbelow : place <+: other
  · obtain ⟨rest, rfl⟩ := hbelow
    cases rest with
    | nil => simp at hne
    | cons name rest =>
      rw [below?_append, below?_append, below?_put_self new hopen, Option.bind_some, hnew]
      cases hfound : entry.below? place with
      | none => rfl
      | some found =>
        cases found with
        | file content => rfl
        | directory entries => exact absurd ⟨entries, hfound⟩ hplace
  · refine below?_put_of_apart new (fun hprefix ↦ ?_) hbelow entry
    obtain ⟨rest, rfl⟩ := hprefix
    cases rest with
    | nil => simp at hne
    | cons name rest => exact habove ⟨name, rest, rfl⟩

end Entry

/-! ### Following a path -/

namespace FileSystem

variable {files : FileSystem}

/-- Names other than two dots lead on as long as there are directories. -/
theorem follow_of_isOpen {names : List (List Char)} (hnames : above ∉ names) :
    ∀ {place : List (List Char)},
      (∀ upper, IsAbove upper names → files.top.HasDirectory (place ++ upper)) →
        files.follow place names = .ok (place ++ names) := by
  induction names with
  | nil => intro place _; rw [follow, List.append_nil]
  | cons name rest ih =>
    intro place hopen
    obtain ⟨hne, hrest⟩ := List.ne_and_not_mem_of_not_mem_cons hnames
    obtain ⟨entries, hplace⟩ := hopen [] ⟨name, rest, rfl⟩
    rw [List.append_nil] at hplace
    have hname : ¬ (name == above) = true := by simpa using hne.symm
    have hfollow : files.follow (place ++ [name]) rest = .ok (place ++ [name] ++ rest) := by
      refine ih hrest fun upper hupper ↦ ?_
      have := hopen (name :: upper) (isAbove_cons_iff.mpr (Or.inr ⟨upper, rfl, hupper⟩))
      rwa [List.append_assoc, List.singleton_append]
    rw [follow, hplace]
    simp only [if_neg hname]
    rw [hfollow, List.append_assoc, List.singleton_append]

/-- Where a directory is missing and none of the places above is a file, nothing is found. -/
theorem follow_of_missing {names : List (List Char)} (hnames : above ∉ names) :
    ∀ {place : List (List Char)},
      (∀ upper, IsAbove upper names → ¬ files.top.HasFile (place ++ upper)) →
        (∃ upper, IsAbove upper names ∧ files.top.below? (place ++ upper) = none) →
          files.follow place names = .error .notFound := by
  induction names with
  | nil =>
    rintro place - ⟨upper, hupper, -⟩
    exact absurd hupper (not_isAbove_nil upper)
  | cons name rest ih =>
    rintro place hfiles ⟨upper, hupper, hmissing⟩
    obtain ⟨hne, hrest⟩ := List.ne_and_not_mem_of_not_mem_cons hnames
    have hname : ¬ (name == above) = true := by simpa using hne.symm
    rw [follow]
    cases hplace : files.top.below? place with
    | none => rfl
    | some found =>
      cases found with
      | file content =>
        refine absurd ⟨content, ?_⟩ (hfiles [] ⟨name, rest, rfl⟩)
        rw [List.append_nil, hplace]
      | directory entries =>
        simp only [if_neg hname]
        rcases isAbove_cons_iff.mp hupper with rfl | ⟨inner, rfl, hinner⟩
        · rw [List.append_nil, hplace] at hmissing
          cases hmissing
        · refine ih hrest (fun upper hupper ↦ ?_) ⟨inner, hinner, ?_⟩
          · rw [List.append_assoc, List.singleton_append]
            exact hfiles (name :: upper) (isAbove_cons_iff.mpr (Or.inr ⟨upper, rfl, hupper⟩))
          · rw [List.append_assoc, List.singleton_append]
            exact hmissing

/-- Where a place above is a file, the path leads nowhere. -/
theorem follow_of_file {names : List (List Char)} (hnames : above ∉ names) :
    ∀ {place : List (List Char)},
      (∃ upper, IsAbove upper names ∧ files.top.HasFile (place ++ upper)) →
        files.follow place names = .error .notDirectory := by
  induction names with
  | nil =>
    rintro place ⟨upper, hupper, -⟩
    exact absurd hupper (not_isAbove_nil upper)
  | cons name rest ih =>
    rintro place ⟨upper, hupper, content, hfile⟩
    obtain ⟨hne, hrest⟩ := List.ne_and_not_mem_of_not_mem_cons hnames
    have hname : ¬ (name == above) = true := by simpa using hne.symm
    rw [follow]
    cases hplace : files.top.below? place with
    | none =>
      rw [Entry.below?_append, hplace] at hfile
      cases hfile
    | some found =>
      cases found with
      | file content => rfl
      | directory entries =>
        simp only [if_neg hname]
        rcases isAbove_cons_iff.mp hupper with rfl | ⟨inner, rfl, hinner⟩
        · rw [List.append_nil, hplace] at hfile
          cases hfile
        · refine ih hrest ⟨inner, hinner, content, ?_⟩
          rw [List.append_assoc, List.singleton_append]
          exact hfile

variable {path : AbsolutePath}

/-- A path leads to the place of its names if that is open. -/
theorem locate_of_isOpen (hpath : above ∉ path.names) (hopen : files.top.IsOpen path.names) :
    files.locate path = .ok path.names :=
  follow_of_isOpen hpath hopen

/-- A path with a directory missing above leads nowhere yet. -/
theorem locate_of_missing (hpath : above ∉ path.names)
    (hfiles : ∀ upper, IsAbove upper path.names → ¬ files.top.HasFile upper)
    {upper : List (List Char)} (hupper : IsAbove upper path.names)
    (hmissing : files.top.below? upper = none) : files.locate path = .error .notFound :=
  follow_of_missing hpath hfiles ⟨upper, hupper, hmissing⟩

/-- A path with a file above leads nowhere. -/
theorem locate_of_file (hpath : above ∉ path.names) {upper : List (List Char)}
    (hupper : IsAbove upper path.names) (hfile : files.top.HasFile upper) :
    files.locate path = .error .notDirectory :=
  follow_of_file hpath ⟨upper, hupper, hfile⟩

/-- What a path to an open place leads to. -/
theorem entry_of_isOpen (hpath : above ∉ path.names) (hopen : files.top.IsOpen path.names) :
    files.entry path = match files.top.below? path.names with
      | some entry => .ok entry
      | none => .error .notFound := by
  unfold FileSystem.entry
  rw [locate_of_isOpen hpath hopen]
  rfl

/-- The content of the file at a place. -/
theorem contentAt_of_file (hpath : above ∉ path.names) {content : Bytes}
    (hfile : files.top.below? path.names = some (.file content)) :
    files.contentAt path = .ok content := by
  unfold contentAt
  rw [entry_of_isOpen hpath (Entry.isOpen_of_below? hfile), hfile]
  rfl

/-- A directory has no content. -/
theorem contentAt_of_directory (hpath : above ∉ path.names)
    (hdirectory : files.top.HasDirectory path.names) :
    files.contentAt path = .error .isDirectory := by
  obtain ⟨entries, hentries⟩ := hdirectory
  unfold contentAt
  rw [entry_of_isOpen hpath (Entry.isOpen_of_below? hentries), hentries]
  rfl

/-- A path with a file above has no content. -/
theorem contentAt_of_blocked (hpath : above ∉ path.names) {upper : List (List Char)}
    (hupper : IsAbove upper path.names) (hfile : files.top.HasFile upper) :
    files.contentAt path = .error .notDirectory := by
  unfold contentAt FileSystem.entry
  rw [locate_of_file hpath hupper hfile]
  rfl

/-- What is missing, and has no file above, is not found. -/
theorem contentAt_of_missing (hpath : above ∉ path.names)
    (hfiles : ∀ upper, IsAbove upper path.names → ¬ files.top.HasFile upper)
    (hmissing : files.top.below? path.names = none) :
    files.contentAt path = .error .notFound := by
  unfold contentAt FileSystem.entry
  by_cases hopen : files.top.IsOpen path.names
  · rw [locate_of_isOpen hpath hopen]
    show (match files.top.below? path.names with
      | some entry => pure entry
      | none => throw .notFound : Except FileFault Entry) >>= _ = _
    rw [hmissing]
    rfl
  · obtain ⟨upper, hupper, hnone⟩ := Entry.exists_missing_of_not_isOpen hopen hfiles
    rw [locate_of_missing hpath hfiles hupper hnone]
    rfl

end FileSystem

end SsrBuild
