import SsrBuild.Proofs.FileSystem.Operation

/-!
What stays when files and directories are added. Whatever a path looks like, two dots included, it
leads where it led as long as the directories stay (`follow_of_hasDirectory`), and entries are put
only where no directory stands (`run_makeDirectory_or`, `of_run_writeFile_ok`). So what every new
directory on the way to a path keeps is kept when all of them are made (`keeps_makeDirectoriesUp`).
-/

set_option autoImplicit false

namespace SsrBuild

namespace Entry

/-- Where no directory stood an entry has been put; the directories are still there. -/
theorem hasDirectory_put {new entry : Entry} {place : List (List Char)} (hopen : entry.IsOpen place)
    (hplace : ¬ entry.HasDirectory place) {other : List (List Char)}
    (hother : entry.HasDirectory other) : (put new place entry).HasDirectory other := by
  by_cases habove : other <+: place
  · obtain ⟨rest, rfl⟩ := habove
    cases rest with
    | nil =>
      rw [List.append_nil] at hplace
      exact absurd hother hplace
    | cons name rest => exact isOpen_put new hopen other ⟨name, rest, rfl⟩
  · by_cases hbelow : place <+: other
    · obtain ⟨rest, rfl⟩ := hbelow
      cases rest with
      | nil =>
        rw [List.append_nil] at hother
        exact absurd hother hplace
      | cons name rest =>
        obtain ⟨entries, hentries⟩ := hother
        exact absurd (isOpen_of_below? hentries place ⟨name, rest, rfl⟩) hplace
    · obtain ⟨entries, hentries⟩ := hother
      exact ⟨entries, (below?_put_of_apart new habove hbelow entry).trans hentries⟩

/-- Where nothing stood an entry has been put; the files are still there. -/
theorem hasFile_put {new entry : Entry} (hnew : ∀ name rest, new.below? (name :: rest) = none)
    {place : List (List Char)} (hopen : entry.IsOpen place) (hplace : entry.below? place = none)
    {other : List (List Char)} (hother : entry.HasFile other) :
    (put new place entry).HasFile other := by
  have hne : other ≠ place := by
    rintro rfl
    exact (not_hasDirectory_and_not_hasFile hplace).2 hother
  have habove : ¬ IsAbove other place := fun habove ↦ (hopen other habove).not_hasFile hother
  obtain ⟨content, hcontent⟩ := hother
  have hput := below?_put_of_ne hnew hopen (not_hasDirectory_and_not_hasFile hplace).1 hne habove
  exact ⟨content, hput.trans hcontent⟩

end Entry

namespace FileSystem

variable {files : FileSystem}

/-- Names are followed one after another. -/
theorem follow_append (files : FileSystem) (first second place : List (List Char)) :
    files.follow place (first ++ second) =
      files.follow place first >>= fun reached ↦ files.follow reached second := by
  induction first generalizing place with
  | nil => rfl
  | cons name first ih =>
    rw [List.cons_append, follow, follow]
    cases files.top.below? place with
    | none => rfl
    | some found =>
      cases found with
      | file content => rfl
      | directory entries =>
        dsimp only
        split_ifs
        · exact ih _
        · exact ih _

/-- Names that are followed at all start in a directory. -/
theorem hasDirectory_of_follow_cons {place reached rest : List (List Char)} {name : List Char}
    (h : files.follow place (name :: rest) = .ok reached) : files.top.HasDirectory place := by
  rw [follow] at h
  split at h
  · cases h
  · cases h
  · next entries hentries => exact ⟨entries, hentries⟩

/-- Names without two dots lead further down. -/
theorem eq_append_of_follow {names : List (List Char)} (hnames : above ∉ names) :
    ∀ {place reached : List (List Char)}, files.follow place names = .ok reached →
      reached = place ++ names := by
  induction names with
  | nil =>
    intro place reached h
    rw [List.append_nil]
    exact (Except.ok.inj h).symm
  | cons name rest ih =>
    intro place reached h
    obtain ⟨hne, hrest⟩ := List.ne_and_not_mem_of_not_mem_cons hnames
    have hname : ¬ (name == above) = true := by simpa using hne.symm
    obtain ⟨entries, hentries⟩ := hasDirectory_of_follow_cons h
    rw [follow, hentries] at h
    simp only [if_neg hname] at h
    rw [ih hrest h, List.append_assoc, List.singleton_append]

/-- A path to something in a directory leads into the directory. -/
theorem of_follow_append {start reached first rest : List (List Char)} {name : List Char}
    (hnames : above ∉ name :: rest)
    (h : files.follow start (first ++ name :: rest) = .ok reached) :
    ∃ directory, files.follow start first = .ok directory ∧ files.top.HasDirectory directory ∧
      reached = directory ++ name :: rest := by
  rw [follow_append] at h
  obtain ⟨directory, hfirst, hrest⟩ := bind_eq_ok_iff.mp h
  exact ⟨directory, hfirst, hasDirectory_of_follow_cons hrest, eq_append_of_follow hnames hrest⟩

/-- A name leads from a directory into it. -/
theorem follow_singleton {place : List (List Char)} {name : List Char} (hname : name ≠ above)
    (hplace : files.top.HasDirectory place) :
    files.follow place [name] = .ok (place ++ [name]) := by
  refine follow_of_isOpen (by simpa using hname.symm) fun upper hupper ↦ ?_
  rcases isAbove_cons_iff.mp hupper with rfl | ⟨inner, -, hinner⟩
  · rw [List.append_nil]
    exact hplace
  · exact absurd hinner (not_isAbove_nil inner)

/-- A path leads where it led as long as the directories stay. -/
theorem follow_of_hasDirectory {before after : FileSystem}
    (hkept : ∀ place, before.top.HasDirectory place → after.top.HasDirectory place)
    {names : List (List Char)} : ∀ {start reached : List (List Char)},
      before.follow start names = .ok reached → after.follow start names = .ok reached := by
  induction names with
  | nil => exact fun h ↦ h
  | cons name rest ih =>
    intro start reached h
    obtain ⟨entries, hentries⟩ := hasDirectory_of_follow_cons h
    obtain ⟨others, hothers⟩ := hkept start ⟨entries, hentries⟩
    rw [follow, hentries] at h
    rw [follow, hothers]
    dsimp only at h ⊢
    split_ifs at h ⊢
    · exact ih h
    · exact ih h

/-- Where a path leads into a directory that stands, its place is open. -/
theorem isOpen_of_follow {start reached rest : List (List Char)} :
    ∀ {first : List (List Char)} {name : List Char}, above ∉ name :: rest →
      files.follow start (first ++ name :: rest) = .ok reached → files.top.IsOpen reached := by
  induction rest with
  | nil =>
    intro first name hnames h
    obtain ⟨directory, -, hdirectory, rfl⟩ := of_follow_append hnames h
    exact Entry.isOpen_append_singleton hdirectory
  | cons next rest ih =>
    intro first name hnames h
    rw [List.append_cons] at h
    exact ih (List.ne_and_not_mem_of_not_mem_cons hnames).2 h

/-- A path without two dots leads to the place of its names, and that is open. -/
theorem isOpen_of_locate {path : AbsolutePath} {place : List (List Char)}
    (hnames : above ∉ path.names) (h : files.locate path = .ok place) :
    place = path.names ∧ files.top.IsOpen place := by
  refine ⟨eq_append_of_follow hnames h, ?_⟩
  unfold locate at h
  cases hpath : path.names with
  | nil =>
    rw [hpath] at h
    obtain rfl := Except.ok.inj h
    exact fun upper hupper ↦ absurd hupper (not_isAbove_nil upper)
  | cons name rest =>
    rw [hpath, ← List.nil_append (name :: rest)] at h
    rw [hpath] at hnames
    exact isOpen_of_follow hnames h

/-- What a path leads to is what stands at its place. -/
theorem entry_of_locate {path : AbsolutePath} {place : List (List Char)} {found : Entry}
    (hlocate : files.locate path = .ok place) (hfound : files.top.below? place = some found) :
    files.entry path = .ok found :=
  bind_eq_ok_iff.mpr ⟨place, hlocate, by rw [hfound]; rfl⟩

/-- Where the same stands at the place of a path, its content is the same. -/
theorem contentAt_eq_of_locate {before after : FileSystem} {path : AbsolutePath}
    {place reached : List (List Char)} (hbefore : before.locate path = .ok place)
    (hafter : after.locate path = .ok reached)
    (hsame : after.top.below? reached = before.top.below? place) :
    after.contentAt path = before.contentAt path := by
  have hentry : after.entry path = before.entry path := by
    cases hfound : before.top.below? place with
    | some found =>
      rw [entry_of_locate hbefore hfound, entry_of_locate hafter (hsame.trans hfound)]
    | none =>
      have hnone : ∀ {files : FileSystem} {place : List (List Char)},
          files.locate path = .ok place → files.top.below? place = none →
            files.entry path = .error .notFound := fun hlocate hmissing ↦
        bind_eq_error_iff.mpr (Or.inr ⟨_, hlocate, by rw [hmissing]; rfl⟩)
      rw [hnone hbefore hfound, hnone hafter (hsame.trans hfound)]
  unfold contentAt
  rw [hentry]

/-- Something stands wherever the way to what stands leads. -/
theorem below?_ne_none_of_entry {names rest place : List (List Char)}
    (hstands : ∃ entry, files.entry ⟨names ++ rest⟩ = .ok entry)
    (hlocate : files.locate ⟨names⟩ = .ok place) : files.top.below? place ≠ none := by
  obtain ⟨entry, hentry⟩ := hstands
  obtain ⟨reached, hreached, hfound⟩ := bind_eq_ok_iff.mp hentry
  have hrest : files.follow place rest = .ok reached := by
    unfold locate at hreached hlocate
    rw [follow_append, hlocate] at hreached
    exact hreached
  cases rest with
  | nil =>
    obtain rfl := Except.ok.inj hrest
    intro hnone
    rw [hnone] at hfound
    cases hfound
  | cons name rest =>
    obtain ⟨entries, hentries⟩ := hasDirectory_of_follow_cons hrest
    rw [hentries]
    exact Option.some_ne_none _

/-- What has been put below a directory, but not at a name in it or below that, leaves the directory
where it is, and what stands at the name. -/
theorem entry_and_contentAt_put {directory rest place : List (List Char)} {name other : List Char}
    {new : Entry} (hnames : above ∉ name :: rest) (hother : other ≠ above) (hne : other ≠ name)
    (hlocate : files.locate ⟨directory ++ name :: rest⟩ = .ok place)
    (hplace : ¬ files.top.HasDirectory place)
    (hnew : ∀ name rest, new.below? (name :: rest) = none) :
    (∃ entry, FileSystem.entry ⟨Entry.put new place files.top⟩ ⟨directory⟩ = .ok entry) ∧
      contentAt ⟨Entry.put new place files.top⟩ ⟨directory ++ [other]⟩ =
        files.contentAt ⟨directory ++ [other]⟩ := by
  set after : FileSystem := ⟨Entry.put new place files.top⟩ with hafter
  obtain ⟨reached, hreached, hdirectory, hsplit⟩ := of_follow_append hnames hlocate
  have hopen : files.top.IsOpen place := isOpen_of_follow hnames hlocate
  have hkept : ∀ upper, files.top.HasDirectory upper → after.top.HasDirectory upper :=
    fun upper ↦ Entry.hasDirectory_put hopen hplace
  have hstill := follow_of_hasDirectory hkept hreached
  have hsame : after.top.below? (reached ++ [other]) = files.top.below? (reached ++ [other]) := by
    refine Entry.below?_put_of_ne hnew hopen hplace ?_ ?_
    · rw [hsplit]
      intro heq
      exact hne (List.cons.inj (List.append_cancel_left heq)).1
    · rw [hsplit]
      rintro ⟨next, more, heq⟩
      rw [List.append_assoc] at heq
      exact hne (List.cons.inj (List.append_cancel_left heq)).1.symm
  have hlocated : ∀ {found : FileSystem}, found.follow [] directory = .ok reached →
      found.top.HasDirectory reached →
        found.locate ⟨directory ++ [other]⟩ = .ok (reached ++ [other]) := by
    intro found hfollow hthere
    unfold locate
    rw [follow_append, hfollow]
    exact follow_singleton hother hthere
  constructor
  · obtain ⟨entries, hentries⟩ := hkept reached hdirectory
    exact ⟨.directory entries, entry_of_locate hstill hentries⟩
  · exact contentAt_eq_of_locate (hlocated hreached hdirectory)
      (hlocated hstill (hkept reached hdirectory)) hsame

namespace Operation

/-- Making a directory changes nothing, or puts an empty directory where nothing stands. -/
theorem run_makeDirectory_or (path : AbsolutePath) (files : FileSystem) :
    ((makeDirectory path).run.run files).2 = files ∨
      ∃ place, files.locate path = .ok place ∧ files.top.below? place = none ∧
        ((makeDirectory path).run.run files).2 =
          ⟨Entry.put .emptyDirectory place files.top⟩ := by
  have hstart : (makeDirectory path).run.run files = _ := run_bind_of_ok (run_get files)
  cases hlocate : files.locate path with
  | error fault =>
    exact Or.inl (congrArg Prod.snd (hstart.trans (run_bind_of_error (run_locate hlocate))))
  | ok place =>
    rw [hstart, run_bind_of_ok (run_locate hlocate)]
    cases hfound : files.top.below? place with
    | some found => exact Or.inl rfl
    | none => exact Or.inr ⟨place, rfl, hfound, rfl⟩

/-- Asking for a directory changes nothing. -/
theorem keeps_failUnlessDirectory (kept : FileSystem → Prop) (path : AbsolutePath)
    (fault : FileFault) : Keeps kept (failUnlessDirectory path fault) := by
  intro files hfiles
  have hstart : (failUnlessDirectory path fault).run.run files = _ := run_bind_of_ok (run_get files)
  rw [hstart]
  split_ifs
  · exact hfiles
  · exact hfiles

/-- What every new directory on the way keeps is kept when the directories are made. -/
theorem keeps_makeDirectoriesUp (kept : FileSystem → Prop) (upwards : List (List Char))
    (hkept : ∀ names rest, upwards.reverse = names ++ rest → Keeps kept (makeDirectory ⟨names⟩)) :
    Keeps kept (makeDirectoriesUp upwards) := by
  induction upwards with
  | nil => exact keeps_failUnlessDirectory kept .top .alreadyExists
  | cons name upwards ih =>
    have hhere : Keeps kept (makeDirectory ⟨(name :: upwards).reverse⟩) :=
      hkept _ [] (List.append_nil _).symm
    have hupwards : Keeps kept (makeDirectoriesUp upwards) := by
      refine ih fun names rest hnames ↦ hkept names (rest ++ [name]) ?_
      rw [List.reverse_cons, hnames, List.append_assoc]
    rw [makeDirectoriesUp]
    refine hhere.tryCatch fun fault ↦ ?_
    split_ifs
    · -- The directory above is made first, and then this one once more.
      exact hupwards.bind fun _ ↦ hhere.tryCatch (keeps_failUnlessDirectory kept _)
    · exact keeps_failUnlessDirectory kept _ fault

/-- A file that has been written stands where its path leads, and no directory did. -/
theorem of_run_writeFile_ok {path : AbsolutePath} {content : Bytes} {files after : FileSystem}
    (h : (writeFile path content).run.run files = (.ok (), after)) :
    ∃ place, files.locate path = .ok place ∧ ¬ files.top.HasDirectory place ∧
      after = ⟨Entry.put (.file content) place files.top⟩ := by
  have hstart : (writeFile path content).run.run files = _ := run_bind_of_ok (run_get files)
  cases hlocate : files.locate path with
  | error fault =>
    rw [hstart, run_bind_of_error (run_locate hlocate)] at h
    cases h
  | ok place =>
    rw [hstart, run_bind_of_ok (run_locate hlocate)] at h
    refine ⟨place, rfl, ?_⟩
    cases hfound : files.top.below? place with
    | none =>
      rw [hfound] at h
      obtain ⟨-, rfl⟩ := Prod.mk.inj h
      exact ⟨(Entry.not_hasDirectory_and_not_hasFile hfound).1, rfl⟩
    | some found =>
      rw [hfound] at h
      cases found with
      | directory entries => cases h
      | file old =>
        obtain ⟨-, rfl⟩ := Prod.mk.inj h
        refine ⟨?_, rfl⟩
        rintro ⟨entries, hentries⟩
        rw [hfound] at hentries
        cases hentries

/-- Making directories below a directory that is there leaves it where it is, and what stands at
another name in it. -/
theorem run_makeDirectories_spares {directory rest : List (List Char)} {name other : List Char}
    (hnames : above ∉ name :: rest) (hother : other ≠ above) (hne : other ≠ name)
    {files : FileSystem} (hstands : ∃ entry, files.entry ⟨directory⟩ = .ok entry) :
    (∃ entry, ((makeDirectories ⟨directory ++ name :: rest⟩).run.run files).2.entry
      ⟨directory⟩ = .ok entry) ∧
      ((makeDirectories ⟨directory ++ name :: rest⟩).run.run files).2.contentAt
        ⟨directory ++ [other]⟩ = files.contentAt ⟨directory ++ [other]⟩ := by
  set content := files.contentAt ⟨directory ++ [other]⟩ with hcontent
  refine keeps_makeDirectoriesUp (fun found ↦
    (∃ entry, found.entry ⟨directory⟩ = .ok entry) ∧
      found.contentAt ⟨directory ++ [other]⟩ = content) _ ?_ files ⟨hstands, rfl⟩
  rintro names more hpath found ⟨hfound, hsame⟩
  rw [List.reverse_reverse] at hpath
  rcases run_makeDirectory_or ⟨names⟩ found with hnone | ⟨place, hlocate, hmissing, hmade⟩
  · rw [hnone]
    exact ⟨hfound, hsame⟩
  · rw [hmade]
    rcases List.append_eq_append_iff.mp hpath with ⟨lower, rfl, hlower⟩ | ⟨upper, rfl, -⟩
    · cases lower with
      | nil =>
        rw [List.append_nil] at hlocate
        rw [← List.append_nil directory] at hfound
        exact absurd hmissing (below?_ne_none_of_entry hfound hlocate)
      | cons first lower =>
        obtain ⟨rfl, rfl⟩ := List.cons.inj hlower
        have hlowerNames : above ∉ name :: lower := fun hmem ↦
          hnames (List.mem_append_left more hmem)
        have hput := entry_and_contentAt_put hlowerNames hother hne hlocate
          (Entry.not_hasDirectory_and_not_hasFile hmissing).1 Entry.below?_emptyDirectory
        exact ⟨hput.1, hput.2.trans hsame⟩
    · exact absurd hmissing (below?_ne_none_of_entry hfound hlocate)

/-- Making directories at a path without two dots leaves directories and files where they are. -/
theorem run_makeDirectories_stays {path : AbsolutePath} (hnames : above ∉ path.names)
    (files : FileSystem) (place : List (List Char)) :
    (files.top.HasDirectory place →
      ((makeDirectories path).run.run files).2.top.HasDirectory place) ∧
      (files.top.HasFile place → ((makeDirectories path).run.run files).2.top.HasFile place) := by
  refine keeps_makeDirectoriesUp (fun found ↦
    (files.top.HasDirectory place → found.top.HasDirectory place) ∧
      (files.top.HasFile place → found.top.HasFile place)) _ ?_ files ⟨id, id⟩
  rintro names more hpath found ⟨hdirectory, hfile⟩
  rw [List.reverse_reverse] at hpath
  rcases run_makeDirectory_or ⟨names⟩ found with hnone | ⟨reached, hlocate, hmissing, hmade⟩
  · rw [hnone]
    exact ⟨hdirectory, hfile⟩
  · have hnamesHere : above ∉ names := fun hmem ↦ hnames (by
      rw [hpath]
      exact List.mem_append_left more hmem)
    obtain ⟨-, hopen⟩ := isOpen_of_locate hnamesHere hlocate
    rw [hmade]
    exact ⟨fun h ↦ Entry.hasDirectory_put hopen
        (Entry.not_hasDirectory_and_not_hasFile hmissing).1 (hdirectory h),
      fun h ↦ Entry.hasFile_put Entry.below?_emptyDirectory hopen hmissing (hfile h)⟩

end Operation

end FileSystem

end SsrBuild
