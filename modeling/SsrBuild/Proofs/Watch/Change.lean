import SsrBuild.Lifecycle.Interleaving
import SsrBuild.Proofs.Path.Absolute

/-!
What a watcher hands out. Notices come in and the watcher is asked for the next change, in any
order. What has been handed out and what still waits are together the events that have come in and
touch the file, in their order (`Delivers.events_append_changes`): this is kept when a notice comes
in and when the watcher is asked. So asking until there is nothing hands out these events and no
others (`delivers_touching`), and notices that do not touch the file make nothing be generated.
-/

set_option autoImplicit false

namespace SsrBuild

/-! ### Changes of a file -/

/-- An event touches a file if it is more than an access to files and one of its paths ends in the
name of the file. -/
def FileEvent.Touches (event : FileEvent) (fileName : List Char) : Prop :=
  event.kind ≠ .access ∧ ∃ path ∈ event.paths, path.names.getLast? = some fileName

instance (event : FileEvent) (fileName : List Char) : Decidable (event.Touches fileName) :=
  inferInstanceAs (Decidable (_ ∧ ∃ path ∈ event.paths, path.names.getLast? = some fileName))

/-- The event in a notice. -/
def Notice.event? : Notice → Option FileEvent
  | event found => some found
  | failure _ => none

/-- The events in notices that touch a file. -/
def Notice.touching (fileName : List Char) (notices : List Notice) : List FileEvent :=
  (notices.filterMap event?).filter fun event ↦ event.Touches fileName

/-- A notice that does not touch a file. -/
inductive Notice.IsQuiet (fileName : List Char) : Notice → Prop
  | failure (message : List Char) : IsQuiet fileName (.failure message)
  | access {event : FileEvent} (h : event.kind = .access) : IsQuiet fileName (.event event)
  | elsewhere {event : FileEvent} (h : ∀ path ∈ event.paths, path.names.getLast? ≠ some fileName) :
      IsQuiet fileName (.event event)

section Name

variable {fileName : List Char}

/-- A path ends in a name that is not two dots. -/
theorem AbsolutePath.fileName?_eq_some_iff {path : AbsolutePath} :
    path.fileName? = some fileName ↔
      path.names.getLast? = some fileName ∧ fileName ≠ ['.', '.'] := by
  unfold fileName?
  rw [Option.filter_eq_some_iff, bne_iff_ne]

/-- The changes of a file are the events that touch it. -/
theorem FileEvent.changes_iff_touches (hname : fileName ≠ ['.', '.']) (event : FileEvent) :
    event.changes fileName ↔ event.Touches fileName := by
  unfold changes Touches
  simp [AbsolutePath.fileName?_eq_some_iff, hname]

/-- A change of a file is an event in a notice, if it touches the file. -/
theorem Notice.change?_eq (hname : fileName ≠ ['.', '.']) (notice : Notice) :
    notice.change? fileName = notice.event?.filter fun event ↦ event.Touches fileName := by
  cases notice with
  | failure message => rfl
  | event found =>
    simp only [change?, event?, Option.filter_some, found.changes_iff_touches hname,
      decide_eq_true_eq]

/-- Among notices the changes of a file are the events that touch it. -/
theorem Notice.filterMap_change? (hname : fileName ≠ ['.', '.']) (notices : List Notice) :
    notices.filterMap (change? fileName) = touching fileName notices := by
  unfold touching
  rw [List.filter_filterMap]
  exact congrArg (List.filterMap · notices) (funext (change?_eq hname))

/-- Quiet notices do not touch the file. -/
theorem Notice.touching_of_isQuiet {notices : List Notice}
    (h : ∀ notice ∈ notices, notice.IsQuiet fileName) : touching fileName notices = [] := by
  refine List.filter_eq_nil_iff.mpr fun event hevent ↦ ?_
  obtain ⟨notice, hmem, hnotice⟩ := List.mem_filterMap.mp hevent
  rw [decide_eq_true_iff]
  rintro ⟨hkind, path, hpath, hlast⟩
  cases h notice hmem with
  | failure message => cases hnotice
  | access haccess =>
    obtain rfl := Option.some.inj hnotice
    exact hkind haccess
  | elsewhere hpaths =>
    obtain rfl := Option.some.inj hnotice
    exact hpaths path hpath hlast

end Name

/-- The file of a configuration has a name. -/
theorem isName_configFile : IsName configFile := ⟨by decide, by decide, by decide⟩

namespace Watcher

variable {watcher : Watcher}

/-! ### Watching a file -/

/-- A watcher is created for a path that ends in a name if the directory is there. It watches for
the name, and nothing waits in its queue. -/
theorem create_eq_ok_iff {files : FileSystem} {file : Location} :
    create files file = .ok watcher ↔
      AbsolutePath.fileName? ⟨pathNames file.spelling⟩ = some watcher.fileName ∧
      (∃ entry, files.entry file.target.parent = .ok entry) ∧
      files.locate file.target.parent = .ok watcher.place ∧ watcher.queue = [] := by
  unfold create
  constructor
  · intro h
    split at h
    · cases h
    · next fileName hname =>
      split at h
      · next entry place hentry hplace =>
        obtain rfl := Except.ok.inj h
        exact ⟨hname, ⟨entry, hentry⟩, hplace, rfl⟩
      · cases h
  · rintro ⟨hname, ⟨entry, hentry⟩, hplace, hqueue⟩
    simp only [hname, hentry, hplace]
    rw [← hqueue]
    rfl

/-- The configuration of a project is watched for by its name. -/
theorem fileName_of_create {files : FileSystem} {root : Location}
    (h : create files (root.join configFile) = .ok watcher) : watcher.fileName = configFile := by
  obtain ⟨hname, -⟩ := create_eq_ok_iff.mp h
  obtain ⟨hlast, -⟩ := AbsolutePath.fileName?_eq_some_iff.mp hname
  unfold Location.join at hlast
  rw [pathNames_joinedPath (isAbsolutePath_of_isName isName_configFile),
    pathNames_of_isName isName_configFile, List.getLast?_concat] at hlast
  exact (Option.some.inj hlast).symm

/-! ### Asking for changes -/

/-- Among notices the first change is found, and the further ones stay behind it. -/
theorem nextChange_eq (fileName : List Char) (queue : List Notice) :
    (nextChange fileName queue).1 = (queue.filterMap (Notice.change? fileName)).head? ∧
      (nextChange fileName queue).2.filterMap (Notice.change? fileName) =
        (queue.filterMap (Notice.change? fileName)).tail := by
  induction queue with
  | nil => exact ⟨rfl, rfl⟩
  | cons notice rest ih =>
    rw [nextChange]
    cases hchange : notice.change? fileName with
    | some event =>
      rw [List.filterMap_cons_some hchange]
      exact ⟨rfl, rfl⟩
    | none =>
      rw [List.filterMap_cons_none hchange]
      exact ih

/-- The changes that wait are those in the queue. -/
theorem changes_eq (watcher : Watcher) :
    watcher.changes = watcher.queue.filterMap (Notice.change? watcher.fileName) := by
  -- The recursion is on the queue behind the first change in it.
  induction watcher using changes.induct with
  | case1 watcher rest hnext =>
    obtain ⟨hfirst, -⟩ := nextChange_eq watcher.fileName watcher.queue
    rw [hnext] at hfirst
    rw [changes, List.head?_eq_none_iff.mp hfirst.symm]
    split
    · rfl
    · next hsome => cases hnext.symm.trans hsome
  | case2 watcher event rest hnext ih =>
    obtain ⟨hfirst, hrest⟩ := nextChange_eq watcher.fileName watcher.queue
    rw [hnext] at hfirst hrest
    rw [changes]
    split
    · next hnone => cases hnext.symm.trans hnone
    · next hsome =>
      cases hnext.symm.trans hsome
      rw [ih]
      exact (congrArg _ hrest).trans (List.cons_head?_tail hfirst.symm)

/-- Asked for a change, a watcher hands out the first one that waits. -/
theorem changed_eq (watcher : Watcher) :
    watcher.changed.1 = watcher.changes.head? ∧
      watcher.changed.2.changes = watcher.changes.tail := by
  obtain ⟨hfirst, hrest⟩ := nextChange_eq watcher.fileName watcher.queue
  rw [changes_eq, changes_eq]
  exact ⟨hfirst, hrest⟩

theorem changed_eq_none_iff (watcher : Watcher) :
    watcher.changed.1 = none ↔ watcher.changes = [] := by
  rw [(changed_eq watcher).1, List.head?_eq_none_iff]

/-- What is handed out and what waits behind it are the changes that waited before. -/
theorem changed_append_changes (watcher : Watcher) :
    watcher.changed.1.toList ++ watcher.changed.2.changes = watcher.changes := by
  obtain ⟨hfirst, hrest⟩ := changed_eq watcher
  rw [hfirst, hrest]
  cases watcher.changes with
  | nil => rfl
  | cons event rest => rfl

/-- A notice that comes in waits behind the changes that wait, before those that come in later. -/
theorem changes_notify_append (watcher : Watcher) (notice : Notice) (later : List Notice) :
    (watcher.notify notice).changes ++ later.filterMap (Notice.change? watcher.fileName) =
      watcher.changes ++ (notice :: later).filterMap (Notice.change? watcher.fileName) := by
  have hqueue : (watcher.notify notice).changes =
      (watcher.queue ++ [notice]).filterMap (Notice.change? watcher.fileName) := changes_eq _
  rw [hqueue, changes_eq, List.filterMap_append, List.append_assoc, ← List.filterMap_append]
  rfl

/-! ### Notices and questions -/

/-- What a watcher hands out while notices come in and it is asked for changes, in any order. -/
inductive Delivers : Watcher → List Notice → List FileEvent → Watcher → Prop
  | none {watcher : Watcher} : Delivers watcher [] [] watcher
  | notified {watcher final : Watcher} {notice : Notice} {notices : List Notice}
      {events : List FileEvent} (rest : Delivers (watcher.notify notice) notices events final) :
      Delivers watcher (notice :: notices) events final
  /-- Asked while nothing waits, it hands out nothing. -/
  | asked {watcher final : Watcher} {notices : List Notice} {events : List FileEvent}
      (rest : Delivers watcher.changed.2 notices events final) :
      Delivers watcher notices (watcher.changed.1.toList ++ events) final

/-- The events that have been handed out and those that still wait are the changes that waited and
those that have come in, in their order. -/
theorem Delivers.events_append_changes {final : Watcher} {notices : List Notice}
    {events : List FileEvent} (h : watcher.Delivers notices events final) :
    events ++ final.changes =
      watcher.changes ++ notices.filterMap (Notice.change? watcher.fileName) := by
  induction h with
  | none => exact (List.append_nil _).symm
  | notified _ ih => exact ih.trans (changes_notify_append ..)
  | @asked watcher _ _ _ _ ih =>
    rw [List.append_assoc, ih, ← List.append_assoc, changed_append_changes]
    rfl

/-- Asked often enough, a watcher hands out all changes that wait. -/
theorem exists_delivers_changes (watcher : Watcher) :
    ∃ final, watcher.Delivers [] watcher.changes final ∧ final.changes = [] := by
  generalize hchanges : watcher.changes = changes
  induction changes generalizing watcher with
  | nil => exact ⟨watcher, .none, hchanges⟩
  | cons event rest ih =>
    obtain ⟨hfirst, hrest⟩ := changed_eq watcher
    rw [hchanges] at hfirst hrest
    obtain ⟨final, hdelivers, hnone⟩ := ih watcher.changed.2 hrest
    have hasked := hdelivers.asked
    rw [hfirst] at hasked
    exact ⟨final, hasked, hnone⟩

/-- Whatever comes in, a watcher that is asked often enough afterwards hands out all changes. -/
theorem exists_delivers (watcher : Watcher) (notices : List Notice) :
    ∃ final, watcher.Delivers notices
        (watcher.changes ++ notices.filterMap (Notice.change? watcher.fileName)) final ∧
      final.changes = [] := by
  -- All notices come in before the watcher is asked for the first time.
  induction notices generalizing watcher with
  | nil =>
    rw [List.filterMap_nil, List.append_nil]
    exact watcher.exists_delivers_changes
  | cons notice rest ih =>
    obtain ⟨final, hdelivers, hnone⟩ := ih (watcher.notify notice)
    rw [← changes_notify_append]
    exact ⟨final, hdelivers.notified, hnone⟩

end Watcher

/-! ### Generating -/

namespace Project

variable {σ : Type} {watcher : Watcher}

/-- A watcher that has nothing to hand out makes no project generate its main module. -/
theorem serveChanges_of_changes_eq_nil (hnone : watcher.changes = []) (project : Project σ)
    {state : BuildState σ} (hwatcher : state.watcher = some watcher) :
    project.serveChanges state = { state with watcher := some { watcher with queue := [] } } := by
  unfold serveChanges
  rw [hwatcher]
  simp only [hnone, List.foldl_nil]

/-- A watcher that has nothing to hand out does not wake the service. -/
theorem not_moves_serve (hnone : watcher.changes = []) (project : Project σ)
    {now next : Interleaving σ} (hwatcher : now.state.watcher = some watcher) :
    ¬ project.Moves now .serve next := by
  intro hmoves
  cases hmoves with
  | serve hidle hwatched hchanged =>
    obtain rfl := Option.some.inj (hwatched.symm.trans hwatcher)
    have hfirst := (Watcher.changed_eq_none_iff _).mpr hnone
    rw [hchanged] at hfirst
    cases hfirst

end Project

/-! ### The law -/

namespace Watcher

/-- A watcher that has been created for a file hands out the events that touch the file, in the
order in which they come in: at any time the first ones of them, all of them once it is asked in
vain, and asked often enough it is asked in vain. What comes in besides makes no difference. So
quiet notices make no project generate its main module, and they wake the service of none. -/
theorem delivers_touching {files : FileSystem} {file : Location} {watcher : Watcher}
    (hcreated : create files file = .ok watcher) :
    ((pathNames file.spelling).getLast? = some watcher.fileName ∧ watcher.fileName ≠ ['.', '.'] ∧
      ∀ root : Location, file = root.join configFile → watcher.fileName = configFile) ∧
    (∀ notices events final, watcher.Delivers notices events final →
      events <+: Notice.touching watcher.fileName notices ∧
      (final.changed.1 = none ↔ events = Notice.touching watcher.fileName notices)) ∧
    (∀ notices, ∃ final,
      watcher.Delivers notices (Notice.touching watcher.fileName notices) final ∧
      final.changed.1 = none) ∧
    ∀ notices events final, watcher.Delivers notices events final →
      (∀ notice ∈ notices, notice.IsQuiet watcher.fileName) →
      events = [] ∧ final.changed.1 = none ∧ ∀ (σ : Type) (project : Project σ),
        (∀ state : BuildState σ, state.watcher = some final →
          project.serveChanges state = { state with watcher := some { final with queue := [] } }) ∧
        ∀ now next : Interleaving σ, now.state.watcher = some final →
          ¬ project.Moves now .serve next := by
  obtain ⟨hfileName, -, -, hqueue⟩ := create_eq_ok_iff.mp hcreated
  obtain ⟨hlast, hname⟩ := AbsolutePath.fileName?_eq_some_iff.mp hfileName
  have hstart : watcher.changes = [] := by
    rw [changes_eq, hqueue]
    rfl
  have hlaw : ∀ {notices events final}, watcher.Delivers notices events final →
      events ++ final.changes = Notice.touching watcher.fileName notices := by
    intro notices events final hdelivers
    have hconserved := hdelivers.events_append_changes
    rw [hstart, Notice.filterMap_change? hname] at hconserved
    exact hconserved
  refine ⟨⟨hlast, hname, ?config⟩, ?order, ?all, ?quiet⟩
  case config =>
    rintro root rfl
    exact fileName_of_create hcreated
  case order =>
    intro notices events final hdelivers
    rw [changed_eq_none_iff, ← hlaw hdelivers]
    exact ⟨List.prefix_append _ _, List.self_eq_append_right.symm⟩
  case all =>
    intro notices
    obtain ⟨final, hdelivers, hnone⟩ := watcher.exists_delivers notices
    rw [hstart, Notice.filterMap_change? hname] at hdelivers
    exact ⟨final, hdelivers, final.changed_eq_none_iff.mpr hnone⟩
  case quiet =>
    intro notices events final hdelivers hquiet
    have hnothing := hlaw hdelivers
    rw [Notice.touching_of_isQuiet hquiet] at hnothing
    obtain ⟨hevents, hnone⟩ := List.append_eq_nil_iff.mp hnothing
    refine ⟨hevents, final.changed_eq_none_iff.mpr hnone, fun σ project ↦ ⟨?_, ?_⟩⟩
    · exact fun state ↦ project.serveChanges_of_changes_eq_nil hnone
    · exact fun now next ↦ project.not_moves_serve hnone

/-- A configuration is read, a directory is made beside it, and watching fails for once. -/
def quietNotices : List Notice :=
  [.event ⟨.access, [⟨["p".toList, configFile]⟩]⟩,
    .event ⟨.create, [⟨["p".toList, "node_modules".toList]⟩]⟩, .failure "overflow".toList]

/-- Another file is moved onto the configuration. -/
def movedOnto : FileEvent :=
  ⟨.modify, [⟨["p".toList, "other.json".toList]⟩, ⟨["p".toList, configFile]⟩]⟩

theorem delivers_movedOnto : ∃ watcher,
    create ⟨.directory [("p".toList, .emptyDirectory)]⟩
      (Location.join ⟨.top, "/p".toList⟩ configFile) = .ok watcher ∧
    (∃ final, watcher.Delivers (quietNotices ++ [.event movedOnto]) [movedOnto] final ∧
      final.changed.1 = none) ∧
    (∀ notice ∈ quietNotices, notice.IsQuiet watcher.fileName) ∧
    ∀ events final, watcher.Delivers quietNotices events final → events = [] := by
  have hcreated : create ⟨.directory [("p".toList, .emptyDirectory)]⟩
      (Location.join ⟨.top, "/p".toList⟩ configFile) = .ok ⟨["p".toList], configFile, []⟩ := by
    decide
  have hquiet : ∀ notice ∈ quietNotices, notice.IsQuiet configFile := by
    intro notice hmem
    simp only [quietNotices, List.mem_cons, List.not_mem_nil, or_false] at hmem
    rcases hmem with rfl | rfl | rfl
    · exact .access rfl
    · exact .elsewhere (by decide)
    · exact .failure _
  obtain ⟨-, -, hall, hnothing⟩ := delivers_touching hcreated
  have htouching : Notice.touching configFile (quietNotices ++ [.event movedOnto]) =
      [movedOnto] := by decide
  refine ⟨_, hcreated, ?_, hquiet, fun events final hdelivers ↦ ?_⟩
  · rw [← htouching]
    exact hall _
  · exact (hnothing quietNotices events final hdelivers hquiet).1

end Watcher

end SsrBuild
