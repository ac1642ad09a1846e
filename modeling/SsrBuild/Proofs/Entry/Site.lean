import Mathlib.Data.List.Find
import SsrBuild.Entry.Export
import SsrBuild.Proofs.Query.Operation
import SsrBuild.Proofs.Query.Parsed

/-!
The place in an entry module where the app is built, said of the rows alone: the first default
export, the declaration it exports, the parameters of that declaration, and the first construction
of the app below the export that is not among them (`site?`). In a document that has been parsed the
operations on handles find the nodes that are named here (`exportedParameters_eq`,
`parametersOf_eq`, `appConstruction_eq`).
-/

set_option autoImplicit false

namespace SsrBuild

/-! ### The first row of some kind -/

/-- The number of the first row that passes a test. -/
def firstRow? (rows : List Row) (test : Nat → Row → Bool) : Option Nat :=
  (rows.zipIdx.find? fun entry ↦ test entry.2 entry.1).map Prod.snd

/-- What is found is a row that passes the test. -/
theorem exists_of_firstRow? {rows : List Row} {test : Nat → Row → Bool} {index : Nat}
    (h : firstRow? rows test = some index) :
    ∃ row, rows[index]? = some row ∧ test index row = true := by
  obtain ⟨entry, hfind, rfl⟩ := Option.map_eq_some_iff.mp h
  have hentry := List.mem_zipIdx_iff_getElem?.mp (List.mem_of_find?_eq_some hfind)
  have htest := List.find?_some hfind
  exact ⟨entry.1, hentry, htest⟩

/-- If a row passes the test, one is found. -/
theorem exists_firstRow? {rows : List Row} {test : Nat → Row → Bool} {index : Nat} {row : Row}
    (hrow : rows[index]? = some row) (htest : test index row = true) :
    ∃ first, firstRow? rows test = some first := by
  have hmem : (row, index) ∈ rows.zipIdx := List.mem_zipIdx_iff_getElem?.mpr hrow
  have hsome : (rows.zipIdx.find? fun entry ↦ test entry.2 entry.1).isSome = true :=
    List.find?_isSome.mpr ⟨(row, index), hmem, htest⟩
  obtain ⟨entry, hentry⟩ := Option.isSome_iff_exists.mp hsome
  exact ⟨entry.2, by rw [firstRow?, hentry, Option.map_some]⟩

/-- Tests that agree on the rows find the same row. -/
theorem firstRow?_congr {rows : List Row} {test other : Nat → Row → Bool}
    (h : ∀ index row, rows[index]? = some row → test index row = other index row) :
    firstRow? rows test = firstRow? rows other := by
  unfold firstRow?
  rw [List.find?_congr fun entry hentry ↦
    h entry.2 entry.1 (List.mem_zipIdx_iff_getElem?.mp hentry)]

/-- The first node right below a node. -/
def firstChild? (rows : List Row) (index : Nat) : Option Nat :=
  firstRow? rows fun _ row ↦ row.parent == some index

/-! ### The site of the app -/

/-- Does the first node only wrap the second one, its first child? -/
def wrapsRow (rows : List Row) (index child : Nat) : Bool :=
  match rows[index]?, rows[child]? with
  | some row, some below => row.wraps below
  | _, _ => false

/-- The node that is left when all that only wraps it is taken off. A child has a larger number. -/
def unwrapped (rows : List Row) (index : Nat) : Nat :=
  match firstChild? rows index with
  | some child =>
    if index < child ∧ child < rows.length ∧ wrapsRow rows index child then unwrapped rows child
    else index
  | none => index
termination_by rows.length - index

/-- A first child is a row after that of its parent. -/
theorem of_firstChild? {rows : List Row} (hrows : IsTable rows) {index child : Nat}
    (hchild : firstChild? rows index = some child) :
    ∃ below, rows[child]? = some below ∧ below.parent = some index ∧ index < child ∧
      child < rows.length := by
  obtain ⟨below, hbelow, hparent⟩ := exists_of_firstRow? hchild
  have hparent : below.parent = some index := by simpa using hparent
  exact ⟨below, hbelow, hparent, (hrows.parent hbelow hparent).1,
    (List.getElem?_eq_some_iff.mp hbelow).1⟩

/-- What is left of a node is a node, and all nodes above it that are not above the first one only
wrap it. -/
theorem exists_unwrapped {rows : List Row} (hrows : IsTable rows) {index : Nat} {row : Row}
    (hrow : rows[index]? = some row) :
    (∃ found, rows[unwrapped rows index]? = some found) ∧
      ∀ above ∈ ancestors rows (unwrapped rows index), above ∈ ancestors rows index ∨
        ∃ wrapper, rows[above]? = some wrapper ∧
          (wrapper.kind = .parenthesized ∨ wrapper.kind = .other) := by
  fun_induction unwrapped rows index generalizing row with
  | case1 index child hchild hguard ih =>
    obtain ⟨below, hbelow, hparent, -, -⟩ := of_firstChild? hrows hchild
    obtain ⟨hfound, habove⟩ := ih hbelow
    refine ⟨hfound, fun above hmem ↦ ?_⟩
    rcases habove above hmem with hchildAbove | hwrapper
    · rw [ancestors_of_parent hrows hbelow hparent, List.mem_cons] at hchildAbove
      rcases hchildAbove with rfl | hindex
      · refine Or.inr ⟨row, hrow, ?_⟩
        have hwraps : row.wraps below = true := by
          simpa [wrapsRow, hrow, hbelow] using hguard.2.2
        simp only [Row.wraps, Bool.or_eq_true, Bool.and_eq_true, beq_iff_eq] at hwraps
        exact hwraps.imp_right And.left
      · exact Or.inl hindex
    · exact Or.inr hwrapper
  | case2 index child hchild hguard => exact ⟨⟨row, hrow⟩, fun above hmem ↦ Or.inl hmem⟩
  | case3 index hchild => exact ⟨⟨row, hrow⟩, fun above hmem ↦ Or.inl hmem⟩

/-- The parameters right below a declaration that is a function. -/
def declaredParameters? (rows : List Row) (declaration : Nat) : Option Nat := do
  let row ← rows[declaration]?
  if row.kind == .function || row.kind == .arrowFunction then
    firstRow? rows fun _ child ↦ child.parent == some declaration && child.kind == .formalParameters
  else none

/-- The parameters of the declaration that an export exports. -/
def exportedParameters? (rows : List Row) (defaultExport : Nat) : Option Nat := do
  let child ← firstChild? rows defaultExport
  declaredParameters? rows (unwrapped rows child)

/-- The first construction of the app below an export that neither is nor is among some
parameters. -/
def construction? (rows : List Row) (defaultExport : Nat) (parameters : Option Nat) : Option Nat :=
  firstRow? rows fun index row ↦
    decide (defaultExport ∈ ancestors rows index) && row.kind == .newExpression &&
      row.name == some "Vue" &&
      parameters.all fun list ↦ !(list == index || decide (list ∈ ancestors rows index))

/-- Where an entry module builds the app, and the parameters of the function it exports. -/
structure Entry.Site where
  construction : Nat
  parameters : Option Nat
  deriving DecidableEq, Repr

/-- The site of the app, if the module has a default export and builds the app below it. -/
def Entry.site? (rows : List Row) : Option Site := do
  let defaultExport ← firstRow? rows fun _ row ↦ row.kind == .exportDefault
  let construction ← construction? rows defaultExport (exportedParameters? rows defaultExport)
  return ⟨construction, exportedParameters? rows defaultExport⟩

/-- Without a default export there is no site. -/
theorem Entry.site?_of_none {rows : List Row}
    (h : firstRow? rows (fun _ row ↦ row.kind == .exportDefault) = none) :
    Entry.site? rows = none := by
  rw [Entry.site?, h]
  rfl

/-- The site below a default export is that of the construction, if there is one. -/
theorem Entry.site?_of_some {rows : List Row} {defaultExport : Nat}
    (h : firstRow? rows (fun _ row ↦ row.kind == .exportDefault) = some defaultExport) :
    Entry.site? rows =
      (construction? rows defaultExport (exportedParameters? rows defaultExport)).map
        fun construction ↦ ⟨construction, exportedParameters? rows defaultExport⟩ := by
  rw [Entry.site?, h, Option.bind_eq_bind, Option.bind_some]
  cases construction? rows defaultExport (exportedParameters? rows defaultExport) with
  | none => rfl
  | some construction => rfl

/-- Exported parameters are right below a function, and all nodes above them that are not above the
export are the export, that function or wrappers of it. -/
theorem of_exportedParameters? {rows : List Row} (hrows : IsTable rows) {defaultExport list : Nat}
    (h : exportedParameters? rows defaultExport = some list) :
    (∃ row, rows[list]? = some row) ∧ ∀ above ∈ ancestors rows list,
      above ∈ ancestors rows defaultExport ∨ above = defaultExport ∨
        ∃ wrapper, rows[above]? = some wrapper ∧ wrapper.kind ≠ .newExpression := by
  obtain ⟨child, hchild, h⟩ := Option.bind_eq_some_iff.mp h
  obtain ⟨function, hfunction, h⟩ := Option.bind_eq_some_iff.mp h
  obtain ⟨hkind, hlist⟩ := Option.ite_none_right_eq_some.mp h
  obtain ⟨row, hrow, hparent⟩ := exists_of_firstRow? hlist
  simp only [Bool.and_eq_true, beq_iff_eq] at hparent
  obtain ⟨below, hbelow, hexport, -, -⟩ := of_firstChild? hrows hchild
  refine ⟨⟨row, hrow⟩, fun above hmem ↦ ?_⟩
  rw [ancestors_of_parent hrows hrow hparent.1, List.mem_cons] at hmem
  rcases hmem with rfl | hmem
  · refine Or.inr (Or.inr ⟨function, hfunction, fun hnew ↦ ?_⟩)
    rw [hnew] at hkind
    cases hkind
  · rcases (exists_unwrapped hrows hbelow).2 above hmem with hchildAbove | ⟨wrapper, hwrapper, hwraps⟩
    · rw [ancestors_of_parent hrows hbelow hexport, List.mem_cons] at hchildAbove
      exact hchildAbove.elim (Or.inr ∘ Or.inl) Or.inl
    · refine Or.inr (Or.inr ⟨wrapper, hwrapper, fun hnew ↦ ?_⟩)
      rw [hnew] at hwraps
      cases hwraps with
      | inl hparenthesized => cases hparenthesized
      | inr hother => cases hother

/-- Exported parameters are a list of parameters. -/
theorem kind_of_exportedParameters? {rows : List Row} {defaultExport list : Nat} {row : Row}
    (h : exportedParameters? rows defaultExport = some list) (hrow : rows[list]? = some row) :
    row.kind = .formalParameters := by
  obtain ⟨child, -, h⟩ := Option.bind_eq_some_iff.mp h
  obtain ⟨function, -, h⟩ := Option.bind_eq_some_iff.mp h
  obtain ⟨-, hlist⟩ := Option.ite_none_right_eq_some.mp h
  obtain ⟨found, hfound, htest⟩ := exists_of_firstRow? hlist
  obtain rfl := Option.some.inj (hfound.symm.trans hrow)
  simp only [Bool.and_eq_true, beq_iff_eq] at htest
  exact htest.2

/-- What there is at a site: a construction, and perhaps parameters that are not related to it. -/
theorem Entry.of_site? {rows : List Row} (hrows : IsTable rows) {site : Entry.Site}
    (h : Entry.site? rows = some site) :
    (∃ row, rows[site.construction]? = some row ∧ row.kind = .newExpression) ∧
      ∀ list ∈ site.parameters, (∃ row, rows[list]? = some row ∧ row.kind = .formalParameters) ∧
        ¬ Related rows list site.construction := by
  obtain ⟨defaultExport, -, h⟩ := Option.bind_eq_some_iff.mp h
  obtain ⟨construction, hconstruction, hsite⟩ := Option.bind_eq_some_iff.mp h
  obtain rfl := Option.some.inj hsite
  obtain ⟨row, hrow, htest⟩ := exists_of_firstRow? hconstruction
  simp only [Bool.and_eq_true, decide_eq_true_eq, beq_iff_eq] at htest
  obtain ⟨⟨⟨hbelow, hkind⟩, -⟩, hchosen⟩ := htest
  refine ⟨⟨row, hrow, hkind⟩, fun list hlist ↦ ?_⟩
  obtain ⟨⟨listRow, hlistRow⟩, habove⟩ := of_exportedParameters? hrows hlist
  refine ⟨⟨listRow, hlistRow, kind_of_exportedParameters? hlist hlistRow⟩, ?_⟩
  have hparameters : exportedParameters? rows defaultExport = some list := hlist
  rw [hparameters] at hchosen
  simp only [Option.all_some, Bool.not_eq_true', Bool.or_eq_false_iff, beq_eq_false_iff_ne,
    decide_eq_false_iff_not] at hchosen
  rintro (heq | hlistAbove | hconstructionAbove)
  · exact hchosen.1 heq
  · exact hchosen.2 hlistAbove
  · -- The construction is below the export, and it is none of the nodes between.
    obtain ⟨outer, houter, hlt, -⟩ := (mem_ancestors_iff hrows).mp hbelow
    rcases habove construction hconstructionAbove with hup | rfl | ⟨wrapper, hwrapper, hnew⟩
    · obtain ⟨-, -, hgt, -⟩ := (mem_ancestors_iff hrows).mp hup
      omega
    · omega
    · obtain rfl : wrapper = row := Option.some.inj (hwrapper.symm.trans hrow)
      exact hnew hkind

/-! ### The operations on handles find it -/

namespace Document

variable {document : Document}

/-- The row of a handle in a document where all rows stand. -/
theorem IsFresh.row_handle (hfresh : document.IsFresh) {index : Nat} {row : Row}
    (hrow : document.rows[index]? = some row) : document.row (document.handle index) = .ok row :=
  row_eq_ok_iff.mpr ⟨rfl, hrow, hfresh.standing row (List.mem_of_getElem? hrow)⟩

/-- A handle of a stretch is that of a row. -/
theorem exists_of_mem_handlesBetween {start stop : Nat} {test : Row → Bool} {handle : Handle}
    (h : handle ∈ document.handlesBetween start stop test) :
    ∃ row, document.rows[handle.index]? = some row ∧ handle = document.handle handle.index := by
  obtain ⟨row, hrow, -⟩ := mem_handlesBetween_iff.mp h
  obtain ⟨hid, hfound, -⟩ := row_eq_ok_iff.mp hrow
  exact ⟨row, hfound, by rw [Document.handle, ← hid]⟩

/-- The first of several handles is the first one that passes a test that all pass. -/
theorem head?_eq_find? (handles : List Handle) : handles.head? = handles.find? fun _ ↦ true := by
  cases handles with
  | nil => rfl
  | cons handle rest => rfl

/-- The first handle of a stretch that passes a test on handles. -/
theorem IsFresh.find?_handlesBetween (hfresh : document.IsFresh) (start stop : Nat)
    (test : Row → Bool) (chosen : Nat → Bool) :
    (document.handlesBetween start stop test).find? (fun handle ↦ chosen handle.index) =
      (firstRow? document.rows fun index row ↦
        (decide (start ≤ index) && decide (index < stop) && test row) && chosen index).map
          document.handle := by
  have hstands : ∀ entry ∈ document.rows.zipIdx, entry.1.isDetached = false :=
    fun entry hentry ↦ hfresh.standing entry.1
      (List.mem_of_getElem? (List.mem_zipIdx_iff_getElem?.mp hentry))
  set passes : Nat → Row → Bool := fun index row ↦
    decide (start ≤ index) && decide (index < stop) && test row && chosen index
  have hsame : ∀ entry ∈ document.rows.zipIdx,
      (if (decide (start ≤ entry.2) && decide (entry.2 < stop) && !entry.1.isDetached &&
        test entry.1) = true then some (document.handle entry.2) else none).any
          (fun handle ↦ chosen handle.index) = passes entry.2 entry.1 := fun entry hentry ↦ by
    by_cases htest : (decide (start ≤ entry.2) && decide (entry.2 < stop) && test entry.1) = true
    · simp [passes, htest, hstands entry hentry, Document.handle]
    · simp [passes, htest, hstands entry hentry]
  unfold handlesBetween firstRow?
  rw [List.find?_filterMap, List.find?_congr hsame]
  cases hfind : document.rows.zipIdx.find? fun entry ↦ passes entry.2 entry.1 with
  | none => rfl
  | some entry =>
    have hpasses := List.find?_some hfind
    have hentry := hstands entry (List.mem_of_find?_eq_some hfind)
    simp only [passes, Bool.and_eq_true, decide_eq_true_eq] at hpasses
    simp [hpasses, hentry]

/-- The first handle of a stretch. -/
theorem IsFresh.head?_handlesBetween (hfresh : document.IsFresh) (start stop : Nat)
    (test : Row → Bool) :
    (document.handlesBetween start stop test).head? =
      (firstRow? document.rows fun index row ↦
        decide (start ≤ index) && decide (index < stop) && test row).map document.handle := by
  rw [head?_eq_find?, hfresh.find?_handlesBetween start stop test fun _ ↦ true]
  simp only [Bool.and_true]

/-- The first node of a kind. -/
theorem IsFresh.findOne_kind (hfresh : document.IsFresh) (kind : Kind) :
    document.findOne (.kind kind) =
      (firstRow? document.rows fun _ row ↦ row.kind == kind).map document.handle := by
  unfold findOne find
  rw [hfresh.head?_handlesBetween]
  congr 1
  refine firstRow?_congr fun index row hrow ↦ ?_
  have hlt := (List.getElem?_eq_some_iff.mp hrow).1
  simp [hlt, Selector.selects]

/-- The first node right below a node that passes a test. -/
theorem IsFresh.head?_below (hfresh : document.IsFresh) {index : Nat} {row : Row}
    (hrow : document.rows[index]? = some row) {test : Row → Bool}
    (htest : ∀ below, test below = true → below.parent = some index) :
    (document.handlesBetween (index + 1) row.stop test).head? =
      (firstRow? document.rows fun _ below ↦ test below).map document.handle := by
  rw [hfresh.head?_handlesBetween]
  congr 1
  refine firstRow?_congr fun place below hbelow ↦ ?_
  by_cases hpasses : test below = true
  · obtain ⟨hlt, outer, houter, hin⟩ := hfresh.isTable.parent hbelow (htest below hpasses)
    obtain rfl : outer = row := Option.some.inj (houter.symm.trans hrow)
    have hnext : index + 1 ≤ place := hlt
    rw [hpasses, decide_eq_true hnext, decide_eq_true hin]
    rfl
  · simp [hpasses]

/-- The first child of a node. -/
theorem IsFresh.firstChild_eq (hfresh : document.IsFresh) {index : Nat} {row : Row}
    (hrow : document.rows[index]? = some row) :
    document.firstChild (document.handle index) =
      .ok ((firstChild? document.rows index).map document.handle) := by
  refine bind_eq_ok_iff.mpr ⟨document.handlesBetween (index + 1) row.stop
    fun below ↦ below.parent == some index, ?_, ?_⟩
  · exact bind_eq_ok_iff.mpr ⟨row, hfresh.row_handle hrow, rfl⟩
  · have hparent : ∀ below : Row, (below.parent == some index) = true →
        below.parent = some index := fun below hbelow ↦ by simpa using hbelow
    rw [hfresh.head?_below hrow hparent]
    rfl

/-- What is left of a node when all that only wraps it is taken off. -/
theorem IsFresh.unwrap_eq (hfresh : document.IsFresh) {index : Nat} {row : Row}
    (hrow : document.rows[index]? = some row) :
    document.unwrap (document.handle index) =
      .ok (document.handle (unwrapped document.rows index)) := by
  induction hleft : document.rows.length - index using Nat.strongRecOn generalizing index row with
  | ind left ih =>
    have hfirst := hfresh.firstChild_eq hrow
    rw [unwrapped]
    cases hchild : firstChild? document.rows index with
    | none =>
      rw [hchild] at hfirst
      exact Document.unwrap_of_childless hfirst
    | some child =>
      rw [hchild] at hfirst
      obtain ⟨below, hbelow, -, hlt, hin⟩ := of_firstChild? hfresh.isTable hchild
      have hwraps : wrapsRow document.rows index child = row.wraps below := by
        simp [wrapsRow, hrow, hbelow]
      rw [Document.unwrap_of_firstChild hfirst (hfresh.row_handle hrow) (hfresh.row_handle hbelow)]
      simp only [hlt, hin, hwraps, true_and]
      by_cases hwrapped : row.wraps below = true
      · rw [if_pos hwrapped, if_pos hwrapped]
        exact ih (document.rows.length - child) (by omega) hbelow rfl
      · rw [if_neg hwrapped, if_neg hwrapped]

/-- The parameters of a declaration. -/
theorem IsFresh.parametersOf_eq (hfresh : document.IsFresh) {declaration : Nat} {row : Row}
    (hrow : document.rows[declaration]? = some row) :
    document.parametersOf (document.handle declaration) =
      .ok ((declaredParameters? document.rows declaration).map document.handle) := by
  have hchild : ∀ below : Row,
      (below.parent == some declaration && below.kind == .formalParameters) = true →
        below.parent = some declaration := fun below hbelow ↦ by
    rw [Bool.and_eq_true, beq_iff_eq] at hbelow
    exact hbelow.1
  have hlists : (do
      let lists ← document.below (document.handle declaration) fun below ↦
        below.parent == some declaration && below.kind == .formalParameters
      return lists.head? : Except QueryError (Option Handle)) =
        .ok ((firstRow? document.rows fun _ below ↦
          below.parent == some declaration && below.kind == .formalParameters).map
            document.handle) := by
    rw [← hfresh.head?_below hrow hchild]
    unfold below
    rw [hfresh.row_handle hrow]
    rfl
  refine bind_eq_ok_iff.mpr ⟨row, hfresh.row_handle hrow, ?_⟩
  unfold declaredParameters?
  rw [hrow, Option.bind_eq_bind, Option.bind_some]
  cases row.kind with
  | function => exact hlists
  | arrowFunction => exact hlists
  | _ => rfl

/-- The parameters of the declaration that is exported. -/
theorem IsFresh.exportedParameters_eq (hfresh : document.IsFresh) {defaultExport : Nat} {row : Row}
    (hrow : document.rows[defaultExport]? = some row) :
    document.exportedParameters (document.handle defaultExport) =
      .ok ((exportedParameters? document.rows defaultExport).map document.handle) := by
  unfold exportedParameters?
  have hfirst := hfresh.firstChild_eq hrow
  cases hchild : firstChild? document.rows defaultExport with
  | none =>
    rw [hchild] at hfirst
    have hexported : document.exportedDeclaration (document.handle defaultExport) = .ok none :=
      bind_eq_ok_iff.mpr ⟨none, hfirst, rfl⟩
    exact bind_eq_ok_iff.mpr ⟨none, hexported, rfl⟩
  | some child =>
    rw [hchild] at hfirst
    obtain ⟨below, hbelow, -⟩ := of_firstChild? hfresh.isTable hchild
    obtain ⟨⟨found, hfound⟩, -⟩ := exists_unwrapped hfresh.isTable hbelow
    have hexported : document.exportedDeclaration (document.handle defaultExport) =
        .ok (some (document.handle (unwrapped document.rows child))) :=
      bind_eq_ok_iff.mpr ⟨some (document.handle child), hfirst,
        bind_eq_ok_iff.mpr ⟨document.handle (unwrapped document.rows child),
          hfresh.unwrap_eq hbelow, rfl⟩⟩
    exact bind_eq_ok_iff.mpr ⟨_, hexported, hfresh.parametersOf_eq hfound⟩

/-- Is one node the other, or below it? -/
theorem IsFresh.contains_eq (hfresh : document.IsFresh) {scope index : Nat} {outer row : Row}
    (hscope : document.rows[scope]? = some outer) (hrow : document.rows[index]? = some row) :
    document.contains (document.handle scope) (document.handle index) =
      .ok (scope == index || decide (scope ∈ ancestors document.rows index)) := by
  have hcontains : document.contains (document.handle scope) (document.handle index) =
      .ok (decide (scope ≤ index) && decide (index < outer.stop)) :=
    bind_eq_ok_iff.mpr ⟨outer, hfresh.row_handle hscope,
      bind_eq_ok_iff.mpr ⟨row, hfresh.row_handle hrow, rfl⟩⟩
  rw [hcontains, Except.ok.injEq, Bool.eq_iff_iff]
  simp only [Bool.and_eq_true, Bool.or_eq_true, decide_eq_true_eq, beq_iff_eq]
  exact le_and_lt_stop_iff hfresh.isTable hscope index

/-- The construction of the app. -/
theorem IsFresh.appConstruction_eq (hfresh : document.IsFresh) {defaultExport : Nat} {row : Row}
    (hrow : document.rows[defaultExport]? = some row) {parameters : Option Nat}
    (hparameters : ∀ list ∈ parameters, ∃ found, document.rows[list]? = some found) :
    document.appConstruction (document.handle defaultExport) (parameters.map document.handle) =
      .ok ((construction? document.rows defaultExport parameters).map document.handle) := by
  have hfound : document.findIn (document.handle defaultExport) (.newExpression appClass) =
      .ok (document.handlesBetween (defaultExport + 1) row.stop
        (Selector.newExpression appClass).selects) :=
    bind_eq_ok_iff.mpr ⟨row, hfresh.row_handle hrow, rfl⟩
  refine bind_eq_ok_iff.mpr ⟨_, hfound, ?_⟩
  set constructions := document.handlesBetween (defaultExport + 1) row.stop
    (Selector.newExpression appClass).selects with hconstructions
  have hchosen : constructions.find? (fun handle ↦ parameters.all fun list ↦
      !(list == handle.index || decide (list ∈ ancestors document.rows handle.index))) =
        (construction? document.rows defaultExport parameters).map document.handle := by
    rw [hconstructions, hfresh.find?_handlesBetween _ _ _ fun index ↦ parameters.all fun list ↦
      !(list == index || decide (list ∈ ancestors document.rows index))]
    congr 1
    refine firstRow?_congr fun index below hbelow ↦ ?_
    have hbetween : (decide (defaultExport + 1 ≤ index) && decide (index < row.stop)) =
        decide (defaultExport ∈ ancestors document.rows index) := by
      rw [Bool.eq_iff_iff, Bool.and_eq_true, decide_eq_true_eq, decide_eq_true_eq,
        decide_eq_true_eq]
      exact (mem_ancestors_of_row hfresh.isTable hrow index).symm
    simp only [hbetween, Selector.selects, appClass, Bool.and_assoc]
  rw [← hchosen]
  cases parameters with
  | none =>
    exact congrArg Except.ok (head?_eq_find? constructions)
  | some list =>
    obtain ⟨found, hlist⟩ := hparameters list rfl
    refine findM?_eq_ok fun handle hhandle ↦ ?_
    obtain ⟨below, hbelow, hhandle⟩ := exists_of_mem_handlesBetween hhandle
    rw [hhandle]
    exact bind_eq_ok_iff.mpr ⟨_, hfresh.contains_eq hlist hbelow, rfl⟩

/-- The first argument of a node is a node with the span of the first argument. -/
theorem IsFresh.arguments_eq (hfresh : document.IsFresh) {index : Nat} {row : Row}
    (hrow : document.rows[index]? = some row) :
    ∃ handles, document.arguments (document.handle index) = .ok handles ∧
      match row.arguments.head? with
      | none => handles = []
      | some span => ∃ place argument, handles.head? = some (document.handle place) ∧
          document.rows[place]? = some argument ∧ argument.span = span := by
  refine ⟨_, bind_eq_ok_iff.mpr ⟨row, hfresh.row_handle hrow, rfl⟩, ?_⟩
  cases harguments : row.arguments with
  | nil => rfl
  | cons span rest =>
    have hmem : span ∈ row.arguments := by
      rw [harguments]
      exact List.mem_cons_self
    obtain ⟨place, argument, hlt, hin, hargument, hspan⟩ := hfresh.isTable.argument hrow hmem
    set isArgument : Nat → Row → Bool := fun place below ↦
      decide (index + 1 ≤ place) && decide (place < row.stop) && below.span == span
    have hnext : index + 1 ≤ place := hlt
    have hplace : isArgument place argument = true := by
      simp only [isArgument, hspan, decide_eq_true hnext, decide_eq_true hin, beq_self_eq_true,
        Bool.and_self]
    obtain ⟨first, hfirst⟩ := exists_firstRow? hargument hplace
    obtain ⟨found, hfound, htest⟩ := exists_of_firstRow? hfirst
    simp only [isArgument, Bool.and_eq_true, beq_iff_eq] at htest
    refine ⟨first, found, ?_, hfound, htest.2⟩
    have hhead : (document.handlesBetween ((document.handle index).index + 1) row.stop
        fun below ↦ below.span == span).head? = some (document.handle first) := by
      refine (hfresh.head?_handlesBetween (index + 1) row.stop _).trans ?_
      rw [hfirst, Option.map_some]
    rw [List.head?_filterMap, List.findSome?_cons, hhead]

end Document

end SsrBuild
