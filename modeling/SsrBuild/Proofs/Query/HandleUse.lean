import SsrBuild.Proofs.Query.Operation
import SsrBuild.Proofs.Query.Parsed

/-!
What becomes of the handles of a document. Every use of a handle asks for the row of its node, so a
handle without a row is refused whatever it is used for (`refuses_of_row`), and one with a row is
not refused for its own sake (`accepts_of_row`). The rows that are detached are those of the nodes
that have been replaced and of the nodes below them, and every replacement keeps this (`IsAt`,
`IsAt.replace`). So the nodes above a node that stands stand too, and every handle that the use of
a handle gives has a row (`IsAt.run_cases`).
-/

set_option autoImplicit false

namespace SsrBuild

/-! ### Uses -/

/-- What a handle can be used for. -/
inductive HandleUse
  | parent | children | arguments | kind | name | span | text
  /-- Is a node the one of the handle, or below it? -/
  | contains (node : Handle)
  /-- Is the node of the handle the one of a scope, or below it? -/
  | isContained (scope : Handle)
  | findIn (selector : Selector)
  | findOneIn (selector : Selector)
  | replace (fragment : Fragment)

namespace HandleUse

/-- The handles that the use of a handle gives, and the document after it. -/
def run (document : Document) (handle : Handle) :
    HandleUse → Except QueryError (List Handle × Document)
  | parent => (document.parent handle).map fun above ↦ ([above], document)
  | children => (document.children handle).map fun below ↦ (below, document)
  | arguments => (document.arguments handle).map fun below ↦ (below, document)
  | kind => (document.kind handle).map fun _ ↦ ([], document)
  | name => (document.name handle).map fun _ ↦ ([], document)
  | span => (document.span handle).map fun _ ↦ ([], document)
  | text => (document.text handle).map fun _ ↦ ([], document)
  | contains node => (document.contains handle node).map fun _ ↦ ([], document)
  | isContained scope => (document.contains scope handle).map fun _ ↦ ([], document)
  | findIn selector => (document.findIn handle selector).map fun below ↦ (below, document)
  | findOneIn selector =>
    (document.findOneIn handle selector).map fun below ↦ (below.toList, document)
  | replace fragment => (document.replace handle fragment).map fun next ↦ ([], next)

/-- None of the other handles that the use takes is refused. -/
def Fits (document : Document) : HandleUse → Prop
  | contains node => ∃ row, document.row node = .ok row
  | isContained scope => ∃ row, document.row scope = .ok row
  | replace fragment => document.renderFragment fragment ≠ .error .staleHandle
  | _ => True

/-- The nodes that the use of a handle replaces. -/
def targets (handle : Handle) : HandleUse → List Nat
  | replace _ => [handle.index]
  | _ => []

end HandleUse

namespace Document

/-- No use of the handle is refused for the sake of the handle. -/
def Accepts (document : Document) (handle : Handle) : Prop :=
  ∀ use : HandleUse, use.Fits document → use.run document handle ≠ .error .staleHandle

/-- Every use of the handle is refused. -/
def Refuses (document : Document) (handle : Handle) : Prop :=
  ∀ use : HandleUse, use.run document handle = .error .staleHandle

variable {document : Document} {handle : Handle}

/-- A handle without a row is refused as stale. -/
theorem row_eq_error {error : QueryError} (h : document.row handle = .error error) :
    error = .staleHandle := by
  unfold row at h
  split at h
  · split at h
    · split_ifs at h
      exact (Except.error.inj h).symm
    · exact (Except.error.inj h).symm
  · exact (Except.error.inj h).symm

/-- Without a row a handle is refused whatever it is used for. -/
theorem refuses_of_row (h : document.row handle = .error .staleHandle) :
    document.Refuses handle := by
  intro use
  cases use with
  | isContained scope =>
    -- The scope is looked at first, and may be refused itself.
    cases hscope : document.row scope with
    | error error =>
      obtain rfl := row_eq_error hscope
      simp [HandleUse.run, map_eq_error_iff, contains, bind_eq_error_iff, hscope]
    | ok row => simp [HandleUse.run, map_eq_error_iff, contains, bind_eq_error_iff, hscope, h]
  | _ =>
    simp [HandleUse.run, map_eq_error_iff, bind_eq_error_iff, h, parent, children, arguments, kind,
      name, span, text, contains, findIn, findOneIn, replace, below]

/-- The text of a span is not refused as stale. -/
theorem render_ne_staleHandle (document : Document) (span : Text.Span) :
    document.render span ≠ .error .staleHandle := by
  unfold render
  split
  · exact fun h ↦ nomatch h
  · exact fun h ↦ nomatch h

/-- With a row a handle is not refused for its own sake. -/
theorem accepts_of_row {row : Row} (h : document.row handle = .ok row) :
    document.Accepts handle := by
  intro use hfits
  cases use with
  | parent =>
    cases hparent : row.parent with
    | none =>
      simp [HandleUse.run, map_eq_error_iff, parent, bind_eq_error_iff, h, hparent, throw,
        throwThe, MonadExceptOf.throw]
    | some above =>
      simp [HandleUse.run, map_eq_error_iff, parent, bind_eq_error_iff, h, hparent, pure,
        Except.pure]
  | text =>
    simp [HandleUse.run, map_eq_error_iff, text, bind_eq_error_iff, h, render_ne_staleHandle]
  | contains node =>
    obtain ⟨below, hbelow⟩ := hfits
    simp [HandleUse.run, map_eq_error_iff, contains, bind_eq_error_iff, h, hbelow, pure,
      Except.pure]
  | isContained scope =>
    obtain ⟨above, habove⟩ := hfits
    simp [HandleUse.run, map_eq_error_iff, contains, bind_eq_error_iff, h, habove, pure,
      Except.pure]
  | replace fragment =>
    have hfragment : document.renderFragment fragment ≠ .error .staleHandle := hfits
    simp [HandleUse.run, map_eq_error_iff, replace, bind_eq_error_iff, h, hfragment, pure,
      Except.pure]
  | _ =>
    simp [HandleUse.run, map_eq_error_iff, bind_eq_error_iff, h, children, arguments, kind, name,
      span, findIn, findOneIn, below, pure, Except.pure]

/-- A handle that has no row is refused. -/
theorem refuses_of_not_exists_row (h : ¬ ∃ row, document.row handle = .ok row) :
    document.Refuses handle := by
  cases hrow : document.row handle with
  | error error =>
    obtain rfl := row_eq_error hrow
    exact refuses_of_row hrow
  | ok row => exact absurd ⟨row, hrow⟩ h

/-- A handle is accepted if it has a row. -/
theorem accepts_iff_exists_row :
    document.Accepts handle ↔ ∃ row, document.row handle = .ok row := by
  constructor
  · intro haccepts
    by_contra hnone
    exact haccepts .kind trivial (refuses_of_not_exists_row hnone .kind)
  · rintro ⟨row, hrow⟩
    exact accepts_of_row hrow

end Document

/-! ### Detached rows -/

/-- Rows that are the same but for which of them are detached. -/
def SameButDetached (rows others : List Row) : Prop :=
  ∀ index : Nat, ∃ isDetached : Bool,
    others[index]? = rows[index]?.map (fun row ↦ { row with isDetached := isDetached })

/-- Rows are the same but for the ones that are detached from one number up to another. -/
theorem sameButDetached_detach (start stop : Nat) (rows : List Row) :
    SameButDetached rows (Document.detach start stop rows) := by
  intro index
  rw [Document.getElem?_detach]
  cases rows[index]? with
  | none => exact ⟨false, rfl⟩
  | some row => exact ⟨_, rfl⟩

namespace SameButDetached

variable {rows others : List Row} {index : Nat} {row : Row}

/-- A row is one of the others but for its flag. -/
theorem exists_other (h : SameButDetached rows others) (hrow : rows[index]? = some row) :
    ∃ isDetached, others[index]? = some { row with isDetached := isDetached } := by
  obtain ⟨isDetached, hother⟩ := h index
  rw [hrow] at hother
  exact ⟨isDetached, hother⟩

/-- And each of the others is one of the rows. -/
theorem exists_row (h : SameButDetached rows others) {other : Row}
    (hother : others[index]? = some other) : ∃ row isDetached, rows[index]? = some row ∧
      other = { row with isDetached := isDetached } := by
  obtain ⟨isDetached, hmap⟩ := h index
  rw [hother] at hmap
  obtain ⟨row, hrow, hsame⟩ := Option.map_eq_some_iff.mp hmap.symm
  exact ⟨row, isDetached, hrow, hsame.symm⟩

/-- There are as many of them. -/
theorem length_eq (h : SameButDetached rows others) : others.length = rows.length := by
  have hnone : ∀ index : Nat, others[index]? = none ↔ rows[index]? = none := by
    intro index
    obtain ⟨isDetached, hother⟩ := h index
    rw [hother, Option.map_eq_none_iff]
  simp only [List.getElem?_eq_none_iff] at hnone
  have hle := (hnone rows.length).mpr (Nat.le_refl _)
  have hge := (hnone others.length).mp (Nat.le_refl _)
  omega

end SameButDetached

/-- The rows of a table form one whichever of them are detached. -/
theorem IsTable.of_detached {rows others : List Row} (hrows : IsTable rows)
    (hothers : SameButDetached rows others) : IsTable others := by
  constructor
  · intro i other hother
    obtain ⟨row, isDetached, hrow, rfl⟩ := hothers.exists_row hother
    have hstop := hrows.stop hrow
    rw [← hothers.length_eq] at hstop
    exact hstop
  · intro i j outer inner hi hj hij hin
    obtain ⟨row, isDetached, hrow, rfl⟩ := hothers.exists_row hi
    obtain ⟨below, isBelowDetached, hbelow, rfl⟩ := hothers.exists_row hj
    have hle := hrows.stop_le hrow hbelow hij hin
    exact hle
  · intro j p other hother hparent
    obtain ⟨row, isDetached, hrow, rfl⟩ := hothers.exists_row hother
    obtain ⟨hlt, outer, houter, hin⟩ := hrows.parent hrow hparent
    obtain ⟨isOuterDetached, habove⟩ := hothers.exists_other houter
    exact ⟨hlt, _, habove, hin⟩
  · intro i j outer inner hi hj hij hin
    obtain ⟨row, isDetached, hrow, rfl⟩ := hothers.exists_row hi
    obtain ⟨below, isBelowDetached, hbelow, rfl⟩ := hothers.exists_row hj
    obtain ⟨p, hparent, hle⟩ := hrows.closest hrow hbelow hij hin
    exact ⟨p, hparent, hle⟩
  · intro i other span hother hspan
    obtain ⟨row, isDetached, hrow, rfl⟩ := hothers.exists_row hother
    obtain ⟨j, argument, hij, hin, hargument, hsame⟩ := hrows.argument hrow hspan
    obtain ⟨isArgumentDetached, hbelow⟩ := hothers.exists_other hargument
    exact ⟨j, _, hij, hin, hbelow, hsame⟩

/-- The nodes above a node are the same whichever rows are detached. -/
theorem ancestors_of_detached {rows others : List Row}
    (hothers : SameButDetached rows others) (index : Nat) :
    ancestors others index = ancestors rows index := by
  induction index using Nat.strongRecOn with
  | ind index ih =>
    have hparent : others[index]?.bind Row.parent = rows[index]?.bind Row.parent := by
      obtain ⟨isDetached, hother⟩ := hothers index
      rw [hother]
      cases rows[index]? with
      | none => rfl
      | some row => rfl
    rw [ancestors, hparent, ancestors]
    cases rows[index]?.bind Row.parent with
    | none => rfl
    | some above =>
      by_cases hlt : above < index
      · simp only [if_pos hlt, ih above hlt]
      · simp only [if_neg hlt]

namespace Document

/-- The document at a place in which some nodes have been replaced. The rows that are detached are
those of these nodes and of the nodes below them. -/
structure IsAt (document : Document) (place : Nat) (replaced : Nat → Prop) : Prop where
  id : document.id = place
  isTable : IsTable document.rows
  root : 0 < document.rows.length
  detached : ∀ {index : Nat} {row : Row}, document.rows[index]? = some row →
    (row.isDetached = true ↔
      ∃ node, replaced node ∧ (node = index ∨ node ∈ ancestors document.rows index))

variable {document : Document} {place : Nat} {replaced : Nat → Prop}

/-- It does not matter how the nodes that have been replaced are told. -/
theorem IsAt.congr {others : Nat → Prop} (hat : document.IsAt place replaced)
    (h : ∀ node, others node ↔ replaced node) : document.IsAt place others := by
  have hsame : others = replaced := funext fun node ↦ propext (h node)
  rw [hsame]
  exact hat

/-- In a document that has been parsed no node has been replaced. -/
theorem isAt_of_parse {dialect : Grammar.Dialect} {source : List Char}
    (h : parse place dialect source = .ok document) : document.IsAt place fun _ ↦ False := by
  have hfresh := isFresh_of_parse h
  constructor
  · obtain ⟨statements, rfl⟩ := parse_eq_ok h
    rfl
  · exact hfresh.isTable
  · obtain ⟨row, hrow, -⟩ := hfresh.root
    exact (List.getElem?_eq_some_iff.mp hrow).1
  · intro index row hrow
    refine iff_of_false ?_ ?_
    · rw [hfresh.standing row (List.mem_of_getElem? hrow)]
      exact Bool.false_ne_true
    · rintro ⟨node, hreplaced, -⟩
      exact hreplaced

/-- A handle has a row if it belongs to the document and neither its node nor one above has been
replaced. -/
theorem IsAt.exists_row_iff (hat : document.IsAt place replaced) {handle : Handle} :
    (∃ row, document.row handle = .ok row) ↔
      handle.document = place ∧ handle.index < document.rows.length ∧
        ∀ node, replaced node →
          node ≠ handle.index ∧ node ∉ ancestors document.rows handle.index := by
  constructor
  · rintro ⟨row, hrow⟩
    obtain ⟨hdocument, hfound, hstands⟩ := row_eq_ok_iff.mp hrow
    refine ⟨hdocument.trans hat.id, (List.getElem?_eq_some_iff.mp hfound).1, ?_⟩
    intro node hreplaced
    rw [← not_or]
    intro habove
    have hdetached := (hat.detached hfound).mpr ⟨node, hreplaced, habove⟩
    rw [hstands] at hdetached
    cases hdetached
  · rintro ⟨hdocument, hlt, hnone⟩
    have hfound := List.getElem?_eq_getElem hlt
    refine ⟨_, row_eq_ok_iff.mpr ⟨hdocument.trans hat.id.symm, hfound, ?_⟩⟩
    rw [← Bool.not_eq_true, hat.detached hfound]
    rintro ⟨node, hreplaced, habove⟩
    exact not_or.mpr (hnone node hreplaced) habove

/-- A replacement detaches the node and those below it. -/
theorem IsAt.replace (hat : document.IsAt place replaced) {handle : Handle} {fragment : Fragment}
    {next : Document} (h : document.replace handle fragment = .ok next) :
    next.IsAt place (fun node ↦ replaced node ∨ node = handle.index) ∧
      next.rows.length = document.rows.length := by
  obtain ⟨row, text, hrow, -, rfl⟩ := replace_eq_ok_iff.mp h
  obtain ⟨-, hfound, -⟩ := row_eq_ok_iff.mp hrow
  have hdetach := getElem?_detach handle.index row.stop document.rows
  have hothers := sameButDetached_detach handle.index row.stop document.rows
  have hlength : (detach handle.index row.stop document.rows).length = document.rows.length :=
    List.length_mapIdx
  refine ⟨⟨hat.id, hat.isTable.of_detached hothers, hlength ▸ hat.root, ?_⟩, hlength⟩
  intro index other hother
  rw [hdetach] at hother
  obtain ⟨found, hbefore, rfl⟩ := Option.map_eq_some_iff.mp hother
  rw [ancestors_of_detached hothers, Bool.or_eq_true, hat.detached hbefore, Bool.and_eq_true,
    decide_eq_true_eq, decide_eq_true_eq, le_and_lt_stop_iff hat.isTable hfound]
  constructor
  · rintro (⟨node, hreplaced, habove⟩ | habove)
    · exact ⟨node, Or.inl hreplaced, habove⟩
    · exact ⟨handle.index, Or.inr rfl, habove⟩
  · rintro ⟨node, hreplaced | rfl, habove⟩
    · exact Or.inl ⟨node, hreplaced, habove⟩
    · exact Or.inr habove

/-- What is below a detached row is detached. -/
theorem IsAt.detached_below (hat : document.IsAt place replaced) {i j : Nat} {above below : Row}
    (hi : document.rows[i]? = some above) (hj : document.rows[j]? = some below)
    (hij : i ∈ ancestors document.rows j) (hdetached : above.isDetached = true) :
    below.isDetached = true := by
  obtain ⟨node, hreplaced, hnode⟩ := (hat.detached hi).mp hdetached
  refine (hat.detached hj).mpr ⟨node, hreplaced, Or.inr ?_⟩
  rcases hnode with rfl | hnode
  · exact hij
  · exact mem_ancestors_trans hat.isTable hnode hij

/-- The handles of a stretch have rows. -/
theorem exists_row_of_mem_handlesBetween {start stop : Nat} {test : Row → Bool} {handle : Handle}
    (h : handle ∈ document.handlesBetween start stop test) :
    ∃ row, document.row handle = .ok row := by
  obtain ⟨row, hrow, -⟩ := mem_handlesBetween_iff.mp h
  exact ⟨row, hrow⟩

/-- The handles below a node have rows. -/
theorem exists_row_of_mem_below {handle : Handle} {test : Row → Bool} {found : List Handle}
    (h : document.below handle test = .ok found) :
    ∀ given ∈ found, ∃ row, document.row given = .ok row := by
  intro given hgiven
  obtain ⟨row, -, hstretch⟩ := bind_eq_ok_iff.mp h
  obtain rfl := Except.ok.inj hstretch
  exact exists_row_of_mem_handlesBetween hgiven

/-- The arguments of a node have rows. -/
theorem exists_row_of_mem_arguments {handle : Handle} {found : List Handle}
    (h : document.arguments handle = .ok found) :
    ∀ given ∈ found, ∃ row, document.row given = .ok row := by
  intro given hgiven
  obtain ⟨row, -, hspans⟩ := bind_eq_ok_iff.mp h
  obtain rfl := Except.ok.inj hspans
  obtain ⟨span, -, hfirst⟩ := List.mem_filterMap.mp hgiven
  exact exists_row_of_mem_handlesBetween (List.mem_of_mem_head? hfirst)

/-- A node stands if neither it nor one above it has been replaced, so those above it stand. -/
theorem IsAt.exists_row_of_ancestor (hat : document.IsAt place replaced) {handle : Handle}
    {row : Row} (hrow : document.row handle = .ok row) {above : Nat}
    (habove : above ∈ ancestors document.rows handle.index) :
    ∃ outer, document.row (document.handle above) = .ok outer := by
  obtain ⟨-, hfound, hstands⟩ := row_eq_ok_iff.mp hrow
  obtain ⟨outer, houter, -, -⟩ := (mem_ancestors_iff hat.isTable).mp habove
  refine ⟨outer, row_eq_ok_iff.mpr ⟨rfl, houter, ?_⟩⟩
  rw [← Bool.not_eq_true]
  intro hdetached
  have hbelow := hat.detached_below houter hfound habove hdetached
  rw [hstands] at hbelow
  cases hbelow

/-- The node above a node is told by its row. -/
theorem parent_eq_ok_iff {handle above : Handle} : document.parent handle = .ok above ↔
    ∃ row p, document.row handle = .ok row ∧ row.parent = some p ∧ above = document.handle p := by
  unfold parent
  rw [bind_eq_ok_iff]
  refine exists_congr fun row ↦ ?_
  cases row.parent with
  | none => simp [throw, throwThe, MonadExceptOf.throw]
  | some p => simp [pure, Except.pure, eq_comm]

/-- The node above a node that stands has a row. -/
theorem IsAt.exists_row_of_parent (hat : document.IsAt place replaced) {handle above : Handle}
    (h : document.parent handle = .ok above) : ∃ row, document.row above = .ok row := by
  obtain ⟨row, p, hrow, hparent, rfl⟩ := parent_eq_ok_iff.mp h
  obtain ⟨-, hfound, -⟩ := row_eq_ok_iff.mp hrow
  refine hat.exists_row_of_ancestor hrow ?_
  rw [ancestors_of_parent hat.isTable hfound hparent]
  exact List.mem_cons_self

/-- The use of a handle replaces the node, or leaves the document as it is and gives handles that
have rows. -/
theorem IsAt.run_cases (hat : document.IsAt place replaced) {handle : Handle} {use : HandleUse}
    {handles : List Handle} {next : Document}
    (h : use.run document handle = .ok (handles, next)) :
    (∃ fragment, use = .replace fragment ∧ handles = [] ∧
      document.replace handle fragment = .ok next) ∨
    (use.targets handle = [] ∧ next = document ∧
      ∀ given ∈ handles, ∃ row, document.row given = .ok row) := by
  cases use with
  | replace fragment =>
    obtain ⟨found, hfound, heq⟩ := map_eq_ok_iff.mp h
    obtain ⟨rfl, rfl⟩ := Prod.mk.inj heq
    exact Or.inl ⟨fragment, rfl, rfl, hfound⟩
  | parent =>
    obtain ⟨above, habove, heq⟩ := map_eq_ok_iff.mp h
    obtain ⟨rfl, rfl⟩ := Prod.mk.inj heq
    refine Or.inr ⟨rfl, rfl, fun given hgiven ↦ ?_⟩
    rw [List.mem_singleton.mp hgiven]
    exact hat.exists_row_of_parent habove
  | children =>
    obtain ⟨found, hfound, heq⟩ := map_eq_ok_iff.mp h
    obtain ⟨rfl, rfl⟩ := Prod.mk.inj heq
    exact Or.inr ⟨rfl, rfl, exists_row_of_mem_below hfound⟩
  | arguments =>
    obtain ⟨found, hfound, heq⟩ := map_eq_ok_iff.mp h
    obtain ⟨rfl, rfl⟩ := Prod.mk.inj heq
    exact Or.inr ⟨rfl, rfl, exists_row_of_mem_arguments hfound⟩
  | findIn selector =>
    obtain ⟨found, hfound, heq⟩ := map_eq_ok_iff.mp h
    obtain ⟨rfl, rfl⟩ := Prod.mk.inj heq
    exact Or.inr ⟨rfl, rfl, exists_row_of_mem_below hfound⟩
  | findOneIn selector =>
    obtain ⟨first, hfirst, heq⟩ := map_eq_ok_iff.mp h
    obtain ⟨rfl, rfl⟩ := Prod.mk.inj heq
    obtain ⟨found, hfound, hhead⟩ := bind_eq_ok_iff.mp hfirst
    obtain rfl := Except.ok.inj hhead
    refine Or.inr ⟨rfl, rfl, fun given hgiven ↦ ?_⟩
    exact exists_row_of_mem_below hfound given (List.mem_of_mem_head? (Option.mem_toList.mp hgiven))
  | kind | name | span | text | contains node | isContained scope =>
    obtain ⟨found, -, heq⟩ := map_eq_ok_iff.mp h
    obtain ⟨rfl, rfl⟩ := Prod.mk.inj heq
    exact Or.inr ⟨rfl, rfl, fun given hgiven ↦ nomatch hgiven⟩

end Document

end SsrBuild
