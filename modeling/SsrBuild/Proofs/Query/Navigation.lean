import Mathlib.Data.List.Sort
import Mathlib.Logic.Relation
import SsrBuild.Proofs.Query.Reached

/-!
The ways to go about the tree of a document. The nodes below a node are a stretch of the table, the
node above it is written in its row, and the nodes right below it are found by looking for it in
those. All of these agree whatever has been replaced. A stretch holds what a descent through the
children meets, in the same order (`IsAt.findIn_eq_ok`), because nothing stands below a node that has
been replaced, and a node is in the stretch of another one if going up from parent to parent leads
there (`IsAt.parents_iff`). Both come from the order of the table: lists of handles in that order are
equal if they have the same members (`eq_of_mem_iff`).
-/

set_option autoImplicit false

namespace SsrBuild

namespace Document

variable {start document : Document} {done : List Replacement} {place : Nat}
  {replaced : Nat → Prop} {handle node : Handle} {row : Row}

/-! ### Handles in the order of the table -/

/-- The handles of a stretch are in the order of the table. -/
theorem pairwise_handlesBetween (document : Document) (start stop : Nat) (test : Row → Bool) :
    (document.handlesBetween start stop test).Pairwise fun first second ↦
      first.index < second.index := by
  have hrows : document.rows.zipIdx.Pairwise fun first second ↦ first.2 < second.2 := by
    rw [← List.pairwise_map (f := Prod.snd) (R := (· < ·)), List.zipIdx_map_snd]
    exact List.pairwise_lt_range'
  refine List.Pairwise.filterMap _ (fun first second hlt handle hhandle other hother ↦ ?_) hrows
  obtain ⟨-, hhandle⟩ := Option.ite_none_right_eq_some.mp hhandle
  obtain ⟨-, hother⟩ := Option.ite_none_right_eq_some.mp hother
  obtain rfl := Option.some.inj hhandle
  obtain rfl := Option.some.inj hother
  exact hlt

/-- Handles in the order of the table are the same lists if they are the same handles. -/
theorem eq_of_mem_iff {first second : List Handle}
    (hfirst : first.Pairwise fun handle other ↦ handle.index < other.index)
    (hsecond : second.Pairwise fun handle other ↦ handle.index < other.index)
    (h : ∀ handle, handle ∈ first ↔ handle ∈ second) : first = second := by
  have hirrefl : Std.Irrefl fun handle other : Handle ↦ handle.index < other.index :=
    ⟨fun handle ↦ Nat.lt_irrefl handle.index⟩
  have hasymm : Std.Antisymm fun handle other : Handle ↦ handle.index < other.index :=
    ⟨fun handle other h hother ↦ absurd hother (Nat.lt_asymm h)⟩
  exact hfirst.eq_of_mem_iff hsecond h

/-- The row of the handle is there and passes the test. -/
def passes (document : Document) (test : Row → Bool) (handle : Handle) : Bool :=
  (document.row handle).toOption.any test

theorem passes_of_row (h : document.row handle = .ok row) (test : Row → Bool) :
    document.passes test handle = test row := by
  rw [passes, h]
  rfl

/-- The handles of a stretch that satisfy a test are chosen from all of its handles. -/
theorem handlesBetween_eq_filter (document : Document) (start stop : Nat) (test : Row → Bool) :
    document.handlesBetween start stop test =
      (document.handlesBetween start stop fun _ ↦ true).filter (document.passes test) := by
  refine eq_of_mem_iff (pairwise_handlesBetween document start stop test)
    ((pairwise_handlesBetween document start stop _).filter _) fun handle ↦ ?_
  rw [List.mem_filter, mem_handlesBetween_iff, mem_handlesBetween_iff]
  constructor
  · rintro ⟨row, hrow, hstart, hstop, htest⟩
    exact ⟨⟨row, hrow, hstart, hstop, rfl⟩, (passes_of_row hrow test).trans htest⟩
  · rintro ⟨⟨row, hrow, hstart, hstop, -⟩, htest⟩
    exact ⟨row, hrow, hstart, hstop, (passes_of_row hrow test).symm.trans htest⟩

/-- The nodes below a node that stands are a stretch. -/
theorem below_of_row (h : document.row handle = .ok row) (test : Row → Bool) :
    document.below handle test =
      .ok (document.handlesBetween (handle.index + 1) row.stop test) := by
  rw [below, h]
  rfl

/-! ### Parents and children -/

/-- A node is above another one if that one is among its children. -/
theorem IsAt.parent_iff_mem_children (hat : document.IsAt place replaced)
    (h : document.row handle = .ok row) {child : Handle} :
    document.parent child = .ok handle ↔
      ∃ below, document.children handle = .ok below ∧ child ∈ below := by
  obtain ⟨-, hfound, -⟩ := row_eq_ok_iff.mp h
  rw [children, below_of_row h]
  simp only [Except.ok.injEq, exists_eq_left', mem_handlesBetween_iff, beq_iff_eq,
    parent_eq_ok_iff]
  constructor
  · rintro ⟨inner, p, hinner, hparent, rfl⟩
    obtain ⟨-, hchild, -⟩ := row_eq_ok_iff.mp hinner
    obtain ⟨hlt, outer, houter, hin⟩ := hat.isTable.parent hchild hparent
    obtain rfl : outer = row := Option.some.inj (houter.symm.trans hfound)
    exact ⟨inner, hinner, hlt, hin, hparent⟩
  · rintro ⟨inner, hinner, -, -, hparent⟩
    exact ⟨inner, handle.index, hinner, hparent, eq_handle_of_row h⟩

/-! ### Going down -/

/-- What a descent from several nodes meets: each of them, what the descent from its children meets,
and then what comes after it. -/
inductive Visits (document : Document) : List Handle → List Handle → Prop
  | nil : Visits document [] []
  | cons {handle : Handle} {rest below inner later : List Handle}
      (children : document.children handle = .ok below) (down : Visits document below inner)
      (onward : Visits document rest later) :
      Visits document (handle :: rest) (handle :: (inner ++ later))

/-- A descent meets no more than one list of nodes. -/
theorem Visits.unique {handles visited : List Handle} (h : document.Visits handles visited) :
    ∀ {others : List Handle}, document.Visits handles others → visited = others := by
  induction h with
  | nil =>
    intro others hothers
    cases hothers
    rfl
  | cons hchildren _ _ ihDown ihOnward =>
    intro others hothers
    cases hothers with
    | cons hsame hdown honward =>
      obtain rfl := Except.ok.inj (hchildren.symm.trans hsame)
      rw [ihDown hdown, ihOnward honward]

/-- All nodes below a node, or none where the node does not stand. -/
def nodesBelow (document : Document) (handle : Handle) : List Handle :=
  (document.below handle fun _ ↦ true).toOption.getD []

theorem nodesBelow_of_row (h : document.row handle = .ok row) : document.nodesBelow handle =
    document.handlesBetween (handle.index + 1) row.stop fun _ ↦ true := by
  rw [nodesBelow, below_of_row h]
  rfl

/-- A node is below another one that stands if it stands and the other one is above it. -/
theorem IsAt.mem_nodesBelow_iff (hat : document.IsAt place replaced)
    (h : document.row handle = .ok row) : node ∈ document.nodesBelow handle ↔
      (∃ inner, document.row node = .ok inner) ∧
        handle.index ∈ ancestors document.rows node.index := by
  obtain ⟨-, hfound, -⟩ := row_eq_ok_iff.mp h
  rw [nodesBelow_of_row h, mem_handlesBetween_iff, mem_ancestors_of_row hat.isTable hfound]
  constructor
  · rintro ⟨inner, hinner, hlt, hin, -⟩
    exact ⟨⟨inner, hinner⟩, hlt, hin⟩
  · rintro ⟨⟨inner, hinner⟩, hlt, hin⟩
    exact ⟨inner, hinner, hlt, hin, rfl⟩

/-- The descents from the children of a node meet different nodes, in the order of the table. -/
theorem IsAt.pairwise_flatMap (hat : document.IsAt place replaced) (start stop parent : Nat) :
    ((document.handlesBetween start stop (·.parent == some parent)).flatMap
      fun child ↦ child :: document.nodesBelow child).Pairwise fun first second ↦
        first.index < second.index := by
  refine List.pairwise_flatMap.mpr ⟨fun child hchild ↦ ?_, ?_⟩
  · obtain ⟨inner, hinner, -⟩ := mem_handlesBetween_iff.mp hchild
    rw [nodesBelow_of_row hinner]
    refine List.pairwise_cons.mpr ⟨fun lower hlower ↦ ?_, pairwise_handlesBetween ..⟩
    obtain ⟨-, -, hlt, -⟩ := mem_handlesBetween_iff.mp hlower
    exact hlt
  · refine (pairwise_handlesBetween ..).imp_of_mem fun {first second} hfirst hsecond hlt ↦ ?_
    obtain ⟨inner, hinner, -, -, hparent⟩ := mem_handlesBetween_iff.mp hfirst
    obtain ⟨other, hother, -, -, hotherParent⟩ := mem_handlesBetween_iff.mp hsecond
    have hle := stop_le_of_siblings hat.isTable (row_eq_ok_iff.mp hinner).2.1
      (row_eq_ok_iff.mp hother).2.1 (beq_iff_eq.mp hparent) (beq_iff_eq.mp hotherParent) hlt
    -- All that the first descent meets is before the second child, all that the second meets is not.
    intro lower hlower otherLower hotherLower
    have hbefore : lower.index < second.index := by
      rcases List.mem_cons.mp hlower with rfl | hlower
      · exact hlt
      · rw [nodesBelow_of_row hinner] at hlower
        obtain ⟨-, -, -, hin, -⟩ := mem_handlesBetween_iff.mp hlower
        omega
    have hafter : second.index ≤ otherLower.index := by
      rcases List.mem_cons.mp hotherLower with rfl | hotherLower
      · exact Nat.le_refl _
      · rw [nodesBelow_of_row hother] at hotherLower
        obtain ⟨-, -, hfrom, -⟩ := mem_handlesBetween_iff.mp hotherLower
        omega
    omega

/-- The nodes below a node are its children, each with the nodes below it. -/
theorem IsAt.nodesBelow_eq_flatMap (hat : document.IsAt place replaced)
    (h : document.row handle = .ok row) : document.nodesBelow handle =
      (document.handlesBetween (handle.index + 1) row.stop
        (·.parent == some handle.index)).flatMap fun child ↦
          child :: document.nodesBelow child := by
  have hparent : ∀ child, child ∈ document.handlesBetween (handle.index + 1) row.stop
      (·.parent == some handle.index) ↔ document.parent child = .ok handle := fun child ↦ by
    rw [hat.parent_iff_mem_children h, children, below_of_row h]
    simp only [Except.ok.injEq, exists_eq_left']
  refine eq_of_mem_iff (nodesBelow_of_row h ▸ pairwise_handlesBetween ..)
    (hat.pairwise_flatMap ..) fun node ↦ ?_
  rw [hat.mem_nodesBelow_iff h, List.mem_flatMap]
  constructor
  · -- A node that stands has a child above it that stands, or is one.
    rintro ⟨⟨inner, hinner⟩, habove⟩
    obtain ⟨number, found, hfound, hnumber, hbelow⟩ := exists_child_of_ancestor hat.isTable habove
    have hchild : ∃ outer, document.row (document.handle number) = .ok outer := by
      rcases hbelow with rfl | hbelow
      · exact ⟨inner, eq_handle_of_row hinner ▸ hinner⟩
      · exact hat.exists_row_of_ancestor hinner hbelow
    obtain ⟨outer, houter⟩ := hchild
    obtain rfl : found = outer :=
      Option.some.inj (hfound.symm.trans (row_eq_ok_iff.mp houter).2.1)
    refine ⟨document.handle number, (hparent _).mpr (parent_eq_ok_iff.mpr
      ⟨found, handle.index, houter, hnumber, eq_handle_of_row h⟩), ?_⟩
    rcases hbelow with rfl | hbelow
    · rw [← eq_handle_of_row hinner]
      exact List.mem_cons_self
    · exact List.mem_cons_of_mem _ ((hat.mem_nodesBelow_iff houter).mpr ⟨⟨inner, hinner⟩, hbelow⟩)
  · rintro ⟨child, hchild, hnode⟩
    obtain ⟨inner, p, hinner, hinnerParent, hhandle⟩ :=
      parent_eq_ok_iff.mp ((hparent child).mp hchild)
    obtain rfl : handle.index = p := by rw [hhandle]; rfl
    have habove : handle.index ∈ ancestors document.rows child.index := by
      rw [ancestors_of_parent hat.isTable (row_eq_ok_iff.mp hinner).2.1 hinnerParent]
      exact List.mem_cons_self
    rcases List.mem_cons.mp hnode with rfl | hnode
    · exact ⟨⟨inner, hinner⟩, habove⟩
    · obtain ⟨hstands, hbelow⟩ := (hat.mem_nodesBelow_iff hinner).mp hnode
      exact ⟨hstands, mem_ancestors_trans hat.isTable habove hbelow⟩

/-- The descent from nodes meets each of them with the nodes below it, if that is what the descents
from their children meet. -/
theorem visits_flatMap {handles : List Handle} (h : ∀ handle ∈ handles, ∃ below,
      document.children handle = .ok below ∧ document.Visits below (document.nodesBelow handle)) :
    document.Visits handles (handles.flatMap fun handle ↦ handle :: document.nodesBelow handle) := by
  induction handles with
  | nil => exact .nil
  | cons first rest ih =>
    obtain ⟨below, hchildren, hdown⟩ := h first List.mem_cons_self
    rw [List.flatMap_cons, List.cons_append]
    exact .cons hchildren hdown (ih fun handle hhandle ↦ h handle (List.mem_cons_of_mem _ hhandle))

/-- The descent from the children of a node meets the nodes below it. -/
theorem IsAt.visits_children (hat : document.IsAt place replaced)
    (h : document.row handle = .ok row) : ∃ below, document.children handle = .ok below ∧
      document.Visits below (document.nodesBelow handle) := by
  induction hleft : document.rows.length - handle.index using Nat.strongRecOn
    generalizing handle row with
  | ind left ih =>
    have hchildren := below_of_row h (·.parent == some handle.index)
    refine ⟨_, hchildren, ?_⟩
    rw [hat.nodesBelow_eq_flatMap h]
    refine visits_flatMap fun child hchild ↦ ?_
    obtain ⟨inner, hinner, hlt, -, -⟩ := mem_handlesBetween_iff.mp hchild
    obtain ⟨-, hfound, -⟩ := row_eq_ok_iff.mp hinner
    have hlength := (List.getElem?_eq_some_iff.mp hfound).1
    exact ih _ (by omega) hinner rfl

/-- What a descent from the children of a node meets and the selector chooses is found below the
node. -/
theorem IsAt.findIn_eq_ok (hat : document.IsAt place replaced) (h : document.row handle = .ok row)
    {below visited : List Handle} (hchildren : document.children handle = .ok below)
    (hvisits : document.Visits below visited) (selector : Selector) :
    document.findIn handle selector = .ok (visited.filter (document.passes selector.selects)) := by
  obtain ⟨same, hsame, hbelow⟩ := hat.visits_children h
  obtain rfl := Except.ok.inj (hsame.symm.trans hchildren)
  rw [hvisits.unique hbelow, nodesBelow_of_row h, findIn, below_of_row h, handlesBetween_eq_filter]

/-! ### Going up -/

/-- A step up, from a node to its parent. -/
def StepsUp (document : Document) (lower upper : Handle) : Prop :=
  document.parent lower = .ok upper

/-- Going up from a node that stands leads to itself and to the nodes above it. -/
theorem IsAt.parents_iff (hat : document.IsAt place replaced) (h : document.row node = .ok row)
    {above : Handle} :
    Relation.ReflTransGen document.StepsUp node above ↔
      above = node ∨
        (above.document = document.id ∧ above.index ∈ ancestors document.rows node.index) := by
  induction hnumber : node.index using Nat.strongRecOn generalizing node row with
  | ind number ih =>
    subst hnumber
    obtain ⟨-, hfound, -⟩ := row_eq_ok_iff.mp h
    rw [Relation.ReflTransGen.cases_head_iff, eq_comm]
    refine or_congr_right ?_
    cases hparent : row.parent with
    | none =>
      rw [ancestors, hfound, Option.bind_some, hparent]
      refine iff_of_false ?_ (by simp)
      rintro ⟨upper, hupper, -⟩
      obtain ⟨found, p, hfoundRow, hp, -⟩ := parent_eq_ok_iff.mp hupper
      obtain rfl := Except.ok.inj (hfoundRow.symm.trans h)
      rw [hparent] at hp
      cases hp
    | some p =>
      have hupper : document.parent node = .ok (document.handle p) :=
        parent_eq_ok_iff.mpr ⟨row, p, h, hparent, rfl⟩
      obtain ⟨outer, houter⟩ := hat.exists_row_of_parent hupper
      have hlt := (hat.isTable.parent hfound hparent).1
      have hsteps : ∀ upper, document.StepsUp node upper ↔ document.handle p = upper :=
        fun upper ↦ by rw [StepsUp, hupper, Except.ok.injEq]
      simp only [hsteps, exists_eq_left', ih p hlt houter rfl]
      rw [ancestors_of_parent hat.isTable hfound hparent, List.mem_cons, and_or_left]
      refine or_congr_left ⟨?_, ?_⟩
      · rintro rfl
        exact ⟨rfl, rfl⟩
      · rintro ⟨hid, rfl⟩
        rw [Document.handle, ← hid]

/-- A node that stands is contained in another one if going up from it leads there. -/
theorem IsAt.contains_iff (hat : document.IsAt place replaced) (h : document.row handle = .ok row)
    {inner : Row} (hnode : document.row node = .ok inner) :
    (∃ answer, document.contains handle node = .ok answer) ∧
      (document.contains handle node = .ok true ↔
        Relation.ReflTransGen document.StepsUp node handle) := by
  obtain ⟨hid, hfound, -⟩ := row_eq_ok_iff.mp h
  obtain ⟨hnodeId, -, -⟩ := row_eq_ok_iff.mp hnode
  have hcontains : document.contains handle node =
      .ok (decide (handle.index ≤ node.index) && decide (node.index < row.stop)) := by
    rw [contains, h, hnode]
    rfl
  refine ⟨⟨_, hcontains⟩, ?_⟩
  rw [hat.parents_iff hnode, hcontains, Except.ok.injEq, Bool.and_eq_true, decide_eq_true_eq,
    decide_eq_true_eq, le_and_lt_stop_iff hat.isTable hfound]
  refine or_congr ⟨fun hsame ↦ ?_, fun hsame ↦ by rw [hsame]⟩ (and_iff_right hid).symm
  rw [eq_handle_of_row h, eq_handle_of_row hnode, hsame]

/-! ### From the root -/

/-- The root holds all rows and has no parent. -/
theorem exists_root_of_replaced (hreached : start.Replaced done document) (hfresh : start.IsFresh) :
    ∃ top, document.rows[0]? = some top ∧ top.stop = document.rows.length ∧ top.parent = none := by
  obtain ⟨top, htop, hstop, -⟩ := hfresh.root
  have hrows := hreached.sameButDetached
  obtain ⟨isDetached, hsame⟩ := hrows 0
  rw [htop, Option.map_some] at hsame
  refine ⟨_, hsame, hstop.trans hrows.length_eq.symm, ?_⟩
  cases hparent : top.parent with
  | none => rfl
  | some p => exact absurd (hfresh.isTable.parent htop hparent).1 (Nat.not_lt_zero p)

/-- Going up from a node that stands ends at the root, which stands and has no parent. -/
theorem IsAt.parents_root (hat : document.IsAt place replaced) {top : Row}
    (htop : document.rows[0]? = some top) (hstop : top.stop = document.rows.length)
    (hparent : top.parent = none) (h : document.row node = .ok row) :
    Relation.ReflTransGen document.StepsUp node document.root ∧
      document.row document.root = .ok top ∧
      document.parent document.root = .error .traversal := by
  obtain ⟨-, hfound, -⟩ := row_eq_ok_iff.mp h
  have hlt := (List.getElem?_eq_some_iff.mp hfound).1
  have habove : document.root = node ∨ 0 ∈ ancestors document.rows node.index := by
    rcases Nat.eq_zero_or_pos node.index with hzero | hpos
    · left
      rw [eq_handle_of_row h, hzero, Document.root]
    · exact Or.inr ((mem_ancestors_of_row hat.isTable htop node.index).mpr ⟨hpos, hstop ▸ hlt⟩)
  have hroot : document.row document.root = .ok top := by
    have hstands : ∃ outer, document.row document.root = .ok outer := by
      rcases habove with hsame | habove
      · exact ⟨row, hsame ▸ h⟩
      · exact hat.exists_row_of_ancestor h habove
    obtain ⟨outer, houter⟩ := hstands
    obtain rfl : outer = top := Option.some.inj ((row_eq_ok_iff.mp houter).2.1.symm.trans htop)
    exact houter
  refine ⟨(hat.parents_iff h).mpr (habove.imp_right fun habove ↦ ⟨rfl, habove⟩), hroot, ?_⟩
  refine bind_eq_error_iff.mpr (Or.inr ⟨top, hroot, ?_⟩)
  rw [hparent]
  rfl

/-- The nodes that are found are the root, if it is chosen, and those found below it. -/
theorem find_eq_append (h : document.row document.root = .ok row)
    (hstop : row.stop = document.rows.length) (selector : Selector) : ∃ below,
      document.findIn document.root selector = .ok below ∧ document.find selector =
        [document.root].filter (document.passes selector.selects) ++ below := by
  refine ⟨_, below_of_row h _, ?_⟩
  unfold find
  have hfirst : ([document.root].filter (document.passes selector.selects)).Pairwise
      fun handle other ↦ handle.index < other.index := (List.pairwise_singleton ..).filter _
  refine eq_of_mem_iff (pairwise_handlesBetween ..) (List.pairwise_append.mpr
    ⟨hfirst, pairwise_handlesBetween .., fun first hroot second hsecond ↦ ?_⟩) fun handle ↦ ?_
  · obtain rfl := List.mem_singleton.mp (List.mem_filter.mp hroot).1
    obtain ⟨-, -, hlt, -⟩ := mem_handlesBetween_iff.mp hsecond
    exact hlt
  · rw [List.mem_append, List.mem_filter, List.mem_singleton, mem_handlesBetween_iff,
      mem_handlesBetween_iff, hstop]
    constructor
    · rintro ⟨found, hfound, -, hlt, hselects⟩
      rcases Nat.eq_zero_or_pos handle.index with hzero | hpos
      · refine Or.inl ⟨?_, (passes_of_row hfound _).trans hselects⟩
        rw [eq_handle_of_row hfound, hzero, Document.root]
      · exact Or.inr ⟨found, hfound, hpos, hlt, hselects⟩
    · rintro (⟨rfl, hpasses⟩ | ⟨found, hfound, -, hlt, hselects⟩)
      · refine ⟨row, h, Nat.zero_le _, ?_, (passes_of_row h _).symm.trans hpasses⟩
        exact (List.getElem?_eq_some_iff.mp (row_eq_ok_iff.mp h).2.1).1
      · exact ⟨found, hfound, Nat.zero_le _, hlt, hselects⟩

/-- Nothing is found where the root does not stand. -/
theorem IsAt.find_eq_nil (hat : document.IsAt place replaced) (hroot : replaced 0) {top : Row}
    (htop : document.rows[0]? = some top) (hstop : top.stop = document.rows.length)
    (selector : Selector) : document.find selector = [] := by
  refine List.eq_nil_iff_forall_not_mem.mpr fun handle hhandle ↦ ?_
  obtain ⟨row, hrow, -⟩ := mem_handlesBetween_iff.mp hhandle
  obtain ⟨-, hlt, hnone⟩ := hat.exists_row_iff.mp ⟨row, hrow⟩
  obtain ⟨hne, hnot⟩ := hnone 0 hroot
  exact hnot ((mem_ancestors_of_row hat.isTable htop handle.index).mpr ⟨by omega, hstop ▸ hlt⟩)

/-- The ways to go about a document agree after any replacements. Below a node that stands are found
the nodes that a descent through the children meets, in the same order, and there is such a descent.
Another node that stands is contained in it if going up from that one leads to it, and has it as its
parent if it is among the children. Going up ends at the root, and there only. The whole document is
the root with what is below it; once the root has been replaced nothing is found. -/
theorem navigation_agrees {id : Nat} {dialect : Grammar.Dialect} {source : List Char}
    (hparse : parse id dialect source = .ok start) (hreached : start.Replaced done document) :
    (∀ handle row, document.row handle = .ok row →
      (∃ below visited, document.children handle = .ok below ∧ document.Visits below visited ∧
        ∀ selector, document.findIn handle selector =
          .ok (visited.filter (document.passes selector.selects))) ∧
      (∀ node inner, document.row node = .ok inner →
        (∃ answer, document.contains handle node = .ok answer) ∧
        (document.contains handle node = .ok true ↔
          Relation.ReflTransGen document.StepsUp node handle) ∧
        (document.parent node = .ok handle ↔
          ∃ below, document.children handle = .ok below ∧ node ∈ below)) ∧
      Relation.ReflTransGen document.StepsUp handle document.root ∧
      document.parent document.root = .error .traversal) ∧
    (∀ selector, (∃ row, document.row document.root = .ok row) → ∃ below,
      document.findIn document.root selector = .ok below ∧ document.find selector =
        [document.root].filter (document.passes selector.selects) ++ below) ∧
    ∀ selector, (∃ replacement ∈ done, replacement.node = 0) → document.find selector = [] := by
  have hat := hreached.isAt (isAt_of_parse hparse)
  obtain ⟨top, htop, hstop, hparent⟩ := exists_root_of_replaced hreached (isFresh_of_parse hparse)
  refine ⟨fun handle row hrow ↦ ⟨?_, fun node inner hinner ↦ ?_, ?_⟩, ?_, ?_⟩
  · obtain ⟨below, hchildren, hvisits⟩ := hat.visits_children hrow
    exact ⟨below, _, hchildren, hvisits, hat.findIn_eq_ok hrow hchildren hvisits⟩
  · obtain ⟨hanswer, hcontains⟩ := hat.contains_iff hrow hinner
    exact ⟨hanswer, hcontains, hat.parent_iff_mem_children hrow⟩
  · obtain ⟨hup, -, hends⟩ := hat.parents_root htop hstop hparent hrow
    exact ⟨hup, hends⟩
  · rintro selector ⟨row, hrow⟩
    obtain rfl : row = top := Option.some.inj ((row_eq_ok_iff.mp hrow).2.1.symm.trans htop)
    exact find_eq_append hrow hstop selector
  · intro selector hroot
    exact hat.find_eq_nil hroot htop hstop selector

/-- After an argument has been replaced, the node of the function is found first below the call. -/
theorem navigation_nestedCalls : ∃ document visited,
    nestedCalls.Replaced [⟨4, ⟨2, 6⟩, ['x']⟩] document ∧
    document.Visits [⟨0, 3⟩, ⟨0, 7⟩] visited ∧
    document.findIn ⟨0, 2⟩ (.kind .identifier) =
      .ok (visited.filter (document.passes (Selector.kind .identifier).selects)) := by
  have hparse : parse 0 ⟨true, false, false⟩ "f(g(a), b);".toList = .ok nestedCalls := by
    decide +kernel
  have hstart : nestedCalls.Replaced [] nestedCalls := .none
  have hreached := hstart.more ⟨0, 4⟩ (.source ['x']) rfl rfl rfl
  obtain ⟨below, visited, hchildren, hvisits, hfindIn⟩ :=
    ((navigation_agrees hparse hreached).1 ⟨0, 2⟩ _ rfl).1
  obtain rfl : [⟨0, 3⟩, ⟨0, 7⟩] = below := Except.ok.inj hchildren
  exact ⟨_, visited, hreached, hvisits, hfindIn _⟩

end Document

end SsrBuild
