import SsrBuild.Entry.Export
import SsrBuild.Proofs.Query.Navigation
import SsrBuild.Proofs.Tree.Place

/-!
Looking through what only wraps the exported declaration. A node is seen through to its first child
that stands if it is a pair of parentheses, or if it has no kind of its own and the span of the
child (`Document.SeesThrough`). Every child has a larger number than its parent, so a chain of such
nodes comes to an end, and the declaration is the end of the longest one (`exists_longestChain`). In
every state of the document of a tree the declaration is found, unless nothing stands below the
export: it is the function itself however many parentheses are around it, and no function below any
other node (`exportedDeclaration_longestChain`).
-/

set_option autoImplicit false

namespace SsrBuild

open Text (Span)

/-- A tree in parentheses, the spans of which are given from the outermost pair on. -/
def Tree.inParentheses (tree : Tree) : List Span → Tree
  | [] => tree
  | span :: rest => .node .parenthesized span [tree.inParentheses rest]

namespace Document

variable {document : Document} {id : Nat} {replaced : Nat → Prop}
  {outer inner handle declaration : Handle} {row : Row}

/-! ### One step -/

/-- A node is seen through to its first child that stands: a pair of parentheses, or a node without
a kind of its own that has the span of the child. -/
def SeesThrough (document : Document) (outer inner : Handle) : Prop :=
  (∃ rest, document.children outer = .ok (inner :: rest)) ∧
    (document.kind outer = .ok .parenthesized ∨
      document.kind outer = .ok .other ∧
        ∃ span, document.span outer = .ok span ∧ document.span inner = .ok span)

/-- The first child of a node is the first of its children. -/
theorem firstChild_eq_ok_iff {child : Option Handle} : document.firstChild handle = .ok child ↔
    ∃ below, document.children handle = .ok below ∧ below.head? = child := by
  unfold firstChild
  rw [bind_eq_ok_iff]
  simp only [pure, Except.pure, Except.ok.injEq]

theorem kind_of_row (h : document.row handle = .ok row) : document.kind handle = .ok row.kind :=
  bind_eq_ok_iff.mpr ⟨row, h, rfl⟩

theorem span_of_row (h : document.row handle = .ok row) : document.span handle = .ok row.span :=
  bind_eq_ok_iff.mpr ⟨row, h, rfl⟩

/-- The children of a node that stands are the nodes in its stretch that stand and have it for their
parent. -/
theorem exists_children (h : document.row handle = .ok row) :
    ∃ below, document.children handle = .ok below ∧
      ∀ child ∈ below, ∃ found, document.row child = .ok found ∧
        found.parent = some handle.index ∧ handle.index < child.index ∧ child.index < row.stop := by
  refine ⟨_, below_of_row h _, fun child hchild ↦ ?_⟩
  obtain ⟨found, hfound, hlt, hin, hparent⟩ := mem_handlesBetween_iff.mp hchild
  exact ⟨found, hfound, beq_iff_eq.mp hparent, hlt, hin⟩

/-- A node that stands is seen through to its first child if its row says that it wraps it. -/
theorem seesThrough_iff (h : document.row outer = .ok row) : document.SeesThrough outer inner ↔
    document.firstChild outer = .ok (some inner) ∧
      ∃ below, document.row inner = .ok below ∧ row.wraps below = true := by
  obtain ⟨children, hchildren, hstand⟩ := exists_children h
  simp only [SeesThrough, firstChild_eq_ok_iff, hchildren, Except.ok.injEq, exists_eq_left',
    List.head?_eq_some_iff, kind_of_row h, span_of_row h]
  refine and_congr_right fun ⟨rest, hrest⟩ ↦ ?_
  obtain ⟨below, hbelow, -⟩ := hstand inner (hrest ▸ List.mem_cons_self)
  simp only [hbelow, span_of_row hbelow, Except.ok.injEq, exists_eq_left', Row.wraps,
    Bool.or_eq_true, Bool.and_eq_true, beq_iff_eq]

/-- A node is seen through to one node at most. -/
theorem SeesThrough.unique {other : Handle} (h : document.SeesThrough outer inner)
    (hother : document.SeesThrough outer other) : inner = other := by
  obtain ⟨⟨rest, hrest⟩, -⟩ := h
  obtain ⟨⟨others, hothers⟩, -⟩ := hother
  exact (List.cons.inj (Except.ok.inj (hrest.symm.trans hothers))).1

/-- What is seen through stands, as does its child, which comes later and within its stretch. -/
theorem SeesThrough.exists_rows (h : document.SeesThrough outer inner) :
    ∃ row below, document.row outer = .ok row ∧ document.row inner = .ok below ∧
      below.parent = some outer.index ∧ outer.index < inner.index ∧ inner.index < row.stop := by
  obtain ⟨⟨rest, hrest⟩, -⟩ := h
  obtain ⟨row, hrow, -⟩ := bind_eq_ok_iff.mp hrest
  obtain ⟨children, hchildren, hstand⟩ := exists_children hrow
  obtain rfl := Except.ok.inj (hchildren.symm.trans hrest)
  obtain ⟨below, hbelow, hparent, hlt, hin⟩ := hstand inner List.mem_cons_self
  exact ⟨row, below, hrow, hbelow, hparent, hlt, hin⟩

/-- Of a node that is seen through the same is left as of the child. -/
theorem unwrap_of_seesThrough (h : document.SeesThrough outer inner) :
    document.unwrap outer = document.unwrap inner := by
  obtain ⟨row, -, hrow, -⟩ := h.exists_rows
  obtain ⟨hfirst, below, hbelow, hwraps⟩ := (seesThrough_iff hrow).mp h
  rw [unwrap_of_firstChild hfirst hrow hbelow, if_pos hwraps]

/-- A node that stands and is not seen through is left as it is. -/
theorem unwrap_of_forall_not (h : document.row handle = .ok row)
    (hnot : ∀ next, ¬ document.SeesThrough handle next) :
    document.unwrap handle = .ok handle := by
  obtain ⟨children, hchildren, hstand⟩ := exists_children h
  have hfirst := firstChild_eq_ok_iff.mpr ⟨children, hchildren, rfl⟩
  cases hhead : children.head? with
  | none =>
    rw [hhead] at hfirst
    exact unwrap_of_childless hfirst
  | some child =>
    rw [hhead] at hfirst
    obtain ⟨below, hbelow, -⟩ := hstand child (List.mem_of_head? hhead)
    have hwraps : ¬ row.wraps below = true := fun hwraps ↦
      hnot child ((seesThrough_iff h).mpr ⟨hfirst, below, hbelow, hwraps⟩)
    rw [unwrap_of_firstChild hfirst h hbelow, if_neg hwraps]

/-! ### Chains -/

/-- The nodes that are seen through from a node on, each behind the one before, as far as that goes:
every other chain from there on is a part of it. -/
structure IsLongestChain (document : Document) (first : Handle) (chain : List Handle) : Prop where
  head : chain.head? = some first
  follows : chain.IsChain document.SeesThrough
  longest : ∀ other : List Handle, other.head? = some first →
    other.IsChain document.SeesThrough → other <+: chain

/-- A node that is not seen through is a longest chain of its own. -/
theorem isLongestChain_singleton (hnot : ∀ next, ¬ document.SeesThrough handle next) :
    document.IsLongestChain handle [handle] where
  head := rfl
  follows := .singleton handle
  longest other hhead hother := by
    obtain ⟨rest, rfl⟩ := List.head?_eq_some_iff.mp hhead
    cases rest with
    | nil => exact List.prefix_refl _
    | cons next later => exact absurd (List.isChain_cons_cons.mp hother).1 (hnot next)

/-- A node that is seen through comes before the longest chain from the node behind it. -/
theorem IsLongestChain.cons {chain : List Handle} (hlongest : document.IsLongestChain inner chain)
    (h : document.SeesThrough outer inner) : document.IsLongestChain outer (outer :: chain) := by
  obtain ⟨rest, rfl⟩ := List.head?_eq_some_iff.mp hlongest.head
  refine ⟨rfl, List.isChain_cons_cons.mpr ⟨h, hlongest.follows⟩, fun other hhead hother ↦ ?_⟩
  obtain ⟨later, rfl⟩ := List.head?_eq_some_iff.mp hhead
  refine List.cons_prefix_cons.mpr ⟨rfl, ?_⟩
  cases later with
  | nil => exact List.nil_prefix
  | cons next later =>
    obtain ⟨hnext, hlater⟩ := List.isChain_cons_cons.mp hother
    exact hlongest.longest _ (congrArg some (hnext.unique h)) hlater

/-- From a node that stands on there is a longest chain, which is no longer than the stretch of the
node has rows. Its last node stands, is not seen through, and is what is left of the first. -/
theorem exists_longestChain (hrows : IsTable document.rows)
    (hrow : document.row handle = .ok row) : ∃ chain declaration,
      document.IsLongestChain handle chain ∧ chain.getLast? = some declaration ∧
        handle.index + chain.length ≤ row.stop ∧ document.unwrap handle = .ok declaration ∧
        ∃ found, document.row declaration = .ok found := by
  induction hleft : row.stop - handle.index using Nat.strongRecOn generalizing handle row with
  | ind left ih =>
    obtain ⟨-, hfound, -⟩ := row_eq_ok_iff.mp hrow
    by_cases hthrough : ∃ inner, document.SeesThrough handle inner
    · obtain ⟨inner, hthrough⟩ := hthrough
      obtain ⟨outer, below, houter, hbelow, -, hlt, hin⟩ := hthrough.exists_rows
      obtain rfl := Except.ok.inj (houter.symm.trans hrow)
      have hstop := hrows.stop_le hfound (row_eq_ok_iff.mp hbelow).2.1 hlt hin
      obtain ⟨chain, declaration, hlongest, hlast, hlength, hunwrap, hstands⟩ :=
        ih (below.stop - inner.index) (by omega) hbelow rfl
      refine ⟨handle :: chain, declaration, hlongest.cons hthrough, ?_, ?_, ?_, hstands⟩
      · rw [List.getLast?_cons, hlast, Option.getD_some]
      · rw [List.length_cons]
        omega
      · rw [unwrap_of_seesThrough hthrough, hunwrap]
    · have hnot := not_exists.mp hthrough
      have hstop := (hrows.stop hfound).1
      exact ⟨[handle], handle, isLongestChain_singleton hnot, rfl, hstop,
        unwrap_of_forall_not hrow hnot, row, hrow⟩

/-- The nodes above the end of a chain are above its beginning, or are seen through. -/
theorem mem_ancestors_or_seesThrough (hrows : IsTable document.rows) {chain : List Handle}
    (hchain : chain.IsChain document.SeesThrough) {first last : Handle}
    (hfirst : chain.head? = some first) (hlast : chain.getLast? = some last) {above : Nat}
    (habove : above ∈ ancestors document.rows last.index) :
    above ∈ ancestors document.rows first.index ∨
      ∃ next, document.SeesThrough (document.handle above) next := by
  induction chain generalizing first with
  | nil => cases hfirst
  | cons handle rest ih =>
    obtain rfl := Option.some.inj hfirst
    cases rest with
    | nil =>
      obtain rfl := Option.some.inj hlast
      exact Or.inl habove
    | cons next later =>
      obtain ⟨hthrough, hlater⟩ := List.isChain_cons_cons.mp hchain
      rcases ih hlater rfl (List.getLast?_cons_cons ▸ hlast) with hnext | hseen
      · obtain ⟨row, below, hrow, hbelow, hparent, -⟩ := hthrough.exists_rows
        rw [ancestors_of_parent hrows (row_eq_ok_iff.mp hbelow).2.1 hparent, List.mem_cons] at hnext
        rcases hnext with rfl | hnext
        · exact Or.inr ⟨next, eq_handle_of_row hrow ▸ hthrough⟩
        · exact Or.inl hnext
      · exact Or.inr hseen

/-! ### Parentheses -/

variable {tree : Tree} {index : Nat}

/-- In the document of a tree that is as it was read, no node has been replaced. -/
theorem isAt_table (tree : Tree) (id : Nat) (source : List Char) :
    (Document.mk id source tree.table []).IsAt id fun _ ↦ False where
  id := rfl
  isTable := isTable_table tree
  root := by
    obtain ⟨label, span, children⟩ := tree
    rw [Tree.table_eq_rows, Tree.length_rowsAll, Tree.sizeAll, Tree.size]
    omega
  detached {index row} hrow := by
    obtain ⟨place, hplace⟩ := Tree.exists_place_of_row hrow
    obtain ⟨below, parent, -, hfound, -⟩ := Tree.exists_row_of_places hplace
    obtain rfl := Option.some.inj (hfound.symm.trans hrow)
    refine iff_of_false Bool.false_ne_true ?_
    rintro ⟨node, hreplaced, -⟩
    exact hreplaced

/-- A row that stands says what the node at its place is, and where the node above it is. -/
theorem exists_subtree_of_row (hrows : SameButDetached tree.table document.rows)
    (hrow : document.row handle = .ok row) : ∃ place below,
      tree.places[handle.index]? = some place ∧ tree.subtree? place = some below ∧
      row.kind = below.kind ∧ ∀ p, row.parent = some p ↔
        ∃ above number, tree.places[p]? = some above ∧ place = above ++ [number] := by
  obtain ⟨place, below, parent, hplace, hbelow, htable, hsame⟩ := exists_row_of_table hrows hrow
  refine ⟨place, below, hplace, hbelow, ?_, fun p ↦ Tree.parent_eq_some_iff hplace htable⟩
  rw [hsame]
  rfl

/-- The first child of a node comes right behind it. -/
theorem getElem?_places_succ {place : List Nat} {label : Label} {span : Span} {child : Tree}
    {rest : List Tree} (hplace : tree.places[index]? = some place)
    (hsubtree : tree.subtree? place = some (.node label span (child :: rest))) :
    tree.places[index + 1]? = some (place ++ [0]) ∧ tree.subtree? (place ++ [0]) = some child := by
  obtain ⟨below, parent, hbelow, -, hblock⟩ := Tree.exists_row_of_places hplace
  obtain rfl := Option.some.inj (hsubtree.symm.trans hbelow)
  obtain ⟨childLabel, childSpan, children⟩ := child
  refine ⟨?_, ?_⟩
  · have hsize :
        1 < Tree.size (.node label span (.node childLabel childSpan children :: rest)) := by
      simp only [Tree.size, Tree.sizeAll]
      omega
    rw [hblock 1 hsize]
    rfl
  · rw [Tree.subtree?_append, hsubtree]
    rfl

/-- Of handles in the order of the table the first is the one with the least number. -/
theorem head?_eq_some_of_le {handles : List Handle} {first : Handle}
    (hsorted : handles.Pairwise fun handle other ↦ handle.index < other.index)
    (hmem : first ∈ handles) (hle : ∀ handle ∈ handles, first.index ≤ handle.index) :
    handles.head? = some first := by
  cases handles with
  | nil => cases hmem
  | cons handle rest =>
    rcases List.mem_cons.mp hmem with rfl | hlater
    · rfl
    · have hlt := List.rel_of_pairwise_cons hsorted hlater
      have := hle handle List.mem_cons_self
      omega

/-- The first child of a node in the tree is its first child in the document if it stands there, and
the node stands then too. -/
theorem firstChild_of_subtree (hat : document.IsAt id replaced)
    (hrows : SameButDetached tree.table document.rows) {place : List Nat} {label : Label}
    {span : Span} {child : Tree} {rest : List Tree} (hplace : tree.places[index]? = some place)
    (hsubtree : tree.subtree? place = some (.node label span (child :: rest)))
    (hrow : document.row (document.handle (index + 1)) = .ok row) :
    (∃ outer, document.row (document.handle index) = .ok outer ∧ outer.kind = label.kind) ∧
      document.firstChild (document.handle index) = .ok (some (document.handle (index + 1))) := by
  have hchild : document.parent (document.handle (index + 1)) = .ok (document.handle index) := by
    obtain ⟨childPlace, -, hchildPlace, -, -, habove⟩ := exists_subtree_of_row hrows hrow
    obtain rfl := Option.some.inj ((getElem?_places_succ hplace hsubtree).1.symm.trans hchildPlace)
    exact parent_eq_ok_iff.mpr ⟨row, index, hrow, (habove index).mpr ⟨place, 0, hplace, rfl⟩, rfl⟩
  obtain ⟨outer, houter⟩ := hat.exists_row_of_parent hchild
  obtain ⟨children, hchildren, hmem⟩ := (hat.parent_iff_mem_children houter).mp hchild
  refine ⟨⟨outer, houter, ?_⟩, firstChild_eq_ok_iff.mpr ⟨children, hchildren, ?_⟩⟩
  · obtain ⟨samePlace, node, hsame, hnode, hkind, -⟩ := exists_subtree_of_row hrows houter
    obtain rfl := Option.some.inj (hplace.symm.trans hsame)
    obtain rfl := Option.some.inj (hsubtree.symm.trans hnode)
    exact hkind
  · obtain rfl := Except.ok.inj ((below_of_row houter _).symm.trans hchildren)
    refine head?_eq_some_of_le (pairwise_handlesBetween ..) hmem fun other hother ↦ ?_
    obtain ⟨-, -, hle, -⟩ := mem_handlesBetween_iff.mp hother
    exact hle

/-- A function is not seen through. -/
theorem not_seesThrough_of_kind (hrow : document.row handle = .ok row)
    (hkind : row.kind = .function ∨ row.kind = .arrowFunction) (next : Handle) :
    ¬ document.SeesThrough handle next := by
  rintro ⟨-, h⟩
  rw [kind_of_row hrow] at h
  rcases hkind with hkind | hkind <;> rw [hkind] at h <;> simp at h

/-- What stands in parentheses comes behind them, one row for each pair. -/
theorem getElem?_places_inParentheses {content : Tree} (spans : List Span) :
    ∀ {index : Nat} {place : List Nat}, tree.places[index]? = some place →
      tree.subtree? place = some (content.inParentheses spans) →
      tree.places[index + spans.length]? = some (place ++ List.replicate spans.length 0) ∧
        tree.subtree? (place ++ List.replicate spans.length 0) = some content := by
  induction spans with
  | nil =>
    intro index place hplace hsubtree
    simpa using ⟨hplace, hsubtree⟩
  | cons span rest ih =>
    intro index place hplace hsubtree
    obtain ⟨hnextPlace, hnextSubtree⟩ := getElem?_places_succ hplace hsubtree
    have hlength : index + (span :: rest).length = index + 1 + rest.length := by
      rw [List.length_cons]
      omega
    have hzeros : place ++ List.replicate (span :: rest).length 0 =
        place ++ [0] ++ List.replicate rest.length 0 := by
      rw [List.append_assoc]
      rfl
    rw [hlength, hzeros]
    exact ih hnextPlace hnextSubtree

/-- Parentheses, as many as there are, stand if the function inside them does, and nothing but the
function is left of them. -/
theorem unwrap_inParentheses (hat : document.IsAt id replaced)
    (hrows : SameButDetached tree.table document.rows) {function : Tree}
    (hkind : function.kind = .function ∨ function.kind = .arrowFunction) (spans : List Span) :
    ∀ {index : Nat} {place : List Nat}, tree.places[index]? = some place →
      tree.subtree? place = some (function.inParentheses spans) →
      (∃ row, document.row (document.handle (index + spans.length)) = .ok row) →
      (∃ row, document.row (document.handle index) = .ok row) ∧
        document.unwrap (document.handle index) =
          .ok (document.handle (index + spans.length)) := by
  induction spans with
  | nil =>
    rintro index place hplace hsubtree ⟨row, hrow⟩
    obtain ⟨samePlace, below, hsame, hbelow, hrowKind, -⟩ := exists_subtree_of_row hrows hrow
    obtain rfl := Option.some.inj (hplace.symm.trans hsame)
    obtain rfl := Option.some.inj (hsubtree.symm.trans hbelow)
    have hfunction : row.kind = .function ∨ row.kind = .arrowFunction := hrowKind ▸ hkind
    exact ⟨⟨row, hrow⟩, unwrap_of_forall_not hrow (not_seesThrough_of_kind hrow hfunction)⟩
  | cons span rest ih =>
    rintro index place hplace hsubtree hfunction
    obtain ⟨hnextPlace, hnextSubtree⟩ := getElem?_places_succ hplace hsubtree
    have hlength : index + (span :: rest).length = index + 1 + rest.length := by
      rw [List.length_cons]
      omega
    rw [hlength] at hfunction ⊢
    obtain ⟨⟨below, hbelow⟩, hunwrap⟩ := ih hnextPlace hnextSubtree hfunction
    obtain ⟨⟨outer, houter, hkind⟩, hfirst⟩ :=
      firstChild_of_subtree hat hrows hplace hsubtree hbelow
    have hparentheses : outer.kind = .parenthesized := hkind
    have hthrough : document.SeesThrough (document.handle index) (document.handle (index + 1)) :=
      (seesThrough_iff houter).mpr ⟨hfirst, below, hbelow, by simp [Row.wraps, hparentheses]⟩
    exact ⟨⟨outer, houter⟩, (unwrap_of_seesThrough hthrough).trans hunwrap⟩

/-! ### The exported declaration -/

/-- The handles of a stretch that satisfy two tests are chosen from those that satisfy the first. -/
theorem handlesBetween_and (document : Document) (start stop : Nat) (test other : Row → Bool) :
    document.handlesBetween start stop (fun row ↦ test row && other row) =
      (document.handlesBetween start stop test).filter (document.passes other) := by
  refine eq_of_mem_iff (pairwise_handlesBetween ..) ((pairwise_handlesBetween ..).filter _)
    fun handle ↦ ?_
  simp only [List.mem_filter, mem_handlesBetween_iff, Bool.and_eq_true]
  constructor
  · rintro ⟨row, hrow, hstart, hstop, htest, hother⟩
    exact ⟨⟨row, hrow, hstart, hstop, htest⟩, (passes_of_row hrow other).trans hother⟩
  · rintro ⟨⟨row, hrow, hstart, hstop, htest⟩, hother⟩
    exact ⟨row, hrow, hstart, hstop, htest, (passes_of_row hrow other).symm.trans hother⟩

/-- The parameters of a function are the first list of parameters among its children; nothing else
has any. -/
theorem parametersOf_of_row (hrow : document.row handle = .ok row) : ∃ below,
    document.children handle = .ok below ∧ document.parametersOf handle =
      .ok (if row.kind = .function ∨ row.kind = .arrowFunction then
        below.find? (document.passes (·.kind == .formalParameters)) else none) := by
  refine ⟨_, below_of_row hrow _, ?_⟩
  have hlists := below_of_row hrow
    (fun below ↦ below.parent == some handle.index && below.kind == .formalParameters)
  rw [handlesBetween_and] at hlists
  rw [parametersOf, hrow, ← List.head?_filter]
  by_cases hkind : row.kind = .function ∨ row.kind = .arrowFunction
  · rw [if_pos hkind]
    rcases hkind with hkind | hkind <;>
      simp only [bind, Except.bind, hkind, hlists, pure, Except.pure]
  · rw [if_neg hkind]
    obtain ⟨hfunction, harrow⟩ := not_or.mp hkind
    simp only [bind, Except.bind]
    rfl

/-- An export with nothing below it exports no declaration. -/
theorem exportedDeclaration_of_nil (h : document.children handle = .ok []) :
    document.exportedDeclaration handle = .ok none :=
  bind_eq_ok_iff.mpr ⟨none, firstChild_eq_ok_iff.mpr ⟨[], h, rfl⟩, rfl⟩

/-- An export exports what is left of its first child. -/
theorem exportedDeclaration_of_firstChild {child : Handle}
    (hfirst : document.firstChild handle = .ok (some child))
    (hunwrap : document.unwrap child = .ok declaration) :
    document.exportedDeclaration handle = .ok (some declaration) :=
  bind_eq_ok_iff.mpr ⟨some child, hfirst, bind_eq_ok_iff.mpr ⟨declaration, hunwrap, rfl⟩⟩

/-- The parameters of a declaration that is exported are those of the export. -/
theorem exportedParameters_of_some
    (h : document.exportedDeclaration handle = .ok (some declaration)) :
    document.exportedParameters handle = document.parametersOf declaration := by
  rw [exportedParameters, h]
  rfl

/-- A node that contains another one is above it. -/
theorem mem_ancestors_of_contains (hrows : IsTable document.rows)
    (h : document.contains outer inner = .ok true) (hne : inner ≠ outer) :
    outer.index ∈ ancestors document.rows inner.index := by
  obtain ⟨row, hrow, hrest⟩ := bind_eq_ok_iff.mp h
  obtain ⟨below, hbelow, hwithin⟩ := bind_eq_ok_iff.mp hrest
  have hstretch : outer.index ≤ inner.index ∧ inner.index < row.stop := by
    simpa using Except.ok.inj hwithin
  refine ((le_and_lt_stop_iff hrows (row_eq_ok_iff.mp hrow).2.1 _).mp hstretch).resolve_left
    fun hsame ↦ hne ?_
  rw [eq_handle_of_row hrow, eq_handle_of_row hbelow, hsame]

/-- What is left of the first child of a node is not below any other node in that node, unless it is
one that is seen through. -/
theorem ne_of_not_seesThrough (hrows : IsTable document.rows) {first : Handle} {chain : List Handle}
    {below : Row} (hfirst : document.row first = .ok below)
    (hparent : below.parent = some handle.index) (hlongest : document.IsLongestChain first chain)
    (hlast : chain.getLast? = some declaration) (houter : document.contains handle outer = .ok true)
    (hother : outer ≠ handle) (hinner : document.contains outer inner = .ok true)
    (hne : inner ≠ outer) (hnot : ∀ next, ¬ document.SeesThrough outer next) :
    declaration ≠ inner := by
  rintro rfl
  have hbelow := mem_ancestors_of_contains hrows houter hother
  have habove := mem_ancestors_of_contains hrows hinner hne
  obtain ⟨row, hrow, -⟩ := bind_eq_ok_iff.mp hinner
  rcases mem_ancestors_or_seesThrough hrows hlongest.follows hlongest.head hlast habove with
    habove | ⟨next, hnext⟩
  · rw [ancestors_of_parent hrows (row_eq_ok_iff.mp hfirst).2.1 hparent, List.mem_cons] at habove
    obtain ⟨-, -, hlt, -⟩ := (mem_ancestors_iff hrows).mp hbelow
    rcases habove with hsame | habove
    · omega
    · obtain ⟨-, -, hgt, -⟩ := (mem_ancestors_iff hrows).mp habove
      omega
  · exact hnot next (eq_handle_of_row hrow ▸ hnext)

/-- A function that stands is exported through any number of parentheses. -/
theorem exportedDeclaration_inParentheses (hat : document.IsAt id replaced)
    (hrows : SameButDetached tree.table document.rows) (hrow : document.row handle = .ok row)
    {place : List Nat} {label : Label} {span : Span} {function : Tree} {spans : List Span}
    {rest : List Tree} (hplace : tree.places[handle.index]? = some place)
    (hsubtree :
      tree.subtree? place = some (.node label span (function.inParentheses spans :: rest)))
    (hkind : function.kind = .function ∨ function.kind = .arrowFunction)
    (hindex : tree.places[index]? = some (place ++ List.replicate (spans.length + 1) 0))
    (hstands : ∃ standing, document.row (document.handle index) = .ok standing) :
    document.exportedDeclaration handle = .ok (some (document.handle index)) := by
  obtain ⟨hchildPlace, hchildSubtree⟩ := getElem?_places_succ hplace hsubtree
  obtain rfl : handle.index + 1 + spans.length = index := by
    refine Tree.eq_of_getElem?_places ?_ hindex
    rw [(getElem?_places_inParentheses spans hchildPlace hchildSubtree).1, List.append_assoc]
    rfl
  obtain ⟨⟨below, hbelow⟩, hunwrap⟩ :=
    unwrap_inParentheses hat hrows hkind spans hchildPlace hchildSubtree hstands
  have hfirst := (firstChild_of_subtree hat hrows hplace hsubtree hbelow).2
  rw [← eq_handle_of_row hrow] at hfirst
  exact exportedDeclaration_of_firstChild hfirst hunwrap

/-- In every state of the document of a tree, the declaration that a node exports is found: there is
none if nothing stands below the node, and it is the end of the longest chain from its first child
otherwise. The parameters of the export are the first list of parameters among the children of the
declaration if that is a function. A function that stands is exported through any number of
parentheses, and what is below a node that is not seen through is not exported. -/
theorem exportedDeclaration_longestChain {source : List Char} {done : List Replacement}
    (hreached : Replaced ⟨id, source, tree.table, []⟩ done document) {defaultExport : Handle}
    (hrow : document.row defaultExport = .ok row) :
    ∃ below found, document.children defaultExport = .ok below ∧
      document.exportedDeclaration defaultExport = .ok found ∧
      (found = none ↔ below = []) ∧
      (∀ child ∈ below.head?, ∃ chain, document.IsLongestChain child chain ∧
        found = chain.getLast? ∧ defaultExport.index + chain.length < row.stop) ∧
      (∀ declaration ∈ found, ∃ kind inner, document.kind declaration = .ok kind ∧
        document.children declaration = .ok inner ∧ document.exportedParameters defaultExport =
          .ok (if kind = .function ∨ kind = .arrowFunction then
            inner.find? (document.passes (·.kind == .formalParameters)) else none)) ∧
      (∀ (place : List Nat) (label : Label) (span : Span) (function : Tree) (spans : List Span)
          (rest : List Tree) (index : Nat),
        tree.places[defaultExport.index]? = some place →
        tree.subtree? place = some (.node label span (function.inParentheses spans :: rest)) →
        function.kind = .function ∨ function.kind = .arrowFunction →
        tree.places[index]? = some (place ++ List.replicate (spans.length + 1) 0) →
        (∃ standing, document.row (document.handle index) = .ok standing) →
          found = some (document.handle index)) ∧
      (∀ outer inner, document.contains defaultExport outer = .ok true → outer ≠ defaultExport →
        document.contains outer inner = .ok true → inner ≠ outer →
        (∀ next, ¬ document.SeesThrough outer next) → found ≠ some inner) := by
  have hrows := hreached.sameButDetached
  have hat := hreached.isAt (isAt_table tree id source)
  obtain ⟨below, hchildren, hstand⟩ := exists_children hrow
  cases below with
  | nil =>
    have hexported := exportedDeclaration_of_nil hchildren
    refine ⟨[], none, hchildren, hexported, by simp, by simp, by simp, ?_, by simp⟩
    intro place label span function spans rest index hplace hsubtree hkind hindex hstands
    exact Except.ok.inj (hexported.symm.trans
      (exportedDeclaration_inParentheses hat hrows hrow hplace hsubtree hkind hindex hstands))
  | cons child others =>
    obtain ⟨first, hfirst, hparent, hlt, hin⟩ := hstand child List.mem_cons_self
    have hfirstChild := firstChild_eq_ok_iff.mpr ⟨_, hchildren, rfl⟩
    obtain ⟨chain, declaration, hlongest, hlast, hlength, hunwrap, found, hfound⟩ :=
      exists_longestChain hat.isTable hfirst
    have hexported := exportedDeclaration_of_firstChild hfirstChild hunwrap
    refine ⟨_, some declaration, hchildren, hexported, by simp, ?_, ?_, ?_, ?_⟩
    · rintro child ⟨⟩
      refine ⟨chain, hlongest, hlast.symm, ?_⟩
      have := hat.isTable.stop_le (row_eq_ok_iff.mp hrow).2.1 (row_eq_ok_iff.mp hfirst).2.1 hlt hin
      omega
    · rintro declaration ⟨⟩
      obtain ⟨inner, hinner, hparameters⟩ := parametersOf_of_row hfound
      exact ⟨found.kind, inner, kind_of_row hfound, hinner,
        (exportedParameters_of_some hexported).trans hparameters⟩
    · intro place label span function spans rest index hplace hsubtree hkind hindex hstands
      exact Except.ok.inj (hexported.symm.trans
        (exportedDeclaration_inParentheses hat hrows hrow hplace hsubtree hkind hindex hstands))
    · intro outer inner houter hother hinner hne hnot hsame
      exact ne_of_not_seesThrough hat.isTable hfirst hparent hlongest hlast houter hother hinner hne
        hnot (Option.some.inj hsame)

/-- A function with one parameter. -/
def unaryFunction : Tree :=
  .node .function ⟨26, 41⟩ [
    .node .formalParameters ⟨35, 38⟩ [
      .node .other ⟨36, 37⟩ [.node (.identifier "a") ⟨36, 37⟩ []]],
    .node .functionBody ⟨39, 41⟩ []]

/-- A module that exports the function in two pairs of parentheses. -/
def parenthesizedModule : Document :=
  ⟨0, "export default ( /* c */ (function (a) {}) );".toList,
    Tree.table (.node .program ⟨0, 45⟩ [
      .node .exportDefault ⟨0, 45⟩ [unaryFunction.inParentheses [⟨15, 44⟩, ⟨25, 42⟩]]]), []⟩

/-- After the body has been replaced, the function is found through the parentheses and the comment
in them, and its parameters are those of the export. -/
theorem exportedDeclaration_parenthesizedModule : ∃ document,
    parse 0 ⟨true, false, false⟩ "export default ( /* c */ (function (a) {}) );".toList =
      .ok parenthesizedModule ∧
    parenthesizedModule.Replaced [⟨8, ⟨39, 41⟩, "{ }".toList⟩] document ∧
    document.exportedDeclaration ⟨0, 1⟩ = .ok (some ⟨0, 4⟩) ∧
    document.exportedParameters ⟨0, 1⟩ = .ok (some ⟨0, 5⟩) := by
  have hparse : parse 0 ⟨true, false, false⟩
      "export default ( /* c */ (function (a) {}) );".toList = .ok parenthesizedModule := by
    decide +kernel
  have hstart : parenthesizedModule.Replaced [] parenthesizedModule := .none
  have hreached := hstart.more ⟨0, 8⟩ (.source "{ }".toList) rfl rfl rfl
  obtain ⟨below, found, -, hexported, -, -, hdeclared, hinside, -⟩ :=
    exportedDeclaration_longestChain hreached (show row _ ⟨0, 1⟩ = _ from rfl)
  obtain rfl : found = some ⟨0, 4⟩ :=
    hinside [0] .exportDefault ⟨0, 45⟩ unaryFunction [⟨15, 44⟩, ⟨25, 42⟩] [] 4 rfl rfl
      (Or.inl rfl) rfl ⟨_, rfl⟩
  obtain ⟨kind, inner, hkind, hinner, hparameters⟩ := hdeclared ⟨0, 4⟩ rfl
  obtain rfl : Kind.function = kind := Except.ok.inj hkind
  obtain rfl : [⟨0, 5⟩] = inner := Except.ok.inj hinner
  exact ⟨_, hparse, hreached, hexported, hparameters⟩

end Document

end SsrBuild
