import SsrBuild.Proofs.Grammar.ProgramPlaces
import SsrBuild.Proofs.Query.Parsed
import SsrBuild.Proofs.Tree.Place

/-!
Where the nodes of a parsed document stand. The rows of its table have the places that the grammar
gave to the nodes, in bytes: a construction and a list of parameters neither of which is above the
other are clear of each other (`Document.isClearOf_parameters`), and the arguments of a call come one
after the other (`Document.pairwise_arguments`).
-/

set_option autoImplicit false

namespace SsrBuild

open Text (Span byteOffset byteCount)

/-! ### Offsets in bytes -/

theorem Text.byteOffset_le (text : List Char) {first second : Nat} (hle : first ≤ second) :
    byteOffset text first ≤ byteOffset text second := by
  have hsplit : text.take second = text.take first ++ (text.take second).drop first := by
    conv_lhs => rw [← List.take_append_drop first (text.take second), List.take_take,
      Nat.min_eq_left hle]
  rw [byteOffset, byteOffset, hsplit, Text.byteCount_append]
  exact Nat.le_add_right _ _

/-- Spans that are clear of each other are so in bytes. -/
theorem Text.Span.IsClearOf.inBytes (text : List Char) {span other : Span}
    (h : span.IsClearOf other) : (span.inBytes text).IsClearOf (other.inBytes text) := by
  rcases h with h | h | ⟨hstart, hstop⟩
  · exact Or.inl (Text.byteOffset_le text h)
  · exact Or.inr (Or.inl (Text.byteOffset_le text h))
  · exact Or.inr (Or.inr ⟨Text.byteOffset_le text hstart, Text.byteOffset_le text hstop⟩)

namespace Tree

variable {low high : Nat} {tree below : Tree} {place : List Nat} {change : Span → Span}

/-! ### Nodes and the places of rows -/

theorem mapSpansAll_eq_map (change : Span → Span) (trees : List Tree) :
    mapSpansAll change trees = trees.map (mapSpans change) := by
  induction trees with
  | nil => rfl
  | cons tree rest ih => rw [mapSpansAll, ih, List.map_cons]

@[simp] theorem label_mapSpans (change : Span → Span) (tree : Tree) :
    (tree.mapSpans change).label = tree.label := by
  obtain ⟨label, span, children⟩ := tree
  rfl

@[simp] theorem span_mapSpans (change : Span → Span) (tree : Tree) :
    (tree.mapSpans change).span = change tree.span := by
  obtain ⟨label, span, children⟩ := tree
  rfl

@[simp] theorem children_mapSpans (change : Span → Span) (tree : Tree) :
    (tree.mapSpans change).children = tree.children.map (mapSpans change) := by
  obtain ⟨label, span, children⟩ := tree
  exact mapSpansAll_eq_map change children

@[simp] theorem arguments_mapSpans (change : Span → Span) (tree : Tree) :
    (tree.mapSpans change).arguments = tree.arguments.map (mapSpans change) := by
  unfold arguments
  rw [label_mapSpans, children_mapSpans, List.length_map]
  split
  · exact List.map_drop.symm
  · exact List.map_drop.symm
  · rfl

/-- A change of spans changes them in every subtree. -/
theorem subtree?_mapSpans (change : Span → Span) (place : List Nat) :
    ∀ tree : Tree, (tree.mapSpans change).subtree? place =
      (tree.subtree? place).map (mapSpans change) := by
  induction place with
  | nil => intro tree; simp
  | cons number place ih =>
    intro tree
    cases hchild : tree.children[number]? with
    | none => simp [subtree?, hchild]
    | some child => simp [subtree?, hchild, ih]

/-- The row of a tree with changed spans has the kind and the changed span of the node at its
place. -/
theorem exists_node_of_row {i : Nat} {found : Row}
    (h : (tree.mapSpans change).table[i]? = some found) :
    ∃ place below, (tree.mapSpans change).places[i]? = some place ∧
      tree.subtree? place = some below ∧ found.kind = below.kind ∧
      found.span = change below.span := by
  obtain ⟨place, hplace⟩ := exists_place_of_row h
  obtain ⟨changed, parent, hchanged, hrow, -⟩ := exists_row_of_places hplace
  rw [subtree?_mapSpans] at hchanged
  obtain ⟨below, hbelow, rfl⟩ := Option.map_eq_some_iff.mp hchanged
  obtain rfl := Option.some.inj (hrow.symm.trans h)
  exact ⟨place, below, hplace, hbelow, by simp [row, kind], by simp [row]⟩

/-! ### Subtrees of what is placed -/

/-- A subtree is one of the nodes. -/
theorem mem_preorder_of_subtree? (place : List Nat) :
    ∀ {tree below : Tree}, tree.subtree? place = some below → below ∈ tree.preorder := by
  induction place with
  | nil =>
    intro tree below h
    obtain rfl := Option.some.inj ((subtree?_nil tree).symm.trans h)
    exact mem_preorder_self tree
  | cons number place ih =>
    intro tree below h
    obtain ⟨child, hchild, hbelow⟩ := Option.bind_eq_some_iff.mp h
    obtain ⟨label, span, children⟩ := tree
    exact mem_preorder_iff.mpr (Or.inr ⟨child, List.mem_of_getElem? hchild, ih hbelow⟩)

/-- The label of a node tells its kind, and some kinds have one label only. -/
theorem label_of_kind {tree : Tree} :
    (tree.kind = .formalParameters → tree.label = .formalParameters) ∧
      (tree.kind = .newExpression → tree.label.isConstruction = true) := by
  obtain ⟨label, span, children⟩ := tree
  cases label <;> simp [kind, Label.kind, Label.isConstruction]

/-- Places neither of which leads to the other part at some node. -/
theorem exists_fork {place : List Nat} : ∀ {other : List Nat}, ¬ place <+: other → ¬ other <+: place →
    ∃ above number another rest others, number ≠ another ∧ place = above ++ number :: rest ∧
      other = above ++ another :: others := by
  induction place with
  | nil => exact fun h _ ↦ absurd List.nil_prefix h
  | cons number rest ih =>
    intro other hplace hother
    cases other with
    | nil => exact absurd List.nil_prefix hother
    | cons another others =>
      by_cases hnumber : number = another
      · subst hnumber
        rw [List.cons_prefix_cons] at hplace hother
        obtain ⟨above, first, second, after, afters, hne, rfl, rfl⟩ :=
          ih (fun h ↦ hplace ⟨rfl, h⟩) fun h ↦ hother ⟨rfl, h⟩
        exact ⟨number :: above, first, second, after, afters, hne, rfl, rfl⟩
      · exact ⟨[], number, another, rest, others, hnumber, rfl, rfl⟩

/-- Two children of a node are apart. -/
theorem apart_of_children (h : tree.NodesPlaced low high) {i j : Nat} {first second : Tree}
    (hi : tree.children[i]? = some first) (hj : tree.children[j]? = some second) (hne : i ≠ j) :
    first.Apart second := by
  obtain ⟨hilt, rfl⟩ := List.getElem?_eq_some_iff.mp hi
  obtain ⟨hjlt, rfl⟩ := List.getElem?_eq_some_iff.mp hj
  have hpairs := List.pairwise_iff_getElem.mp (h tree (mem_preorder_self tree)).2.1
  rcases Nat.lt_or_gt_of_ne hne with hlt | hlt
  · exact hpairs i j hilt hjlt hlt
  · exact (hpairs j i hjlt hilt hlt).symm

/-- The nodes below a node whose nodes are placed are placed. -/
theorem NodesPlaced.subtree? (place : List Nat) : ∀ {tree below : Tree}, tree.NodesPlaced low high →
    tree.subtree? place = some below → below.NodesPlaced low high := by
  induction place with
  | nil =>
    intro tree below h hbelow
    obtain rfl := Option.some.inj ((subtree?_nil tree).symm.trans hbelow)
    exact h
  | cons number place ih =>
    intro tree below h hbelow
    obtain ⟨label, span, children⟩ := tree
    obtain ⟨child, hchild, hbelow⟩ := Option.bind_eq_some_iff.mp hbelow
    exact ih (h.parts.1 child (List.mem_of_getElem? hchild)) hbelow

/-- A construction and a list of parameters that part at some node are clear of each other. -/
theorem isClearOf_parameters {construction list : Tree} {place other : List Nat}
    (h : tree.NodesPlaced low high) (hconstruction : tree.subtree? place = some construction)
    (hlabel : construction.label.isConstruction = true) (hlist : tree.subtree? other = some list)
    (hparameters : list.label = .formalParameters) (hplace : ¬ place <+: other)
    (hother : ¬ other <+: place) : construction.span.IsClearOf list.span := by
  obtain ⟨above, number, another, rest, others, hne, rfl, rfl⟩ := exists_fork hplace hother
  rw [subtree?_append] at hconstruction hlist
  obtain ⟨fork, hfork, hconstruction⟩ := Option.bind_eq_some_iff.mp hconstruction
  obtain ⟨same, hsame, hlist⟩ := Option.bind_eq_some_iff.mp hlist
  obtain rfl := Option.some.inj (hfork.symm.trans hsame)
  obtain ⟨first, hfirst, hconstruction⟩ := Option.bind_eq_some_iff.mp hconstruction
  obtain ⟨second, hsecond, hlist⟩ := Option.bind_eq_some_iff.mp hlist
  have hapart := apart_of_children (NodesPlaced.subtree? above h hfork) hfirst hsecond hne
  exact hapart.1 construction (mem_preorder_of_subtree? rest hconstruction) hlabel list
    (mem_preorder_of_subtree? others hlist) hparameters

end Tree

namespace Document

variable {id : Nat} {dialect : Grammar.Dialect} {source : List Char} {document : Document}

/-- The nodes of a program are placed as they are read. -/
theorem exists_nodesPlaced {tree : Tree} (h : Grammar.parseProgram dialect source = some tree) :
    ∃ (read : Tree) (high : Nat), read.NodesPlaced 0 high ∧
      tree = read.mapSpans (Span.inBytes source) := by
  obtain ⟨statements, haccept, rfl⟩ := exists_accept h
  obtain ⟨high, hplaced⟩ := Grammar.placed_of_accept haccept
  refine ⟨.node .program ⟨0, source.length⟩ statements, max high source.length, ?_, rfl⟩
  have hprogram : (Tree.node .program ⟨0, source.length⟩ statements).IsPlaced 0
      (max high source.length) := (Tree.isPlaced_node_iff rfl).mpr
    ⟨⟨Nat.le_refl _, Nat.le_max_right _ _⟩,
      (hplaced.mono (Nat.le_refl _) (Nat.le_max_left _ _)).parts⟩
  exact hprogram.2

/-- The arguments of a call or a construction come one after the other in a program. -/
theorem pairwise_arguments {tree below : Tree} {place : List Nat}
    (h : Grammar.parseProgram dialect source = some tree)
    (hbelow : tree.subtree? place = some below) : below.arguments.Pairwise Tree.Precedes := by
  obtain ⟨read, high, hplaced, rfl⟩ := exists_nodesPlaced h
  rw [Tree.subtree?_mapSpans] at hbelow
  obtain ⟨found, hfound, rfl⟩ := Option.map_eq_some_iff.mp hbelow
  obtain ⟨-, -, harguments⟩ := hplaced found (Tree.mem_preorder_of_subtree? place hfound)
  rw [Tree.arguments_mapSpans, List.pairwise_map]
  refine harguments.imp fun {first second} hle ↦ ?_
  rw [Tree.Precedes, Tree.span_mapSpans, Tree.span_mapSpans]
  exact Text.byteOffset_le source hle

/-- A construction and a list of parameters neither of which is above the other are clear of each
other. -/
theorem isClearOf_parameters (h : parse id dialect source = .ok document) {construction list : Nat}
    {row listRow : Row} (hrow : document.rows[construction]? = some row)
    (hkind : row.kind = .newExpression) (hlist : document.rows[list]? = some listRow)
    (hparameters : listRow.kind = .formalParameters)
    (hnot : ¬ Related document.rows list construction) : row.span.IsClearOf listRow.span := by
  have htable := (isFresh_of_parse h).isTable
  obtain ⟨found, hprogram, rfl⟩ := exists_tree h
  obtain ⟨tree, high, hplaced, rfl⟩ := exists_nodesPlaced hprogram
  have hbelow : ¬ (list ≤ construction ∧ construction < listRow.stop) := by
    rw [le_and_lt_stop_iff htable hlist]
    exact fun h ↦ hnot (h.imp_right Or.inl)
  have habove : ¬ (construction ≤ list ∧ list < row.stop) := by
    rw [le_and_lt_stop_iff htable hrow]
    exact fun h ↦ hnot (h.elim (fun h ↦ Or.inl h.symm) fun h ↦ Or.inr (Or.inr h))
  obtain ⟨place, found, hplace, hfound, hfoundKind, hspan⟩ := Tree.exists_node_of_row hrow
  obtain ⟨other, parameters, hother, hparametersFound, hlistKind, hlistSpan⟩ :=
    Tree.exists_node_of_row hlist
  rw [Tree.mem_stretch_iff hother hplace hlist] at hbelow
  rw [Tree.mem_stretch_iff hplace hother hrow] at habove
  rw [hspan, hlistSpan]
  exact (Tree.isClearOf_parameters hplaced hfound (Tree.label_of_kind.2 (hfoundKind ▸ hkind))
    hparametersFound (Tree.label_of_kind.1 (hlistKind ▸ hparameters)) habove hbelow).inBytes source

end Document

end SsrBuild
