import Mathlib.Tactic.Common
import SsrBuild.Tree.Basic

/-!
Where the nodes of trees stand. Trees are placed between two offsets if all of their nodes lie between
these, if a construction in one of two siblings is always clear of a list of parameters in the other
(it ends before the list, begins after it or lies inside it), and if the arguments of a node come one
after the other (`Tree.Placed`). A hole below a node stands for nothing and may lie anywhere.
-/

set_option autoImplicit false

namespace SsrBuild

open Text (Span)

/-- The span ends before another one, begins after it or lies inside it. -/
def Text.Span.IsClearOf (span other : Span) : Prop :=
  span.stop ≤ other.start ∨ other.stop ≤ span.start ∨
    (other.start ≤ span.start ∧ span.stop ≤ other.stop)

/-- Is it the label of a construction? -/
def Label.isConstruction : Label → Bool
  | .newExpression _ => true
  | _ => false

/-- Does a node with the label have arguments? -/
def Label.hasArguments : Label → Bool
  | .newExpression _ | .callExpression _ => true
  | _ => false

namespace Tree

/-- Does the tree stand for a missing element of an array? -/
def isHole : Tree → Bool
  | node .hole _ [] => true
  | _ => false

/-- The constructions in the first tree are clear of the lists of parameters in the second one. -/
def IsClearOf (tree other : Tree) : Prop :=
  ∀ construction ∈ tree.preorder, construction.label.isConstruction = true →
    ∀ list ∈ other.preorder, list.label = .formalParameters →
      construction.span.IsClearOf list.span

/-- The constructions in each of two trees are clear of the lists of parameters in the other one. -/
def Apart (first second : Tree) : Prop := first.IsClearOf second ∧ second.IsClearOf first

/-- The first tree ends before the second one begins. -/
def Precedes (first second : Tree) : Prop := first.span.stop ≤ second.span.start

/-- The nodes of the tree lie between two offsets, siblings among them are apart, and the arguments of
each come one after the other. -/
def NodesPlaced (low high : Nat) (tree : Tree) : Prop :=
  ∀ node ∈ tree.preorder, (node.isHole = false → low ≤ node.span.start ∧ node.span.stop ≤ high) ∧
    node.children.Pairwise Apart ∧ node.arguments.Pairwise Precedes

/-- The tree lies between two offsets with all of its nodes. -/
def IsPlaced (low high : Nat) (tree : Tree) : Prop :=
  (low ≤ tree.span.start ∧ tree.span.stop ≤ high) ∧ tree.NodesPlaced low high

/-- All of the trees are placed, and they are apart. -/
def Placed (low high : Nat) (trees : List Tree) : Prop :=
  (∀ tree ∈ trees, tree.IsPlaced low high) ∧ trees.Pairwise Apart

/-- The nodes of all of the trees are placed, and the trees are apart. -/
def PartsPlaced (low high : Nat) (trees : List Tree) : Prop :=
  (∀ tree ∈ trees, tree.NodesPlaced low high) ∧ trees.Pairwise Apart

/-- The tree, unless it is a hole. -/
def solid (tree : Tree) : List Tree := if tree.isHole then [] else [tree]

variable {low high : Nat} {tree other first second : Tree} {trees others : List Tree}
  {label : Label} {span : Span}

/-! ### Nodes -/

theorem mem_preorderAll_iff {node : Tree} (trees : List Tree) :
    node ∈ preorderAll trees ↔ ∃ tree ∈ trees, node ∈ tree.preorder := by
  induction trees with
  | nil => simp [preorderAll]
  | cons tree rest ih => simp [preorderAll, ih]

/-- The nodes of a tree are its root and those of its children. -/
theorem mem_preorder_iff {wanted : Tree} :
    wanted ∈ (node label span trees).preorder ↔
      wanted = node label span trees ∨ ∃ child ∈ trees, wanted ∈ child.preorder := by
  rw [preorder, List.mem_cons, mem_preorderAll_iff]

theorem mem_preorder_self (tree : Tree) : tree ∈ tree.preorder := by
  obtain ⟨label, span, children⟩ := tree
  exact mem_preorder_iff.mpr (Or.inl rfl)

/-- A node whose label gives it no arguments has none. -/
theorem arguments_of_label (h : label.hasArguments = false) :
    (node label span trees).arguments = [] := by
  cases label <;> first | rfl | cases h

/-- A node without children has no arguments. -/
theorem arguments_leaf : (node label span []).arguments = [] := by
  cases label <;> first | rfl | exact List.drop_nil

/-- The arguments are what stands after the rest, as many as the label says. -/
theorem arguments_append
    (hlabel : label = .newExpression others.length ∨ label = .callExpression others.length) :
    (node label span (trees ++ others)).arguments = others := by
  rcases hlabel with rfl | rfl <;> simp [arguments]

/-! ### Trees that are apart -/

theorem Apart.symm (h : first.Apart second) : second.Apart first := ⟨h.2, h.1⟩

/-- The second tree has no constructions and lists of parameters besides those of the first one. -/
def Covers (tree other : Tree) : Prop :=
  ∀ node ∈ other.preorder, node.label.isConstruction = true ∨ node.label = .formalParameters →
    node ∈ tree.preorder

theorem Covers.refl (tree : Tree) : tree.Covers tree := fun _ h _ ↦ h

theorem Covers.trans {third : Tree} (h : first.Covers second) (h' : second.Covers third) :
    first.Covers third :=
  fun node hnode hlabel ↦ h node (h' node hnode hlabel) hlabel

/-- What is apart from a tree is apart from all that the tree covers. -/
theorem Apart.mono (h : tree.Apart other) (hcovers : tree.Covers first)
    (hothers : other.Covers second) : first.Apart second :=
  ⟨fun construction hmem hlabel list hlist hparameters ↦
    h.1 construction (hcovers construction hmem (Or.inl hlabel)) hlabel list
      (hothers list hlist (Or.inr hparameters)) hparameters,
    fun construction hmem hlabel list hlist hparameters ↦
      h.2 construction (hothers construction hmem (Or.inl hlabel)) hlabel list
        (hcovers list hlist (Or.inr hparameters)) hparameters⟩

theorem covers_child {child : Tree} (hchild : child ∈ trees) :
    (node label span trees).Covers child :=
  fun _ hmem _ ↦ mem_preorder_iff.mpr (Or.inr ⟨child, hchild, hmem⟩)

/-- A tree with no construction and no list of parameters. -/
def IsBare (tree : Tree) : Prop :=
  ∀ node ∈ tree.preorder, node.label.isConstruction = false ∧ node.label ≠ .formalParameters

theorem IsBare.apart (h : tree.IsBare) (other : Tree) : tree.Apart other :=
  ⟨fun construction hmem hlabel ↦ absurd hlabel (Bool.eq_false_iff.mp (h construction hmem).1),
    fun _ _ _ list hlist hparameters ↦ absurd hparameters (h list hlist).2⟩

/-- A word or a mark. -/
theorem isBare_leaf (hlabel : label.isConstruction = false) (hlist : label ≠ .formalParameters) :
    (node label span []).IsBare := by
  intro wanted hwanted
  obtain rfl : wanted = node label span [] := by simpa [mem_preorder_iff] using hwanted
  exact ⟨hlabel, hlist⟩

@[simp] theorem apart_other_leaf : (node .other span []).Apart other :=
  (isBare_leaf rfl nofun : (node .other span []).IsBare).apart other

@[simp] theorem apart_other_leaf' : other.Apart (node .other span []) := apart_other_leaf.symm

@[simp] theorem apart_identifier_leaf {name : String} :
    (node (.identifier name) span []).Apart other :=
  (isBare_leaf rfl nofun : (node (.identifier name) span []).IsBare).apart other

@[simp] theorem apart_identifier_leaf' {name : String} :
    other.Apart (node (.identifier name) span []) :=
  apart_identifier_leaf.symm

/-- A node that is no construction and no list of parameters is apart from what its children are
apart from. -/
theorem apart_node_of_children (hlabel : label.isConstruction = false)
    (hlist : label ≠ .formalParameters) (h : ∀ child ∈ trees, child.Apart other) :
    (node label span trees).Apart other := by
  constructor
  · intro construction hmem hconstruction
    rcases mem_preorder_iff.mp hmem with rfl | ⟨child, hchild, hmem⟩
    · exact absurd hconstruction (Bool.eq_false_iff.mp hlabel)
    · exact (h child hchild).1 construction hmem hconstruction
  · intro construction hmem hconstruction list hmemList hparameters
    rcases mem_preorder_iff.mp hmemList with rfl | ⟨child, hchild, hmemList⟩
    · exact absurd hparameters hlist
    · exact (h child hchild).2 construction hmem hconstruction list hmemList hparameters

/-- A hole is apart from everything. -/
theorem apart_of_isHole (h : tree.isHole = true) (other : Tree) : tree.Apart other := by
  unfold isHole at h
  split at h
  · exact (isBare_leaf rfl nofun : (node .hole _ []).IsBare).apart other
  · cases h

/-! ### Lists of trees -/

@[simp] theorem placed_nil : Placed low high [] := ⟨fun _ h ↦ (nomatch h), List.Pairwise.nil⟩

@[simp] theorem placed_cons : Placed low high (tree :: trees) ↔
    tree.IsPlaced low high ∧ (∀ other ∈ trees, tree.Apart other) ∧ Placed low high trees := by
  simp only [Placed, List.forall_mem_cons, List.pairwise_cons]
  tauto

@[simp] theorem placed_append : Placed low high (trees ++ others) ↔
    Placed low high trees ∧ Placed low high others ∧
      ∀ tree ∈ trees, ∀ other ∈ others, tree.Apart other := by
  simp only [Placed, List.forall_mem_append, List.pairwise_append]
  tauto

theorem placed_singleton : Placed low high [tree] ↔ tree.IsPlaced low high := by simp

theorem Placed.right (h : Placed low high (trees ++ others)) : Placed low high others :=
  (placed_append.mp h).2.1

/-- A tree after others is placed. -/
theorem Placed.last (h : Placed low high (trees ++ [tree])) : tree.IsPlaced low high :=
  placed_singleton.mp h.right

theorem Placed.sublist (h : Placed low high trees) (hsub : others.Sublist trees) :
    Placed low high others :=
  ⟨fun tree htree ↦ h.1 tree (hsub.subset htree), h.2.sublist hsub⟩

theorem Placed.perm (h : Placed low high trees) (hperm : trees.Perm others) :
    Placed low high others :=
  ⟨fun tree htree ↦ h.1 tree (hperm.mem_iff.mpr htree), h.2.perm hperm Apart.symm⟩

theorem Placed.parts (h : Placed low high trees) : PartsPlaced low high trees :=
  ⟨fun tree htree ↦ (h.1 tree htree).2, h.2⟩

@[simp] theorem partsPlaced_nil : PartsPlaced low high [] := placed_nil.parts

@[simp] theorem partsPlaced_cons : PartsPlaced low high (tree :: trees) ↔
    tree.NodesPlaced low high ∧ (∀ other ∈ trees, tree.Apart other) ∧ PartsPlaced low high trees := by
  simp only [PartsPlaced, List.forall_mem_cons, List.pairwise_cons]
  tauto

@[simp] theorem partsPlaced_append : PartsPlaced low high (trees ++ others) ↔
    PartsPlaced low high trees ∧ PartsPlaced low high others ∧
      ∀ tree ∈ trees, ∀ other ∈ others, tree.Apart other := by
  simp only [PartsPlaced, List.forall_mem_append, List.pairwise_append]
  tauto

/-! ### Nodes that are placed -/

/-- A node is placed if it lies between the offsets, its children are placed and its arguments come
one after the other. -/
theorem isPlaced_iff : (node label span trees).IsPlaced low high ↔
    (low ≤ span.start ∧ span.stop ≤ high) ∧ PartsPlaced low high trees ∧
      (node label span trees).arguments.Pairwise Precedes := by
  constructor
  · rintro ⟨hspan, h⟩
    obtain ⟨-, hchildren, harguments⟩ := h _ (mem_preorder_self _)
    exact ⟨hspan, ⟨fun child hchild wanted hwanted ↦
      h wanted (mem_preorder_iff.mpr (Or.inr ⟨child, hchild, hwanted⟩)), hchildren⟩, harguments⟩
  · rintro ⟨hspan, ⟨hchildren, hparts⟩, harguments⟩
    refine ⟨hspan, fun wanted hwanted ↦ ?_⟩
    rcases mem_preorder_iff.mp hwanted with rfl | ⟨child, hchild, hwanted⟩
    · exact ⟨fun _ ↦ hspan, hparts, harguments⟩
    · exact hchildren child hchild wanted hwanted

/-- Without arguments there are only the children. -/
theorem isPlaced_node_iff (hlabel : label.hasArguments = false) :
    (node label span trees).IsPlaced low high ↔
      (low ≤ span.start ∧ span.stop ≤ high) ∧ PartsPlaced low high trees := by
  rw [isPlaced_iff, arguments_of_label hlabel]
  simp

/-- A node without children is placed if it lies between the offsets. -/
@[simp] theorem isPlaced_leaf_iff :
    (node label span []).IsPlaced low high ↔ low ≤ span.start ∧ span.stop ≤ high := by
  simp [isPlaced_iff, arguments_leaf]

/-- A node without children is placed where another one is. -/
theorem IsPlaced.leafAt (h : tree.IsPlaced low high) :
    (node label tree.span []).IsPlaced low high :=
  isPlaced_leaf_iff.mpr h.1

/-- A node that is placed may be put around others where it is. -/
theorem IsPlaced.around (h : tree.IsPlaced low high) (hlabel : label.hasArguments = false)
    (htrees : Placed low high trees) : (node label tree.span trees).IsPlaced low high :=
  (isPlaced_node_iff hlabel).mpr ⟨h.1, htrees.parts⟩

/-- Two nodes may be put around one that is placed. -/
theorem IsPlaced.aroundTwice {inner : Label} (h : tree.IsPlaced low high)
    (hlabel : label.hasArguments = false) (hinner : inner.hasArguments = false) :
    (node label tree.span [node inner tree.span [tree]]).IsPlaced low high :=
  h.around hlabel (placed_singleton.mpr (h.around hinner (placed_singleton.mpr h)))

/-- The children of a node whose nodes are placed. -/
theorem NodesPlaced.parts (h : (node label span trees).NodesPlaced low high) :
    PartsPlaced low high trees :=
  ⟨fun child hchild wanted hwanted ↦
    h wanted (mem_preorder_iff.mpr (Or.inr ⟨child, hchild, hwanted⟩)),
    (h _ (mem_preorder_self _)).2.1⟩

/-- A tree that is no hole is placed if its nodes are. -/
theorem NodesPlaced.isPlaced (h : tree.NodesPlaced low high) (hhole : tree.isHole = false) :
    tree.IsPlaced low high :=
  ⟨(h tree (mem_preorder_self tree)).1 hhole, h⟩

/-! ### Holes -/

@[simp] theorem solid_hole : (node .hole span []).solid = [] := rfl

/-- The nodes of a hole are placed wherever it lies. -/
theorem nodesPlaced_of_isHole (h : tree.isHole = true) : tree.NodesPlaced low high := by
  unfold isHole at h
  split at h
  · intro wanted hwanted
    obtain rfl : wanted = node .hole _ [] := by simpa [mem_preorder_iff] using hwanted
    exact ⟨nofun, List.Pairwise.nil, List.Pairwise.nil⟩
  · cases h

theorem apart_solid_iff : (∀ part ∈ tree.solid, part.Apart other) ↔ tree.Apart other := by
  unfold solid
  split_ifs with hhole
  · simpa using apart_of_isHole hhole other
  · simp

/-- The trees are holes or placed themselves. -/
@[simp] theorem placed_flatMap_solid_iff :
    Placed low high (trees.flatMap solid) ↔ PartsPlaced low high trees := by
  induction trees with
  | nil => simp
  | cons tree rest ih =>
    rw [List.flatMap_cons, placed_append, ih, partsPlaced_cons]
    have hplaced : Placed low high tree.solid ↔ tree.NodesPlaced low high := by
      unfold solid
      split_ifs with hhole
      · exact iff_of_true placed_nil (nodesPlaced_of_isHole hhole)
      · rw [placed_singleton]
        exact ⟨And.right, fun h ↦ h.isPlaced (Bool.eq_false_iff.mpr hhole)⟩
    have happart : (∀ part ∈ tree.solid, ∀ other ∈ rest.flatMap solid, part.Apart other) ↔
        ∀ other ∈ rest, tree.Apart other := by
      constructor
      · intro h other hother
        refine apart_solid_iff.mp fun part hpart ↦ (apart_solid_iff.mp fun found hfound ↦ ?_).symm
        exact (h part hpart found (List.mem_flatMap.mpr ⟨other, hother, hfound⟩)).symm
      · intro h part hpart found hfound
        obtain ⟨other, hother, hfound⟩ := List.mem_flatMap.mp hfound
        have happart := (apart_solid_iff.mpr (h other hother)) part hpart
        exact (apart_solid_iff.mpr happart.symm found hfound).symm
    rw [hplaced, happart]
    tauto

theorem flatMap_solid_sublist : (trees.flatMap solid).Sublist trees := by
  induction trees with
  | nil => exact List.Sublist.slnil
  | cons tree rest ih =>
    rw [List.flatMap_cons, solid]
    split_ifs with hhole
    · exact ih.cons tree
    · exact ih.cons_cons tree

/-- A tree that is placed need not be a hole. -/
theorem IsPlaced.solid (h : tree.IsPlaced low high) : Placed low high tree.solid := by
  have hparts : PartsPlaced low high [tree] := (placed_singleton.mpr h).parts
  simpa using placed_flatMap_solid_iff.mpr hparts

/-- The children of a node that is placed are holes or placed themselves. -/
theorem IsPlaced.children (h : tree.IsPlaced low high) : PartsPlaced low high tree.children := by
  obtain ⟨label, span, children⟩ := tree
  exact (isPlaced_iff.mp h).2.1

/-- The elements that are no holes are placed. -/
theorem PartsPlaced.filter (h : PartsPlaced low high trees) :
    Placed low high (trees.filter (·.label != .hole)) := by
  refine ⟨fun tree htree ↦ ?_, h.2.sublist List.filter_sublist⟩
  obtain ⟨hmem, hlabel⟩ := List.mem_filter.mp htree
  refine (h.1 tree hmem).isPlaced ?_
  obtain ⟨label, span, children⟩ := tree
  cases children <;> cases label <;> first | rfl | cases hlabel

/-! ### Other offsets -/

/-- Trees that are placed are placed between offsets further apart. -/
theorem IsPlaced.mono {lower higher : Nat} (h : tree.IsPlaced low high) (hlow : lower ≤ low)
    (hhigh : high ≤ higher) : tree.IsPlaced lower higher :=
  ⟨⟨Nat.le_trans hlow h.1.1, Nat.le_trans h.1.2 hhigh⟩, fun wanted hwanted ↦
    ⟨fun hhole ↦ ⟨Nat.le_trans hlow ((h.2 wanted hwanted).1 hhole).1,
      Nat.le_trans ((h.2 wanted hwanted).1 hhole).2 hhigh⟩, (h.2 wanted hwanted).2⟩⟩

theorem Placed.mono {lower higher : Nat} (h : Placed low high trees) (hlow : lower ≤ low)
    (hhigh : high ≤ higher) : Placed lower higher trees :=
  ⟨fun tree htree ↦ (h.1 tree htree).mono hlow hhigh, h.2⟩

/-- A node that is no hole lies between the offsets. -/
theorem IsPlaced.span_mem {wanted : Tree} (h : tree.IsPlaced low high)
    (hwanted : wanted ∈ tree.preorder) (hlabel : wanted.label ≠ .hole) :
    low ≤ wanted.span.start ∧ wanted.span.stop ≤ high := by
  refine (h.2 wanted hwanted).1 ?_
  unfold isHole
  split
  · exact absurd rfl hlabel
  · rfl

theorem label_ne_hole_of_isConstruction (h : label.isConstruction = true) : label ≠ .hole := by
  rintro rfl
  cases h

/-- What lies before an offset is apart from what lies after it. -/
theorem IsPlaced.apart {middle : Nat} (hfirst : first.IsPlaced low middle)
    (hsecond : second.IsPlaced middle high) : first.Apart second := by
  constructor
  · intro construction hmem hlabel list hlist hparameters
    have hstop := (hfirst.span_mem hmem (label_ne_hole_of_isConstruction hlabel)).2
    have hstart := (hsecond.span_mem hlist (by rw [hparameters]; nofun)).1
    exact Or.inl (Nat.le_trans hstop hstart)
  · intro construction hmem hlabel list hlist hparameters
    have hstart := (hsecond.span_mem hmem (label_ne_hole_of_isConstruction hlabel)).1
    have hstop := (hfirst.span_mem hlist (by rw [hparameters]; nofun)).2
    exact Or.inr (Or.inl (Nat.le_trans hstop hstart))

end Tree

end SsrBuild
