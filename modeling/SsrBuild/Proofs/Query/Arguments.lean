import Mathlib.Data.List.Lex
import SsrBuild.Proofs.Query.Navigation
import SsrBuild.Proofs.Query.ParsedPlaces
import SsrBuild.Proofs.Tree.Place

/-!
The arguments of calls and constructions. A row keeps the spans of the arguments only, and the nodes
are found again by these. Where all spans lie inside those of the nodes above and the children of the
node have spans apart, no node of another child has the span of an argument, and of the nodes in the
argument itself the outermost one comes first (`Document.head?_argument`). So the arguments are found
that have not been replaced, in their order, and for one that has been replaced no other node is found
(`Document.arguments_eq_ok`). Their order is that of the text because the grammar reads one argument
after the other (`Document.pairwise_arguments`).
-/

set_option autoImplicit false

namespace SsrBuild

open Text (Span)

namespace Text.Span

/-- A span covers itself. -/
theorem covers_refl (span : Span) : span.covers span = true := by
  simp [covers]

/-- A span covers what a span covers that it covers. -/
theorem covers_trans {outer middle inner : Span} (houter : outer.covers middle = true)
    (hmiddle : middle.covers inner = true) : outer.covers inner = true := by
  simp only [covers, Bool.and_eq_true, decide_eq_true_eq] at houter hmiddle ⊢
  omega

/-- One of the spans ends before the other one begins. -/
def IsDisjoint (first second : Span) : Prop :=
  first.stop ≤ second.start ∨ second.stop ≤ first.start

instance (first second : Span) : Decidable (first.IsDisjoint second) :=
  inferInstanceAs (Decidable (_ ∨ _))

/-- A span that is not empty is in no more than one of two spans that are apart. -/
theorem IsDisjoint.not_covers {first second inner : Span} (h : first.IsDisjoint second)
    (hinner : inner.start < inner.stop) (hfirst : first.covers inner = true) :
    second.covers inner = false := by
  unfold IsDisjoint at h
  rw [← Bool.not_eq_true]
  intro hsecond
  simp only [covers, Bool.and_eq_true, decide_eq_true_eq] at hfirst hsecond
  omega

end Text.Span

namespace Tree

variable {tree below : Tree}

/-- The span of every node covers those of its children. -/
def SpansNested (tree : Tree) : Prop :=
  ∀ node ∈ tree.preorder, ∀ child ∈ node.children, node.span.covers child.span = true

instance (tree : Tree) : Decidable tree.SpansNested :=
  inferInstanceAs (Decidable (∀ _ ∈ _, _))

/-- The children have spans apart, none of which is empty. -/
def ChildrenDisjoint (tree : Tree) : Prop :=
  (∀ child ∈ tree.children, child.span.start < child.span.stop) ∧
    tree.children.Pairwise fun first second ↦ first.span.IsDisjoint second.span

instance (tree : Tree) : Decidable tree.ChildrenDisjoint :=
  inferInstanceAs (Decidable (_ ∧ _))

/-- The numbers of the children that are arguments: the last ones, as many as there are arguments. -/
def argumentNumbers (tree : Tree) : List Nat :=
  List.range' (tree.children.length - tree.arguments.length) tree.arguments.length

/-- The arguments are the last children. -/
theorem exists_arguments_eq_drop (tree : Tree) :
    ∃ count ≤ tree.children.length, tree.arguments = tree.children.drop count := by
  unfold arguments
  split
  · exact ⟨_, Nat.sub_le _ _, rfl⟩
  · exact ⟨_, Nat.sub_le _ _, rfl⟩
  · exact ⟨tree.children.length, Nat.le_refl _, List.drop_length.symm⟩

/-- The arguments are the children with these numbers. -/
theorem map_argumentNumbers (tree : Tree) :
    tree.argumentNumbers.map (tree.children[·]?) = tree.arguments.map some := by
  obtain ⟨count, hcount, harguments⟩ := tree.exists_arguments_eq_drop
  rw [argumentNumbers, harguments]
  refine List.ext_getElem (by simp) fun index hindex hother ↦ ?_
  simp only [List.length_map, List.length_range', List.length_drop] at hindex
  simp only [List.getElem_map, List.getElem_range', List.getElem_drop, List.length_drop]
  rw [List.getElem?_eq_some_iff]
  refine ⟨by omega, ?_⟩
  congr 1
  omega

/-- What holds of the arguments in their order holds of the children with these numbers. -/
theorem pairwise_argumentNumbers {related : Tree → Tree → Prop}
    (h : tree.arguments.Pairwise related) : tree.argumentNumbers.Pairwise fun number other ↦
      ∀ first ∈ tree.children[number]?, ∀ second ∈ tree.children[other]?, related first second := by
  have hsome : (tree.arguments.map some).Pairwise fun first second ↦
      ∀ argument ∈ first, ∀ other ∈ second, related argument other := by
    refine List.pairwise_map.mpr (h.imp ?_)
    intro first second hrelated argument hfirst other hsecond
    obtain rfl := Option.some.inj hfirst
    obtain rfl := Option.some.inj hsecond
    exact hrelated
  rwa [← map_argumentNumbers, List.pairwise_map] at hsome

/-- The spans below a child are nested as well. -/
theorem SpansNested.child (h : tree.SpansNested) {child : Tree} (hchild : child ∈ tree.children) :
    child.SpansNested := by
  obtain ⟨label, span, children⟩ := tree
  exact fun node hnode ↦ h node (mem_preorder_iff.mpr (Or.inr ⟨child, hchild, hnode⟩))

/-- The span of a node covers those of all nodes below it. -/
theorem SpansNested.covers (place : List Nat) : ∀ {tree below : Tree}, tree.SpansNested →
    tree.subtree? place = some below → tree.span.covers below.span = true := by
  induction place with
  | nil =>
    intro tree below _ h
    obtain rfl := Option.some.inj ((subtree?_nil tree).symm.trans h)
    exact tree.span.covers_refl
  | cons number place ih =>
    intro tree below hnested h
    rw [subtree?_cons] at h
    obtain ⟨child, hchild, hbelow⟩ := Option.bind_eq_some_iff.mp h
    have hmem := List.mem_of_getElem? hchild
    exact Span.covers_trans (hnested tree (mem_preorder_self tree) child hmem)
      (ih (hnested.child hmem) hbelow)

/-- What has the span of a child, where the children have spans apart, is below that child. -/
theorem SpansNested.number_eq (hnested : tree.SpansNested) (hdisjoint : tree.ChildrenDisjoint)
    {number other : Nat} {rest : List Nat} {child : Tree}
    (hchild : tree.children[number]? = some child)
    (hbelow : tree.subtree? (other :: rest) = some below) (hspan : below.span = child.span) :
    number = other := by
  rw [subtree?_cons] at hbelow
  obtain ⟨sibling, hsibling, hbelow⟩ := Option.bind_eq_some_iff.mp hbelow
  have hcovers := (hnested.child (List.mem_of_getElem? hsibling)).covers rest hbelow
  rw [hspan] at hcovers
  obtain ⟨hnonempty, hpairs⟩ := hdisjoint
  by_contra hne
  have happart : child.span.IsDisjoint sibling.span := by
    obtain ⟨hlt, rfl⟩ := List.getElem?_eq_some_iff.mp hchild
    obtain ⟨hotherLt, rfl⟩ := List.getElem?_eq_some_iff.mp hsibling
    rcases Nat.lt_or_gt_of_ne hne with hbefore | hafter
    · exact List.pairwise_iff_getElem.mp hpairs number other hlt hotherLt hbefore
    · exact (List.pairwise_iff_getElem.mp hpairs other number hotherLt hlt hafter).symm
  have hnot := happart.not_covers (hnonempty child (List.mem_of_getElem? hchild))
    child.span.covers_refl
  rw [hcovers] at hnot
  cases hnot

end Tree

namespace Document

variable {start document : Document} {done : List Replacement} {tree below argument : Tree}
  {id number index : Nat} {replaced : Nat → Prop} {place : List Nat} {handle : Handle} {row : Row}

/-- A node below another one whose spans are nested, with the span of a child of that one, is the
child or below it. -/
theorem prefix_of_span_eq (hrows : SameButDetached tree.table document.rows)
    (hrow : document.row handle = .ok row) (hplace : tree.places[handle.index]? = some place)
    (hbelow : tree.subtree? place = some below) (hnested : below.SpansNested)
    (hdisjoint : below.ChildrenDisjoint) (hargument : below.children[number]? = some argument)
    {other : Handle} (hother : other ∈ document.handlesBetween (handle.index + 1) row.stop
      (·.span == argument.span)) :
    ∃ lower, tree.places[other.index]? = some lower ∧ place ++ [number] <+: lower := by
  obtain ⟨found, hfound, hlt, hin, hspan⟩ := mem_handlesBetween_iff.mp hother
  obtain ⟨-, -, -, -, -, htable, -⟩ := exists_row_of_table hrows hrow
  obtain ⟨lower, bottom, parent, hlower, hbottom, -, rfl⟩ := exists_row_of_table hrows hfound
  refine ⟨lower, hlower, ?_⟩
  obtain ⟨rest, rfl⟩ := (Tree.mem_stretch_iff hplace hlower htable).mp ⟨by omega, hin⟩
  rw [Tree.subtree?_append, hbelow, Option.bind_some] at hbottom
  cases rest with
  | nil =>
    rw [List.append_nil] at hlower
    have := Tree.eq_of_getElem?_places hplace hlower
    omega
  | cons first rest =>
    obtain rfl := hnested.number_eq hdisjoint hargument hbottom (beq_iff_eq.mp hspan)
    rw [List.prefix_append_right_inj]
    exact ⟨rest, rfl⟩

/-- A handle of a stretch that comes before all others is the first one. -/
theorem head?_handlesBetween {start stop : Nat} {test : Row → Bool}
    (hmem : handle ∈ document.handlesBetween start stop test)
    (hle : ∀ other ∈ document.handlesBetween start stop test, handle.index ≤ other.index) :
    (document.handlesBetween start stop test).head? = some handle := by
  have hpairs := pairwise_handlesBetween document start stop test
  cases hhandles : document.handlesBetween start stop test with
  | nil =>
    rw [hhandles] at hmem
    cases hmem
  | cons first rest =>
    rw [hhandles] at hmem hle hpairs
    rcases List.mem_cons.mp hmem with rfl | hrest
    · rfl
    · have hlt := (List.pairwise_cons.mp hpairs).1 handle hrest
      have := hle first List.mem_cons_self
      omega

/-- The row of a child has its span and its parent, and the child stands if it has not been
replaced. -/
theorem exists_row_of_child (hrows : SameButDetached tree.table document.rows)
    (hat : document.IsAt id replaced) (hrow : document.row handle = .ok row)
    (hplace : tree.places[handle.index]? = some place) (hbelow : tree.subtree? place = some below)
    (hargument : below.children[number]? = some argument)
    (hindex : tree.places[index]? = some (place ++ [number])) :
    ∃ found, tree.table[index]? = some found ∧ found.span = argument.span ∧
      found.parent = some handle.index ∧
      (¬ replaced index → document.row (document.handle index) = .ok found) := by
  obtain ⟨same, parent, hsame, htable, -⟩ := Tree.exists_row_of_places hindex
  rw [Tree.subtree?_append, hbelow, Option.bind_some, Tree.subtree?_cons, hargument,
    Option.bind_some, Tree.subtree?_nil] at hsame
  obtain rfl := Option.some.inj hsame
  have hparent := (Tree.parent_eq_some_iff hindex htable).mpr ⟨place, number, hplace, rfl⟩
  refine ⟨_, htable, rfl, hparent, fun hnot ↦ ?_⟩
  obtain ⟨isDetached, hdetached⟩ := hrows index
  rw [htable, Option.map_some] at hdetached
  -- Nothing above the node has been replaced, and all that is above the child is there.
  obtain ⟨-, -, habove⟩ := hat.exists_row_iff.mp ⟨row, hrow⟩
  have hstands : ∃ found, document.row (document.handle index) = .ok found := by
    refine hat.exists_row_iff.mpr ⟨hat.id, (List.getElem?_eq_some_iff.mp hdetached).1, ?_⟩
    intro node hnode
    refine ⟨?_, ?_⟩
    · rintro rfl
      exact hnot hnode
    show node ∉ ancestors document.rows index
    rw [ancestors_of_parent hat.isTable hdetached hparent, List.mem_cons, not_or]
    exact habove node hnode
  obtain ⟨found, hfound⟩ := hstands
  obtain ⟨-, -, -, -, -, hfoundTable, -⟩ := exists_row_of_table hrows hfound
  rw [hfound, Option.some.inj (htable.symm.trans hfoundTable)]

/-- The first node with the span of an argument is the argument, and there is none once the argument
has been replaced. -/
theorem head?_argument (hrows : SameButDetached tree.table document.rows)
    (hat : document.IsAt id replaced) (hrow : document.row handle = .ok row)
    (hplace : tree.places[handle.index]? = some place) (hbelow : tree.subtree? place = some below)
    (hnested : below.SpansNested) (hdisjoint : below.ChildrenDisjoint)
    (hargument : below.children[number]? = some argument)
    (hindex : tree.places[index]? = some (place ++ [number])) :
    (¬ replaced index → (document.handlesBetween (handle.index + 1) row.stop
        (·.span == argument.span)).head? = some (document.handle index)) ∧
      (replaced index → (document.handlesBetween (handle.index + 1) row.stop
        (·.span == argument.span)).head? = none) := by
  obtain ⟨found, htable, hspan, hparent, hstands⟩ :=
    exists_row_of_child hrows hat hrow hplace hbelow hargument hindex
  have hbetween : ∀ other ∈ document.handlesBetween (handle.index + 1) row.stop
      (·.span == argument.span), index ≤ other.index ∧ other.index < found.stop := by
    intro other hother
    obtain ⟨lower, hlower, hprefix⟩ :=
      prefix_of_span_eq hrows hrow hplace hbelow hnested hdisjoint hargument hother
    exact (Tree.mem_stretch_iff hindex hlower htable).mpr hprefix
  constructor
  · intro hnot
    have hfound := hstands hnot
    obtain ⟨-, hrowFound, -⟩ := row_eq_ok_iff.mp hrow
    obtain ⟨hlt, outer, houter, hin⟩ :=
      hat.isTable.parent (row_eq_ok_iff.mp hfound).2.1 hparent
    obtain rfl : outer = row := Option.some.inj (houter.symm.trans hrowFound)
    refine head?_handlesBetween (mem_handlesBetween_iff.mpr
      ⟨found, hfound, hlt, hin, beq_iff_eq.mpr hspan⟩) fun other hother ↦ ?_
    exact (hbetween other hother).1
  · intro hreplaced
    have hnone : document.handlesBetween (handle.index + 1) row.stop
        (·.span == argument.span) = [] := by
      refine List.eq_nil_iff_forall_not_mem.mpr fun other hother ↦ ?_
      obtain ⟨inner, hinner, -⟩ := mem_handlesBetween_iff.mp hother
      obtain ⟨-, -, hnot⟩ := hat.exists_row_iff.mp ⟨inner, hinner⟩
      obtain ⟨isDetached, hdetached⟩ := hrows index
      rw [htable, Option.map_some] at hdetached
      have hbelow := (le_and_lt_stop_iff hat.isTable hdetached other.index).mp
        (hbetween other hother)
      exact not_or.mpr (hnot index hreplaced) hbelow
    rw [hnone, List.head?_nil]

/-- The handle of the node at a place. -/
def handleAt (document : Document) (tree : Tree) (place : List Nat) : Handle :=
  document.handle (tree.places.idxOf place)

/-- An argument of a node is the child with its number, and its place is that of a handle. -/
theorem exists_argument (document : Document) (hbelow : tree.subtree? place = some below)
    (hnumber : number ∈ below.argumentNumbers) : ∃ argument,
      below.children[number]? = some argument ∧
      tree.places[(document.handleAt tree (place ++ [number])).index]? =
        some (place ++ [number]) := by
  have hmem : below.children[number]? ∈ below.argumentNumbers.map (below.children[·]?) :=
    List.mem_map_of_mem hnumber
  rw [Tree.map_argumentNumbers] at hmem
  obtain ⟨argument, -, hargument⟩ := List.mem_map.mp hmem
  refine ⟨argument, hargument.symm, List.getElem?_idxOf (Tree.mem_places_iff.mpr ?_)⟩
  rw [Tree.subtree?_append, hbelow, Option.bind_some, Tree.subtree?_cons, ← hargument]
  rfl

/-- The handle of a child has the span of the child. -/
theorem span_of_child (hrows : SameButDetached tree.table document.rows)
    (hbelow : tree.subtree? place = some below)
    (hargument : below.children[number]? = some argument)
    (hindex : tree.places[handle.index]? = some (place ++ [number])) {span : Span}
    (h : document.span handle = .ok span) : span = argument.span := by
  obtain ⟨row, hrow, hspan⟩ := bind_eq_ok_iff.mp h
  obtain ⟨lower, bottom, parent, hlower, hbottom, -, rfl⟩ := exists_row_of_table hrows hrow
  obtain rfl := Option.some.inj (hlower.symm.trans hindex)
  rw [Tree.subtree?_append, hbelow, Option.bind_some, Tree.subtree?_cons, hargument,
    Option.bind_some, Tree.subtree?_nil] at hbottom
  obtain rfl := Option.some.inj hbottom
  exact (Except.ok.inj hspan).symm

/-- Children come in the table in the order of their numbers. -/
theorem handleAt_lt {first second : Nat} (hlt : first < second)
    (hfirst : tree.places[(document.handleAt tree (place ++ [first])).index]? =
      some (place ++ [first]))
    (hsecond : tree.places[(document.handleAt tree (place ++ [second])).index]? =
      some (place ++ [second])) :
    (document.handleAt tree (place ++ [first])).index <
      (document.handleAt tree (place ++ [second])).index := by
  have hlex : List.Lex (· < ·) (place ++ [first]) (place ++ [second]) :=
    List.Lex.append_left _ (.rel hlt) place
  obtain ⟨hfirstLt, hfirstPlace⟩ := List.getElem?_eq_some_iff.mp hfirst
  obtain ⟨hsecondLt, hsecondPlace⟩ := List.getElem?_eq_some_iff.mp hsecond
  rcases Nat.lt_trichotomy (document.handleAt tree (place ++ [first])).index
      (document.handleAt tree (place ++ [second])).index with h | h | h
  · exact h
  · rw [h, hsecond, Option.some.injEq] at hfirst
    rw [hfirst] at hlex
    exact absurd hlex (List.lex_irrefl Nat.lt_irrefl _)
  · have hback := List.pairwise_iff_getElem.mp tree.pairwise_places _ _ hsecondLt hfirstLt h
    rw [hfirstPlace, hsecondPlace] at hback
    exact absurd hlex (List.lex_asymm Nat.lt_asymm hback)

/-- The arguments that are found are those that have not been replaced. -/
theorem filterMap_arguments (hrows : SameButDetached tree.table document.rows)
    (hat : document.IsAt id fun node ↦ ∃ replacement ∈ done, replacement.node = node)
    (hrow : document.row handle = .ok row) (hplace : tree.places[handle.index]? = some place)
    (hbelow : tree.subtree? place = some below) (hnested : below.SpansNested)
    (hdisjoint : below.ChildrenDisjoint) :
    row.arguments.filterMap (fun span ↦
        (document.handlesBetween (handle.index + 1) row.stop (·.span == span)).head?) =
      (below.argumentNumbers.map fun number ↦
        document.handleAt tree (place ++ [number])).filter fun argument ↦
          ¬ ∃ replacement ∈ done, replacement.node = argument.index := by
  obtain ⟨same, bottom, parent, hsame, hbottom, -, heq⟩ := exists_row_of_table hrows hrow
  obtain rfl := Option.some.inj (hsame.symm.trans hplace)
  obtain rfl := Option.some.inj (hbottom.symm.trans hbelow)
  have hspans : row.arguments = bottom.arguments.map Tree.span := by rw [heq]; rfl
  set first := fun span : Span ↦
    (document.handlesBetween (handle.index + 1) row.stop (·.span == span)).head?
  -- The spans of the arguments are those of the children with their numbers.
  have hnumbers : row.arguments.filterMap first = bottom.argumentNumbers.filterMap fun number ↦
      bottom.children[number]?.bind fun argument ↦ first argument.span := by
    calc row.arguments.filterMap first
        = (bottom.arguments.map some).filterMap (·.bind fun argument ↦ first argument.span) := by
          rw [hspans, List.filterMap_map, List.filterMap_map]
          rfl
      _ = _ := by
          rw [← Tree.map_argumentNumbers, List.filterMap_map]
          rfl
  rw [hnumbers, ← List.filterMap_eq_filter, List.filterMap_map]
  refine List.filterMap_congr fun number hnumber ↦ ?_
  obtain ⟨argument, hargument, hindex⟩ := exists_argument document hbelow hnumber
  obtain ⟨hstanding, hreplaced⟩ :=
    head?_argument hrows hat hrow hplace hbelow hnested hdisjoint hargument hindex
  rw [hargument, Option.bind_some, Function.comp_apply]
  by_cases hdone : ∃ replacement ∈ done, replacement.node =
      (document.handleAt tree (same ++ [number])).index
  · rw [Option.guard_eq_none_iff.mpr (by simpa using hdone)]
    exact hreplaced hdone
  · rw [Option.guard_eq_some_iff.mpr ⟨rfl, by simpa using hdone⟩]
    exact hstanding hdone

/-- The arguments of a call or a construction after any replacements, where every span below it lies
inside the span above and the spans of its children are apart and not empty: the arguments that have
not been replaced, in their order, which is that of the table and that of the text. Each of them is
right below the call and comes once, and for those that have been replaced there is nothing, whatever
other nodes have the same span. -/
theorem arguments_eq_ok {dialect : Grammar.Dialect} {source : List Char}
    (htree : Grammar.parseProgram dialect source = some tree)
    (hparse : parse id dialect source = .ok start) (hreached : start.Replaced done document)
    (hrow : document.row handle = .ok row) (hplace : tree.places[handle.index]? = some place)
    (hbelow : tree.subtree? place = some below) (hnested : below.SpansNested)
    (hdisjoint : below.ChildrenDisjoint) :
    ∃ arguments, document.arguments handle = .ok arguments ∧
      arguments = (below.argumentNumbers.map fun number ↦
        document.handleAt tree (place ++ [number])).filter (fun argument ↦
          ¬ ∃ replacement ∈ done, replacement.node = argument.index) ∧
      arguments.Pairwise (fun first second ↦ first.index < second.index) ∧
      arguments.Pairwise (fun first second ↦ ∀ span other, document.span first = .ok span →
        document.span second = .ok other → span.stop ≤ other.start) ∧
      ∀ argument ∈ arguments, document.parent argument = .ok handle := by
  have hat := hreached.isAt (isAt_of_parse hparse)
  have hrows : SameButDetached tree.table document.rows := by
    have hstart : start.rows = tree.table := by
      rw [parse, htree] at hparse
      rw [← Except.ok.inj hparse]
    exact hstart ▸ hreached.sameButDetached
  have harguments := filterMap_arguments hrows hat hrow hplace hbelow hnested hdisjoint
  refine ⟨_, bind_eq_ok_iff.mpr ⟨row, hrow, rfl⟩, harguments, ?_, ?_, ?_⟩
  · rw [harguments]
    refine (List.pairwise_map.mpr (List.Pairwise.imp_of_mem ?_ List.pairwise_lt_range')).filter _
    intro first second hfirst hsecond hlt
    obtain ⟨-, -, hfirstPlace⟩ := exists_argument document hbelow hfirst
    obtain ⟨-, -, hsecondPlace⟩ := exists_argument document hbelow hsecond
    exact handleAt_lt hlt hfirstPlace hsecondPlace
  · rw [harguments]
    have hordered := Tree.pairwise_argumentNumbers (pairwise_arguments htree hbelow)
    refine (List.pairwise_map.mpr (hordered.imp_of_mem ?_)).filter _
    intro first second hfirst hsecond hle span other hspan hother
    obtain ⟨child, hchild, hplaceFirst⟩ := exists_argument document hbelow hfirst
    obtain ⟨next, hnext, hplaceSecond⟩ := exists_argument document hbelow hsecond
    rw [span_of_child hrows hbelow hchild hplaceFirst hspan,
      span_of_child hrows hbelow hnext hplaceSecond hother]
    exact hle child hchild next hnext
  · intro argument hargument
    rw [harguments] at hargument
    obtain ⟨hmem, hkept⟩ := List.mem_filter.mp hargument
    obtain ⟨number, hnumber, rfl⟩ := List.mem_map.mp hmem
    obtain ⟨child, hchild, hindex⟩ := exists_argument document hbelow hnumber
    obtain ⟨found, -, -, hparent, hstands⟩ :=
      exists_row_of_child hrows hat hrow hplace hbelow hchild hindex
    have hfound := hstands (of_decide_eq_true hkept)
    exact parent_eq_ok_iff.mpr ⟨found, handle.index, hfound, hparent, eq_handle_of_row hrow⟩

/-- The second argument of a call has been replaced, and the call that is the first one is left. -/
theorem arguments_nestedCalls : ∃ document,
    nestedCalls.Replaced [⟨7, ⟨8, 9⟩, ['x']⟩] document ∧
    document.arguments ⟨0, 2⟩ = .ok [⟨0, 4⟩] ∧ document.parent ⟨0, 4⟩ = .ok ⟨0, 2⟩ := by
  have hparse : parse 0 ⟨true, false, false⟩ "f(g(a), b);".toList = .ok nestedCalls := by
    decide +kernel
  have hsome : (Grammar.parseProgram ⟨true, false, false⟩ "f(g(a), b);".toList).isSome := by
    decide +kernel
  have hbelow : (((Grammar.parseProgram ⟨true, false, false⟩ "f(g(a), b);".toList).get
      hsome).subtree? [0, 0]).isSome := by
    decide +kernel +revert
  have hplace : ((Grammar.parseProgram ⟨true, false, false⟩ "f(g(a), b);".toList).get
      hsome).places[2]? = some [0, 0] := by
    decide +kernel +revert
  have hshape : (Option.get _ hbelow).SpansNested ∧ (Option.get _ hbelow).ChildrenDisjoint := by
    decide +kernel +revert
  have hstart : nestedCalls.Replaced [] nestedCalls := .none
  obtain ⟨document, row, hreached, hrow, hfound⟩ : ∃ document row,
      nestedCalls.Replaced [⟨7, ⟨8, 9⟩, ['x']⟩] document ∧ document.row ⟨0, 2⟩ = .ok row ∧
        document.arguments ⟨0, 2⟩ = .ok [⟨0, 4⟩] :=
    ⟨_, _, hstart.more ⟨0, 7⟩ (.source ['x']) rfl rfl rfl, rfl, rfl⟩
  obtain ⟨arguments, harguments, -, -, -, hparent⟩ := arguments_eq_ok (Option.some_get hsome).symm
    hparse hreached hrow hplace (Option.some_get hbelow).symm hshape.1 hshape.2
  obtain rfl := Except.ok.inj (hfound.symm.trans harguments)
  exact ⟨document, hreached, harguments, hparent _ List.mem_cons_self⟩

end Document

end SsrBuild
