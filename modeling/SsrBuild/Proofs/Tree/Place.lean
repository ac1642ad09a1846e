import SsrBuild.Proofs.Query.HandleUse

/-!
The table of a tree told by places. The place of a node says at which child to go down at every node
on the way from the root (`Tree.subtree?`), and `Tree.places` lists the places of all nodes in
pre-order, which is their order as lists of numbers. A row of the table stands for the node whose
place has the same position in that list: its subtree is the stretch of places that begin with its
own, its parent is the place without the last number, and of two handles the first contains the
second if the place of the first is the beginning of that of the second (`table_faithful`).
-/

set_option autoImplicit false

namespace SsrBuild

namespace Tree

/-- The subtree at a place. -/
def subtree? (tree : Tree) : List Nat → Option Tree
  | [] => some tree
  | number :: rest => do subtree? (← tree.children[number]?) rest

mutual

/-- The places of the nodes of a tree in pre-order. -/
def places : Tree → List (List Nat)
  | node _ _ children => [] :: placesAll 0 children

/-- The places of the nodes of children in pre-order, the first of which has the number. -/
def placesAll (number : Nat) : List Tree → List (List Nat)
  | [] => []
  | tree :: rest => (places tree).map (number :: ·) ++ placesAll (number + 1) rest

end

@[simp] theorem subtree?_nil (tree : Tree) : tree.subtree? [] = some tree := by
  unfold subtree?
  rfl

@[simp] theorem subtree?_cons (tree : Tree) (number : Nat) (rest : List Nat) :
    tree.subtree? (number :: rest) = tree.children[number]?.bind (·.subtree? rest) := by
  conv_lhs => unfold subtree?
  rfl

/-- To go down to a place and on from there is to go down to the place of both parts. -/
theorem subtree?_append (tree : Tree) (place rest : List Nat) :
    tree.subtree? (place ++ rest) = (tree.subtree? place).bind (·.subtree? rest) := by
  induction place generalizing tree with
  | nil => simp
  | cons number place ih =>
    cases hchild : tree.children[number]? with
    | none => simp [hchild]
    | some child => simp [hchild, ih]

/-- There are as many places as nodes. -/
theorem length_placesAll (trees : List Tree) :
    ∀ number, (placesAll number trees).length = sizeAll trees := by
  induction trees using forestInduction with
  | nil => intro number; rfl
  | cons label span children rest ihChildren ihRest =>
    intro number
    simp only [placesAll, places, sizeAll, size, List.length_append, List.length_map,
      List.length_cons, ihChildren, ihRest]

theorem length_places (tree : Tree) : tree.places.length = tree.size := by
  obtain ⟨label, span, children⟩ := tree
  simp [places, size, length_placesAll]

/-- The places of children are those below one of their numbers at which there is a node. -/
theorem mem_placesAll_iff (trees : List Tree) : ∀ {number : Nat} {place : List Nat},
    place ∈ placesAll number trees ↔ ∃ offset rest, place = (number + offset) :: rest ∧
      (trees[offset]?.bind (·.subtree? rest)).isSome := by
  induction trees using forestInduction with
  | nil => intro number place; simp [placesAll]
  | cons label span children rest ihChildren ihRest =>
    intro number place
    have hhead : ∀ tail, tail ∈ places (node label span children) ↔
        ((node label span children).subtree? tail).isSome := by
      intro tail
      cases tail with
      | nil => simp [places]
      | cons first tail => simp [places, ihChildren]
    simp only [placesAll, List.mem_append, List.mem_map, hhead, ihRest]
    constructor
    · rintro (⟨tail, hsome, rfl⟩ | ⟨offset, tail, rfl, hsome⟩)
      · exact ⟨0, tail, rfl, hsome⟩
      · exact ⟨offset + 1, tail, by rw [Nat.add_right_comm, Nat.add_assoc], hsome⟩
    · rintro ⟨offset, tail, rfl, hsome⟩
      cases offset with
      | zero => exact Or.inl ⟨tail, hsome, rfl⟩
      | succ offset =>
        exact Or.inr ⟨offset, tail, by rw [Nat.add_right_comm, Nat.add_assoc], hsome⟩

/-- The places of a tree are those at which there is a node. -/
theorem mem_places_iff {tree : Tree} {place : List Nat} :
    place ∈ tree.places ↔ (tree.subtree? place).isSome := by
  obtain ⟨label, span, children⟩ := tree
  cases place with
  | nil => simp [places]
  | cons number rest => simp [places, mem_placesAll_iff]

/-- The places come in their order as lists of numbers. -/
theorem pairwise_placesAll (trees : List Tree) :
    ∀ number, (placesAll number trees).Pairwise (List.Lex (· < ·)) := by
  induction trees using forestInduction with
  | nil => intro number; exact List.Pairwise.nil
  | cons label span children rest ihChildren ihRest =>
    intro number
    rw [placesAll, List.pairwise_append, List.pairwise_map]
    refine ⟨?_, ihRest (number + 1), ?_⟩
    · rw [places, List.pairwise_cons]
      refine ⟨fun place hplace ↦ ?_, (ihChildren 0).imp List.Lex.cons⟩
      obtain ⟨offset, tail, rfl, -⟩ := (mem_placesAll_iff children).mp hplace
      exact .cons .nil
    · intro first hfirst second hsecond
      obtain ⟨tail, -, rfl⟩ := List.mem_map.mp hfirst
      obtain ⟨offset, other, rfl, -⟩ := (mem_placesAll_iff rest).mp hsecond
      exact .rel (by omega)

theorem pairwise_places (tree : Tree) : tree.places.Pairwise (List.Lex (· < ·)) := by
  obtain ⟨label, span, children⟩ := tree
  rw [places, List.pairwise_cons]
  refine ⟨fun place hplace ↦ ?_, pairwise_placesAll children 0⟩
  obtain ⟨offset, tail, rfl, -⟩ := (mem_placesAll_iff children).mp hplace
  exact .nil

/-- No place comes twice. -/
theorem nodup_places (tree : Tree) : tree.places.Nodup :=
  (pairwise_places tree).imp fun {first second} hlex heq ↦ by
    subst heq
    exact List.lex_irrefl Nat.lt_irrefl first hlex

/-! ### The place of a row -/

/-- The first places are those of the first tree. -/
theorem getElem?_placesAll_first (number : Nat) (tree : Tree) (rest : List Tree) {k : Nat}
    (hk : k < tree.size) :
    (placesAll number (tree :: rest))[k]? = tree.places[k]?.map (number :: ·) := by
  rw [placesAll, List.getElem?_append_left (by rwa [List.length_map, length_places]),
    List.getElem?_map]

/-- The places of the other trees come after those of the first one. -/
theorem getElem?_placesAll_after (number : Nat) (tree : Tree) (rest : List Tree) (k : Nat) :
    (placesAll number (tree :: rest))[tree.size + k]? = (placesAll (number + 1) rest)[k]? := by
  have hlength : (tree.places.map (number :: ·)).length = tree.size := by
    rw [List.length_map, length_places]
  rw [placesAll, List.getElem?_append_right (by omega), hlength, Nat.add_sub_cancel_left]

/-- A row stands for the node at its place. The places of the nodes below that one follow, each of
them the place of the node with a place in its subtree after it. -/
theorem exists_rowsAll_of_placesAll (trees : List Tree) :
    ∀ (above : Option Nat) (start : Nat) {number k : Nat} {place : List Nat},
      (placesAll number trees)[k]? = some place →
        ∃ offset rest below parent, place = (number + offset) :: rest ∧
          trees[offset]?.bind (·.subtree? rest) = some below ∧
          (rowsAll above start trees)[k]? = some (row parent (start + k + below.size) below) ∧
          ∀ m < below.size,
            (placesAll number trees)[k + m]? = below.places[m]?.map (place ++ ·) := by
  induction trees using forestInduction with
  | nil => intro above start number k place h; simp [placesAll] at h
  | cons label span children rest ihChildren ihRest =>
    intro above start number k place h
    set tree := node label span children with htree
    have hsize : tree.size = sizeAll children + 1 := rfl
    rcases Nat.lt_or_ge k tree.size with hk | hk
    · rw [getElem?_placesAll_first number tree rest hk] at h
      obtain ⟨tail, htail, rfl⟩ := Option.map_eq_some_iff.mp h
      cases k with
      | zero =>
        obtain rfl : [] = tail := Option.some.inj htail
        refine ⟨0, [], tree, above, rfl, by simp, ?_, fun m hm ↦ ?_⟩
        · rw [hsize, Nat.add_zero]
          exact getElem?_rowsAll_zero ..
        · rw [Nat.zero_add, getElem?_placesAll_first number tree rest hm]
          rfl
      | succ k =>
        have hbelow : (placesAll 0 children)[k]? = some tail := htail
        obtain ⟨offset, last, below, parent, rfl, hsome, hrow, hblock⟩ :=
          ihChildren (some start) (start + 1) hbelow
        refine ⟨0, (0 + offset) :: last, below, parent, rfl, ?_, ?_, fun m hm ↦ ?_⟩
        · simpa [htree] using hsome
        · rw [show start + (k + 1) = start + 1 + k by omega]
          exact getElem?_rowsAll_below hrow
        · -- The stretch of a subtree ends within that of the first tree.
          have hstop := (rowsAll_stop children hrow).2
          simp only [row] at hstop
          have hplaces : tree.places[k + 1 + m]? = (placesAll 0 children)[k + m]? := by
            rw [Nat.add_right_comm]
            rfl
          rw [getElem?_placesAll_first number tree rest (by omega), hplaces, hblock m hm,
            Option.map_map]
          rfl
    · obtain ⟨j, rfl⟩ := Nat.exists_eq_add_of_le hk
      rw [getElem?_placesAll_after] at h
      obtain ⟨offset, last, below, parent, rfl, hsome, hrow, hblock⟩ :=
        ihRest above (start + tree.size) h
      refine ⟨offset + 1, last, below, parent, ?_, by simpa using hsome, ?_, fun m hm ↦ ?_⟩
      · rw [Nat.add_right_comm, Nat.add_assoc]
      · rw [← Nat.add_assoc]
        exact getElem?_rowsAll_after hrow
      · rw [Nat.add_assoc, getElem?_placesAll_after, hblock m hm]

/-- The row of a place: that of the node there, the subtree of which it ends. -/
theorem exists_row_of_places {tree : Tree} {i : Nat} {place : List Nat}
    (hplace : tree.places[i]? = some place) :
    ∃ below parent, tree.subtree? place = some below ∧
      tree.table[i]? = some (row parent (i + below.size) below) ∧
      ∀ m < below.size, tree.places[i + m]? = below.places[m]?.map (place ++ ·) := by
  have hplaces : placesAll 0 [tree] = tree.places.map (0 :: ·) := by
    rw [placesAll, placesAll, List.append_nil]
  have hfirst : (placesAll 0 [tree])[i]? = some (0 :: place) := by
    rw [hplaces, List.getElem?_map, hplace, Option.map_some]
  obtain ⟨offset, rest, below, parent, heq, hsome, hrow, hblock⟩ :=
    exists_rowsAll_of_placesAll [tree] none 0 hfirst
  obtain ⟨hoffset, rfl⟩ := List.cons.inj heq
  obtain rfl : offset = 0 := by omega
  refine ⟨below, parent, by simpa using hsome, ?_, fun m hm ↦ ?_⟩
  · rw [table_eq_rows, hrow, Nat.zero_add]
  · have hshift := hblock m hm
    rw [hplaces, List.getElem?_map] at hshift
    have hinj : Function.Injective (List.cons 0 : List Nat → List Nat) :=
      fun _ _ ↦ List.tail_eq_of_cons_eq
    refine Option.map_injective hinj (hshift.trans ?_)
    rw [Option.map_map]
    rfl

/-- Every row has a place. -/
theorem exists_place_of_row {tree : Tree} {i : Nat} {found : Row}
    (h : tree.table[i]? = some found) : ∃ place, tree.places[i]? = some place := by
  have hlt := (List.getElem?_eq_some_iff.mp h).1
  rw [table_eq_rows, length_rowsAll, sizeAll, sizeAll, Nat.add_zero, ← length_places] at hlt
  exact ⟨_, List.getElem?_eq_getElem hlt⟩

/-- A node has one position in the list of places. -/
theorem eq_of_getElem?_places {tree : Tree} {i j : Nat} {place : List Nat}
    (hi : tree.places[i]? = some place) (hj : tree.places[j]? = some place) : i = j :=
  (List.getElem?_inj (List.getElem?_eq_some_iff.mp hi).1 (nodup_places tree)).mp (hi.trans hj.symm)

/-- The stretch of a row holds the places that begin with that of the row. -/
theorem mem_stretch_iff {tree : Tree} {i j : Nat} {place other : List Nat} {outer : Row}
    (hi : tree.places[i]? = some place) (hj : tree.places[j]? = some other)
    (hrow : tree.table[i]? = some outer) : i ≤ j ∧ j < outer.stop ↔ place <+: other := by
  obtain ⟨below, parent, hbelow, hfound, hblock⟩ := exists_row_of_places hi
  obtain rfl := Option.some.inj (hfound.symm.trans hrow)
  simp only [row]
  constructor
  · rintro ⟨hle, hlt⟩
    have hshift := hblock (j - i) (by omega)
    rw [Nat.add_sub_cancel' hle, hj] at hshift
    obtain ⟨rest, -, rfl⟩ := Option.map_eq_some_iff.mp hshift.symm
    exact List.prefix_append place rest
  · rintro ⟨rest, rfl⟩
    have hrest : rest ∈ below.places := by
      have hother := mem_places_iff.mp (List.mem_of_getElem? hj)
      rwa [subtree?_append, hbelow, Option.bind_some, ← mem_places_iff] at hother
    obtain ⟨m, hm⟩ := List.getElem?_of_mem hrest
    have hlt : m < below.size := length_places below ▸ (List.getElem?_eq_some_iff.mp hm).1
    have hshift := hblock m hlt
    rw [hm, Option.map_some] at hshift
    obtain rfl : i + m = j := eq_of_getElem?_places hshift hj
    omega

/-- The beginning of a place is that of a row, and the parent does not come before it. -/
theorem exists_parent_of_append {tree : Tree} {i : Nat} {place rest : List Nat} {found : Row}
    (hi : tree.places[i]? = some (place ++ rest)) (hrow : tree.table[i]? = some found)
    (hrest : rest ≠ []) :
    ∃ j p, tree.places[j]? = some place ∧ found.parent = some p ∧ j ≤ p := by
  have hplace : place ∈ tree.places := by
    have hsome := mem_places_iff.mp (List.mem_of_getElem? hi)
    rw [subtree?_append] at hsome
    exact mem_places_iff.mpr (Option.isSome_of_isSome_bind hsome)
  obtain ⟨j, hj⟩ := List.getElem?_of_mem hplace
  obtain ⟨below, parent, -, houter, -⟩ := exists_row_of_places hj
  obtain ⟨hle, hlt⟩ :=
    (mem_stretch_iff hj hi houter).mpr (List.prefix_append place rest)
  have hne : j ≠ i := by
    rintro rfl
    rw [hj, Option.some.injEq] at hi
    exact hrest (List.self_eq_append_right.mp hi)
  obtain ⟨p, hp, hjp⟩ := (isTable_table tree).closest houter hrow (by omega) hlt
  exact ⟨j, p, hj, hp, hjp⟩

/-- The place of a row is a child of the place of its parent. -/
theorem exists_place_of_parent {tree : Tree} {i p : Nat} {place : List Nat} {found : Row}
    (hi : tree.places[i]? = some place) (hrow : tree.table[i]? = some found)
    (hparent : found.parent = some p) :
    ∃ above number, tree.places[p]? = some above ∧ place = above ++ [number] := by
  obtain ⟨hlt, outer, houter, hin⟩ := (isTable_table tree).parent hrow hparent
  obtain ⟨above, habove⟩ := exists_place_of_row houter
  obtain ⟨rest, rfl⟩ := (mem_stretch_iff habove hi houter).mp ⟨by omega, hin⟩
  rcases List.eq_nil_or_concat rest with rfl | ⟨middle, number, rfl⟩
  · rw [List.append_nil] at hi
    have := eq_of_getElem?_places hi habove
    omega
  · -- A node between the two would be a later row above this one.
    rw [List.concat_eq_append, ← List.append_assoc] at hi ⊢
    obtain ⟨j, q, hj, hq, hjq⟩ := exists_parent_of_append hi hrow (List.cons_ne_nil number [])
    obtain rfl : q = p := Option.some.inj (hq.symm.trans hparent)
    obtain ⟨hqj, -⟩ :=
      (mem_stretch_iff habove hj houter).mpr (List.prefix_append above middle)
    obtain rfl : j = q := by omega
    exact ⟨_, number, hj, rfl⟩

/-- The parent of a row is the row whose place is its own without the last number. -/
theorem parent_eq_some_iff {tree : Tree} {i p : Nat} {place : List Nat} {found : Row}
    (hi : tree.places[i]? = some place) (hrow : tree.table[i]? = some found) :
    found.parent = some p ↔ ∃ above number, tree.places[p]? = some above ∧
      place = above ++ [number] := by
  constructor
  · exact exists_place_of_parent hi hrow
  · rintro ⟨above, number, habove, rfl⟩
    obtain ⟨-, q, -, hq, -⟩ := exists_parent_of_append hi hrow (List.cons_ne_nil number [])
    obtain ⟨other, last, hother, heq⟩ := exists_place_of_parent hi hrow hq
    obtain rfl := (List.append_inj' heq rfl).1
    rwa [eq_of_getElem?_places habove hother]

/-- Only the first row has no parent. -/
theorem parent_eq_none_iff {tree : Tree} {i : Nat} {found : Row}
    (hrow : tree.table[i]? = some found) : found.parent = none ↔ i = 0 := by
  obtain ⟨place, hi⟩ := exists_place_of_row hrow
  have hroot : tree.places[0]? = some [] := by
    obtain ⟨label, span, children⟩ := tree
    rfl
  constructor
  · intro hnone
    by_contra hne
    have hplace : place ≠ [] := by
      rintro rfl
      exact hne (eq_of_getElem?_places hi hroot)
    have hbegin : tree.places[i]? = some ([] ++ place) := hi
    obtain ⟨-, p, -, hp, -⟩ := exists_parent_of_append hbegin hrow hplace
    rw [hnone] at hp
    cases hp
  · rintro rfl
    by_contra hsome
    obtain ⟨p, hp⟩ := Option.ne_none_iff_exists'.mp hsome
    have := ((isTable_table tree).parent hrow hp).1
    omega

end Tree

/-- Subtrees are nested or apart. -/
theorem IsTable.nested_or_apart {rows : List Row} (hrows : IsTable rows) {i j : Nat}
    {first second : Row} (hi : rows[i]? = some first) (hj : rows[j]? = some second) :
    (first.stop ≤ j ∨ second.stop ≤ i) ∨ (i ≤ j ∧ second.stop ≤ first.stop) ∨
      (j ≤ i ∧ first.stop ≤ second.stop) := by
  rcases Nat.lt_trichotomy i j with hlt | rfl | hlt
  · by_cases hin : j < first.stop
    · exact Or.inr (Or.inl ⟨by omega, hrows.stop_le hi hj hlt hin⟩)
    · exact Or.inl (Or.inl (by omega))
  · obtain rfl : first = second := Option.some.inj (hi.symm.trans hj)
    exact Or.inr (Or.inl ⟨Nat.le_refl i, Nat.le_refl _⟩)
  · by_cases hin : i < second.stop
    · exact Or.inr (Or.inr ⟨by omega, hrows.stop_le hj hi hlt hin⟩)
    · exact Or.inl (Or.inr (by omega))

/-- The row of a node that stands is that of the table, and says what the node at its place is. -/
theorem Document.exists_row_of_table {tree : Tree} {document : Document}
    (hrows : SameButDetached tree.table document.rows) {handle : Handle} {row : Row}
    (hrow : document.row handle = .ok row) : ∃ place below parent,
      tree.places[handle.index]? = some place ∧ tree.subtree? place = some below ∧
      tree.table[handle.index]? = some row ∧
      row = Tree.row parent (handle.index + below.size) below := by
  obtain ⟨-, hfound, hstands⟩ := row_eq_ok_iff.mp hrow
  obtain ⟨original, isDetached, horiginal, hsame⟩ := hrows.exists_row hfound
  obtain ⟨place, hplace⟩ := Tree.exists_place_of_row horiginal
  obtain ⟨below, parent, hbelow, htable, -⟩ := Tree.exists_row_of_places hplace
  obtain rfl := Option.some.inj (htable.symm.trans horiginal)
  subst hsame
  obtain rfl : isDetached = false := hstands
  exact ⟨place, below, parent, hplace, hbelow, htable, rfl⟩

/-- A handle contains another one if the place of its node is the beginning of the other place. -/
theorem contains_of_table {tree : Tree} {document : Document}
    (hrows : SameButDetached tree.table document.rows) {scope handle : Handle} {outer inner : Row}
    (hscope : document.row scope = .ok outer) (hhandle : document.row handle = .ok inner) :
    ∃ above below, tree.places[scope.index]? = some above ∧
      tree.places[handle.index]? = some below ∧
      document.contains scope handle = .ok (decide (above <+: below)) := by
  obtain ⟨above, -, -, habove, -, htable, -⟩ := Document.exists_row_of_table hrows hscope
  obtain ⟨below, -, -, hbelow, -⟩ := Document.exists_row_of_table hrows hhandle
  refine ⟨above, below, habove, hbelow, ?_⟩
  have hprefix := Tree.mem_stretch_iff habove hbelow htable
  refine bind_eq_ok_iff.mpr ⟨outer, hscope, bind_eq_ok_iff.mpr ⟨inner, hhandle, ?_⟩⟩
  simp only [← Bool.decide_and, hprefix]
  rfl

/-- The walk through a tree leaves every node that it enters and writes a faithful table: a row for
each place, the places in pre-order, each row with what the node there says. The subtree of a row is
the stretch of places that begin with its own, as many as the subtree has nodes; its parent, which
comes before it and is missing for the first row only, has the place without the last number;
subtrees are nested or apart. In a document with these rows, some of which may have been detached, a
node that stands contains another one exactly if it is that node or above it. -/
theorem table_faithful (tree : Tree) :
    (tree.steps.foldl TableBuilder.step .empty).path = [] ∧
    tree.table.length = tree.size ∧ tree.places.length = tree.size ∧
    (∀ place, place ∈ tree.places ↔ (tree.subtree? place).isSome) ∧
    tree.places.Pairwise (List.Lex (· < ·)) ∧
    (∀ i row, tree.table[i]? = some row → ∃ place below,
      tree.places[i]? = some place ∧ tree.subtree? place = some below ∧
      row.kind = below.kind ∧ row.span = below.span ∧ row.name = below.name? ∧
      row.arguments = below.arguments.map Tree.span ∧ row.isDetached = false ∧
      row.stop = i + below.size ∧
      (∀ j other, tree.places[j]? = some other →
        (i < j ∧ j < row.stop ↔ place <+: other ∧ place ≠ other)) ∧
      (∀ p, row.parent = some p ↔ ∃ above number, tree.places[p]? = some above ∧
        place = above ++ [number]) ∧
      (∀ p, row.parent = some p → p < i) ∧ (row.parent = none ↔ i = 0)) ∧
    (∀ (i j : Nat) (first second : Row), tree.table[i]? = some first →
      tree.table[j]? = some second → (first.stop ≤ j ∨ second.stop ≤ i) ∨
        (i ≤ j ∧ second.stop ≤ first.stop) ∨ (j ≤ i ∧ first.stop ≤ second.stop)) ∧
    ∀ document : Document, SameButDetached tree.table document.rows →
      ∀ scope handle outer inner, document.row scope = .ok outer →
        document.row handle = .ok inner →
          ∃ above below, tree.places[scope.index]? = some above ∧
            tree.places[handle.index]? = some below ∧
            document.contains scope handle = .ok (decide (above <+: below)) := by
  have htable := isTable_table tree
  refine ⟨?_, ?_, tree.length_places, fun place ↦ Tree.mem_places_iff, tree.pairwise_places, ?_,
    fun i j first second hi hj ↦ htable.nested_or_apart hi hj,
    fun document hrows scope handle outer inner hscope hhandle ↦
      contains_of_table hrows hscope hhandle⟩
  · have hwalk := Tree.foldl_stepsAll [tree] .empty
    simp only [Tree.stepsAll, List.append_nil] at hwalk
    rw [hwalk]
    rfl
  · rw [Tree.table_eq_rows, Tree.length_rowsAll, Tree.sizeAll, Tree.sizeAll, Nat.add_zero]
  · intro i row hrow
    obtain ⟨place, hplace⟩ := Tree.exists_place_of_row hrow
    obtain ⟨below, parent, hbelow, hfound, -⟩ := Tree.exists_row_of_places hplace
    have hparent := fun p ↦ @Tree.parent_eq_some_iff tree i p place row hplace hrow
    have hnone := Tree.parent_eq_none_iff hrow
    have hstretch := fun j other (hj : tree.places[j]? = some other) ↦
      Tree.mem_stretch_iff hplace hj hrow
    refine ⟨place, below, hplace, hbelow, ?_⟩
    obtain rfl := Option.some.inj (hfound.symm.trans hrow)
    refine ⟨rfl, rfl, rfl, rfl, rfl, rfl, fun j other hj ↦ ?_, hparent,
      fun p hp ↦ (htable.parent hrow hp).1, hnone⟩
    rw [← hstretch j other hj]
    constructor
    · rintro ⟨hlt, hin⟩
      refine ⟨⟨by omega, hin⟩, ?_⟩
      rintro rfl
      have := Tree.eq_of_getElem?_places hplace hj
      omega
    · rintro ⟨⟨hle, hin⟩, hne⟩
      refine ⟨?_, hin⟩
      by_contra hlt
      obtain rfl : i = j := by omega
      exact hne (Option.some.inj (hplace.symm.trans hj))

/-- A call with an argument. -/
def callTree : Tree :=
  .node .program ⟨0, 4⟩ [.node (.callExpression 1) ⟨0, 4⟩
    [.node (.identifier "f") ⟨0, 1⟩ [], .node (.identifier "a") ⟨2, 3⟩ []]]

/-- The call contains what it calls, also after its argument has been detached. -/
theorem contains_callTree :
    (Document.mk 0 "f(a)".toList (Document.detach 3 4 callTree.table) []).contains ⟨0, 1⟩ ⟨0, 2⟩ =
      .ok true := by
  obtain ⟨-, -, -, -, -, -, -, hcontains⟩ := table_faithful callTree
  obtain ⟨above, below, habove, hbelow, heq⟩ :=
    hcontains ⟨0, "f(a)".toList, Document.detach 3 4 callTree.table, []⟩
      (sameButDetached_detach 3 4 callTree.table) ⟨0, 1⟩ ⟨0, 2⟩ _ _ rfl rfl
  obtain rfl : [0] = above := Option.some.inj habove
  obtain rfl : [0, 0] = below := Option.some.inj hbelow
  exact heq

end SsrBuild
