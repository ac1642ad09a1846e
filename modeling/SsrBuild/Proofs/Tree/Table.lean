import Mathlib.Tactic.Common
import SsrBuild.Tree.Table

/-!
The table of a tree. `rows` writes the table down without a walk, and `table_eq_rows` shows that the
walk comes to the same. From this form it follows that subtrees are intervals of rows, nested or
apart, and that the parent of a row is the closest row whose interval holds it (`isTable_table`).
-/

set_option autoImplicit false

namespace SsrBuild

open Text (Span)

namespace Tree

/-- Induction on several trees: the children of the first one, and the trees after it. -/
@[elab_as_elim]
theorem forestInduction {motive : List Tree → Prop} (nil : motive [])
    (cons : ∀ label span children rest, motive children → motive rest →
      motive (node label span children :: rest)) (trees : List Tree) : motive trees := by
  have htree : ∀ tree : Tree, motive tree.children := by
    refine @Tree.rec (fun tree ↦ motive tree.children) motive ?_ ?_ ?_
    · intro label span children ih
      exact ih
    · exact nil
    · intro tree rest ihTree ihRest
      obtain ⟨label, span, children⟩ := tree
      exact cons label span children rest ihTree ihRest
  exact htree (node .other default trees)

/-! ### The table without a walk -/

/-- The row of a node below a row, with the number at which its subtree has ended. -/
def row (above : Option Nat) (stop : Nat) (tree : Tree) : Row :=
  { kind := tree.kind, span := tree.span, parent := above, stop, name := tree.name?,
    arguments := tree.arguments.map Tree.span, isDetached := false }

mutual

/-- The rows of a tree below a row, from a number on. -/
def rows (above : Option Nat) (start : Nat) : Tree → List Row
  | node label span children =>
    row above (start + sizeAll children + 1) (node label span children) ::
      rowsAll (some start) (start + 1) children

/-- The rows of several trees below a row, from a number on. -/
def rowsAll (above : Option Nat) (start : Nat) : List Tree → List Row
  | [] => []
  | tree :: rest => rows above start tree ++ rowsAll above (start + size tree) rest

end

theorem length_rowsAll (trees : List Tree) :
    ∀ above start, (rowsAll above start trees).length = sizeAll trees := by
  induction trees using forestInduction with
  | nil => intro above start; rfl
  | cons label span children rest ihChildren ihRest =>
    intro above start
    simp only [rowsAll, rows, List.length_append, List.length_cons, ihChildren, ihRest, sizeAll,
      size]

/-- Changing the element behind a stretch of a list. -/
theorem modify_length_append {α : Type} (change : α → α) (front : List α) (element : α)
    (rest : List α) :
    (front ++ element :: rest).modify front.length change = front ++ change element :: rest := by
  have htail := List.modifyTailIdx_add (List.modifyHead change) 0 front (element :: rest)
  simpa [List.modify] using htail

/-- The walk through several trees adds their rows and comes back to where it started. -/
theorem foldl_stepsAll (trees : List Tree) : ∀ (builder : TableBuilder),
    (stepsAll trees).foldl TableBuilder.step builder =
      ⟨builder.rows ++ rowsAll builder.path.head? builder.rows.length trees, builder.path⟩ := by
  induction trees using forestInduction with
  | nil => intro builder; simp [stepsAll, rowsAll]
  | cons label span children rest ihChildren ihRest =>
    intro builder
    set tree := node label span children
    have hentered : builder.step (.enter tree) =
        ⟨builder.rows ++ [row builder.path.head? (builder.rows.length + 1) tree],
          builder.rows.length :: builder.path⟩ := rfl
    have hleft : (TableBuilder.mk (builder.rows ++
          [row builder.path.head? (builder.rows.length + 1) tree] ++
          rowsAll (some builder.rows.length) (builder.rows.length + 1) children)
          (builder.rows.length :: builder.path)).step .leave =
        ⟨builder.rows ++ rows builder.path.head? builder.rows.length tree, builder.path⟩ := by
      have hlength := length_rowsAll children (some builder.rows.length)
        (builder.rows.length + 1)
      simp only [TableBuilder.step, List.append_assoc, List.cons_append, List.nil_append,
        List.length_append, List.length_cons, hlength, modify_length_append]
      simp only [tree, rows, row, Nat.add_assoc]
    calc (stepsAll (tree :: rest)).foldl TableBuilder.step builder
        = (stepsAll rest).foldl TableBuilder.step
            (((stepsAll children).foldl TableBuilder.step
              (builder.step (.enter tree))).step .leave) := by
          simp [tree, stepsAll, steps, List.foldl_append]
      _ = ⟨builder.rows ++ rowsAll builder.path.head? builder.rows.length (tree :: rest),
            builder.path⟩ := by
          have hsize : (rows builder.path.head? builder.rows.length tree).length = size tree := by
            simp [tree, rows, size, length_rowsAll]
          rw [hentered, ihChildren]
          simp only [List.head?_cons, List.length_append, List.length_singleton]
          rw [hleft, ihRest]
          simp only [List.length_append, hsize, rowsAll, List.append_assoc]

/-- The walk writes down the rows of the tree. -/
theorem table_eq_rows (tree : Tree) : tree.table = rowsAll none 0 [tree] := by
  have hwalk := foldl_stepsAll [tree] .empty
  simp only [stepsAll, List.append_nil] at hwalk
  rw [table, hwalk]
  simp [TableBuilder.empty]

/-! ### Where a row stands -/

/-- A row of several trees is that of the first root, or below it, or in the trees after it. -/
theorem getElem?_rowsAll_cons {above : Option Nat} {start k : Nat} {label : Label} {span : Span}
    {children rest : List Tree} {found : Row}
    (h : (rowsAll above start (node label span children :: rest))[k]? = some found) :
    (k = 0 ∧ found = row above (start + sizeAll children + 1) (node label span children)) ∨
      (∃ m, k = m + 1 ∧ m < sizeAll children ∧
        (rowsAll (some start) (start + 1) children)[m]? = some found) ∨
      ∃ m, k = sizeAll children + 1 + m ∧
        (rowsAll above (start + (sizeAll children + 1)) rest)[m]? = some found := by
  have hlength := length_rowsAll children (some start) (start + 1)
  simp only [rowsAll, rows, size, List.cons_append] at h
  cases k with
  | zero =>
    simp only [List.getElem?_cons_zero, Option.some.injEq] at h
    exact Or.inl ⟨rfl, h.symm⟩
  | succ m =>
    rw [List.getElem?_cons_succ, List.getElem?_append, hlength] at h
    split_ifs at h with hm
    · exact Or.inr (Or.inl ⟨m, rfl, hm, h⟩)
    · exact Or.inr (Or.inr ⟨m - sizeAll children, by omega, h⟩)

/-- The root of the first tree has the first row. -/
theorem getElem?_rowsAll_zero (above : Option Nat) (start : Nat) (label : Label) (span : Span)
    (children rest : List Tree) :
    (rowsAll above start (node label span children :: rest))[0]? =
      some (row above (start + sizeAll children + 1) (node label span children)) := rfl

/-- The rows below the first root come right after it. -/
theorem getElem?_rowsAll_below {above : Option Nat} {start m : Nat} {label : Label} {span : Span}
    {children rest : List Tree} {found : Row}
    (h : (rowsAll (some start) (start + 1) children)[m]? = some found) :
    (rowsAll above start (node label span children :: rest))[m + 1]? = some found := by
  have hm : m < (rowsAll (some start) (start + 1) children).length :=
    (List.getElem?_eq_some_iff.mp h).1
  simp only [rowsAll, rows, List.cons_append, List.getElem?_cons_succ]
  rw [List.getElem?_append_left hm, h]

/-- The rows of the other trees come after those of the first one. -/
theorem getElem?_rowsAll_after {above : Option Nat} {start m : Nat} {label : Label} {span : Span}
    {children rest : List Tree} {found : Row}
    (h : (rowsAll above (start + (sizeAll children + 1)) rest)[m]? = some found) :
    (rowsAll above start (node label span children :: rest))[sizeAll children + 1 + m]? =
      some found := by
  have hlength := length_rowsAll children (some start) (start + 1)
  have hshift : sizeAll children + 1 + m = (sizeAll children + m) + 1 := by omega
  simp only [rowsAll, rows, size, List.cons_append]
  rw [hshift, List.getElem?_cons_succ, List.getElem?_append_right (by omega), hlength,
    Nat.add_sub_cancel_left, h]

/-! ### Subtrees are intervals -/

/-- A subtree ends after its root and within the table. -/
theorem rowsAll_stop (trees : List Tree) : ∀ {above start k found},
    (rowsAll above start trees)[k]? = some found →
      start + k < found.stop ∧ found.stop ≤ start + sizeAll trees := by
  induction trees using forestInduction with
  | nil => intro above start k found h; simp [rowsAll] at h
  | cons label span children rest ihChildren ihRest =>
    intro above start k found h
    simp only [sizeAll, size]
    rcases getElem?_rowsAll_cons h with ⟨rfl, rfl⟩ | ⟨m, rfl, hm, hbelow⟩ | ⟨m, rfl, hafter⟩
    · simp only [row]
      omega
    · have := ihChildren hbelow
      omega
    · have := ihRest hafter
      omega

/-- Where a row is in the subtree of another one, the subtree is that of the first root and the row is
below the root, or both are below it, or both are in the trees after it. -/
theorem nested_rowsAll_cons {above : Option Nat} {start i j : Nat} {label : Label} {span : Span}
    {children rest : List Tree} {outer inner : Row}
    (hi : (rowsAll above start (node label span children :: rest))[i]? = some outer)
    (hj : (rowsAll above start (node label span children :: rest))[j]? = some inner)
    (hij : i < j) (hin : start + j < outer.stop) :
    (i = 0 ∧ outer.stop = start + sizeAll children + 1 ∧ ∃ n, j = n + 1 ∧
      (rowsAll (some start) (start + 1) children)[n]? = some inner) ∨
    (∃ m n, i = m + 1 ∧ j = n + 1 ∧
      (rowsAll (some start) (start + 1) children)[m]? = some outer ∧
      (rowsAll (some start) (start + 1) children)[n]? = some inner) ∨
    ∃ m n, i = sizeAll children + 1 + m ∧ j = sizeAll children + 1 + n ∧
      (rowsAll above (start + (sizeAll children + 1)) rest)[m]? = some outer ∧
      (rowsAll above (start + (sizeAll children + 1)) rest)[n]? = some inner := by
  rcases getElem?_rowsAll_cons hi with ⟨rfl, rfl⟩ | ⟨m, rfl, hm, hiBelow⟩ | ⟨m, rfl, hiAfter⟩
  · rcases getElem?_rowsAll_cons hj with ⟨rfl, rfl⟩ | ⟨n, rfl, hn, hjBelow⟩ | ⟨n, rfl, hjAfter⟩
    · omega
    · exact Or.inl ⟨rfl, rfl, n, rfl, hjBelow⟩
    · simp only [row] at hin
      omega
  · rcases getElem?_rowsAll_cons hj with ⟨rfl, rfl⟩ | ⟨n, rfl, hn, hjBelow⟩ | ⟨n, rfl, hjAfter⟩
    · omega
    · exact Or.inr (Or.inl ⟨m, n, rfl, rfl, hiBelow, hjBelow⟩)
    · have := rowsAll_stop children hiBelow
      omega
  · rcases getElem?_rowsAll_cons hj with ⟨rfl, rfl⟩ | ⟨n, rfl, hn, hjBelow⟩ | ⟨n, rfl, hjAfter⟩
    · omega
    · omega
    · exact Or.inr (Or.inr ⟨m, n, rfl, rfl, hiAfter, hjAfter⟩)

/-- A subtree that begins in another one ends in it. -/
theorem rowsAll_stop_le (trees : List Tree) : ∀ {above start i j outer inner},
    (rowsAll above start trees)[i]? = some outer → (rowsAll above start trees)[j]? = some inner →
      i < j → start + j < outer.stop → inner.stop ≤ outer.stop := by
  induction trees using forestInduction with
  | nil => intro above start i j outer inner hi; simp [rowsAll] at hi
  | cons label span children rest ihChildren ihRest =>
    intro above start i j outer inner hi hj hij hin
    rcases nested_rowsAll_cons hi hj hij hin with ⟨rfl, hstop, n, rfl, hbelow⟩ |
      ⟨m, n, rfl, rfl, hiBelow, hjBelow⟩ | ⟨m, n, rfl, rfl, hiAfter, hjAfter⟩
    · have := rowsAll_stop children hbelow
      omega
    · exact ihChildren hiBelow hjBelow (by omega) (by omega)
    · exact ihRest hiAfter hjAfter (by omega) (by omega)

/-- A row is at the top of the trees, or its parent is a row before it whose subtree holds it. -/
theorem rowsAll_parent (trees : List Tree) : ∀ {above start k found},
    (rowsAll above start trees)[k]? = some found → found.parent = above ∨
      ∃ p outer, found.parent = some (start + p) ∧ p < k ∧
        (rowsAll above start trees)[p]? = some outer ∧ start + k < outer.stop := by
  induction trees using forestInduction with
  | nil => intro above start k found h; simp [rowsAll] at h
  | cons label span children rest ihChildren ihRest =>
    intro above start k found h
    rcases getElem?_rowsAll_cons h with ⟨rfl, rfl⟩ | ⟨m, rfl, hm, hbelow⟩ | ⟨m, rfl, hafter⟩
    · exact Or.inl rfl
    · right
      rcases ihChildren hbelow with htop | ⟨p, outer, hparent, hp, houter, hin⟩
      · refine ⟨0, _, htop, by omega, getElem?_rowsAll_zero .., ?_⟩
        simp only [row]
        omega
      · exact ⟨p + 1, outer, by rw [hparent]; congr 1; omega, by omega,
          getElem?_rowsAll_below houter, by omega⟩
    · rcases ihRest hafter with htop | ⟨p, outer, hparent, hp, houter, hin⟩
      · exact Or.inl htop
      · exact Or.inr ⟨sizeAll children + 1 + p, outer, by rw [hparent]; congr 1; omega, by omega,
          getElem?_rowsAll_after houter, by omega⟩

/-- No subtree that holds a row begins after the parent of the row. -/
theorem rowsAll_closest (trees : List Tree) : ∀ {above start i j outer inner},
    (rowsAll above start trees)[i]? = some outer → (rowsAll above start trees)[j]? = some inner →
      i < j → start + j < outer.stop → ∃ p, inner.parent = some (start + p) ∧ i ≤ p := by
  induction trees using forestInduction with
  | nil => intro above start i j outer inner hi; simp [rowsAll] at hi
  | cons label span children rest ihChildren ihRest =>
    intro above start i j outer inner hi hj hij hin
    rcases nested_rowsAll_cons hi hj hij hin with ⟨rfl, -, n, rfl, hbelow⟩ |
      ⟨m, n, rfl, rfl, hiBelow, hjBelow⟩ | ⟨m, n, rfl, rfl, hiAfter, hjAfter⟩
    · rcases rowsAll_parent children hbelow with htop | ⟨p, _, hparent, _⟩
      · exact ⟨0, htop, Nat.le_refl 0⟩
      · exact ⟨p + 1, by rw [hparent]; congr 1; omega, by omega⟩
    · obtain ⟨p, hparent, hp⟩ := ihChildren hiBelow hjBelow (by omega) (by omega)
      exact ⟨p + 1, by rw [hparent]; congr 1; omega, by omega⟩
    · obtain ⟨p, hparent, hp⟩ := ihRest hiAfter hjAfter (by omega) (by omega)
      exact ⟨sizeAll children + 1 + p, by rw [hparent]; congr 1; omega, by omega⟩

/-! ### Arguments -/

/-- Each of several trees has a row. -/
theorem exists_rowsAll_of_mem {tree : Tree} (trees : List Tree) (h : tree ∈ trees) :
    ∀ (above : Option Nat) (start : Nat), ∃ (m stop : Nat),
      (rowsAll above start trees)[m]? = some (row above stop tree) := by
  induction trees using forestInduction with
  | nil => cases h
  | cons label span children rest _ ihRest =>
    intro above start
    rcases List.mem_cons.mp h with rfl | hrest
    · exact ⟨0, _, getElem?_rowsAll_zero ..⟩
    · obtain ⟨m, stop, hm⟩ := ihRest hrest above (start + (sizeAll children + 1))
      exact ⟨_, stop, getElem?_rowsAll_after hm⟩

/-- The arguments are children. -/
theorem mem_children_of_mem_arguments {tree argument : Tree} (h : argument ∈ tree.arguments) :
    argument ∈ tree.children := by
  unfold arguments at h
  split at h
  · exact List.mem_of_mem_drop h
  · exact List.mem_of_mem_drop h
  · cases h

/-- An argument of a node has a row below that of the node. -/
theorem rowsAll_argument (trees : List Tree) : ∀ {above start k found span},
    (rowsAll above start trees)[k]? = some found → span ∈ found.arguments →
      ∃ j argument, k < j ∧ start + j < found.stop ∧
        (rowsAll above start trees)[j]? = some argument ∧ argument.span = span := by
  induction trees using forestInduction with
  | nil => intro above start k found span h; simp [rowsAll] at h
  | cons label span children rest ihChildren ihRest =>
    intro above start k found wanted h hwanted
    rcases getElem?_rowsAll_cons h with ⟨rfl, rfl⟩ | ⟨m, rfl, hm, hbelow⟩ | ⟨m, rfl, hafter⟩
    · obtain ⟨argument, hargument, rfl⟩ := List.mem_map.mp hwanted
      obtain ⟨j, stop, hj⟩ := exists_rowsAll_of_mem children
        (mem_children_of_mem_arguments hargument) (some start) (start + 1)
      have hlt : j < sizeAll children := by
        rw [← length_rowsAll children (some start) (start + 1)]
        exact (List.getElem?_eq_some_iff.mp hj).1
      refine ⟨j + 1, _, by omega, ?_, getElem?_rowsAll_below hj, rfl⟩
      simp only [row]
      omega
    · obtain ⟨j, argument, hj, hin, hfound, hspan⟩ := ihChildren hbelow hwanted
      exact ⟨j + 1, argument, by omega, by omega, getElem?_rowsAll_below hfound, hspan⟩
    · obtain ⟨j, argument, hj, hin, hfound, hspan⟩ := ihRest hafter hwanted
      exact ⟨sizeAll children + 1 + j, argument, by omega, by omega,
        getElem?_rowsAll_after hfound, hspan⟩

end Tree

/-- What makes rows a table: subtrees are intervals, nested or apart, the parent of a row is the
closest row whose subtree holds it, and an argument of a row is a row below it. -/
structure IsTable (rows : List Row) : Prop where
  stop : ∀ {i : Nat} {row : Row}, rows[i]? = some row → i < row.stop ∧ row.stop ≤ rows.length
  stop_le : ∀ {i j : Nat} {outer inner : Row}, rows[i]? = some outer → rows[j]? = some inner →
    i < j → j < outer.stop → inner.stop ≤ outer.stop
  parent : ∀ {j p : Nat} {row : Row}, rows[j]? = some row → row.parent = some p →
    p < j ∧ ∃ outer, rows[p]? = some outer ∧ j < outer.stop
  closest : ∀ {i j : Nat} {outer inner : Row}, rows[i]? = some outer → rows[j]? = some inner →
    i < j → j < outer.stop → ∃ p, inner.parent = some p ∧ i ≤ p
  argument : ∀ {i : Nat} {row : Row} {span : Span}, rows[i]? = some row → span ∈ row.arguments →
    ∃ j argument, i < j ∧ j < row.stop ∧ rows[j]? = some argument ∧ argument.span = span

/-- The table of a tree is one. -/
theorem isTable_table (tree : Tree) : IsTable tree.table := by
  have hlength : tree.table.length = Tree.sizeAll [tree] := by
    rw [Tree.table_eq_rows, Tree.length_rowsAll]
  rw [Tree.table_eq_rows] at hlength ⊢
  constructor
  · intro i row h
    have := Tree.rowsAll_stop _ h
    omega
  · intro i j outer inner hi hj hij hin
    exact Tree.rowsAll_stop_le _ hi hj hij (by omega)
  · intro j p row h hp
    rcases Tree.rowsAll_parent _ h with htop | ⟨q, outer, hparent, hq, houter, hin⟩
    · rw [htop] at hp
      cases hp
    · obtain rfl : p = q := by
        rw [hparent, Option.some.injEq] at hp
        omega
      exact ⟨hq, outer, houter, by omega⟩
  · intro i j outer inner hi hj hij hin
    obtain ⟨p, hparent, hp⟩ := Tree.rowsAll_closest _ hi hj hij (by omega)
    exact ⟨p, by rw [hparent, Nat.zero_add], hp⟩
  · intro i row span h hspan
    obtain ⟨j, argument, hij, hin, hj, rfl⟩ := Tree.rowsAll_argument _ h hspan
    exact ⟨j, argument, hij, by omega, hj, rfl⟩

end SsrBuild
