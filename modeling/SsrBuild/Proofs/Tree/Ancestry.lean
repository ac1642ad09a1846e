import SsrBuild.Proofs.Text.Boundary
import SsrBuild.Proofs.Tree.Table

/-!
The nodes above a node, found by going from parent to parent. In a table these are the rows whose
subtrees hold the row (`mem_ancestors_iff`). Where every span lies inside that of the parent, the
span of a node lies inside those of all nodes above it (`ChildrenInside.inside`).
-/

set_option autoImplicit false

namespace SsrBuild

open Text (Span IsBoundary byteCount)

/-- The numbers of the rows above a row, the closest first. -/
def ancestors (rows : List Row) (index : Nat) : List Nat :=
  match rows[index]?.bind Row.parent with
  | some above => if above < index then above :: ancestors rows above else []
  | none => []
termination_by index

/-- A node is above another one if the subtree of the first holds the second. -/
theorem mem_ancestors_iff {rows : List Row} (hrows : IsTable rows) {i j : Nat} :
    i ∈ ancestors rows j ↔ ∃ outer, rows[i]? = some outer ∧ i < j ∧ j < outer.stop := by
  induction j using Nat.strongRecOn with
  | ind j ih =>
    rw [ancestors]
    cases hj : rows[j]? with
    | none =>
      refine iff_of_false (by simp) ?_
      rintro ⟨outer, hi, -, hin⟩
      have hstop := (hrows.stop hi).2
      have hlength := List.getElem?_eq_none_iff.mp hj
      omega
    | some row =>
      cases hparent : row.parent with
      | none =>
        refine iff_of_false (by simp [hparent]) ?_
        rintro ⟨outer, hi, hij, hin⟩
        obtain ⟨p, hp, -⟩ := hrows.closest hi hj hij hin
        rw [hparent] at hp
        cases hp
      | some p =>
        obtain ⟨hpj, middle, hmiddle, hjMiddle⟩ := hrows.parent hj hparent
        simp only [Option.bind_some, hparent, if_pos hpj, List.mem_cons]
        constructor
        · rintro (rfl | hmem)
          · exact ⟨middle, hmiddle, hpj, hjMiddle⟩
          · obtain ⟨outer, hi, hip, hin⟩ := (ih p hpj).mp hmem
            have hle := hrows.stop_le hi hmiddle hip hin
            exact ⟨outer, hi, by omega, by omega⟩
        · rintro ⟨outer, hi, hij, hin⟩
          obtain ⟨q, hq, hiq⟩ := hrows.closest hi hj hij hin
          obtain rfl : q = p := by
            rw [hparent] at hq
            exact (Option.some.inj hq).symm
          by_cases heq : i = q
          · exact Or.inl heq
          · exact Or.inr ((ih q hpj).mpr ⟨outer, hi, by omega, by omega⟩)

/-- What is above a node above a node is above the node. -/
theorem mem_ancestors_trans {rows : List Row} (hrows : IsTable rows) {i j k : Nat}
    (hij : i ∈ ancestors rows j) (hjk : j ∈ ancestors rows k) : i ∈ ancestors rows k := by
  obtain ⟨outer, houter, hlt, hin⟩ := (mem_ancestors_iff hrows).mp hij
  obtain ⟨middle, hmiddle, hmiddleLt, hmiddleIn⟩ := (mem_ancestors_iff hrows).mp hjk
  have hle := hrows.stop_le houter hmiddle hlt hin
  exact (mem_ancestors_iff hrows).mpr ⟨outer, houter, by omega, by omega⟩

/-- The rows strictly below a row are those after it up to the end of its subtree. -/
theorem mem_ancestors_of_row {rows : List Row} (hrows : IsTable rows) {i : Nat} {outer : Row}
    (hi : rows[i]? = some outer) (j : Nat) : i ∈ ancestors rows j ↔ i < j ∧ j < outer.stop := by
  rw [mem_ancestors_iff hrows]
  constructor
  · rintro ⟨found, hfound, hlt, hin⟩
    obtain rfl : found = outer := Option.some.inj (hfound.symm.trans hi)
    exact ⟨hlt, hin⟩
  · rintro ⟨hlt, hin⟩
    exact ⟨outer, hi, hlt, hin⟩

/-- The rows of a subtree are the first one and those below it. -/
theorem le_and_lt_stop_iff {rows : List Row} (hrows : IsTable rows) {i : Nat} {outer : Row}
    (hi : rows[i]? = some outer) (j : Nat) :
    i ≤ j ∧ j < outer.stop ↔ i = j ∨ i ∈ ancestors rows j := by
  have hown := (hrows.stop hi).1
  rw [mem_ancestors_of_row hrows hi]
  omega

/-- The nodes above a node are its parent and the nodes above that. -/
theorem ancestors_of_parent {rows : List Row} (hrows : IsTable rows) {j p : Nat} {row : Row}
    (hrow : rows[j]? = some row) (hparent : row.parent = some p) :
    ancestors rows j = p :: ancestors rows p := by
  have hlt := (hrows.parent hrow hparent).1
  rw [ancestors, hrow, Option.bind_some, hparent]
  exact if_pos hlt

/-- Below every node above another one there is one of its children that is the other node or above
it. -/
theorem exists_child_of_ancestor {rows : List Row} (hrows : IsTable rows) {i j : Nat}
    (h : i ∈ ancestors rows j) : ∃ child row, rows[child]? = some row ∧ row.parent = some i ∧
      (child = j ∨ child ∈ ancestors rows j) := by
  induction j using Nat.strongRecOn with
  | ind j ih =>
    obtain ⟨outer, houter, hlt, hin⟩ := (mem_ancestors_iff hrows).mp h
    have hj : j < rows.length := Nat.lt_of_lt_of_le hin (hrows.stop houter).2
    have hrow := List.getElem?_eq_getElem hj
    obtain ⟨p, hparent, -⟩ := hrows.closest houter hrow hlt hin
    have habove := ancestors_of_parent hrows hrow hparent
    rw [habove] at h
    rcases List.mem_cons.mp h with rfl | h
    · exact ⟨j, _, hrow, hparent, Or.inl rfl⟩
    · obtain ⟨child, row, hchild, hchildParent, hbelow⟩ := ih p (hrows.parent hrow hparent).1 h
      refine ⟨child, row, hchild, hchildParent, Or.inr ?_⟩
      rw [habove]
      exact List.mem_cons.mpr hbelow

/-- Of two children of a node the subtree of the first one ends before the second one. -/
theorem stop_le_of_siblings {rows : List Row} (hrows : IsTable rows) {i j p : Nat}
    {first second : Row} (hi : rows[i]? = some first) (hj : rows[j]? = some second)
    (hfirst : first.parent = some p) (hsecond : second.parent = some p) (hlt : i < j) :
    first.stop ≤ j := by
  by_contra hin
  obtain ⟨closest, hclosest, hle⟩ := hrows.closest hi hj hlt (by omega)
  obtain rfl : closest = p := Option.some.inj (hclosest.symm.trans hsecond)
  have := (hrows.parent hi hfirst).1
  omega

/-- One of the nodes is above the other, or they are the same. -/
def Related (rows : List Row) (i j : Nat) : Prop :=
  i = j ∨ i ∈ ancestors rows j ∨ j ∈ ancestors rows i

instance (rows : List Row) (i j : Nat) : Decidable (Related rows i j) :=
  inferInstanceAs (Decidable (_ ∨ _))

/-- Two nodes above a node are related. -/
theorem related_of_mem_ancestors {rows : List Row} (hrows : IsTable rows) {i j k : Nat}
    (hi : i ∈ ancestors rows k) (hj : j ∈ ancestors rows k) : Related rows i j := by
  obtain ⟨first, hfirst, hik, hkFirst⟩ := (mem_ancestors_iff hrows).mp hi
  obtain ⟨second, hsecond, hjk, hkSecond⟩ := (mem_ancestors_iff hrows).mp hj
  rcases Nat.lt_trichotomy i j with hlt | heq | hlt
  · exact Or.inr (Or.inl ((mem_ancestors_iff hrows).mpr ⟨first, hfirst, hlt, by omega⟩))
  · exact Or.inl heq
  · exact Or.inr (Or.inr ((mem_ancestors_iff hrows).mpr ⟨second, hsecond, hlt, by omega⟩))

/-! ### Spans -/

/-- The span goes forward and lies inside another one. -/
def Text.Span.IsInside (inner outer : Span) : Prop :=
  outer.start ≤ inner.start ∧ inner.start ≤ inner.stop ∧ inner.stop ≤ outer.stop

instance (inner outer : Span) : Decidable (inner.IsInside outer) :=
  inferInstanceAs (Decidable (_ ∧ _))

/-- The span of every node lies inside that of its parent. -/
def ChildrenInside (rows : List Row) : Prop :=
  ∀ row ∈ rows, ∀ p ∈ row.parent, ∀ outer ∈ rows[p]?, row.span.IsInside outer.span

instance (rows : List Row) : Decidable (ChildrenInside rows) :=
  inferInstanceAs (Decidable (∀ _ ∈ rows, _))

/-- The span of a node lies inside those of all nodes above it. -/
theorem ChildrenInside.inside {rows : List Row} (hinside : ChildrenInside rows)
    (hrows : IsTable rows) {i j : Nat} {outer inner : Row} (hi : rows[i]? = some outer)
    (hj : rows[j]? = some inner) (hij : i ∈ ancestors rows j) :
    inner.span.IsInside outer.span := by
  induction j using Nat.strongRecOn generalizing inner with
  | ind j ih =>
    obtain ⟨holder, hholder, hlt, hin⟩ := (mem_ancestors_iff hrows).mp hij
    obtain ⟨p, hparent, hip⟩ := hrows.closest hholder hj hlt hin
    obtain ⟨hpj, middle, hmiddle, hjMiddle⟩ := hrows.parent hj hparent
    have hstep : inner.span.IsInside middle.span :=
      hinside inner (List.mem_of_getElem? hj) p hparent middle hmiddle
    by_cases heq : i = p
    · subst heq
      rw [hi, Option.some.injEq] at hmiddle
      exact hmiddle ▸ hstep
    · have habove : i ∈ ancestors rows p :=
        (mem_ancestors_iff hrows).mpr ⟨holder, hholder, by omega, by omega⟩
      have hrest := ih p hpj hmiddle habove
      unfold Text.Span.IsInside at *
      omega

end SsrBuild
