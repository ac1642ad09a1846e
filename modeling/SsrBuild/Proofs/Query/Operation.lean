import SsrBuild.Proofs.Outcome
import SsrBuild.Proofs.Query.Substitution

/-!
What the operations of a document do when they succeed. A handle has the row at its number if the
row stands (`row_eq_ok_iff`), replacing a node changes rows and edits and nothing else
(`replace_eq_ok_iff`), and the edits of a document that follow one another are put into a span that
holds them (`render_eq_substitute`).
-/

set_option autoImplicit false

namespace SsrBuild.Document

open Text (Span IsBoundary slice? byteCount)

variable {document : Document}

/-- A handle has a row if it belongs to the document and the row at its number stands. -/
theorem row_eq_ok_iff {handle : Handle} {row : Row} :
    document.row handle = .ok row ↔ handle.document = document.id ∧
      document.rows[handle.index]? = some row ∧ row.isDetached = false := by
  unfold Document.row
  by_cases hid : handle.document = document.id
  · cases hfound : document.rows[handle.index]? with
    | none => simp [hid]
    | some found =>
      by_cases hdetached : found.isDetached
      · simp only [hid, beq_self_eq_true, if_pos, hdetached, reduceCtorEq,
          Option.some.injEq, true_and, false_iff, not_and, Bool.not_eq_false]
        rintro rfl
        exact hdetached
      · simp only [hid, beq_self_eq_true, if_pos, hdetached, Except.ok.injEq,
          Option.some.injEq, true_and, Bool.false_eq_true, if_false]
        refine ⟨fun heq ↦ ⟨heq, ?_⟩, And.left⟩
        subst heq
        simpa using hdetached
  · simp [hid]

/-- The handles of a stretch are those of its rows that stand and satisfy the test. -/
theorem mem_handlesBetween_iff {start stop : Nat} {test : Row → Bool} {handle : Handle} :
    handle ∈ document.handlesBetween start stop test ↔ ∃ row, document.row handle = .ok row ∧
      start ≤ handle.index ∧ handle.index < stop ∧ test row = true := by
  constructor
  · intro h
    obtain ⟨⟨row, index⟩, hmem, hif⟩ := List.mem_filterMap.mp h
    obtain ⟨htest, hsome⟩ := Option.ite_none_right_eq_some.mp hif
    obtain rfl := Option.some.inj hsome
    simp only [Bool.and_eq_true, Bool.not_eq_true', decide_eq_true_eq] at htest
    obtain ⟨⟨⟨hstart, hstop⟩, hstands⟩, htest⟩ := htest
    exact ⟨row, row_eq_ok_iff.mpr ⟨rfl, List.mem_zipIdx_iff_getElem?.mp hmem, hstands⟩, hstart,
      hstop, htest⟩
  · rintro ⟨row, hrow, hstart, hstop, htest⟩
    obtain ⟨hid, hfound, hstands⟩ := row_eq_ok_iff.mp hrow
    refine List.mem_filterMap.mpr
      ⟨(row, handle.index), List.mem_zipIdx_iff_getElem?.mpr hfound, ?_⟩
    simp [hstart, hstop, hstands, htest, Document.handle, ← hid]

/-- Detaching changes no more than the flags of the rows in between. -/
theorem getElem?_detach (start stop : Nat) (rows : List Row) (index : Nat) :
    (detach start stop rows)[index]? = rows[index]?.map fun row ↦
      { row with isDetached := row.isDetached || (decide (start ≤ index) && decide (index < stop)) }
      := by
  unfold detach
  rw [List.getElem?_mapIdx]
  cases rows[index]? with
  | none => rfl
  | some row =>
    by_cases hin : start ≤ index ∧ index < stop
    · simp [hin]
    · have hout : (decide (start ≤ index) && decide (index < stop)) = false := by
        simpa using hin
      simp [hout]

/-- Replacing a node needs a handle that stands and a fragment that has a text. -/
theorem replace_eq_ok_iff {handle : Handle} {fragment : Fragment} {next : Document} :
    document.replace handle fragment = .ok next ↔
      ∃ row text, document.row handle = .ok row ∧ document.renderFragment fragment = .ok text ∧
        next = { document with
          rows := detach handle.index row.stop document.rows
          edits := insertEdit ⟨row.span, text⟩
            (document.edits.filter fun edit ↦ !row.span.covers edit.span) } := by
  unfold Document.replace
  constructor
  · intro h
    obtain ⟨row, hrow, h⟩ := bind_eq_ok_iff.mp h
    obtain ⟨text, htext, h⟩ := bind_eq_ok_iff.mp h
    exact ⟨row, text, hrow, htext, (Except.ok.inj h).symm⟩
  · rintro ⟨row, text, hrow, htext, rfl⟩
    exact bind_eq_ok_iff.mpr ⟨row, hrow, bind_eq_ok_iff.mpr ⟨text, htext, rfl⟩⟩

/-- The text of a node that stands is that of its span. -/
theorem text_of_row {handle : Handle} {row : Row} (h : document.row handle = .ok row) :
    document.text handle = document.render row.span := by
  unfold Document.text
  rw [h]
  rfl

/-- The text of a span is its slice of the source with the edits inside it put in their places. -/
theorem render_eq_substitute {span : Span} {offset : Nat} (hfollow : FollowFrom offset document.edits)
    (hboundary : ∀ edit ∈ document.edits, IsBoundary document.source edit.span.start ∧
      IsBoundary document.source edit.span.stop) {whole : List Char}
    (hwhole : slice? document.source span.start span.stop = some whole) {edits : List Edit}
    (hperm : (document.edits.filter fun edit ↦ span.covers edit.span).Perm edits) :
    document.render span = .ok (substitute edits span.start whole) := by
  set inside := document.edits.filter fun edit ↦ span.covers edit.span
  have hinside : ∀ edit ∈ inside, edit ∈ document.edits ∧ span.start ≤ edit.span.start ∧
      edit.span.stop ≤ span.stop := by
    intro edit hedit
    obtain ⟨hmem, hcovers⟩ := List.mem_filter.mp hedit
    simp only [Span.covers, Bool.and_eq_true, decide_eq_true_eq] at hcovers
    exact ⟨hmem, hcovers⟩
  have hfollowInside : FollowFrom span.start inside :=
    (hfollow.filter _).of_le fun edit hedit ↦ (hinside edit hedit).2.1
  have hspliced : splice document.source span.start span.stop inside =
      some (substitute inside span.start whole) :=
    splice_eq_substitute inside hwhole hfollowInside fun edit hedit ↦
      ⟨(hinside edit hedit).2.2, hboundary edit (hinside edit hedit).1⟩
  unfold render
  rw [hspliced, substitute_perm hperm hfollowInside.pairwise]

end SsrBuild.Document
