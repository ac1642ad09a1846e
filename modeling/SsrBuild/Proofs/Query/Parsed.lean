import SsrBuild.Proofs.Tree.Ancestry
import SsrBuild.Query.Document

/-!
Documents as they are when they have been parsed. The rules of the grammar count characters, and the
spans of the finished tree are the byte offsets of what they have counted, so every span begins and
ends between characters (`isFresh_of_parse`).
-/

set_option autoImplicit false

namespace SsrBuild

open Text (Span IsBoundary byteCount)

namespace Tree

/-- Where the spans of trees have been changed, every row has a changed span and stands. -/
theorem rowsAll_mapSpansAll (change : Span → Span) (trees : List Tree) :
    ∀ {above : Option Nat} {start : Nat} {found : Row},
      found ∈ rowsAll above start (mapSpansAll change trees) →
        (∃ span, found.span = change span) ∧ found.isDetached = false := by
  induction trees using forestInduction with
  | nil => intro above start found h; simp [mapSpansAll, rowsAll] at h
  | cons label span children rest ihChildren ihRest =>
    intro above start found h
    simp only [mapSpansAll, mapSpans, rowsAll, rows, List.cons_append, List.mem_cons,
      List.mem_append] at h
    rcases h with rfl | hbelow | hafter
    · exact ⟨⟨span, rfl⟩, rfl⟩
    · exact ihChildren hbelow
    · exact ihRest hafter

end Tree

namespace Document

/-- A document as it is when it has been parsed: a table of nodes that all stand, the first of which
is the whole source, spans between characters, and no edits. -/
structure IsFresh (document : Document) : Prop where
  isTable : IsTable document.rows
  standing : ∀ row ∈ document.rows, row.isDetached = false
  root : ∃ row, document.rows[0]? = some row ∧ row.stop = document.rows.length ∧
    row.span = ⟨0, byteCount document.source⟩
  boundary : ∀ row ∈ document.rows, IsBoundary document.source row.span.start ∧
    IsBoundary document.source row.span.stop
  edits : document.edits = []

/-- Where every span lies inside that of the parent, all spans go forward. -/
theorem IsFresh.start_le_stop {document : Document} (hfresh : document.IsFresh)
    (hinside : ChildrenInside document.rows) {index : Nat} {row : Row}
    (hrow : document.rows[index]? = some row) : row.span.start ≤ row.span.stop := by
  obtain ⟨top, htop, hstop, hspan⟩ := hfresh.root
  by_cases hzero : index = 0
  · subst hzero
    obtain rfl : row = top := Option.some.inj (hrow.symm.trans htop)
    rw [hspan]
    exact Nat.zero_le _
  · have hlt := (List.getElem?_eq_some_iff.mp hrow).1
    obtain ⟨p, hparent, -⟩ := hfresh.isTable.closest htop hrow (by omega) (by omega)
    obtain ⟨-, outer, houter, -⟩ := hfresh.isTable.parent hrow hparent
    exact (hinside row (List.mem_of_getElem? hrow) p hparent outer houter).2.1

/-- A parsed document holds the table of the tree of its program. -/
theorem exists_tree {id : Nat} {dialect : Grammar.Dialect} {source : List Char}
    {document : Document} (h : parse id dialect source = .ok document) :
    ∃ tree, Grammar.parseProgram dialect source = some tree ∧
      document = ⟨id, source, tree.table, []⟩ := by
  unfold parse at h
  split at h
  · next tree htree => exact ⟨tree, htree, (Except.ok.inj h).symm⟩
  · cases h

/-- The tree of a program has the statements that are read, with its spans in bytes. -/
theorem exists_accept {dialect : Grammar.Dialect} {source : List Char} {tree : Tree}
    (h : Grammar.parseProgram dialect source = some tree) :
    ∃ statements, Grammar.accept dialect source
        (Grammar.program (Grammar.parseGoal (Grammar.depthOf source))) = some statements ∧
      tree = (Tree.node .program ⟨0, source.length⟩ statements).mapSpans (Span.inBytes source) := by
  obtain ⟨statements, haccept, hfinish⟩ := Option.bind_eq_some_iff.mp h
  simp only [Grammar.finish] at hfinish
  split_ifs at hfinish
  exact ⟨statements, haccept, (Option.some.inj hfinish).symm⟩

/-- A parsed document holds the table of its tree: the program with the statements that are read. -/
theorem exists_statements {id : Nat} {dialect : Grammar.Dialect} {source : List Char}
    {document : Document} (h : parse id dialect source = .ok document) :
    ∃ statements, Grammar.accept dialect source
        (Grammar.program (Grammar.parseGoal (Grammar.depthOf source))) = some statements ∧
      document = ⟨id, source, ((Tree.node .program ⟨0, source.length⟩
        statements).mapSpans (Span.inBytes source)).table, []⟩ := by
  obtain ⟨tree, htree, rfl⟩ := exists_tree h
  obtain ⟨statements, haccept, rfl⟩ := exists_accept htree
  exact ⟨statements, haccept, rfl⟩

/-- A parsed document holds the table of its tree, the root of which is the program. -/
theorem parse_eq_ok {id : Nat} {dialect : Grammar.Dialect} {source : List Char}
    {document : Document} (h : parse id dialect source = .ok document) :
    ∃ statements, document = ⟨id, source, ((Tree.node .program ⟨0, source.length⟩
      statements).mapSpans (Span.inBytes source)).table, []⟩ := by
  obtain ⟨statements, -, hdocument⟩ := exists_statements h
  exact ⟨statements, hdocument⟩

/-- A parsed document keeps the source as it was. -/
theorem source_of_parse {id : Nat} {dialect : Grammar.Dialect} {source : List Char}
    {document : Document} (h : parse id dialect source = .ok document) :
    document.source = source := by
  obtain ⟨statements, rfl⟩ := parse_eq_ok h
  rfl

/-- A document that has been parsed is as described. -/
theorem isFresh_of_parse {id : Nat} {dialect : Grammar.Dialect} {source : List Char}
    {document : Document} (h : parse id dialect source = .ok document) : document.IsFresh := by
  obtain ⟨statements, rfl⟩ := parse_eq_ok h
  set tree := (Tree.node .program ⟨0, source.length⟩ statements).mapSpans (Span.inBytes source)
    with htree
  have hspans : ∀ row ∈ tree.table,
      (∃ span, row.span = Span.inBytes source span) ∧ row.isDetached = false := by
    intro row hrow
    rw [Tree.table_eq_rows] at hrow
    exact Tree.rowsAll_mapSpansAll (Span.inBytes source)
      [.node .program ⟨0, source.length⟩ statements] hrow
  refine ⟨isTable_table tree, fun row hrow ↦ (hspans row hrow).2, ?_, ?_, rfl⟩
  · refine ⟨tree.row none tree.size, ?_, ?_, ?_⟩
    · show tree.table[0]? = _
      rw [Tree.table_eq_rows]
      simp [htree, Tree.mapSpans, Tree.rowsAll, Tree.rows, Tree.size]
    · show tree.size = tree.table.length
      rw [Tree.table_eq_rows, Tree.length_rowsAll]
      rfl
    · simp [htree, Tree.row, Tree.mapSpans, Span.inBytes, Text.byteOffset]
  · intro row hrow
    obtain ⟨⟨span, hspan⟩, -⟩ := hspans row hrow
    rw [hspan]
    exact ⟨Text.isBoundary_byteOffset source span.start, Text.isBoundary_byteOffset source span.stop⟩

end Document

end SsrBuild
