import SsrBuild.Proofs.Query.EditList

/-!
What a fragment comes to, and what a replacement does when something is wrong with it. The text of a
fragment is put together from the texts of the handles in it (`Fragment.fill`), which are asked for
one after the other, so the fragment has a text exactly if all of them do, and otherwise fails as the
first one that fails (`Document.renderFragment_eq`). A replacement asks for all of this before it
changes anything: done in place, step by step, it leaves the document as it was wherever it fails
(`Document.run_replaceInPlace_of_error`). It is refused as stale for its target or for a handle in the
fragment, unless text is missing for a handle before that one (`Document.replace_outcome`).
-/

set_option autoImplicit false

namespace SsrBuild

open Text (Span)

/-! ### Fragments and the handles in them -/

namespace Fragment

mutual

/-- The handles in a fragment, in the order in which their texts are asked for. -/
def leaves : Fragment → List Handle
  | source _ => []
  | node handle => [handle]
  | call callee arguments => callee.leaves ++ leavesAll arguments
  | parameters list => leavesAll list

/-- The handles in several fragments. -/
def leavesAll : List Fragment → List Handle
  | [] => []
  | fragment :: rest => fragment.leaves ++ leavesAll rest

end

mutual

/-- The text of a fragment in which every handle stands for a text. -/
def fill (texts : Handle → List Char) : Fragment → List Char
  | source text => text
  | node handle => texts handle
  | call callee arguments => callee.fill texts ++ Document.listed (fillAll texts arguments)
  | parameters list => Document.listed (fillAll texts list)

/-- The texts of several fragments in which every handle stands for a text. -/
def fillAll (texts : Handle → List Char) : List Fragment → List (List Char)
  | [] => []
  | fragment :: rest => fragment.fill texts :: fillAll texts rest

end

mutual

/-- A fragment is filled in the same way by texts that agree on the handles in it. -/
theorem fill_congr {texts others : Handle → List Char} : (fragment : Fragment) →
    (∀ leaf ∈ fragment.leaves, texts leaf = others leaf) →
      fragment.fill texts = fragment.fill others
  | .source text, _ => rfl
  | .node handle, h => by
    rw [fill, fill]
    exact h handle (by rw [leaves]; exact List.mem_singleton_self handle)
  | .call callee arguments, h => by
    rw [leaves, List.forall_mem_append] at h
    rw [fill, fill, fill_congr callee h.1, fillAll_congr arguments h.2]
  | .parameters list, h => by
    rw [leaves] at h
    rw [fill, fill, fillAll_congr list h]

theorem fillAll_congr {texts others : Handle → List Char} : (fragments : List Fragment) →
    (∀ leaf ∈ leavesAll fragments, texts leaf = others leaf) →
      fillAll texts fragments = fillAll others fragments
  | [], _ => rfl
  | fragment :: rest, h => by
    rw [leavesAll, List.forall_mem_append] at h
    rw [fillAll, fillAll, fill_congr fragment h.1, fillAll_congr rest h.2]

end

end Fragment

namespace Document

/-- The text of a node, or nothing where there is none. -/
def currentText (document : Document) (handle : Handle) : List Char :=
  (document.text handle).toOption.getD []

variable {document : Document}

theorem currentText_of_text {handle : Handle} {text : List Char}
    (h : document.text handle = .ok text) : document.currentText handle = text := by
  rw [currentText, h]
  rfl

mutual

/-- A fragment asks for the texts of its handles one after the other, and is filled with them. -/
theorem renderFragment_eq (document : Document) : (fragment : Fragment) →
    document.renderFragment fragment =
      (fragment.leaves.mapM document.text).map fun _ ↦ fragment.fill document.currentText
  | .source text => by
    rw [renderFragment, Fragment.leaves, List.mapM_nil, Fragment.fill]
    rfl
  | .node handle => by
    rw [renderFragment, Fragment.leaves, List.mapM_cons, List.mapM_nil, Fragment.fill]
    cases htext : document.text handle with
    | error error => rfl
    | ok text =>
      rw [currentText_of_text htext]
      rfl
  | .call callee arguments => by
    rw [renderFragment, renderFragment_eq document callee, renderFragments_eq document arguments,
      Fragment.leaves, List.mapM_append, Fragment.fill]
    cases callee.leaves.mapM document.text with
    | error error => rfl
    | ok texts =>
      cases (Fragment.leavesAll arguments).mapM document.text with
      | error error => rfl
      | ok others => rfl
  | .parameters list => by
    rw [renderFragment, renderFragments_eq document list, Fragment.leaves, Fragment.fill]
    cases (Fragment.leavesAll list).mapM document.text with
    | error error => rfl
    | ok texts => rfl

theorem renderFragments_eq (document : Document) : (fragments : List Fragment) →
    document.renderFragments fragments =
      ((Fragment.leavesAll fragments).mapM document.text).map fun _ ↦
        Fragment.fillAll document.currentText fragments
  | [] => by
    rw [renderFragments, Fragment.leavesAll, List.mapM_nil, Fragment.fillAll]
    rfl
  | fragment :: rest => by
    rw [renderFragments, renderFragment_eq document fragment, renderFragments_eq document rest,
      Fragment.leavesAll, List.mapM_append, Fragment.fillAll]
    cases fragment.leaves.mapM document.text with
    | error error => rfl
    | ok texts =>
      cases (Fragment.leavesAll rest).mapM document.text with
      | error error => rfl
      | ok others => rfl

end

/-- A fragment has a text if all handles in it do, and is filled with their texts. -/
theorem renderFragment_eq_ok_iff {fragment : Fragment} {text : List Char} :
    document.renderFragment fragment = .ok text ↔
      (∀ leaf ∈ fragment.leaves, ∃ inner, document.text leaf = .ok inner) ∧
        fragment.fill document.currentText = text := by
  rw [renderFragment_eq, map_eq_ok_iff, ← exists_mapM_eq_ok_iff, exists_and_right]

/-- A fragment fails as the first handle in it that fails. -/
theorem renderFragment_eq_error_iff {fragment : Fragment} {error : QueryError} :
    document.renderFragment fragment = .error error ↔
      ∃ before leaf after, fragment.leaves = before ++ leaf :: after ∧
        (∀ earlier ∈ before, ∃ text, document.text earlier = .ok text) ∧
        document.text leaf = .error error := by
  rw [renderFragment_eq, map_eq_error_iff, mapM_eq_error_iff]

/-! ### Why there is no text -/

/-- The text of a span fails only where edits overlap. -/
theorem render_eq_error {span : Span} {error : QueryError}
    (h : document.render span = .error error) : error = .overlap := by
  unfold render at h
  split at h
  · cases h
  · exact (Except.error.inj h).symm

/-- The look-up of a handle fails only as stale. -/
theorem row_eq_error_iff {handle : Handle} {error : QueryError} :
    document.row handle = .error error ↔
      error = .staleHandle ∧ ¬ ∃ row, document.row handle = .ok row := by
  cases hrow : document.row handle with
  | error found =>
    obtain rfl := row_eq_error hrow
    simp [eq_comm]
  | ok row => simp

/-- A handle has no text where it has no row, or where edits overlap inside its span. -/
theorem text_eq_error_iff {handle : Handle} {error : QueryError} :
    document.text handle = .error error ↔
      (error = .staleHandle ∧ ¬ ∃ row, document.row handle = .ok row) ∨
        (error = .overlap ∧ ∃ row, document.row handle = .ok row ∧
          document.render row.span = .error .overlap) := by
  unfold Document.text
  rw [bind_eq_error_iff, row_eq_error_iff]
  refine or_congr_right ⟨?_, ?_⟩
  · rintro ⟨row, hrow, hrender⟩
    obtain rfl := render_eq_error hrender
    exact ⟨rfl, row, hrow, hrender⟩
  · rintro ⟨rfl, row, hrow, hrender⟩
    exact ⟨row, hrow, hrender⟩

/-- A handle is stale for its text if it has no row. -/
theorem text_eq_staleHandle_iff {handle : Handle} :
    document.text handle = .error .staleHandle ↔ ¬ ∃ row, document.row handle = .ok row := by
  simp [text_eq_error_iff]

/-- The text of a handle that has a row is the source within the span of the row, with the edits
inside it spliced in. -/
theorem exists_splice_of_text {handle : Handle} {text : List Char}
    (h : document.text handle = .ok text) : ∃ row, document.row handle = .ok row ∧
      splice document.source row.span.start row.span.stop
        (document.edits.filter fun edit ↦ row.span.covers edit.span) = some text := by
  obtain ⟨row, hrow, hrender⟩ := bind_eq_ok_iff.mp h
  refine ⟨row, hrow, ?_⟩
  unfold render at hrender
  split at hrender
  · next found hfound => rw [hfound, Except.ok.inj hrender]
  · cases hrender

/-! ### Replacing in place -/

/-- Replaces a node in the document itself: the row and the text of the fragment are asked for, then
the rows are detached, the edits inside the span are taken back and the new one is put in. -/
def replaceInPlace (handle : Handle) (fragment : Fragment) :
    ExceptT QueryError (StateM Document) Unit := do
  let row ← liftM ((← get).row handle)
  let text ← liftM ((← get).renderFragment fragment)
  modify fun document ↦
    { document with rows := detach handle.index row.stop document.rows }
  modify fun document ↦
    { document with edits := document.edits.filter fun edit ↦ !row.span.covers edit.span }
  modify fun document ↦
    { document with edits := insertEdit ⟨row.span, text⟩ document.edits }

/-- Replacing in place comes to the document that a replacement gives. -/
theorem run_replaceInPlace_of_ok {handle : Handle} {fragment : Fragment} {next : Document}
    (h : document.replace handle fragment = .ok next) :
    (replaceInPlace handle fragment).run.run document = (.ok (), next) := by
  obtain ⟨row, text, hrow, htext, rfl⟩ := replace_eq_ok_iff.mp h
  unfold replaceInPlace
  rw [run_bind_of_ok (run_get document), hrow, run_bind_of_ok (run_liftM (.ok row) document),
    run_bind_of_ok (run_get document), htext, run_bind_of_ok (run_liftM (.ok text) document),
    run_bind_of_ok (run_modify _ document), run_bind_of_ok (run_modify _ _), run_modify]

/-- Where a replacement fails, nothing has been changed in place. -/
theorem run_replaceInPlace_of_error {handle : Handle} {fragment : Fragment} {error : QueryError}
    (h : document.replace handle fragment = .error error) :
    (replaceInPlace handle fragment).run.run document = (.error error, document) := by
  unfold replaceInPlace
  rw [run_bind_of_ok (run_get document)]
  rcases bind_eq_error_iff.mp h with hrow | ⟨row, hrow, h⟩
  · rw [hrow, run_bind_of_error (run_liftM (.error error) document)]
  · rcases bind_eq_error_iff.mp h with htext | ⟨text, -, h⟩
    · rw [hrow, run_bind_of_ok (run_liftM (.ok row) document),
        run_bind_of_ok (run_get document), htext,
        run_bind_of_error (run_liftM (.error error) document)]
    · cases h

/-! ### The outcome of a replacement -/

/-- A replacement fails as the look-up of its target does, or as its fragment does. -/
theorem replace_eq_error_iff {handle : Handle} {fragment : Fragment} {error : QueryError} :
    document.replace handle fragment = .error error ↔
      (error = .staleHandle ∧ ¬ ∃ row, document.row handle = .ok row) ∨
        ((∃ row, document.row handle = .ok row) ∧
          document.renderFragment fragment = .error error) := by
  unfold replace
  simp only [bind_eq_error_iff, row_eq_error_iff, pure, Except.pure, reduceCtorEq, and_false,
    exists_false, or_false, exists_and_right]

/-- The edits inside the span of a node that is replaced are taken back and the new one is the only
one there. All other edits are left. -/
theorem filter_edits_of_replace {handle : Handle} {fragment : Fragment} {next : Document} {row : Row}
    (h : document.replace handle fragment = .ok next) (hrow : document.row handle = .ok row) :
    next.edits.filter (fun edit ↦ row.span.covers edit.span) =
        [⟨row.span, fragment.fill document.currentText⟩] ∧
      next.edits.filter (fun edit ↦ !row.span.covers edit.span) =
        document.edits.filter fun edit ↦ !row.span.covers edit.span := by
  obtain ⟨found, text, hfound, htext, rfl⟩ := replace_eq_ok_iff.mp h
  obtain rfl : found = row := Except.ok.inj (hfound.symm.trans hrow)
  obtain ⟨-, rfl⟩ := renderFragment_eq_ok_iff.mp htext
  have hself : found.span.covers found.span = true := by simp [Span.covers]
  set edit : Edit := ⟨found.span, fragment.fill document.currentText⟩
  set kept := document.edits.filter fun edit ↦ !found.span.covers edit.span
  have hnone : kept.filter (fun edit ↦ found.span.covers edit.span) = [] := by
    refine List.filter_eq_nil_iff.mpr fun other hother ↦ ?_
    simpa using (List.mem_filter.mp hother).2
  constructor
  · have hperm := (insertEdit_perm edit kept).filter fun edit ↦ found.span.covers edit.span
    rw [List.filter_cons_of_pos (by exact hself), hnone] at hperm
    exact List.perm_singleton.mp hperm
  · rw [filter_insertEdit_of_false (by simpa [edit] using hself), List.filter_filter]
    simp only [Bool.and_self, kept]

/-- A replacement of a handle by a fragment is refused as stale exactly if the handle has no row, or
one in the fragment has none and all before it have texts. It fails for overlapping edits exactly if
they stand inside the span of a handle in the fragment and all handles before that one have texts;
unless this is so, a stale handle is refused wherever it stands in the fragment. There is no other
failure, and none of them changes anything, neither the rows nor the edits, when the node is replaced
in place. A replacement that succeeds fills the fragment with the texts that its handles have before
any edit is taken back, those of the target and of the nodes below it too. Afterwards its edit is the
only one inside the span of the target, and all outside are left. -/
theorem replace_outcome (document : Document) (handle : Handle) (fragment : Fragment) :
    (document.replace handle fragment = .error .staleHandle ↔
      (¬ ∃ row, document.row handle = .ok row) ∨
        ∃ before leaf after, fragment.leaves = before ++ leaf :: after ∧
          (∀ earlier ∈ before, ∃ text, document.text earlier = .ok text) ∧
          ¬ ∃ row, document.row leaf = .ok row) ∧
    (document.replace handle fragment = .error .overlap ↔
      (∃ row, document.row handle = .ok row) ∧
        ∃ before leaf after, fragment.leaves = before ++ leaf :: after ∧
          (∀ earlier ∈ before, ∃ text, document.text earlier = .ok text) ∧
          ∃ row, document.row leaf = .ok row ∧ document.render row.span = .error .overlap) ∧
    ((∀ leaf ∈ fragment.leaves, document.text leaf ≠ .error .overlap) →
      (document.replace handle fragment = .error .staleHandle ↔
        (¬ ∃ row, document.row handle = .ok row) ∨
          ∃ leaf ∈ fragment.leaves, ¬ ∃ row, document.row leaf = .ok row)) ∧
    (∀ error, document.replace handle fragment = .error error →
      (error = .staleHandle ∨ error = .overlap) ∧
        (replaceInPlace handle fragment).run.run document = (.error error, document)) ∧
    ∀ next, document.replace handle fragment = .ok next →
      (replaceInPlace handle fragment).run.run document = (.ok (), next) ∧
      (∀ leaf ∈ fragment.leaves, ∃ inner, document.row leaf = .ok inner ∧
        splice document.source inner.span.start inner.span.stop
          (document.edits.filter fun edit ↦ inner.span.covers edit.span) =
            some (document.currentText leaf)) ∧
      ∃ row, document.row handle = .ok row ∧
        next.edits.filter (fun edit ↦ row.span.covers edit.span) =
          [⟨row.span, fragment.fill document.currentText⟩] ∧
        next.edits.filter (fun edit ↦ !row.span.covers edit.span) =
          document.edits.filter fun edit ↦ !row.span.covers edit.span := by
  have hstale : document.replace handle fragment = .error .staleHandle ↔
      (¬ ∃ row, document.row handle = .ok row) ∨
        ∃ before leaf after, fragment.leaves = before ++ leaf :: after ∧
          (∀ earlier ∈ before, ∃ text, document.text earlier = .ok text) ∧
          ¬ ∃ row, document.row leaf = .ok row := by
    simp only [replace_eq_error_iff, renderFragment_eq_error_iff, text_eq_staleHandle_iff, true_and]
    tauto
  refine ⟨hstale, ?_, fun hclear ↦ hstale.trans (or_congr_right ⟨?_, ?_⟩), fun error herror ↦ ?_,
    fun next hnext ↦ ?_⟩
  · simp only [replace_eq_error_iff, renderFragment_eq_error_iff, text_eq_error_iff, reduceCtorEq,
      false_and, true_and, false_or]
  · rintro ⟨before, leaf, after, hleaves, -, hnone⟩
    exact ⟨leaf, by simp [hleaves], hnone⟩
  · -- The first handle without a text is the one that is refused.
    rintro ⟨leaf, hleaf, hnone⟩
    cases htext : document.renderFragment fragment with
    | ok text =>
      obtain ⟨inner, hinner⟩ := (renderFragment_eq_ok_iff.mp htext).1 leaf hleaf
      rw [text_eq_staleHandle_iff.mpr hnone] at hinner
      cases hinner
    | error error =>
      obtain ⟨before, first, after, hleaves, hbefore, hfirst⟩ :=
        renderFragment_eq_error_iff.mp htext
      rcases text_eq_error_iff.mp hfirst with ⟨-, hstaleFirst⟩ | ⟨rfl, -⟩
      · exact ⟨before, first, after, hleaves, hbefore, hstaleFirst⟩
      · exact absurd hfirst (hclear first (by simp [hleaves]))
  · refine ⟨?_, run_replaceInPlace_of_error herror⟩
    rcases replace_eq_error_iff.mp herror with ⟨rfl, -⟩ | ⟨-, htext⟩
    · exact Or.inl rfl
    · obtain ⟨before, leaf, after, -, -, hleaf⟩ := renderFragment_eq_error_iff.mp htext
      exact (text_eq_error_iff.mp hleaf).imp And.left And.left
  · obtain ⟨row, text, hrow, htext, -⟩ := replace_eq_ok_iff.mp hnext
    refine ⟨run_replaceInPlace_of_ok hnext, fun leaf hleaf ↦ ?_, row, hrow,
      filter_edits_of_replace hnext hrow⟩
    obtain ⟨inner, hinner⟩ := (renderFragment_eq_ok_iff.mp htext).1 leaf hleaf
    rw [currentText_of_text hinner]
    exact exists_splice_of_text hinner

/-- The call in a program is replaced by a call of itself, with another document's node among the
arguments: nothing is changed. -/
theorem replaceInPlace_foreignArgument :
    (replaceInPlace ⟨0, 4⟩ (.call (.source ['h']) [.node ⟨0, 4⟩, .node ⟨1, 4⟩])).run.run nestedCalls =
      (.error .staleHandle, nestedCalls) :=
  ((replace_outcome nestedCalls ⟨0, 4⟩
    (.call (.source ['h']) [.node ⟨0, 4⟩, .node ⟨1, 4⟩])).2.2.2.1 .staleHandle rfl).2

/-- A receiver stands inside the list of parameters and beside it in the tree. After both have been
replaced the function has no text, and a fragment that asks for it first does not come to the list,
which is stale. Asked for first, the list is refused. -/
theorem replace_afterReceiver :
    (parse 0 ⟨true, true, false⟩ "function f(this: A) {}\nx;".toList).map (fun start ↦
      let document := (start.perform [(⟨0, 7⟩, .source "(a)".toList), (⟨0, 6⟩, .source ['B'])]).2
      (document.row ⟨0, 7⟩, document.replace ⟨0, 10⟩ (.call (.node ⟨0, 1⟩) [.node ⟨0, 7⟩]),
        document.replace ⟨0, 10⟩ (.call (.node ⟨0, 7⟩) [.node ⟨0, 1⟩]))) =
    .ok (.error .staleHandle, .error .overlap, .error .staleHandle) := by
  decide +kernel

end Document

end SsrBuild
