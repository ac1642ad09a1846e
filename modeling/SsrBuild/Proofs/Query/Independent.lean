import SsrBuild.Proofs.Query.Reached
import SsrBuild.Proofs.Query.Rendering

/-!
Replacements that do not get in each other's way. Two edits that begin at different places are put
in with the same result in either order (`insertEdit_comm`), and none of two replacements of nodes
with spans apart takes back the edit of the other (`filter_insertEdit_of_true`). What is left is the
text of the fragments: a node has the same text after a replacement if it is `Untouched` by it
(`text_of_replace`), and then two replacements come to the same document whichever is made first
(`replace_comm`). Where the spans lie in each other as the nodes do, a node is untouched by all nodes
that are neither above nor below it (`untouched_of_spansApart`). In general this is not enough: the
list of parameters has the type of the receiver in its text though not below it in the tree
(`replace_comm_receiver`).
-/

set_option autoImplicit false

namespace SsrBuild

open Text (Span)

namespace Document

/-! ### Edits put in one after the other -/

/-- Edits that begin at different places can be put in in either order. -/
theorem insertEdit_comm {first second : Edit} (hne : first.span.start ≠ second.span.start)
    (edits : List Edit) :
    insertEdit first (insertEdit second edits) = insertEdit second (insertEdit first edits) := by
  induction edits with
  | nil => grind [insertEdit]
  | cons edit rest ih => grind [insertEdit]

/-- An edit is put in front of edits that begin no earlier. -/
theorem insertEdit_of_le {edit : Edit} {edits : List Edit}
    (h : ∀ other ∈ edits, edit.span.start ≤ other.span.start) :
    insertEdit edit edits = edit :: edits := by
  cases edits with
  | nil => rfl
  | cons first rest => exact if_neg (Nat.not_lt.mpr (h first List.mem_cons_self))

/-- Edits are taken back in the same way before and after one that stays is put in. -/
theorem filter_insertEdit_of_true {edit : Edit} {keep : Edit → Bool} (h : keep edit = true)
    {edits : List Edit}
    (hsorted : edits.Pairwise fun first second ↦ first.span.start ≤ second.span.start) :
    (insertEdit edit edits).filter keep = insertEdit edit (edits.filter keep) := by
  induction edits with
  | nil => simp [insertEdit, h]
  | cons first rest ih =>
    obtain ⟨hfirst, hrest⟩ := List.pairwise_cons.mp hsorted
    by_cases hlt : first.span.start < edit.span.start
    · rw [insertEdit, if_pos hlt, List.filter_cons, List.filter_cons, ih hrest]
      split_ifs
      · rw [insertEdit, if_pos hlt]
      · rfl
    · -- The edit is put in front, and so it is where some of the others are gone.
      have hle : ∀ other ∈ first :: rest, edit.span.start ≤ other.span.start := by
        intro other hother
        rcases List.mem_cons.mp hother with rfl | hmem
        · omega
        · have := hfirst other hmem
          omega
      rw [insertEdit_of_le hle, List.filter_cons_of_pos h,
        insertEdit_of_le fun other hother ↦ hle other (List.mem_filter.mp hother).1]

/-- Rows are detached in either order. -/
theorem detach_comm (start stop other last : Nat) (rows : List Row) :
    detach start stop (detach other last rows) = detach other last (detach start stop rows) := by
  refine List.ext_getElem? fun index ↦ ?_
  simp only [getElem?_detach, Option.map_map]
  congr 1
  funext row
  simp only [Function.comp_apply, Bool.or_right_comm]

/-! ### What a replacement leaves alone -/

variable {start document next : Document} {done : List Replacement} {target handle : Handle}
  {fragment : Fragment}

/-- A node has the same text whatever is put in place of another one: it has a text, is neither the
other node nor below it, its span does not hold that of the other node, and no edit is inside
both. -/
def Untouched (document : Document) (target leaf : Handle) : Prop :=
  ∃ inner outer text, document.row leaf = .ok inner ∧ document.row target = .ok outer ∧
    document.text leaf = .ok text ∧ target.index ≠ leaf.index ∧
    target.index ∉ ancestors document.rows leaf.index ∧
    inner.span.covers outer.span = false ∧
    ∀ edit ∈ document.edits, inner.span.covers edit.span = true →
      outer.span.covers edit.span = false

/-- It has a text. -/
theorem Untouched.exists_text (h : document.Untouched target handle) :
    ∃ text, document.text handle = .ok text := by
  obtain ⟨inner, outer, text, -, -, htext, -⟩ := h
  exact ⟨text, htext⟩

/-- Where spans lie inside those of the nodes above and are apart otherwise, a node that stands is
untouched by another one if neither is above the other. -/
theorem untouched_of_spansApart {id : Nat} {dialect : Grammar.Dialect} {source : List Char}
    (hparse : parse id dialect source = .ok start) (hreached : start.Replaced done document)
    (hinside : ChildrenInside start.rows) {inner outer : Row}
    (hapart : SpansApart start.rows (handle.index :: target.index :: done.map Replacement.node))
    (hinner : document.row handle = .ok inner) (houter : document.row target = .ok outer)
    (hrelated : ¬ Related start.rows handle.index target.index) :
    document.Untouched target handle := by
  have hfresh := isFresh_of_parse hparse
  have hinnerApart : SpansApart start.rows (handle.index :: done.map Replacement.node) :=
    hapart.mono fun node hnode ↦ by
      rcases List.mem_cons.mp hnode with rfl | hnode
      · exact List.mem_cons_self
      · exact List.mem_cons_of_mem _ (List.mem_cons_of_mem _ hnode)
  have houterApart : SpansApart start.rows (target.index :: done.map Replacement.node) :=
    hapart.mono fun node hnode ↦ List.mem_cons_of_mem _ hnode
  have htracks := Tracks.of_replaced hreached hfresh hinside
    (houterApart.mono fun node hnode ↦ List.mem_cons_of_mem _ hnode)
  obtain ⟨whole, -, htext⟩ := htracks.text hfresh hinside hinner hinnerApart
  obtain ⟨⟨first, hfirst, hfirstSpan, -⟩, -⟩ := htracks.row hinner
  obtain ⟨⟨second, hsecond, hsecondSpan, -⟩, -⟩ := htracks.row houter
  have hspans := hapart handle.index List.mem_cons_self target.index
    (List.mem_cons_of_mem _ List.mem_cons_self) hrelated first hfirst second hsecond
  refine ⟨inner, outer, _, hinner, houter, htext, fun h ↦ hrelated (Or.inl h.symm), ?_, ?_, ?_⟩
  · rw [ancestors_of_detached hreached.sameButDetached]
    exact fun habove ↦ hrelated (Or.inr (Or.inr habove))
  · rw [← hfirstSpan, ← hsecondSpan]
    exact hspans.2.1
  · -- An edit inside both spans would be below both nodes.
    intro edit hedit hcovers
    obtain ⟨replacement, hlasting, rfl⟩ := List.mem_map.mp (htracks.edits.mem_iff.mp hedit)
    have hdone := mem_of_mem_lasting hlasting
    rw [← Bool.not_eq_true]
    intro hboth
    have habove := (htracks.covers_iff hfresh hinside hinner hinnerApart hdone).1.mp hcovers
    have hother := (htracks.covers_iff hfresh hinside houter houterApart hdone).1.mp hboth
    exact hrelated (related_of_mem_ancestors hfresh.isTable habove hother)

/-- A node that is neither replaced nor below the one that is keeps its row. -/
theorem row_of_replace (htable : IsTable document.rows) {row : Row}
    (hnext : document.replace target fragment = .ok next) (hrow : document.row handle = .ok row)
    (hne : target.index ≠ handle.index)
    (hnot : target.index ∉ ancestors document.rows handle.index) :
    next.row handle = .ok row := by
  obtain ⟨outer, text, houter, -, rfl⟩ := replace_eq_ok_iff.mp hnext
  obtain ⟨-, htarget, -⟩ := row_eq_ok_iff.mp houter
  obtain ⟨hid, hfound, hstands⟩ := row_eq_ok_iff.mp hrow
  have hbetween := not_congr (le_and_lt_stop_iff htable htarget handle.index)
  have hout : ¬ (target.index ≤ handle.index ∧ handle.index < outer.stop) :=
    hbetween.mpr (not_or.mpr ⟨hne, hnot⟩)
  refine row_eq_ok_iff.mpr ⟨hid, ?_, hstands⟩
  rw [getElem?_detach, hfound, Option.map_some, ← Bool.decide_and, decide_eq_false hout,
    Bool.or_false]

/-- It keeps its text if it is untouched. -/
theorem text_of_replace (htable : IsTable document.rows)
    (hnext : document.replace target fragment = .ok next)
    (huntouched : document.Untouched target handle) :
    next.text handle = document.text handle := by
  obtain ⟨inner, outer, text, hinner, houter, -, hne, hnot, hcovers, hedits⟩ := huntouched
  have hrow := row_of_replace htable hnext hinner hne hnot
  obtain ⟨found, rendered, hfound, -, rfl⟩ := replace_eq_ok_iff.mp hnext
  obtain rfl : found = outer := Except.ok.inj (hfound.symm.trans houter)
  have hsame : (insertEdit ⟨found.span, rendered⟩
      (document.edits.filter fun edit ↦ !found.span.covers edit.span)).filter
        (fun edit ↦ inner.span.covers edit.span) =
      document.edits.filter fun edit ↦ inner.span.covers edit.span := by
    rw [filter_insertEdit_of_false (by exact hcovers), List.filter_filter]
    refine List.filter_congr fun edit hedit ↦ ?_
    cases hinside : inner.span.covers edit.span with
    | false => rfl
    | true => rw [hedits edit hedit hinside]; rfl
  rw [text_of_row hrow, text_of_row hinner, render, render, hsame]

/-- A fragment has the same text if all handles in it are untouched. -/
theorem renderFragment_of_replace (htable : IsTable document.rows)
    (hnext : document.replace target fragment = .ok next) {other : Fragment}
    (huntouched : ∀ leaf ∈ other.leaves, document.Untouched target leaf) :
    next.renderFragment other = .ok (other.fill document.currentText) := by
  have htext : ∀ leaf ∈ other.leaves, next.text leaf = document.text leaf :=
    fun leaf hleaf ↦ text_of_replace htable hnext (huntouched leaf hleaf)
  refine renderFragment_eq_ok_iff.mpr ⟨fun leaf hleaf ↦ ?_, other.fill_congr fun leaf hleaf ↦ ?_⟩
  · rw [htext leaf hleaf]
    exact (huntouched leaf hleaf).exists_text
  · rw [currentText, currentText, htext leaf hleaf]

/-! ### Two replacements -/

/-- Two nodes with spans apart are replaced one after the other. The fragment put in place of the
second one is filled with the texts from before both, and the edits inside either of the spans are
taken back. -/
theorem replace_replace (htable : IsTable document.rows)
    (hsorted : document.edits.Pairwise fun first second ↦ first.span.start ≤ second.span.start)
    {first second : Handle} {row other : Row} (hrow : document.row first = .ok row)
    (hother : document.row second = .ok other)
    (hrelated : ¬ Related document.rows first.index second.index)
    (hapart : row.span.Apart other.span) {fragment later : Fragment}
    (hfragment : ∀ leaf ∈ fragment.leaves, ∃ text, document.text leaf = .ok text)
    (hlater : ∀ leaf ∈ later.leaves, document.Untouched first leaf) :
    ∃ next, document.replace first fragment = .ok next ∧ next.replace second later = .ok
      { document with
        rows := detach second.index other.stop (detach first.index row.stop document.rows)
        edits := insertEdit ⟨other.span, later.fill document.currentText⟩
          (insertEdit ⟨row.span, fragment.fill document.currentText⟩
            (document.edits.filter fun edit ↦
              !other.span.covers edit.span && !row.span.covers edit.span)) } := by
  have htext := renderFragment_eq_ok_iff.mpr ⟨hfragment, rfl⟩
  have hnext := replace_eq_ok_iff.mpr ⟨row, _, hrow, htext, rfl⟩
  have hstands := row_of_replace htable hnext hother (fun h ↦ hrelated (Or.inl h))
    fun h ↦ hrelated (Or.inr (Or.inl h))
  refine ⟨_, hnext, replace_eq_ok_iff.mpr
    ⟨other, _, hstands, renderFragment_of_replace htable hnext hlater, ?_⟩⟩
  rw [filter_insertEdit_of_true (by simp [hapart.2.2]) (hsorted.filter _), List.filter_filter]

/-- Replacements of two nodes, neither of which is above the other, with spans apart come to the same
document in either order, whatever has been replaced before. The handles in the fragment for a node
must be untouched by the replacement of the other one; in the fragment for the node itself they may
be any that have a text. Both edits are there in the end, with the texts that the fragments had
before, and of the earlier edits those inside neither of the spans. -/
theorem replace_comm {id : Nat} {dialect : Grammar.Dialect} {source : List Char}
    (hparse : parse id dialect source = .ok start) (hreached : start.Replaced done document)
    {first second : Handle} {row other : Row} (hrow : document.row first = .ok row)
    (hother : document.row second = .ok other)
    (hrelated : ¬ Related document.rows first.index second.index)
    (hapart : row.span.Apart other.span) {fragment later : Fragment}
    (hfragment : ∀ leaf ∈ fragment.leaves, document.Untouched second leaf)
    (hlater : ∀ leaf ∈ later.leaves, document.Untouched first leaf) :
    ∃ afterFirst afterSecond final,
      document.replace first fragment = .ok afterFirst ∧
      afterFirst.replace second later = .ok final ∧
      document.replace second later = .ok afterSecond ∧
      afterSecond.replace first fragment = .ok final ∧
      final.edits.Perm (⟨row.span, fragment.fill document.currentText⟩ ::
        ⟨other.span, later.fill document.currentText⟩ ::
          document.edits.filter fun edit ↦
            !row.span.covers edit.span && !other.span.covers edit.span) := by
  have htable := (hreached.isAt (isAt_of_parse hparse)).isTable
  have hsorted := (EditsOf.of_replaced (isFresh_of_parse hparse) hreached).sorted
  obtain ⟨afterFirst, hfirst, hfirstFinal⟩ := replace_replace htable hsorted hrow hother hrelated
    hapart (fun leaf hleaf ↦ (hfragment leaf hleaf).exists_text) hlater
  obtain ⟨afterSecond, hsecond, hsecondFinal⟩ := replace_replace htable hsorted hother hrow
    (fun h ↦ hrelated (h.elim (fun h ↦ Or.inl h.symm) fun h ↦ Or.inr h.symm)) hapart.symm
    (fun leaf hleaf ↦ (hlater leaf hleaf).exists_text) hfragment
  have hkept : document.edits.filter
      (fun edit ↦ !other.span.covers edit.span && !row.span.covers edit.span) =
      document.edits.filter fun edit ↦ !row.span.covers edit.span && !other.span.covers edit.span :=
    List.filter_congr fun edit _ ↦ Bool.and_comm _ _
  rw [hkept, detach_comm, insertEdit_comm hapart.start_ne.symm] at hfirstFinal
  refine ⟨afterFirst, afterSecond, _, hfirst, hfirstFinal, hsecond, hsecondFinal, ?_⟩
  exact (insertEdit_perm _ _).trans ((insertEdit_perm _ _).cons _)

/-- After an edit next to both of them, an argument becomes a call of itself and another argument the
name of the function. -/
theorem replace_comm_nestedCalls : ∃ document afterFirst afterSecond final,
    nestedCalls.Replaced [⟨5, ⟨2, 3⟩, ['h']⟩] document ∧
    document.replace ⟨0, 6⟩ (.call (.node ⟨0, 3⟩) [.node ⟨0, 6⟩]) = .ok afterFirst ∧
    afterFirst.replace ⟨0, 7⟩ (.node ⟨0, 3⟩) = .ok final ∧
    document.replace ⟨0, 7⟩ (.node ⟨0, 3⟩) = .ok afterSecond ∧
    afterSecond.replace ⟨0, 6⟩ (.call (.node ⟨0, 3⟩) [.node ⟨0, 6⟩]) = .ok final := by
  have hparse : parse 0 ⟨true, false, false⟩ "f(g(a), b);".toList = .ok nestedCalls := by
    decide +kernel
  have hstart : nestedCalls.Replaced [] nestedCalls := .none
  obtain ⟨document, row, other, hreached, hrow, hother, hrelated, hapart, hname, hself, hlater⟩ :
      ∃ document row other, nestedCalls.Replaced [⟨5, ⟨2, 3⟩, ['h']⟩] document ∧
        document.row ⟨0, 6⟩ = .ok row ∧ document.row ⟨0, 7⟩ = .ok other ∧
        ¬ Related document.rows 6 7 ∧ row.span.Apart other.span ∧
        document.Untouched ⟨0, 7⟩ ⟨0, 3⟩ ∧ document.Untouched ⟨0, 7⟩ ⟨0, 6⟩ ∧
        document.Untouched ⟨0, 6⟩ ⟨0, 3⟩ :=
    ⟨_, _, _, hstart.more ⟨0, 5⟩ (.source ['h']) rfl rfl rfl, rfl, rfl, by decide +kernel, by decide,
      ⟨_, _, _, rfl, rfl, rfl, by decide, by decide +kernel, by decide, by decide⟩,
      ⟨_, _, _, rfl, rfl, rfl, by decide, by decide +kernel, by decide, by decide⟩,
      ⟨_, _, _, rfl, rfl, rfl, by decide, by decide +kernel, by decide, by decide⟩⟩
  have hfragment : ∀ leaf ∈ (Fragment.call (.node ⟨0, 3⟩) [.node ⟨0, 6⟩]).leaves,
      document.Untouched ⟨0, 7⟩ leaf :=
    List.forall_mem_cons.mpr ⟨hname, List.forall_mem_singleton.mpr hself⟩
  have hlaterFragment : ∀ leaf ∈ (Fragment.node ⟨0, 3⟩).leaves, document.Untouched ⟨0, 6⟩ leaf :=
    List.forall_mem_singleton.mpr hlater
  obtain ⟨afterFirst, afterSecond, final, hfirst, hfirstFinal, hsecond, hsecondFinal, -⟩ :=
    replace_comm hparse hreached hrow hother hrelated hapart hfragment hlaterFragment
  exact ⟨document, afterFirst, afterSecond, final, hreached, hfirst, hfirstFinal, hsecond,
    hsecondFinal⟩

/-- The type of a receiver stands beside the list of parameters in the tree and inside it in the text,
so the list has another text once the type has been replaced. -/
theorem replace_comm_receiver :
    (parse 0 ⟨true, true, false⟩ "function f(this: A) {}\nx;".toList).map (fun start ↦
      let receiverFirst := (start.perform [(⟨0, 6⟩, .source ['B']), (⟨0, 10⟩, .node ⟨0, 7⟩)]).2
      let receiverLast := (start.perform [(⟨0, 10⟩, .node ⟨0, 7⟩), (⟨0, 6⟩, .source ['B'])]).2
      (decide (Related start.rows 6 7), receiverFirst.print, receiverLast.print)) =
    .ok (false, .ok "function f(this: B) {}\n(this: B);".toList,
      .ok "function f(this: B) {}\n(this: A);".toList) := by
  decide +kernel

/-- The other way round, an edit in the type is taken back when the list is replaced. -/
example :
    (parse 0 ⟨true, true, false⟩ "function f(this: {p: T}) {}\nx;".toList).map (fun start ↦
      let edited := (start.perform [(⟨0, 10⟩, .source ['U'])]).2
      let listFirst := (edited.perform [(⟨0, 11⟩, .source "(a)".toList), (⟨0, 14⟩, .node ⟨0, 5⟩)]).2
      let listLast := (edited.perform [(⟨0, 14⟩, .node ⟨0, 5⟩), (⟨0, 11⟩, .source "(a)".toList)]).2
      (decide (Related start.rows 5 11), listFirst.print, listLast.print)) =
    .ok (false, .ok "function f(a) {}\n{p: T};".toList, .ok "function f(a) {}\n{p: U};".toList) := by
  decide +kernel

end Document

end SsrBuild
