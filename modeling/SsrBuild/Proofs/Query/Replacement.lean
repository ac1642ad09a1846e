import SsrBuild.Proofs.Query.Operation
import SsrBuild.Proofs.Query.Parsed

/-!
Replacing nodes one after another comes to replacing the spans of a text. Only the replacements
below no node replaced later are left in the end (`lasting`). The edits of the document are those,
in the order of the text, and a row is detached if its node or one above it has been replaced
(`Tracks`); every replacement keeps this (`Tracks.step`). So the program in the end is the source
with the spans of the lasting replacements replaced, and the text of a node is the same within its
span (`print_and_text_of_replaced`).
-/

set_option autoImplicit false

namespace SsrBuild

open Text (Span IsBoundary slice? byteCount)

/-! ### Replacements and what is left of them -/

/-- A node that has been replaced, with its span and the text put there. -/
structure Replacement where
  node : Nat
  edit : Edit
  deriving DecidableEq, Repr

/-- Nodes of a document have been replaced one after another, each by the text that its fragment had
at that moment. -/
inductive Document.Replaced (start : Document) : List Replacement → Document → Prop
  | none : Replaced start [] start
  | more {done : List Replacement} {document next : Document} {row : Row} {text : List Char}
      (before : Replaced start done document) (handle : Handle) (fragment : Fragment)
      (found : document.row handle = .ok row)
      (rendered : document.renderFragment fragment = .ok text)
      (replaced : document.replace handle fragment = .ok next) :
      Replaced start (done ++ [⟨handle.index, row.span, text⟩]) next

/-- The elements that no later one undoes. -/
def survivors {α : Type} (undoes : α → α → Bool) : List α → List α
  | [] => []
  | first :: later =>
    if later.any (undoes · first) then survivors undoes later
    else first :: survivors undoes later

/-- One more element survives, and undoes what it does. -/
theorem survivors_append_singleton {α : Type} (undoes : α → α → Bool) (elements : List α)
    (last : α) : survivors undoes (elements ++ [last]) =
      (survivors undoes elements).filter (fun earlier ↦ !undoes last earlier) ++ [last] := by
  induction elements with
  | nil => rfl
  | cons first later ih =>
    rw [List.cons_append, survivors, survivors, List.any_append, ih]
    by_cases hlater : later.any (undoes · first)
    · simp [hlater]
    · by_cases hlast : undoes last first
      · simp [hlater, hlast]
      · simp [hlater, hlast]

/-- Whatever survives was there. -/
theorem survivors_sublist {α : Type} (undoes : α → α → Bool) (elements : List α) :
    (survivors undoes elements).Sublist elements := by
  induction elements with
  | nil => exact .slnil
  | cons first later ih =>
    unfold survivors
    split_ifs
    · exact ih.cons first
    · exact ih.cons_cons first

/-- The replacements below no node that was replaced later. -/
def lasting (rows : List Row) (done : List Replacement) : List Replacement :=
  survivors (fun later earlier ↦ later.node ∈ ancestors rows earlier.node) done

/-- Two of the nodes have spans apart unless one is above the other. -/
def SpansApart (rows : List Row) (nodes : List Nat) : Prop :=
  ∀ i ∈ nodes, ∀ j ∈ nodes, ¬ Related rows i j →
    ∀ first ∈ rows[i]?, ∀ second ∈ rows[j]?, first.span.Apart second.span

instance (rows : List Row) (nodes : List Nat) : Decidable (SpansApart rows nodes) :=
  inferInstanceAs (Decidable (∀ _ ∈ nodes, _))

/-- Fewer nodes have spans apart as well. -/
theorem SpansApart.mono {rows : List Row} {nodes fewer : List Nat} (h : SpansApart rows nodes)
    (hsub : ∀ node ∈ fewer, node ∈ nodes) : SpansApart rows fewer :=
  fun i hi j hj ↦ h i (hsub i hi) j (hsub j hj)

/-- One more replacement lasts, and takes the place of all below its node. -/
theorem lasting_append_singleton (rows : List Row) (done : List Replacement) (last : Replacement) :
    lasting rows (done ++ [last]) =
      ((lasting rows done).filter fun earlier ↦ last.node ∉ ancestors rows earlier.node) ++
        [last] := by
  simp only [lasting, survivors_append_singleton, decide_not]

/-- What lasts has been done. -/
theorem mem_of_mem_lasting {rows : List Row} {done : List Replacement} {replacement : Replacement}
    (h : replacement ∈ lasting rows done) : replacement ∈ done :=
  (survivors_sublist _ done).subset h

/-! ### What holds after every replacement -/

/-- The node of the row has been replaced, or one above it. -/
def IsReplaced (rows : List Row) (done : List Replacement) (index : Nat) : Prop :=
  ∃ replacement ∈ done, replacement.node = index ∨ replacement.node ∈ ancestors rows index

/-- A document in which some nodes have been replaced: the source and the rows are as they were but
for the detached rows, and the edits are the lasting ones. -/
structure Tracks (start : Document) (done : List Replacement) (document : Document) : Prop where
  id : document.id = start.id
  source : document.source = start.source
  rows : ∀ index, ∃ isDetached, document.rows[index]? =
    start.rows[index]?.map (fun row ↦ { row with isDetached }) ∧
      (isDetached = true ↔ IsReplaced start.rows done index)
  spans : ∀ replacement ∈ done, ∃ row, start.rows[replacement.node]? = some row ∧
    replacement.edit.span = row.span
  edits : document.edits.Perm ((lasting start.rows done).map Replacement.edit)
  follow : FollowFrom 0 document.edits

variable {start document : Document} {done : List Replacement}

/-- Before the first replacement. -/
theorem Tracks.none (hfresh : start.IsFresh) : Tracks start [] start where
  id := rfl
  source := rfl
  rows index := by
    refine ⟨false, ?_, by simp [IsReplaced]⟩
    cases hrow : start.rows[index]? with
    | none => rfl
    | some row =>
      have hstands := hfresh.standing row (List.mem_of_getElem? hrow)
      rw [Option.map_some, ← hstands]
  spans := by simp
  edits := by rw [hfresh.edits]; exact List.Perm.refl _
  follow := by rw [hfresh.edits]; trivial

/-- A row that stands is one from the start that has not been replaced. -/
theorem Tracks.row (htracks : Tracks start done document) {handle : Handle} {row : Row}
    (hrow : document.row handle = .ok row) :
    (∃ original, start.rows[handle.index]? = some original ∧ original.span = row.span ∧
      original.stop = row.stop) ∧ ¬ IsReplaced start.rows done handle.index := by
  obtain ⟨-, hfound, hstands⟩ := Document.row_eq_ok_iff.mp hrow
  obtain ⟨isDetached, hdetached, hreplaced⟩ := htracks.rows handle.index
  rw [hdetached] at hfound
  obtain ⟨original, horiginal, rfl⟩ := Option.map_eq_some_iff.mp hfound
  refine ⟨⟨original, horiginal, rfl, rfl⟩, fun h ↦ ?_⟩
  rw [← hreplaced] at h
  exact Bool.false_ne_true (hstands.symm.trans h)

/-- A row from the start that has not been replaced stands. -/
theorem Tracks.exists_row (htracks : Tracks start done document) {index : Nat} {original : Row}
    (horiginal : start.rows[index]? = some original)
    (hnot : ¬ IsReplaced start.rows done index) :
    ∃ row, document.row (start.handle index) = .ok row ∧ row.span = original.span := by
  obtain ⟨isDetached, hdetached, hreplaced⟩ := htracks.rows index
  rw [horiginal, Option.map_some] at hdetached
  have hstands : isDetached = false := by
    rw [← Bool.not_eq_true, hreplaced]
    exact hnot
  exact ⟨_, Document.row_eq_ok_iff.mpr ⟨htracks.id.symm, hdetached, hstands⟩, rfl⟩

/-- The span of a node that stands holds the span of a replacement if the node is above the one that
was replaced, and is apart from it otherwise. -/
theorem Tracks.covers_iff (htracks : Tracks start done document) (hfresh : start.IsFresh)
    (hinside : ChildrenInside start.rows) {handle : Handle} {row : Row}
    (hrow : document.row handle = .ok row)
    (hapart : SpansApart start.rows (handle.index :: done.map Replacement.node))
    {replacement : Replacement} (hmem : replacement ∈ done) :
    (row.span.covers replacement.edit.span = true ↔
      handle.index ∈ ancestors start.rows replacement.node) ∧
      (handle.index ∉ ancestors start.rows replacement.node →
        row.span.Apart replacement.edit.span) := by
  obtain ⟨⟨original, horiginal, hspan, -⟩, hnot⟩ := htracks.row hrow
  obtain ⟨target, htarget, htargetSpan⟩ := htracks.spans replacement hmem
  rw [htargetSpan, ← hspan]
  have hseparate : handle.index ∉ ancestors start.rows replacement.node →
      original.span.Apart target.span := by
    intro hbelow
    refine hapart handle.index List.mem_cons_self replacement.node
      (List.mem_cons_of_mem _ (List.mem_map_of_mem hmem)) ?_ original horiginal target htarget
    -- A node that was replaced, or that is below one, does not stand.
    rintro (heq | habove | habove)
    · exact hnot ⟨replacement, hmem, Or.inl heq.symm⟩
    · exact hbelow habove
    · exact hnot ⟨replacement, hmem, Or.inr habove⟩
  refine ⟨⟨fun hcovers ↦ ?_, fun habove ↦ ?_⟩, hseparate⟩
  · by_contra hbelow
    have hnotCovers := (hseparate hbelow).2.1
    rw [hcovers] at hnotCovers
    cases hnotCovers
  · have hin := hinside.inside hfresh.isTable horiginal htarget habove
    unfold Text.Span.IsInside at hin
    simp only [Span.covers, Bool.and_eq_true, decide_eq_true_eq]
    omega

/-- A choice of edits that goes by the nodes replaced is a choice of lasting replacements. -/
theorem Tracks.filter_edits (htracks : Tracks start done document) (chosen : Edit → Bool)
    (keep : Nat → Prop) [DecidablePred keep]
    (hchosen : ∀ replacement ∈ done, chosen replacement.edit = true ↔ keep replacement.node) :
    (document.edits.filter chosen).Perm
      (((lasting start.rows done).filter fun replacement ↦ keep replacement.node).map
        Replacement.edit) := by
  have hsame : (lasting start.rows done).filter (chosen ∘ Replacement.edit) =
      (lasting start.rows done).filter fun replacement ↦ keep replacement.node := by
    refine List.filter_congr fun replacement hmem ↦ ?_
    rw [Bool.eq_iff_iff, decide_eq_true_eq]
    exact hchosen replacement (mem_of_mem_lasting hmem)
  have hperm := htracks.edits.filter chosen
  rw [List.filter_map, hsame] at hperm
  exact hperm

/-- The node of a row that stands and those below it are the rows of an interval. -/
theorem Tracks.between_iff (htracks : Tracks start done document) (hfresh : start.IsFresh)
    {handle : Handle} {row : Row} (hrow : document.row handle = .ok row) (index : Nat) :
    handle.index ≤ index ∧ index < row.stop ↔
      handle.index = index ∨ handle.index ∈ ancestors start.rows index := by
  obtain ⟨⟨original, horiginal, -, hstop⟩, -⟩ := htracks.row hrow
  rw [← hstop]
  exact le_and_lt_stop_iff hfresh.isTable horiginal index

/-- A replacement keeps it. -/
theorem Tracks.step (htracks : Tracks start done document) (hfresh : start.IsFresh)
    (hinside : ChildrenInside start.rows) {next : Document} {handle : Handle} {row : Row}
    {fragment : Fragment} {text : List Char} (hrow : document.row handle = .ok row)
    (htext : document.renderFragment fragment = .ok text)
    (hnext : document.replace handle fragment = .ok next)
    (hapart : SpansApart start.rows (handle.index :: done.map Replacement.node)) :
    Tracks start (done ++ [⟨handle.index, row.span, text⟩]) next := by
  obtain ⟨found, rendered, hfound, hrendered, rfl⟩ := Document.replace_eq_ok_iff.mp hnext
  obtain rfl : found = row := Except.ok.inj (hfound.symm.trans hrow)
  obtain rfl : rendered = text := Except.ok.inj (hrendered.symm.trans htext)
  obtain ⟨⟨original, horiginal, hspan, hstop⟩, -⟩ := htracks.row hrow
  have hcovers : ∀ replacement ∈ done, (!found.span.covers replacement.edit.span) = true ↔
      handle.index ∉ ancestors start.rows replacement.node := fun replacement hmem ↦ by
    rw [Bool.not_eq_true', ← Bool.not_eq_true, not_iff_not]
    exact (htracks.covers_iff hfresh hinside hrow hapart hmem).1
  constructor
  · exact htracks.id
  · exact htracks.source
  · intro index
    obtain ⟨isDetached, hdetached, hreplaced⟩ := htracks.rows index
    refine ⟨isDetached || (decide (handle.index ≤ index) && decide (index < found.stop)), ?_, ?_⟩
    · rw [Document.getElem?_detach, hdetached, Option.map_map]
      rfl
    · rw [Bool.or_eq_true, hreplaced, Bool.and_eq_true, decide_eq_true_eq, decide_eq_true_eq,
        htracks.between_iff hfresh hrow]
      simp [IsReplaced, or_and_right, exists_or]
  · intro replacement hmem
    rcases List.mem_append.mp hmem with hmem | hmem
    · exact htracks.spans replacement hmem
    · obtain rfl := List.mem_singleton.mp hmem
      exact ⟨original, horiginal, hspan.symm⟩
  · rw [lasting_append_singleton, List.map_append]
    have hkept := htracks.filter_edits (fun edit ↦ !found.span.covers edit.span)
      (fun node ↦ handle.index ∉ ancestors start.rows node) hcovers
    exact (insertEdit_perm _ _).trans
      ((hkept.cons _).trans (List.perm_append_singleton _ _).symm)
  · refine FollowFrom.insertEdit ?_ (fun other hother ↦ ?_) (htracks.follow.filter _)
      (Nat.zero_le _)
    · rw [← hspan]
      exact hfresh.start_le_stop hinside horiginal
    · obtain ⟨hmem, hkept⟩ := List.mem_filter.mp hother
      obtain ⟨replacement, hreplacement, rfl⟩ :=
        List.mem_map.mp ((htracks.edits.mem_iff).mp hmem)
      have hdone := mem_of_mem_lasting hreplacement
      exact (htracks.covers_iff hfresh hinside hrow hapart hdone).2 ((hcovers _ hdone).mp hkept)

/-- It holds after any replacements of nodes with spans apart. -/
theorem Tracks.of_replaced {done : List Replacement} {final : Document}
    (hreplaced : start.Replaced done final) (hfresh : start.IsFresh)
    (hinside : ChildrenInside start.rows)
    (hapart : SpansApart start.rows (done.map Replacement.node)) : Tracks start done final := by
  induction hreplaced with
  | none => exact Tracks.none hfresh
  | @more done document next row text _ handle fragment hrow htext hnext ih =>
    have hbefore : SpansApart start.rows (done.map Replacement.node) :=
      hapart.mono fun node hnode ↦ by simp [hnode]
    have hwith : SpansApart start.rows (handle.index :: done.map Replacement.node) :=
      hapart.mono fun node hnode ↦ by
        rcases List.mem_cons.mp hnode with rfl | hnode
        · simp
        · simp [hnode]
    exact (ih hbefore).step hfresh hinside hrow htext hnext hwith

/-! ### The text in the end -/

/-- All edits fall between characters. -/
theorem Tracks.boundary (htracks : Tracks start done document) (hfresh : start.IsFresh) :
    ∀ edit ∈ document.edits, IsBoundary document.source edit.span.start ∧
      IsBoundary document.source edit.span.stop := by
  intro edit hedit
  obtain ⟨replacement, hreplacement, rfl⟩ := List.mem_map.mp (htracks.edits.mem_iff.mp hedit)
  obtain ⟨row, hrow, hspan⟩ := htracks.spans replacement (mem_of_mem_lasting hreplacement)
  rw [hspan, htracks.source]
  exact hfresh.boundary row (List.mem_of_getElem? hrow)

/-- The program as a whole takes in all edits that fall between characters. -/
theorem Document.filter_covers_all (hboundary : ∀ edit ∈ document.edits,
    IsBoundary document.source edit.span.start ∧ IsBoundary document.source edit.span.stop) :
    document.edits.filter (fun edit ↦ Span.covers ⟨0, byteCount document.source⟩ edit.span) =
      document.edits := by
  refine List.filter_eq_self.mpr fun edit hedit ↦ ?_
  obtain ⟨before, after, hsource, hstop⟩ := (hboundary edit hedit).2
  simp only [Span.covers, hsource, Text.byteCount_append, Bool.and_eq_true, decide_eq_true_eq]
  omega

/-- The program is the source with the spans of the lasting replacements replaced. -/
theorem Tracks.print (htracks : Tracks start done document) (hfresh : start.IsFresh) :
    document.print = .ok
      (substitute ((lasting start.rows done).map Replacement.edit) 0 start.source) := by
  have hall := Document.filter_covers_all (htracks.boundary hfresh)
  unfold Document.print
  rw [← htracks.source]
  exact Document.render_eq_substitute htracks.follow (htracks.boundary hfresh)
    (Text.slice?_self document.source) (by rw [hall]; exact htracks.edits)

/-- The text of a node that stands is the source within its span with the spans of the lasting
replacements below it replaced. -/
theorem Tracks.text (htracks : Tracks start done document) (hfresh : start.IsFresh)
    (hinside : ChildrenInside start.rows) {handle : Handle} {row : Row}
    (hrow : document.row handle = .ok row)
    (hapart : SpansApart start.rows (handle.index :: done.map Replacement.node)) :
    ∃ whole, slice? start.source row.span.start row.span.stop = some whole ∧
      document.text handle = .ok (substitute
        (((lasting start.rows done).filter fun replacement ↦
          handle.index ∈ ancestors start.rows replacement.node).map Replacement.edit)
        row.span.start whole) := by
  obtain ⟨⟨original, horiginal, hspan, -⟩, -⟩ := htracks.row hrow
  obtain ⟨hstart, hstop⟩ := hfresh.boundary original (List.mem_of_getElem? horiginal)
  have hle := hfresh.start_le_stop hinside horiginal
  rw [hspan] at hstart hstop hle
  obtain ⟨whole, hwhole⟩ := Text.exists_slice? hstart hstop hle
  refine ⟨whole, hwhole, bind_eq_ok_iff.mpr ⟨row, hrow, ?_⟩⟩
  rw [← htracks.source] at hwhole
  have hbelow := htracks.filter_edits (fun edit ↦ row.span.covers edit.span)
    (fun node ↦ handle.index ∈ ancestors start.rows node) fun replacement hmem ↦
      (htracks.covers_iff hfresh hinside hrow hapart hmem).1
  exact Document.render_eq_substitute htracks.follow (htracks.boundary hfresh) hwhole hbelow

/-- Replacing nodes with spans apart comes to replacing spans. The program in the end is the source
with the span of every lasting replacement replaced by its text and all else unchanged. The text of
a node that stands is that within its span, and the lasting replacements inside the span are those
below the node. Without any replacement the program is the source. -/
theorem print_and_text_of_replaced {id : Nat} {dialect : Grammar.Dialect} {source : List Char}
    {start final : Document} {done : List Replacement}
    (hparse : Document.parse id dialect source = .ok start) (hinside : ChildrenInside start.rows)
    (hreplaced : start.Replaced done final)
    (hapart : SpansApart start.rows (done.map Replacement.node)) :
    (∀ replacement ∈ done, ∃ row, start.rows[replacement.node]? = some row ∧
      replacement.edit.span = row.span) ∧
    final.print = .ok (substitute ((lasting start.rows done).map Replacement.edit) 0 source) ∧
    (∀ handle row, final.row handle = .ok row →
      SpansApart start.rows (handle.index :: done.map Replacement.node) →
        (∀ replacement ∈ lasting start.rows done, row.span.covers replacement.edit.span = true ↔
          handle.index ∈ ancestors start.rows replacement.node) ∧
        ∃ whole, slice? source row.span.start row.span.stop = some whole ∧
          final.text handle = .ok (substitute
            (((lasting start.rows done).filter fun replacement ↦
              row.span.covers replacement.edit.span).map Replacement.edit)
            row.span.start whole)) ∧
    start.print = .ok source := by
  have hfresh := Document.isFresh_of_parse hparse
  obtain rfl := Document.source_of_parse hparse
  have htracks := Tracks.of_replaced hreplaced hfresh hinside hapart
  refine ⟨htracks.spans, htracks.print hfresh, fun handle row hrow hwith ↦ ?_, ?_⟩
  · have hcovers : ∀ replacement ∈ lasting start.rows done,
        row.span.covers replacement.edit.span = true ↔
          handle.index ∈ ancestors start.rows replacement.node := fun replacement hmem ↦
      (htracks.covers_iff hfresh hinside hrow hwith (mem_of_mem_lasting hmem)).1
    obtain ⟨whole, hwhole, htext⟩ := htracks.text hfresh hinside hrow hwith
    refine ⟨hcovers, whole, hwhole, ?_⟩
    have hsame : (lasting start.rows done).filter (fun replacement ↦
        row.span.covers replacement.edit.span) = (lasting start.rows done).filter
          fun replacement ↦ handle.index ∈ ancestors start.rows replacement.node := by
      refine List.filter_congr fun replacement hmem ↦ ?_
      rw [Bool.eq_iff_iff, decide_eq_true_eq]
      exact hcovers replacement hmem
    rw [hsame]
    exact htext
  · have hprint := (Tracks.none hfresh).print hfresh
    rw [lasting, survivors, List.map_nil, substitute_nil] at hprint
    exact hprint

/-- A program with a call among the arguments of another one. -/
def nestedCalls : Document :=
  ⟨0, "f(g(a), b);".toList,
    [⟨.program, ⟨0, 11⟩, none, 8, none, [], false⟩,
      ⟨.other, ⟨0, 11⟩, some 0, 8, none, [], false⟩,
      ⟨.callExpression, ⟨0, 10⟩, some 1, 8, some "f", [⟨2, 6⟩, ⟨8, 9⟩], false⟩,
      ⟨.identifier, ⟨0, 1⟩, some 2, 4, some "f", [], false⟩,
      ⟨.callExpression, ⟨2, 6⟩, some 2, 7, some "g", [⟨4, 5⟩], false⟩,
      ⟨.identifier, ⟨2, 3⟩, some 4, 6, some "g", [], false⟩,
      ⟨.identifier, ⟨4, 5⟩, some 4, 7, some "a", [], false⟩,
      ⟨.identifier, ⟨8, 9⟩, some 2, 8, some "b", [], false⟩], []⟩

/-- In it the inner argument is replaced, then the other argument by the inner call as it has become,
and then the inner call by a call of which it is the argument. -/
theorem print_nestedCalls_of_replaced : ∃ final,
    nestedCalls.Replaced [⟨6, ⟨4, 5⟩, ['x']⟩, ⟨7, ⟨8, 9⟩, "g(x)".toList⟩,
      ⟨4, ⟨2, 6⟩, "h(g(x))".toList⟩] final ∧
    final.print = .ok "f(h(g(x)), g(x));".toList := by
  have hparse : Document.parse 0 ⟨true, false, false⟩ "f(g(a), b);".toList = .ok nestedCalls := by
    decide +kernel
  have hstart : nestedCalls.Replaced [] nestedCalls := .none
  have hfirst := hstart.more ⟨0, 6⟩ (.source ['x']) rfl rfl rfl
  have hsecond := hfirst.more ⟨0, 7⟩ (.node ⟨0, 4⟩) rfl rfl rfl
  have hthird := hsecond.more ⟨0, 4⟩ (.call (.source ['h']) [.node ⟨0, 4⟩]) rfl rfl rfl
  have hprint := (print_and_text_of_replaced hparse (by decide +kernel) hthird
    (by decide +kernel)).2.1
  refine ⟨_, hthird, hprint.trans ?_⟩
  decide +kernel

end SsrBuild
