import SsrBuild.Proofs.Query.HandleUse
import SsrBuild.Proofs.Query.Replacement

/-!
The edits of a document after any calls of `replace`, accepted or refused, whatever the spans of the
nodes are. A replacement takes back the edits inside its span, so the edits are those of the accepted
replacements whose span no later one covers, in the order in which they begin (`EditsOf`). Text
between the edits is missing exactly where one of them begins before the one before it has ended
(`EditsOf.print_cases`), and two nodes of a program can have such spans without one being above the
other: the list of parameters covers a receiver that stands beside it in the tree.
-/

set_option autoImplicit false

namespace SsrBuild

open Text (Span IsBoundary slice? byteCount)

/-! ### Splicing edits in the order in which they begin -/

/-- No edit begins before the one before it has ended. -/
def Successive (edits : List Edit) : Prop :=
  edits.IsChain fun first second ↦ first.span.stop ≤ second.span.start

instance (edits : List Edit) : Decidable (Successive edits) :=
  inferInstanceAs (Decidable (List.IsChain _ _))

/-- Two boundaries have a slice between them exactly if they are in order. -/
theorem slice?_isSome_iff {source : List Char} {start stop : Nat} (hstart : IsBoundary source start)
    (hstop : IsBoundary source stop) : (slice? source start stop).isSome ↔ start ≤ stop := by
  constructor
  · intro h
    obtain ⟨middle, hmiddle⟩ := Option.isSome_iff_exists.mp h
    have := Text.add_byteCount_of_slice? hmiddle
    omega
  · intro hle
    obtain ⟨middle, hmiddle⟩ := Text.exists_slice? hstart hstop hle
    rw [hmiddle]
    rfl

/-- The first edit is spliced in if there is text before it and the rest can be spliced in. -/
theorem splice_cons_isSome {source : List Char} {start stop : Nat} {edit : Edit}
    {rest : List Edit} : (Document.splice source start stop (edit :: rest)).isSome ↔
      (slice? source start edit.span.start).isSome ∧
        (Document.splice source edit.span.stop stop rest).isSome := by
  rw [Document.splice]
  cases slice? source start edit.span.start with
  | none => simp
  | some before =>
    cases Document.splice source edit.span.stop stop rest with
    | none => simp
    | some after => simp

/-- After an edit the others can be spliced in if none of them begins before the one before it has
ended. -/
theorem splice_after_isSome_iff {source : List Char} {stop : Nat} (hstop : IsBoundary source stop)
    (rest : List Edit) : ∀ {edit : Edit}, (∀ other ∈ edit :: rest, other.span.stop ≤ stop ∧
        IsBoundary source other.span.start ∧ IsBoundary source other.span.stop) →
      ((Document.splice source edit.span.stop stop rest).isSome ↔ Successive (edit :: rest)) := by
  induction rest with
  | nil =>
    intro edit h
    obtain ⟨hle, -, hboundary⟩ := h edit List.mem_cons_self
    simp only [Document.splice, slice?_isSome_iff hboundary hstop, hle, true_iff]
    exact .singleton edit
  | cons next later ih =>
    intro edit h
    obtain ⟨-, -, hboundary⟩ := h edit List.mem_cons_self
    have hlater : ∀ other ∈ next :: later, other.span.stop ≤ stop ∧
        IsBoundary source other.span.start ∧ IsBoundary source other.span.stop :=
      fun other hother ↦ h other (List.mem_cons_of_mem edit hother)
    obtain ⟨-, hnext, -⟩ := hlater next List.mem_cons_self
    rw [splice_cons_isSome, slice?_isSome_iff hboundary hnext, ih hlater, Successive, Successive,
      List.isChain_cons_cons]

/-- Edits inside a stretch of text that goes forward can be spliced into it if none of them begins
before the one before it has ended. -/
theorem splice_isSome_iff {source : List Char} {start stop : Nat} {edits : List Edit}
    (hstart : IsBoundary source start) (hstop : IsBoundary source stop) (hle : start ≤ stop)
    (hinside : ∀ edit ∈ edits, start ≤ edit.span.start ∧ edit.span.stop ≤ stop)
    (hboundary : ∀ edit ∈ edits, IsBoundary source edit.span.start ∧
      IsBoundary source edit.span.stop) :
    (Document.splice source start stop edits).isSome ↔ Successive edits := by
  cases edits with
  | nil =>
    simp only [Document.splice, slice?_isSome_iff hstart hstop, hle, true_iff]
    exact .nil
  | cons edit rest =>
    obtain ⟨hbefore, -⟩ := hinside edit List.mem_cons_self
    rw [splice_cons_isSome, slice?_isSome_iff hstart (hboundary edit List.mem_cons_self).1,
      splice_after_isSome_iff hstop rest fun other hother ↦
        ⟨(hinside other hother).2, hboundary other hother⟩]
    exact and_iff_right hbefore

/-- The text of a span is there if no edit inside it begins before the one before it has ended. -/
theorem Document.render_cases {document : Document} (span : Span)
    (hstart : IsBoundary document.source span.start) (hstop : IsBoundary document.source span.stop)
    (hle : span.start ≤ span.stop) (hboundary : ∀ edit ∈ document.edits,
      IsBoundary document.source edit.span.start ∧ IsBoundary document.source edit.span.stop) :
    (Successive (document.edits.filter fun edit ↦ span.covers edit.span) ∧
      ∃ text, document.render span = .ok text) ∨
    (¬ Successive (document.edits.filter fun edit ↦ span.covers edit.span) ∧
      document.render span = .error .overlap) := by
  have hinside : ∀ edit ∈ document.edits.filter (fun edit ↦ span.covers edit.span),
      span.start ≤ edit.span.start ∧ edit.span.stop ≤ span.stop := fun edit hedit ↦ by
    simpa [Span.covers] using (List.mem_filter.mp hedit).2
  have hspliced := splice_isSome_iff hstart hstop hle hinside fun edit hedit ↦
    hboundary edit (List.mem_filter.mp hedit).1
  unfold render
  cases htext : splice document.source span.start span.stop
      (document.edits.filter fun edit ↦ span.covers edit.span) with
  | none =>
    rw [htext] at hspliced
    exact Or.inr ⟨fun h ↦ Bool.false_ne_true (hspliced.mpr h), rfl⟩
  | some text =>
    rw [htext] at hspliced
    exact Or.inl ⟨hspliced.mp rfl, text, rfl⟩

/-! ### Which edits are left -/

/-- A later edit takes back an earlier one inside its span. -/
def Edit.takesBack (later earlier : Edit) : Bool := later.span.covers earlier.span

/-- The replacements whose span no later one covers. -/
def uncovered (done : List Replacement) : List Replacement :=
  survivors (fun later earlier ↦ later.edit.takesBack earlier.edit) done

/-- A document in which nodes have been replaced: the source is as it was, the edits are those of the
uncovered replacements in the order in which they begin, each has the span of its node, and the rows
are the same but for the detached ones. -/
structure EditsOf (start : Document) (done : List Replacement) (document : Document) : Prop where
  source : document.source = start.source
  rows : SameButDetached start.rows document.rows
  spans : ∀ replacement ∈ done, ∃ row, start.rows[replacement.node]? = some row ∧
    replacement.edit.span = row.span
  edits : document.edits.Perm ((uncovered done).map Replacement.edit)
  sorted : document.edits.Pairwise fun first second ↦ first.span.start ≤ second.span.start

variable {start document : Document} {done : List Replacement}

/-- Rows are the same as themselves. -/
theorem SameButDetached.refl (rows : List Row) : SameButDetached rows rows := by
  intro index
  cases rows[index]? with
  | none => exact ⟨false, rfl⟩
  | some row => exact ⟨row.isDetached, rfl⟩

/-- Rows that are the same but for the detached ones as rows that are the same as the first. -/
theorem SameButDetached.trans {first second third : List Row} (hfirst : SameButDetached first second)
    (hsecond : SameButDetached second third) : SameButDetached first third := by
  intro index
  obtain ⟨wasDetached, hmiddle⟩ := hfirst index
  obtain ⟨isDetached, hlast⟩ := hsecond index
  refine ⟨isDetached, ?_⟩
  rw [hlast, hmiddle, Option.map_map]
  rfl

/-- Before the first replacement. -/
theorem EditsOf.none (hfresh : start.IsFresh) : EditsOf start [] start where
  source := rfl
  rows := .refl start.rows
  spans := by simp
  edits := by rw [hfresh.edits]; exact List.Perm.refl _
  sorted := by rw [hfresh.edits]; exact List.Pairwise.nil

/-- A row that stands has the span that it had at the start. -/
theorem EditsOf.exists_row (hedits : EditsOf start done document) {handle : Handle} {row : Row}
    (hrow : document.row handle = .ok row) :
    ∃ original, start.rows[handle.index]? = some original ∧ row.span = original.span := by
  obtain ⟨-, hfound, -⟩ := Document.row_eq_ok_iff.mp hrow
  obtain ⟨original, isDetached, horiginal, rfl⟩ := hedits.rows.exists_row hfound
  exact ⟨original, horiginal, rfl⟩

/-- An edit that is inserted keeps the order in which edits begin. -/
theorem sorted_insertEdit (edit : Edit) {edits : List Edit}
    (h : edits.Pairwise fun first second ↦ first.span.start ≤ second.span.start) :
    (Document.insertEdit edit edits).Pairwise fun first second ↦
      first.span.start ≤ second.span.start := by
  induction edits with
  | nil => exact List.pairwise_singleton _ edit
  | cons first rest ih =>
    obtain ⟨hfirst, hrest⟩ := List.pairwise_cons.mp h
    unfold Document.insertEdit
    split_ifs with hlt
    · refine List.pairwise_cons.mpr ⟨fun other hother ↦ ?_, ih hrest⟩
      rcases List.mem_cons.mp ((insertEdit_perm edit rest).mem_iff.mp hother) with rfl | hmem
      · omega
      · exact hfirst other hmem
    · refine List.pairwise_cons.mpr ⟨fun other hother ↦ ?_, h⟩
      rcases List.mem_cons.mp hother with rfl | hmem
      · omega
      · have := hfirst other hmem
        omega

/-- A replacement keeps it. -/
theorem EditsOf.step (hedits : EditsOf start done document) {next : Document} {handle : Handle}
    {row : Row} {fragment : Fragment} {text : List Char} (hrow : document.row handle = .ok row)
    (htext : document.renderFragment fragment = .ok text)
    (hnext : document.replace handle fragment = .ok next) :
    EditsOf start (done ++ [⟨handle.index, row.span, text⟩]) next := by
  obtain ⟨found, rendered, hfound, hrendered, rfl⟩ := Document.replace_eq_ok_iff.mp hnext
  obtain rfl : found = row := Except.ok.inj (hfound.symm.trans hrow)
  obtain rfl : rendered = text := Except.ok.inj (hrendered.symm.trans htext)
  constructor
  · exact hedits.source
  · exact hedits.rows.trans (sameButDetached_detach handle.index found.stop document.rows)
  · intro replacement hmem
    rcases List.mem_append.mp hmem with hmem | hmem
    · exact hedits.spans replacement hmem
    · obtain rfl := List.mem_singleton.mp hmem
      exact hedits.exists_row hrow
  · rw [uncovered, survivors_append_singleton, List.map_append]
    have hkept := hedits.edits.filter fun edit ↦ !found.span.covers edit.span
    rw [List.filter_map] at hkept
    exact (insertEdit_perm _ _).trans
      ((hkept.cons _).trans (List.perm_append_singleton _ _).symm)
  · exact sorted_insertEdit _ (hedits.sorted.filter _)

/-- It holds after any replacements. -/
theorem EditsOf.of_replaced (hfresh : start.IsFresh) (hreplaced : start.Replaced done document) :
    EditsOf start done document := by
  induction hreplaced with
  | none => exact EditsOf.none hfresh
  | more _ handle fragment hrow htext hnext ih => exact ih.step hrow htext hnext

/-- Every edit has the span of a node that has been replaced. -/
theorem EditsOf.exists_row_of_mem (hedits : EditsOf start done document) {edit : Edit}
    (hedit : edit ∈ document.edits) : ∃ replacement row, replacement ∈ done ∧
      start.rows[replacement.node]? = some row ∧ edit.span = row.span := by
  obtain ⟨replacement, hreplacement, rfl⟩ := List.mem_map.mp (hedits.edits.mem_iff.mp hedit)
  have hmem := (survivors_sublist _ done).subset hreplacement
  obtain ⟨row, hrow, hspan⟩ := hedits.spans replacement hmem
  exact ⟨replacement, row, hmem, hrow, hspan⟩

/-- All edits fall between characters. -/
theorem EditsOf.boundary (hedits : EditsOf start done document) (hfresh : start.IsFresh) :
    ∀ edit ∈ document.edits, IsBoundary document.source edit.span.start ∧
      IsBoundary document.source edit.span.stop := by
  intro edit hedit
  obtain ⟨replacement, row, -, hrow, hspan⟩ := hedits.exists_row_of_mem hedit
  rw [hspan, hedits.source]
  exact hfresh.boundary row (List.mem_of_getElem? hrow)

/-- The program is printed exactly if no edit begins before the one before it has ended. -/
theorem EditsOf.print_cases (hedits : EditsOf start done document) (hfresh : start.IsFresh) :
    (Successive document.edits ∧ ∃ text, document.print = .ok text) ∨
      (¬ Successive document.edits ∧ document.print = .error .overlap) := by
  have hprint := Document.render_cases ⟨0, byteCount document.source⟩
    ⟨[], document.source, rfl, rfl⟩ ⟨document.source, [], (List.append_nil _).symm, rfl⟩
    (Nat.zero_le _) (hedits.boundary hfresh)
  rw [Document.filter_covers_all (hedits.boundary hfresh)] at hprint
  exact hprint

/-- Where the uncovered replacements go forward, do not overlap and begin at different offsets, the
program is the source with their spans replaced. -/
theorem EditsOf.print_eq (hedits : EditsOf start done document) (hfresh : start.IsFresh)
    (hforward : ∀ replacement ∈ done, replacement.edit.span.start ≤ replacement.edit.span.stop)
    (hpairs : ((uncovered done).map Replacement.edit).Pairwise fun edit other ↦
      edit.span.start ≠ other.span.start ∧
        (edit.span.stop ≤ other.span.start ∨ other.span.stop ≤ edit.span.start)) :
    document.print = .ok (substitute ((uncovered done).map Replacement.edit) 0 start.source) := by
  have hboundary := hedits.boundary hfresh
  have hgoes : ∀ edit ∈ document.edits, edit.span.start ≤ edit.span.stop := by
    intro edit hedit
    obtain ⟨replacement, hmem, rfl⟩ := List.mem_map.mp (hedits.edits.mem_iff.mp hedit)
    exact hforward replacement ((survivors_sublist _ done).subset hmem)
  have hfollow : FollowFrom 0 document.edits :=
    followFrom_of_sorted hedits.sorted hgoes
      (hedits.edits.symm.pairwise hpairs fun h ↦ ⟨h.1.symm, h.2.symm⟩)
  have hwhole : slice? document.source 0 (byteCount document.source) = some document.source :=
    Text.slice?_eq_some_iff.mpr ⟨[], [], by simp, rfl, Nat.zero_add _⟩
  have hperm := hedits.edits
  rw [← Document.filter_covers_all hboundary] at hperm
  rw [Document.print, Document.render_eq_substitute hfollow hboundary hwhole hperm, hedits.source]

/-- So is the text of a node that stands and whose span goes forward, by the edits inside it. -/
theorem EditsOf.text_cases (hedits : EditsOf start done document) (hfresh : start.IsFresh)
    {handle : Handle} {row : Row} (hrow : document.row handle = .ok row)
    (hle : row.span.start ≤ row.span.stop) :
    (Successive (document.edits.filter fun edit ↦ row.span.covers edit.span) ∧
        ∃ text, document.text handle = .ok text) ∨
      (¬ Successive (document.edits.filter fun edit ↦ row.span.covers edit.span) ∧
        document.text handle = .error .overlap) := by
  obtain ⟨original, horiginal, hspan⟩ := hedits.exists_row hrow
  obtain ⟨hstart, hstop⟩ := hfresh.boundary original (List.mem_of_getElem? horiginal)
  rw [← hspan, ← hedits.source] at hstart hstop
  rw [Document.text_of_row hrow]
  exact Document.render_cases row.span hstart hstop hle (hedits.boundary hfresh)

/-! ### Calls of `replace` -/

/-- What calls of `replace` come to, one after another: the replacements made by those that are
accepted, and the document in the end. A call that is refused changes nothing. -/
def Document.perform (document : Document) :
    List (Handle × Fragment) → List Replacement × Document
  | [] => ([], document)
  | (handle, fragment) :: rest =>
    match document.row handle, document.renderFragment fragment,
      document.replace handle fragment with
    | .ok row, .ok text, .ok next =>
      (⟨handle.index, row.span, text⟩ :: (next.perform rest).1, (next.perform rest).2)
    | _, _, _ => document.perform rest

/-- The calls that are accepted replace nodes one after another. -/
theorem Document.replaced_perform (calls : List (Handle × Fragment)) :
    ∀ {done : List Replacement} {document : Document}, start.Replaced done document →
      start.Replaced (done ++ (document.perform calls).1) (document.perform calls).2 := by
  induction calls with
  | nil =>
    intro done document h
    rw [perform, List.append_nil]
    exact h
  | cons call rest ih =>
    intro done document h
    obtain ⟨handle, fragment⟩ := call
    rw [perform]
    split
    · next row text next hrow htext hnext =>
      have hmore := ih (h.more handle fragment hrow htext hnext)
      rwa [List.append_assoc] at hmore
    · exact ih h

/-- After any calls of `replace` on a program the edits are in the order in which they begin, each
has the span of its node, and there is exactly one for each replacement that was accepted and whose
span no later one covers. The program is printed exactly if no edit begins before the one before it
has ended, and so is the text of a node that stands and whose span goes forward, by the edits inside
it; otherwise text is missing between two edits that overlap. -/
theorem edits_of_calls {id : Nat} {dialect : Grammar.Dialect} {source : List Char}
    {start : Document} (hparse : Document.parse id dialect source = .ok start)
    (calls : List (Handle × Fragment)) :
    (∀ replacement ∈ (start.perform calls).1, ∃ row,
      start.rows[replacement.node]? = some row ∧ replacement.edit.span = row.span) ∧
    (start.perform calls).2.edits.Pairwise
      (fun first second ↦ first.span.start ≤ second.span.start) ∧
    (start.perform calls).2.edits.Perm
      ((uncovered (start.perform calls).1).map Replacement.edit) ∧
    ((Successive (start.perform calls).2.edits ∧
        ∃ text, (start.perform calls).2.print = .ok text) ∨
      (¬ Successive (start.perform calls).2.edits ∧
        (start.perform calls).2.print = .error .overlap)) ∧
    ∀ handle row, (start.perform calls).2.row handle = .ok row → row.span.start ≤ row.span.stop →
      (Successive ((start.perform calls).2.edits.filter fun edit ↦ row.span.covers edit.span) ∧
        ∃ text, (start.perform calls).2.text handle = .ok text) ∨
      (¬ Successive ((start.perform calls).2.edits.filter fun edit ↦ row.span.covers edit.span) ∧
        (start.perform calls).2.text handle = .error .overlap) := by
  have hfresh := Document.isFresh_of_parse hparse
  have hedits := EditsOf.of_replaced hfresh (Document.replaced_perform calls (.none))
  rw [List.nil_append] at hedits
  exact ⟨hedits.spans, hedits.sorted, hedits.edits, hedits.print_cases hfresh,
    fun handle row hrow hle ↦ hedits.text_cases hfresh hrow hle⟩

/-- An argument is replaced, then the call around it, and the argument once more, which is refused.
One edit is left, that of the call. -/
theorem edits_nestedCalls :
    ([⟨⟨2, 6⟩, ['y']⟩] : List Edit).Perm ((uncovered (nestedCalls.perform
      [(⟨0, 6⟩, .source ['x']), (⟨0, 4⟩, .source ['y']), (⟨0, 6⟩, .source ['z'])]).1).map
        Replacement.edit) := by
  have hparse : Document.parse 0 ⟨true, false, false⟩ "f(g(a), b);".toList = .ok nestedCalls := by
    decide +kernel
  exact (edits_of_calls hparse
    [(⟨0, 6⟩, .source ['x']), (⟨0, 4⟩, .source ['y']), (⟨0, 6⟩, .source ['z'])]).2.2.1

/-- The type of a rest parameter stands below the parameter in the tree and after it in the text. The
edit of the type is left when the parameter above it is replaced later. -/
theorem edits_restParameter :
    (Document.parse 0 ⟨true, true, false⟩ "function f(...a: T) {}".toList).map (fun start ↦
      let outcome := start.perform [(⟨0, 9⟩, .source ['U']), (⟨0, 4⟩, .source ['b'])]
      (decide (4 ∈ ancestors start.rows 9), outcome.1, outcome.2.edits, outcome.2.print)) =
    .ok (true, [⟨9, ⟨17, 18⟩, ['U']⟩, ⟨4, ⟨11, 15⟩, ['b']⟩],
      [⟨⟨11, 15⟩, ['b']⟩, ⟨⟨17, 18⟩, ['U']⟩], .ok "function f(b: U) {}".toList) := by
  decide +kernel

/-- A receiver stands beside the list of parameters in the tree and inside it in the text. Replaced
after the list it leaves two edits that overlap, and the program cannot be printed. -/
example :
    (Document.parse 0 ⟨true, true, false⟩ "function f(this: A) {}".toList).map (fun start ↦
      let outcome := start.perform [(⟨0, 7⟩, .source "(a)".toList), (⟨0, 6⟩, .source ['B'])]
      (outcome.2.edits, outcome.2.print)) =
    .ok ([⟨⟨10, 19⟩, "(a)".toList⟩, ⟨⟨17, 18⟩, ['B']⟩], .error .overlap) := by
  decide +kernel

end SsrBuild
