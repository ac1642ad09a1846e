import SsrBuild.Proofs.Text.Boundary
import SsrBuild.Query.Document

/-!
What it means to replace spans of a text. `substitute` goes through the characters, puts the text of
an edit where its span begins and leaves out the characters inside spans; the order of the edits
does not matter (`substitute_perm`). For edits that follow one another, splicing them into the text
is the same (`splice_eq_substitute`), so no slice of it is missing.
-/

set_option autoImplicit false

namespace SsrBuild

open Text (Span IsBoundary slice? byteCount)

/-- The spans neither overlap nor does one of them contain the other. -/
def Text.Span.Apart (first second : Span) : Prop :=
  (first.stop ≤ second.start ∨ second.stop ≤ first.start) ∧
    first.covers second = false ∧ second.covers first = false

instance (first second : Span) : Decidable (first.Apart second) :=
  inferInstanceAs (Decidable (_ ∧ _))

/-- Spans that are apart begin at different places. -/
theorem Text.Span.Apart.start_ne {first second : Span} (h : first.Apart second) :
    first.start ≠ second.start := by
  obtain ⟨-, hfirst, hsecond⟩ := h
  intro hsame
  simp only [Span.covers, Bool.and_eq_false_iff, decide_eq_false_iff_not] at hfirst hsecond
  omega

/-- Spans are apart whichever is named first. -/
theorem Text.Span.Apart.symm {first second : Span} (h : first.Apart second) :
    second.Apart first := by
  obtain ⟨hsides, hfirst, hsecond⟩ := h
  exact ⟨hsides.symm, hsecond, hfirst⟩

/-- The edit takes away the character at the offset. -/
def Edit.takes (edit : Edit) (offset : Nat) : Bool :=
  edit.span.start ≤ offset && offset < edit.span.stop

/-- The texts of the edits that begin at the offset. -/
def inserted (edits : List Edit) (offset : Nat) : List Char :=
  (edits.filter (·.span.start == offset)).flatMap Edit.text

/-- The text that begins at an offset with the spans of the edits replaced by their texts. -/
def substitute (edits : List Edit) (offset : Nat) : List Char → List Char
  | [] => inserted edits offset
  | c :: rest =>
    inserted edits offset ++ (if edits.any (·.takes offset) then [] else [c]) ++
      substitute edits (offset + c.utf8Size) rest

/-! ### The order of the edits does not matter -/

/-- Two lists with the same elements are one list if they have at most one element. -/
theorem eq_of_perm_of_length_le_one {α : Type} {first second : List α} (h : first.Perm second)
    (hle : first.length ≤ 1) : first = second := by
  cases first with
  | nil => exact (List.nil_perm.mp h).symm
  | cons element rest =>
    obtain rfl : rest = [] := List.length_eq_zero_iff.mp (by
      simp only [List.length_cons] at hle
      omega)
    exact List.singleton_perm.mp h

/-- Of edits that begin at different offsets one at most begins at a given offset. -/
theorem length_filter_start_le_one {edits : List Edit}
    (h : edits.Pairwise fun first second ↦ first.span.start ≠ second.span.start) (offset : Nat) :
    (edits.filter (·.span.start == offset)).length ≤ 1 := by
  induction edits with
  | nil => simp
  | cons edit rest ih =>
    obtain ⟨hedit, hrest⟩ := List.pairwise_cons.mp h
    by_cases hstart : edit.span.start = offset
    · have hnone : rest.filter (·.span.start == offset) = [] := by
        refine List.filter_eq_nil_iff.mpr fun other hother ↦ ?_
        have hne := hedit other hother
        rw [hstart] at hne
        simpa using fun heq ↦ hne heq.symm
      simp [hstart, hnone]
    · simpa [List.filter_cons, hstart] using ih hrest

/-- The same edits in another order give the same text. -/
theorem substitute_perm {first second : List Edit} (hperm : first.Perm second)
    (hstarts : first.Pairwise fun edit other ↦ edit.span.start ≠ other.span.start)
    (text : List Char) (offset : Nat) :
    substitute first offset text = substitute second offset text := by
  have hinserted : ∀ place, inserted first place = inserted second place := fun place ↦ by
    unfold inserted
    rw [eq_of_perm_of_length_le_one (hperm.filter _) (length_filter_start_le_one hstarts place)]
  induction text generalizing offset with
  | nil => exact hinserted offset
  | cons c rest ih =>
    have htaken : first.any (·.takes offset) = second.any (·.takes offset) := by
      rw [Bool.eq_iff_iff, List.any_eq_true, List.any_eq_true]
      simp only [hperm.mem_iff]
    simp only [substitute, hinserted, htaken, ih]

/-- Without edits the text stays as it is. -/
@[simp] theorem substitute_nil (text : List Char) (offset : Nat) :
    substitute [] offset text = text := by
  induction text generalizing offset with
  | nil => rfl
  | cons c rest ih => simp [substitute, inserted, ih]

/-! ### Edits that follow one another -/

/-- The edits begin at or after an offset, none of them begins where another one stands, and none
ends before it begins. -/
def FollowFrom : Nat → List Edit → Prop
  | _, [] => True
  | offset, edit :: rest =>
    offset ≤ edit.span.start ∧ edit.span.start ≤ edit.span.stop ∧
      (∀ other ∈ rest, edit.span.start < other.span.start) ∧ FollowFrom edit.span.stop rest

theorem FollowFrom.le_start {edits : List Edit} : ∀ {offset : Nat}, FollowFrom offset edits →
    ∀ edit ∈ edits, offset ≤ edit.span.start := by
  induction edits with
  | nil => intro offset _ edit hedit; cases hedit
  | cons first rest ih =>
    intro offset h edit hedit
    obtain ⟨hfirst, hspan, -, hrest⟩ := h
    rcases List.mem_cons.mp hedit with rfl | hedit
    · exact hfirst
    · have := ih hrest edit hedit
      omega

/-- The edits follow any offset that none of them begins before. -/
theorem FollowFrom.of_le {edits : List Edit} {offset place : Nat} (h : FollowFrom offset edits)
    (hle : ∀ edit ∈ edits, place ≤ edit.span.start) : FollowFrom place edits := by
  cases edits with
  | nil => trivial
  | cons first rest =>
    obtain ⟨-, hspan, hlater, hrest⟩ := h
    exact ⟨hle first List.mem_cons_self, hspan, hlater, hrest⟩

/-- No two of the edits begin at one offset. -/
theorem FollowFrom.pairwise {edits : List Edit} : ∀ {offset : Nat}, FollowFrom offset edits →
    edits.Pairwise fun edit other ↦ edit.span.start ≠ other.span.start := by
  induction edits with
  | nil => intro offset _; exact List.Pairwise.nil
  | cons first rest ih =>
    intro offset h
    obtain ⟨-, -, hlater, hrest⟩ := h
    exact List.pairwise_cons.mpr ⟨fun other hother ↦ Nat.ne_of_lt (hlater other hother), ih hrest⟩

/-- Edits in the order in which they begin follow one another if they go forward, neither overlap nor
begin at one offset. -/
theorem followFrom_of_sorted {edits : List Edit}
    (hsorted : edits.Pairwise fun first second ↦ first.span.start ≤ second.span.start)
    (hforward : ∀ edit ∈ edits, edit.span.start ≤ edit.span.stop)
    (hpairs : edits.Pairwise fun first second ↦ first.span.start ≠ second.span.start ∧
      (first.span.stop ≤ second.span.start ∨ second.span.stop ≤ first.span.start)) :
    FollowFrom 0 edits := by
  induction edits with
  | nil => trivial
  | cons first rest ih =>
    obtain ⟨hfirst, hrest⟩ := List.pairwise_cons.mp hsorted
    obtain ⟨hfirstPairs, hrestPairs⟩ := List.pairwise_cons.mp hpairs
    obtain ⟨hspan, hspans⟩ := List.forall_mem_cons.mp hforward
    have hlater : ∀ other ∈ rest, first.span.start < other.span.start ∧
        first.span.stop ≤ other.span.start := fun other hother ↦ by
      have hle := hfirst other hother
      have hother' := hspans other hother
      obtain ⟨hne, hsides⟩ := hfirstPairs other hother
      omega
    exact ⟨Nat.zero_le _, hspan, fun other hother ↦ (hlater other hother).1,
      (ih hrest hspans hrestPairs).of_le fun other hother ↦ (hlater other hother).2⟩

/-- Some of the edits follow one another as all of them do. -/
theorem FollowFrom.filter {edits : List Edit} (keep : Edit → Bool) : ∀ {offset : Nat},
    FollowFrom offset edits → FollowFrom offset (edits.filter keep) := by
  induction edits with
  | nil => intro offset _; trivial
  | cons first rest ih =>
    intro offset h
    obtain ⟨hfirst, hspan, hlater, hrest⟩ := h
    by_cases hkeep : keep first
    · rw [List.filter_cons_of_pos hkeep]
      exact ⟨hfirst, hspan, fun other hother ↦ hlater other (List.mem_filter.mp hother).1,
        ih hrest⟩
    · rw [List.filter_cons_of_neg hkeep]
      refine (ih hrest).of_le fun other hother ↦ ?_
      have := hrest.le_start other (List.mem_filter.mp hother).1
      omega

/-- Insertion adds one edit. -/
theorem insertEdit_perm (edit : Edit) (edits : List Edit) :
    (Document.insertEdit edit edits).Perm (edit :: edits) := by
  induction edits with
  | nil => exact List.Perm.refl _
  | cons first rest ih =>
    unfold Document.insertEdit
    split_ifs
    · exact (ih.cons first).trans (List.Perm.swap edit first rest)
    · exact List.Perm.refl _

/-- Where the edit itself is left out, insertion makes no difference. -/
theorem filter_insertEdit_of_false {edit : Edit} {keep : Edit → Bool} (h : keep edit = false)
    (edits : List Edit) : (Document.insertEdit edit edits).filter keep = edits.filter keep := by
  induction edits with
  | nil => simp [Document.insertEdit, h]
  | cons first rest ih =>
    unfold Document.insertEdit
    split_ifs
    · rw [List.filter_cons, List.filter_cons, ih]
    · rw [List.filter_cons_of_neg (by simp [h])]

/-- An edit apart from all others is put in its place. -/
theorem FollowFrom.insertEdit {edit : Edit} {edits : List Edit}
    (hspan : edit.span.start ≤ edit.span.stop)
    (hapart : ∀ other ∈ edits, edit.span.Apart other.span) : ∀ {offset : Nat},
    FollowFrom offset edits → offset ≤ edit.span.start →
      FollowFrom offset (Document.insertEdit edit edits) := by
  induction edits with
  | nil =>
    intro offset _ hstart
    exact ⟨hstart, hspan, by simp, trivial⟩
  | cons first rest ih =>
    intro offset h hstart
    obtain ⟨hfirst, hfirstSpan, hlater, hrest⟩ := h
    obtain ⟨hdisjoint, hcovers, hcovered⟩ := hapart first List.mem_cons_self
    unfold Document.insertEdit
    split_ifs with hlt
    · refine ⟨hfirst, hfirstSpan, fun other hother ↦ ?_, ?_⟩
      · rcases List.mem_cons.mp ((insertEdit_perm edit rest).mem_iff.mp hother) with rfl | hmem
        · exact hlt
        · exact hlater other hmem
      · exact ih (fun other hother ↦ hapart other (List.mem_cons_of_mem first hother)) hrest
          (by omega)
    · -- Neither covers the other, so they do not begin at one offset even if a span is empty.
      simp only [Span.covers, Bool.and_eq_false_iff, decide_eq_false_iff_not] at hcovers hcovered
      have hstop : edit.span.stop ≤ first.span.start := by omega
      refine ⟨hstart, hspan, fun other hother ↦ ?_, hstop, hfirstSpan, hlater, hrest⟩
      rcases List.mem_cons.mp hother with rfl | hmem
      · omega
      · have := hlater other hmem
        omega

/-- Nothing is inserted where no edit begins. -/
theorem inserted_eq_nil {edits : List Edit} {offset : Nat}
    (h : ∀ edit ∈ edits, edit.span.start ≠ offset) : inserted edits offset = [] := by
  have hnone : edits.filter (·.span.start == offset) = [] :=
    List.filter_eq_nil_iff.mpr fun edit hedit ↦ by simpa using h edit hedit
  rw [inserted, hnone, List.flatMap_nil]

/-- The first character stays if all edits begin after it. -/
theorem head?_substitute {edits : List Edit} {offset : Nat}
    (h : ∀ edit ∈ edits, offset < edit.span.start) (text : List Char) :
    (substitute edits offset text).head? = text.head? := by
  have hnone : inserted edits offset = [] :=
    inserted_eq_nil fun edit hedit ↦ Nat.ne_of_gt (h edit hedit)
  have hkept : edits.any (·.takes offset) = false := by
    refine List.any_eq_false.mpr fun edit hedit ↦ ?_
    have := h edit hedit
    simp only [Edit.takes, Bool.and_eq_true, decide_eq_true_eq, not_and]
    omega
  cases text with
  | nil => rw [substitute, hnone]
  | cons c rest => simp [substitute, hnone, hkept]

/-- Text before the first edit stays. -/
theorem substitute_append_of_le {edits : List Edit} (gap rest : List Char) : ∀ {offset : Nat},
    (∀ edit ∈ edits, offset + byteCount gap ≤ edit.span.start) →
      substitute edits offset (gap ++ rest) =
        gap ++ substitute edits (offset + byteCount gap) rest := by
  induction gap with
  | nil => intro offset _; simp
  | cons c gap ih =>
    intro offset h
    have hpos := c.utf8Size_pos
    simp only [Text.byteCount_cons] at h
    have hnone : inserted edits offset = [] := inserted_eq_nil fun edit hedit ↦ by
      have := h edit hedit
      omega
    have hkept : edits.any (·.takes offset) = false := by
      refine List.any_eq_false.mpr fun edit hedit ↦ ?_
      have := h edit hedit
      simp only [Edit.takes, Bool.and_eq_true, decide_eq_true_eq, not_and]
      omega
    have hlater : ∀ edit ∈ edits, offset + c.utf8Size + byteCount gap ≤ edit.span.start :=
      fun edit hedit ↦ by
        have := h edit hedit
        omega
    have hrest := ih hlater
    simp only [List.cons_append, substitute, hnone, hkept, List.nil_append, hrest,
      Text.byteCount_cons, Nat.add_assoc]
    simp

/-- An edit has no part in what comes after its span. -/
theorem substitute_cons_of_lt (edit : Edit) (rest : List Edit) (text : List Char) :
    ∀ {offset : Nat}, edit.span.start < offset → edit.span.stop ≤ offset →
      substitute (edit :: rest) offset text = substitute rest offset text := by
  have hinserted : ∀ {offset}, edit.span.start < offset →
      inserted (edit :: rest) offset = inserted rest offset := fun {offset} hlt ↦ by
    have hne : (edit.span.start == offset) = false := by simpa using Nat.ne_of_lt hlt
    simp [inserted, hne]
  induction text with
  | nil => intro offset hstart _; exact hinserted hstart
  | cons c text ih =>
    intro offset hstart hstop
    have hkept : edit.takes offset = false := by
      simp only [Edit.takes, Bool.and_eq_false_iff, decide_eq_false_iff_not]
      omega
    have hrest : substitute (edit :: rest) (offset + c.utf8Size) text =
        substitute rest (offset + c.utf8Size) text := ih (by omega) (by omega)
    simp only [substitute, hinserted hstart, List.any_cons, hkept, Bool.false_or, hrest]

/-- What stands inside the span of an edit is left out. -/
theorem substitute_cons_inside {edit : Edit} {rest : List Edit}
    (hrest : ∀ other ∈ rest, edit.span.stop ≤ other.span.start) (after : List Char) :
    ∀ (inside : List Char) {offset : Nat}, edit.span.start < offset →
      offset + byteCount inside = edit.span.stop →
        substitute (edit :: rest) offset (inside ++ after) =
          substitute rest edit.span.stop after := by
  intro inside
  induction inside with
  | nil =>
    intro offset hstart hstop
    simp only [Text.byteCount_nil, Nat.add_zero] at hstop
    rw [List.nil_append, substitute_cons_of_lt edit rest after hstart (by omega), hstop]
  | cons c inside ih =>
    intro offset hstart hstop
    have hpos := c.utf8Size_pos
    simp only [Text.byteCount_cons] at hstop
    have hnone : inserted (edit :: rest) offset = [] := inserted_eq_nil fun other hother ↦ by
      rcases List.mem_cons.mp hother with rfl | hother
      · omega
      · have := hrest other hother
        omega
    have htaken : edit.takes offset = true := by
      simp only [Edit.takes, Bool.and_eq_true, decide_eq_true_eq]
      omega
    simp only [List.cons_append, substitute, hnone, List.any_cons, htaken, Bool.true_or, if_pos,
      List.nil_append]
    exact ih (by omega) (by omega)

/-- The text of an edit stands in place of its span. -/
theorem substitute_cons_at {edit : Edit} {rest : List Edit}
    (hlater : ∀ other ∈ rest, edit.span.start < other.span.start)
    (hrest : ∀ other ∈ rest, edit.span.stop ≤ other.span.start) (inside after : List Char)
    (hcount : edit.span.start + byteCount inside = edit.span.stop) :
    substitute (edit :: rest) edit.span.start (inside ++ after) =
      edit.text ++ substitute rest edit.span.stop after := by
  have hnone : inserted rest edit.span.start = [] :=
    inserted_eq_nil fun other hother ↦ Nat.ne_of_gt (hlater other hother)
  have hinserted : inserted (edit :: rest) edit.span.start = edit.text := by
    have hrestNone : (rest.filter (·.span.start == edit.span.start)).flatMap Edit.text = [] :=
      hnone
    simp [inserted, hrestNone]
  cases inside with
  | cons c inside =>
    have hpos := c.utf8Size_pos
    simp only [Text.byteCount_cons] at hcount
    have htaken : edit.takes edit.span.start = true := by
      simp only [Edit.takes, Bool.and_eq_true, decide_eq_true_eq]
      omega
    simp only [List.cons_append, substitute, hinserted, List.any_cons, htaken, Bool.true_or,
      if_pos, List.append_nil]
    rw [substitute_cons_inside hrest after inside (by omega) (by omega)]
  | nil =>
    -- An empty span takes nothing away, and its edit has no part in what follows.
    simp only [Text.byteCount_nil, Nat.add_zero] at hcount
    have hkept : edit.takes edit.span.start = false := by
      simp only [Edit.takes, Bool.and_eq_false_iff, decide_eq_false_iff_not]
      omega
    rw [List.nil_append, ← hcount]
    cases after with
    | nil => simp only [substitute, hinserted, hnone, List.append_nil]
    | cons c after =>
      have hpos := c.utf8Size_pos
      simp only [substitute, hinserted, hnone, List.any_cons, hkept, Bool.false_or,
        List.nil_append, List.append_assoc]
      rw [substitute_cons_of_lt edit rest after (by omega) (by omega)]

/-- Splicing edits that follow one another into a slice puts their texts in place of their spans,
and no slice is missing. -/
theorem splice_eq_substitute {source : List Char} {stop : Nat} (edits : List Edit) :
    ∀ {start : Nat} {whole : List Char}, slice? source start stop = some whole →
      FollowFrom start edits →
      (∀ edit ∈ edits, edit.span.stop ≤ stop ∧ IsBoundary source edit.span.start ∧
        IsBoundary source edit.span.stop) →
      Document.splice source start stop edits = some (substitute edits start whole) := by
  induction edits with
  | nil =>
    intro start whole hwhole _ _
    rw [Document.splice, hwhole, substitute_nil]
  | cons edit rest ih =>
    intro start whole hwhole hfollow hinside
    obtain ⟨hstart, hspan, hlater, hrest⟩ := hfollow
    obtain ⟨hstop, hfirstBoundary, hlastBoundary⟩ := hinside edit List.mem_cons_self
    obtain ⟨gap, tail, hgap, htail, rfl⟩ :=
      Text.slice?_split hwhole hfirstBoundary hstart (by omega)
    obtain ⟨inside, after, hmiddle, hafter, rfl⟩ :=
      Text.slice?_split htail hlastBoundary hspan hstop
    have hgapCount := Text.add_byteCount_of_slice? hgap
    have hstarts : ∀ other ∈ edit :: rest, start + byteCount gap ≤ other.span.start := by
      intro other hother
      rcases List.mem_cons.mp hother with rfl | hother
      · omega
      · have := hlater other hother
        omega
    have hspliced := ih hafter hrest fun other hother ↦
      hinside other (List.mem_cons_of_mem edit hother)
    calc Document.splice source start stop (edit :: rest)
        = some (gap ++ edit.text ++ substitute rest edit.span.stop after) := by
          simp [Document.splice, hgap, hspliced]
      _ = some (gap ++ substitute (edit :: rest) edit.span.start (inside ++ after)) := by
          rw [substitute_cons_at hlater hrest.le_start inside after
            (Text.add_byteCount_of_slice? hmiddle), List.append_assoc]
      _ = some (substitute (edit :: rest) start (gap ++ (inside ++ after))) := by
          rw [substitute_append_of_le gap (inside ++ after) hstarts, hgapCount]

end SsrBuild
