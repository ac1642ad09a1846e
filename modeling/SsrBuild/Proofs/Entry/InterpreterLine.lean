import SsrBuild.Proofs.Entry.Acceptance
import SsrBuild.Proofs.Entry.ImportLine

/-!
Entry modules that begin with the line that names their interpreter, and no others. The mark `#!` is
a token at the beginning of a text only, and the import line is put before whatever a module begins
with. So a module with such a line is no program any more once it has been rewritten
(`interpreterLine_isSome_iff`).
-/

set_option autoImplicit false

namespace SsrBuild

open Text (Span byteCount byteOffset slice?)

/-! ### The mark as a token -/

namespace Grammar

/-- At the beginning of a text the mark begins a token. -/
theorem Lexeme.next_interpreterLine (script : Bool) (text : List Char) :
    (Lexeme.next script ⟨0, '#' :: '!' :: text⟩).token = .hashbang ∧
      2 ≤ (Lexeme.next script ⟨0, '#' :: '!' :: text⟩).stop := by
  have hstop := Lexeme.le_skipWhile (!isLineEnd ·) 2 text
  cases script <;> exact ⟨rfl, hstop⟩

/-- After the import line it does not. -/
theorem Lexeme.next_interpreterLine_sound (script : Bool) (text : List Char) :
    (Lexeme.next script ⟨45, '\n' :: '#' :: '!' :: text⟩).sound = false := by
  cases script <;> rfl

end Grammar

/-! ### The text before the edits -/

/-- A slice from the beginning of a text has what the text begins with. -/
theorem exists_of_slice?_zero {before rest whole : List Char} {stop : Nat}
    (h : slice? (before ++ rest) 0 stop = some whole) (hle : byteCount before ≤ stop) :
    ∃ tail, whole = before ++ tail := by
  obtain ⟨first, tail, hfirst, -, rfl⟩ :=
    Text.slice?_split h ⟨before, rest, rfl, rfl⟩ (Nat.zero_le _) hle
  have hbefore : slice? (before ++ rest) 0 (byteCount before) = some before :=
    Text.slice?_eq_some_iff.mpr ⟨[], rest, rfl, rfl, Nat.zero_add _⟩
  obtain rfl := Option.some.inj (hfirst.symm.trans hbefore)
  exact ⟨tail, rfl⟩

/-- A text keeps what comes before its edits. -/
theorem exists_of_splice {before rest text : List Char} {stop : Nat} {edits : List Edit}
    (h : Document.splice (before ++ rest) 0 stop edits = some text) (hle : byteCount before ≤ stop)
    (hedits : ∀ edit ∈ edits, byteCount before ≤ edit.span.start) :
    ∃ tail, text = before ++ tail := by
  cases edits with
  | nil => exact exists_of_slice?_zero h hle
  | cons edit edits =>
    obtain ⟨first, hfirst, h⟩ := Option.bind_eq_some_iff.mp h
    obtain ⟨after, -, h⟩ := Option.bind_eq_some_iff.mp h
    obtain rfl := Option.some.inj h
    obtain ⟨tail, rfl⟩ := exists_of_slice?_zero hfirst (hedits edit List.mem_cons_self)
    exact ⟨tail ++ edit.text ++ after, by simp⟩

/-- After replacements of nodes that do not begin before some text, the text stays where it is. -/
theorem Document.Replaced.exists_of_print {document final : Document} {done : List Replacement}
    {before rest printed : List Char} (hreplaced : document.Replaced done final)
    (hfresh : document.IsFresh) (hsource : document.source = before ++ rest)
    (hafter : ∀ replacement ∈ done, ∀ row ∈ document.rows[replacement.node]?,
      byteCount before ≤ row.span.start) (hprint : final.print = .ok printed) :
    ∃ tail, printed = before ++ tail := by
  have hedits := EditsOf.of_replaced hfresh hreplaced
  rw [Document.print, Document.render] at hprint
  split at hprint
  · next text htext =>
    obtain rfl := Except.ok.inj hprint
    rw [hedits.source, hsource] at htext
    refine exists_of_splice htext (by simp) fun edit hedit ↦ ?_
    obtain ⟨replacement, row, hreplacement, hrow, hspan⟩ :=
      hedits.exists_row_of_mem (List.mem_filter.mp hedit).1
    rw [hspan]
    exact hafter replacement hreplacement row hrow
  · cases hprint

/-! ### Where the nodes of such a module stand -/

namespace Document

variable {id : Nat} {dialect : Grammar.Dialect} {text : List Char} {document : Document}

/-- The nodes with a kind of their own begin after the mark. -/
theorem le_start_of_interpreterLine
    (hparse : parse id dialect ('#' :: '!' :: text) = .ok document) {i : Nat} {row : Row}
    (hrow : document.rows[i]? = some row) (hprogram : row.kind ≠ .program)
    (hother : row.kind ≠ .other) : byteCount ['#', '!'] ≤ row.span.start := by
  obtain ⟨statements, haccept, rfl⟩ := exists_statements hparse
  obtain ⟨hmark, hstop⟩ := Grammar.Lexeme.next_interpreterLine (!dialect.isModule) text
  obtain ⟨last, -, -, span, rest, rfl, hplaced⟩ :=
    Grammar.exists_state_of_accept haccept (Grammar.ensures_program _ hmark _) rfl
  obtain ⟨place, below, -, hbelow, hkind, hspan⟩ := Tree.exists_node_of_row hrow
  rw [hkind] at hprogram hother
  have hstart : 2 ≤ below.span.start := by
    rcases Tree.mem_preorder_iff.mp (Tree.mem_preorder_of_subtree? place hbelow) with
      rfl | ⟨statement, hstatement, hmem⟩
    · exact absurd rfl hprogram
    · rcases List.mem_cons.mp hstatement with rfl | hstatement
      · obtain rfl : below = .node .other span [] := by simpa [Tree.mem_preorder_iff] using hmem
        exact absurd rfl hother
      · have hhole : below.label ≠ .hole := fun hlabel ↦ hother (by
          obtain ⟨label, _, _⟩ := below
          obtain rfl : label = .hole := hlabel
          rfl)
        exact Nat.le_trans hstop ((hplaced.1 statement hstatement).span_mem hmem hhole).1
  rw [hspan]
  exact Text.byteOffset_le ('#' :: '!' :: text) hstart

end Document

/-! ### Rewritten modules -/

namespace Entry

variable {document : Document} {dialect : Grammar.Dialect} {text output : List Char}

/-- The text of a rewritten module is printed after replacements of a construction and of the
parameters. -/
theorem exists_replaced_of_rewriteAt {construction : Nat} {parameters : Option Nat}
    (h : rewriteAt document (document.handle construction) (parameters.map document.handle) =
      .ok output) :
    ∃ done final printed, document.Replaced done final ∧ final.print = .ok printed ∧
      importLine ++ printed = output ∧
      ∀ replacement ∈ done, replacement.node = construction ∨ replacement.node ∈ parameters := by
  cases parameters with
  | none =>
    obtain ⟨call, finished, printed, -, hfinished, hprint, h⟩ := rewriteAt_none_eq_ok_iff.mp h
    obtain ⟨row, rendered, hrow, hrendered, -⟩ := Document.replace_eq_ok_iff.mp hfinished
    refine ⟨_, finished, printed, .more .none _ call hrow hrendered hfinished, hprint, h, ?_⟩
    simp [Document.handle]
  | some list =>
    obtain ⟨call, initialized, fragment, finished, printed, -, hinitialized, -, hfinished, hprint,
      h⟩ := rewriteAt_some_eq_ok_iff.mp h
    obtain ⟨row, rendered, hrow, hrendered, -⟩ := Document.replace_eq_ok_iff.mp hinitialized
    obtain ⟨listRow, listText, hlist, hlistText, -⟩ := Document.replace_eq_ok_iff.mp hfinished
    have hfirst := Document.Replaced.none.more _ call hrow hrendered hinitialized
    refine ⟨_, finished, printed, hfirst.more _ fragment hlist hlistText hfinished, hprint, h, ?_⟩
    simp [Document.handle]

/-- A rewritten module has the import line before the mark. -/
theorem exists_of_perRequest (h : perRequest dialect ('#' :: '!' :: text) = .ok output)
    (hchanged : output ≠ '#' :: '!' :: text) :
    ∃ tail, output = importLine ++ '#' :: '!' :: tail := by
  obtain ⟨document, hparse, -⟩ := bind_eq_ok_iff.mp h
  have hfresh := Document.isFresh_of_parse hparse
  rw [perRequest_of_parse hparse] at h
  cases hsite : site? document.rows with
  | none =>
    rw [hsite] at h
    exact absurd (Except.ok.inj h).symm hchanged
  | some site =>
    rw [hsite] at h
    obtain ⟨done, final, printed, hreplaced, hprint, rfl, hnodes⟩ := exists_replaced_of_rewriteAt h
    obtain ⟨⟨row, hrow, hkind⟩, hlists⟩ := of_site? hfresh.isTable hsite
    have hafter : ∀ replacement ∈ done, ∀ found ∈ document.rows[replacement.node]?,
        byteCount ['#', '!'] ≤ found.span.start := by
      intro replacement hmem found hfound
      have hkinds : found.kind = .newExpression ∨ found.kind = .formalParameters := by
        rcases hnodes replacement hmem with hnode | hnode
        · rw [hnode] at hfound
          obtain rfl := Option.some.inj (hrow.symm.trans hfound)
          exact Or.inl hkind
        · obtain ⟨⟨listRow, hlistRow, hlistKind⟩, -⟩ := hlists _ hnode
          obtain rfl := Option.some.inj (hlistRow.symm.trans hfound)
          exact Or.inr hlistKind
      rcases hkinds with hkind | hkind <;>
        exact Document.le_start_of_interpreterLine hparse hfound (by rw [hkind]; nofun)
          (by rw [hkind]; nofun)
    have hsource : document.source = ['#', '!'] ++ text := Document.source_of_parse hparse
    obtain ⟨tail, rfl⟩ := hreplaced.exists_of_print hfresh hsource hafter hprint
    exact ⟨tail, rfl⟩

/-- A module that begins with the line naming its interpreter is a program in the build exactly if
it has not been rewritten. -/
theorem interpreterLine_isSome_iff
    (h : perRequest dialect ('#' :: '!' :: text) = .ok output) :
    (Grammar.parseProgram dialect output).isSome ↔ output = '#' :: '!' :: text := by
  constructor
  · intro hprogram
    by_contra hchanged
    obtain ⟨tail, rfl⟩ := exists_of_perRequest h hchanged
    rw [parseProgram_importLine_append dialect fun script ↦
      Grammar.Lexeme.next_interpreterLine_sound script tail] at hprogram
    cases hprogram
  · rintro rfl
    by_contra hprogram
    rw [perRequest_of_refused (Option.not_isSome_iff_eq_none.mp hprogram)] at h
    cases h

/-- A module that can be run by itself. -/
def runnableModule : List Char :=
  "#!/usr/bin/env node\nexport default () => new Vue({})".toList

/-- What becomes of it. -/
def rewrittenModule : List Char :=
  "import initApp from '@uvue/core/lib/initApp';\n#!/usr/bin/env node\n".toList ++
    "export default (context) => initApp({}, context)".toList

/-- It is a program with types, and after the rewrite it is none. -/
theorem perRequest_runnableModule :
    (Grammar.parseProgram ⟨true, true, false⟩ runnableModule).isSome ∧
      perRequest ⟨true, true, false⟩ runnableModule = .ok rewrittenModule ∧
      Grammar.parseProgram ⟨true, true, false⟩ rewrittenModule = none := by
  decide +kernel

end Entry

end SsrBuild
