import SsrBuild.Proofs.Entry.PerRequest
import SsrBuild.Resource.Transform

/-!
Which modules are refused on their way into the build. An entry module that is a program is rewritten
without fail: neither of the two nodes that are replaced is above the other, and as they stand in the
text the first one ends before the second one or lies inside it, so their edits never overlap
(`exists_rewriteAt`). So a module is refused only where it is the entry module and no program
(`transform_eq_error_iff`).
-/

set_option autoImplicit false

namespace SsrBuild

open Text (Span)

/-! ### Two edits one after the other -/

/-- At most one edit is in order. -/
theorem successive_filter_singleton (edit : Edit) (test : Edit → Bool) :
    Successive ([edit].filter test) := by
  cases htest : test edit <;> simp [htest, Successive]

/-- An edit that is clear of the next one is taken back by it or stays apart from it. -/
theorem successive_insertEdit {edit next : Edit} (hnext : next.span.start ≤ next.span.stop)
    (hclear : edit.span.IsClearOf next.span) :
    Successive (Document.insertEdit next
      ([edit].filter fun earlier ↦ !next.span.covers earlier.span)) := by
  cases hcovers : next.span.covers edit.span with
  | true => simp [hcovers, Document.insertEdit, Successive]
  | false =>
    have hnot : ¬ (next.span.start ≤ edit.span.start ∧ edit.span.stop ≤ next.span.stop) := by
      simpa [Span.covers] using hcovers
    simp only [List.filter_cons, hcovers, Bool.not_false, if_true, List.filter_nil,
      Document.insertEdit]
    rcases hclear with hbefore | hafter | hinside
    · -- If both begin at one offset, the edit is empty there and the next one covers it.
      have hlt : edit.span.start < next.span.start := by omega
      rw [if_pos hlt]
      exact .cons_cons hbefore (.singleton next)
    · have hle : ¬ edit.span.start < next.span.start := by omega
      rw [if_neg hle]
      exact .cons_cons hafter (.singleton edit)
    · exact absurd hinside hnot

namespace Entry

variable {document : Document} {dialect : Grammar.Dialect} {source : List Char}

/-! ### Programs are rewritten without fail -/

/-- After a single replacement the program can be printed, and every node that stands has a text. -/
theorem exists_print_and_text (hfresh : document.IsFresh) {replacement : Replacement}
    {initialized : Document} (hreplaced : document.Replaced [replacement] initialized) :
    (∃ text, initialized.print = .ok text) ∧
      ∀ handle row, initialized.row handle = .ok row → row.span.start ≤ row.span.stop →
        ∃ text, initialized.text handle = .ok text := by
  have hfirst := EditsOf.of_replaced hfresh hreplaced
  have hedits : initialized.edits = [replacement.edit] := List.perm_singleton.mp hfirst.edits
  refine ⟨?_, fun handle row hrow hle ↦ ?_⟩
  · rcases hfirst.print_cases hfresh with ⟨-, hprint⟩ | ⟨hnot, -⟩
    · exact hprint
    · rw [hedits] at hnot
      exact absurd (.singleton _) hnot
  · rcases hfirst.text_cases hfresh hrow hle with ⟨-, htext⟩ | ⟨hnot, -⟩
    · exact htext
    · rw [hedits] at hnot
      exact absurd (successive_filter_singleton _ _) hnot

/-- After a second one it can be printed if the first one was clear of it. -/
theorem exists_print_of_isClearOf (hfresh : document.IsFresh) {replacement : Replacement}
    {initialized finished : Document} (hreplaced : document.Replaced [replacement] initialized)
    {handle : Handle} {row : Row} {fragment : Fragment}
    (hrow : initialized.row handle = .ok row) (hle : row.span.start ≤ row.span.stop)
    (hclear : replacement.edit.span.IsClearOf row.span)
    (hfinished : initialized.replace handle fragment = .ok finished) :
    ∃ text, finished.print = .ok text := by
  have hfirst := EditsOf.of_replaced hfresh hreplaced
  have hedits : initialized.edits = [replacement.edit] := List.perm_singleton.mp hfirst.edits
  obtain ⟨found, text, hfound, htext, hnext⟩ := Document.replace_eq_ok_iff.mp hfinished
  obtain rfl : found = row := Except.ok.inj (hfound.symm.trans hrow)
  rcases (hfirst.step hfound htext hfinished).print_cases hfresh with ⟨-, hprint⟩ | ⟨hnot, -⟩
  · exact hprint
  · have hsuccessive : Successive finished.edits := by
      rw [hnext, hedits]
      exact successive_insertEdit hle hclear
    exact absurd hsuccessive hnot

/-- At a site whose construction is clear of the parameters both are replaced without fail. -/
theorem exists_rewriteAt (hfresh : document.IsFresh) (hinside : ChildrenInside document.rows)
    {site : Site} (hsite : site? document.rows = some site) (hclear : site.IsClear document.rows) :
    ∃ text, rewriteAt document (document.handle site.construction)
      (site.parameters.map document.handle) = .ok text := by
  obtain ⟨⟨row, hrow, -⟩, hlists⟩ := of_site? hfresh.isTable hsite
  obtain ⟨construction, parameters⟩ := site
  obtain ⟨call, edit, initialized, hcall, -, hedit, hinitialized, hfirst⟩ :=
    exists_initialized hfresh hrow (start_le_stop_of_argument hfresh hinside hrow)
  obtain ⟨⟨printed, hprint⟩, htexts⟩ := exists_print_and_text hfresh hfirst
  cases parameters with
  | none =>
    exact ⟨_, rewriteAt_none_eq_ok_iff.mpr
      ⟨call, initialized, printed, hcall, hinitialized, hprint, rfl⟩⟩
  | some list =>
    obtain ⟨⟨listRow, hlistRow, -⟩, hunrelated⟩ := hlists list rfl
    have hstanding := row_of_initialized hfresh hrow hlistRow hunrelated hinitialized
    have hle := hfresh.start_le_stop hinside hlistRow
    have hclearOf : edit.span.IsClearOf listRow.span := by
      rw [hedit]
      exact hclear row hrow list rfl listRow hlistRow
    obtain ⟨written, htext⟩ := htexts _ listRow hstanding hle
    obtain ⟨fragment, finished, hfragment, hfinished, -⟩ := exists_finished hfirst hstanding htext
    obtain ⟨text, htext⟩ :=
      exists_print_of_isClearOf hfresh hfirst hstanding hle hclearOf hfinished
    exact ⟨_, rewriteAt_some_eq_ok_iff.mpr ⟨call, initialized, fragment, finished, text, hcall,
      hinitialized, hfragment, hfinished, htext, rfl⟩⟩

/-- A program is rewritten without fail. -/
theorem exists_perRequest (hparse : Document.parse 0 dialect source = .ok document)
    (hinside : ChildrenInside document.rows) : ∃ text, perRequest dialect source = .ok text := by
  rw [perRequest_of_parse hparse]
  cases hsite : site? document.rows with
  | none => exact ⟨source, rfl⟩
  | some site =>
    exact exists_rewriteAt (Document.isFresh_of_parse hparse) hinside hsite
      (isClear_of_site? hparse hsite)

/-- A text that is no program is refused. -/
theorem perRequest_of_refused (h : Grammar.parseProgram dialect source = none) :
    perRequest dialect source = .error .refused := by
  simp [perRequest, Document.parse, h, bind, Except.bind]

end Entry

namespace ProjectConfig

/-! ### Modules that are refused -/

/-- A module is refused exactly if it is the entry module and its text is no program in the dialect
of its path. Every other module has a text in the build, and one that is nothing to the build has the
text that it had. -/
theorem transform_eq_error_iff (config : ProjectConfig) (path content : List Char)
    (hinside : ∀ document, Document.parse 0 (entryDialect path) content = .ok document →
      ChildrenInside document.rows) :
    (∀ error, config.transform path content = .error error ↔
      error = .refused ∧ ResourceClass.ofPath config path = .userEntryModule ∧
        Grammar.parseProgram (entryDialect path) content = none) ∧
    (¬ (ResourceClass.ofPath config path = .userEntryModule ∧
        Grammar.parseProgram (entryDialect path) content = none) →
      ∃ text, config.transform path content = .ok text) ∧
    (ResourceClass.ofPath config path = .unrelated →
      config.transform path content = .ok content) := by
  unfold transform
  cases ResourceClass.ofPath config path with
  | libraryBootstrap => simp
  | unrelated => simp
  | userEntryModule =>
    cases hprogram : Grammar.parseProgram (entryDialect path) content with
    | none =>
      simp [Entry.perRequest_of_refused hprogram, eq_comm]
    | some tree =>
      have hparse : Document.parse 0 (entryDialect path) content =
          .ok ⟨0, content, tree.table, []⟩ := by
        rw [Document.parse, hprogram]
      obtain ⟨text, htext⟩ := Entry.exists_perRequest hparse (hinside _ hparse)
      simp [htext]

/-- A project with an entry module. -/
def entryProject : ProjectConfig :=
  ⟨⟨["app".toList]⟩, ⟨["app".toList, "src".toList, "main".toList]⟩, [], [], .null⟩

/-- A function with a receiver that builds the app from another one. -/
def receiverModule : List Char :=
  "export default function (this: any) { return new Vue(new Vue({})) }".toList

/-- As the entry module it has a text in the build. -/
theorem transform_receiverModule :
    ResourceClass.ofPath entryProject "/app/src/main.ts".toList = .userEntryModule ∧
      ∃ text, entryProject.transform "/app/src/main.ts".toList receiverModule = .ok text := by
  have hclass : ResourceClass.ofPath entryProject "/app/src/main.ts".toList = .userEntryModule := by
    decide +kernel
  have hprogram : (Grammar.parseProgram (entryDialect "/app/src/main.ts".toList)
      receiverModule).isSome = true := by decide +kernel
  have hinside : ∀ document, Document.parse 0 (entryDialect "/app/src/main.ts".toList)
      receiverModule = .ok document → ChildrenInside document.rows := by
    intro document hparse
    have hrows : (Document.parse 0 (entryDialect "/app/src/main.ts".toList) receiverModule).map
        (fun document ↦ decide (ChildrenInside document.rows)) = .ok true := by decide +kernel
    rw [hparse] at hrows
    exact of_decide_eq_true (Except.ok.inj hrows)
  refine ⟨hclass, (transform_eq_error_iff entryProject _ _ hinside).2.1 fun h ↦ ?_⟩
  rw [h.2] at hprogram
  cases hprogram

end ProjectConfig

end SsrBuild
