import SsrBuild.Proofs.Query.EditList

/-!
Documents that replacements lead to. Whatever nodes of a document have been replaced, its rows are
the ones it began with but for the detached ones (`Document.Replaced.sameButDetached`), and these are
the rows of the nodes replaced and of the nodes below them (`Document.Replaced.isAt`).
-/

set_option autoImplicit false

namespace SsrBuild.Document

variable {start document : Document} {done : List Replacement} {place : Nat}

/-- Replacements leave all of the rows but for the flags. -/
theorem Replaced.sameButDetached (hreached : start.Replaced done document) :
    SameButDetached start.rows document.rows := by
  induction hreached with
  | none => exact .refl start.rows
  | more _ handle fragment _ _ hnext ih =>
    obtain ⟨row, text, -, -, rfl⟩ := replace_eq_ok_iff.mp hnext
    exact ih.trans (sameButDetached_detach handle.index row.stop _)

/-- The nodes that have been replaced are those of the replacements. -/
theorem Replaced.isAt (hreached : start.Replaced done document)
    (hstart : start.IsAt place fun _ ↦ False) :
    document.IsAt place fun node ↦ ∃ replacement ∈ done, replacement.node = node := by
  induction hreached with
  | none => exact hstart.congr fun node ↦ by simp
  | more _ handle fragment _ _ hnext ih =>
    refine (ih.replace hnext).1.congr fun node ↦ ?_
    simp [or_and_right, exists_or, eq_comm]

/-- A handle that has a row is that of its number. -/
theorem eq_handle_of_row {handle : Handle} {row : Row} (hrow : document.row handle = .ok row) :
    handle = document.handle handle.index := by
  obtain ⟨hid, -, -⟩ := row_eq_ok_iff.mp hrow
  rw [Document.handle, ← hid]

end SsrBuild.Document
