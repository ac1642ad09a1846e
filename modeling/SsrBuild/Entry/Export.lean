import SsrBuild.Query.Document

/-!
The default export of an entry module: the declaration it exports, the parameters of that
declaration, and the construction of the app below it. Parentheses around the declaration, and
nodes that only wrap it, are looked through.
-/

set_option autoImplicit false

namespace SsrBuild

/-- Does a node with this first child only wrap it? -/
def Row.wraps (row child : Row) : Bool :=
  row.kind == .parenthesized || (row.kind == .other && child.span == row.span)

namespace Document

variable (document : Document)

/-- Handles of a stretch of rows stay within it, and within the table. -/
theorem index_of_mem_handlesBetween {start stop : Nat} {test : Row → Bool} {handle : Handle}
    (h : handle ∈ document.handlesBetween start stop test) :
    start ≤ handle.index ∧ handle.index < stop ∧ handle.index < document.rows.length := by
  simp only [handlesBetween, List.mem_filterMap] at h
  obtain ⟨⟨row, index⟩, hmem, hif⟩ := h
  have hlt : index < document.rows.length := by
    have := List.snd_lt_of_mem_zipIdx hmem
    omega
  simp only at hif
  split at hif
  · next hc =>
    simp only [Option.some.injEq] at hif
    subst hif
    simp only [Bool.and_eq_true, decide_eq_true_eq] at hc
    exact ⟨hc.1.1.1, hc.1.1.2, hlt⟩
  · cases hif

/-- The first node right below a node. -/
def firstChild (handle : Handle) : Except QueryError (Option Handle) := do
  return (← document.children handle).head?

/-- The first child stands later in the table than the node. -/
theorem lt_index_of_firstChild {handle child : Handle}
    (h : document.firstChild handle = .ok (some child)) :
    handle.index < child.index ∧ child.index < document.rows.length := by
  simp only [firstChild, children, below] at h
  cases hrow : document.row handle with
  | error e =>
    rw [hrow] at h
    cases h
  | ok row =>
    rw [hrow] at h
    have hhead : (document.handlesBetween (handle.index + 1) row.stop
        (·.parent == some handle.index)).head? = some child := Except.ok.inj h
    have := document.index_of_mem_handlesBetween (List.mem_of_head? hhead)
    omega

/-- What is left of a node when everything that only wraps it is taken off. -/
def unwrap (handle : Handle) : Except QueryError Handle :=
  match _h : document.firstChild handle with
  | .error error => .error error
  | .ok none => .ok handle
  | .ok (some child) => do
    let row ← document.row handle
    if row.wraps (← document.row child) then unwrap child else return handle
termination_by document.rows.length - handle.index
decreasing_by
  have := document.lt_index_of_firstChild _h
  omega

variable {document} in
/-- A node without a child is left as it is. -/
theorem unwrap_of_childless {handle : Handle} (h : document.firstChild handle = .ok none) :
    document.unwrap handle = .ok handle := by
  rw [unwrap]
  split
  · next error herror =>
    rw [h] at herror
    cases herror
  · rfl
  · next child hchild =>
    rw [h] at hchild
    cases hchild

variable {document} in
/-- A node with a child is taken off if it only wraps it. -/
theorem unwrap_of_firstChild {handle child : Handle} {row below : Row}
    (h : document.firstChild handle = .ok (some child)) (hrow : document.row handle = .ok row)
    (hbelow : document.row child = .ok below) :
    document.unwrap handle =
      if row.wraps below then document.unwrap child else .ok handle := by
  rw [unwrap]
  split
  · next error herror =>
    rw [h] at herror
    cases herror
  · next hnone =>
    rw [h] at hnone
    cases hnone
  · next found hfound =>
    obtain rfl := Option.some.inj (Except.ok.inj (h.symm.trans hfound))
    rw [hrow, hbelow]
    rfl

/-- The declaration that a default export exports, if the export has anything below it. -/
def exportedDeclaration (defaultExport : Handle) : Except QueryError (Option Handle) := do
  match ← document.firstChild defaultExport with
  | some child => return some (← document.unwrap child)
  | none => return none

/-- The parameters of a declaration that is a function. -/
def parametersOf (declaration : Handle) : Except QueryError (Option Handle) := do
  match (← document.row declaration).kind with
  | .function | .arrowFunction =>
    let lists ← document.below declaration fun row =>
      row.parent == some declaration.index && row.kind == .formalParameters
    return lists.head?
  | _ => return none

/-- The parameters of the declaration that a default export exports. -/
def exportedParameters (defaultExport : Handle) : Except QueryError (Option Handle) := do
  match ← document.exportedDeclaration defaultExport with
  | some declaration => document.parametersOf declaration
  | none => return none

/-- The class of the app. -/
def appClass : String := "Vue"

/-- The first construction of the app below an export that is not among the parameters. -/
def appConstruction (defaultExport : Handle) (parameters : Option Handle) :
    Except QueryError (Option Handle) := do
  let constructions ← document.findIn defaultExport (.newExpression appClass)
  match parameters with
  | some list => constructions.findM? fun handle => return !(← document.contains list handle)
  | none => return constructions.head?

end Document

end SsrBuild
