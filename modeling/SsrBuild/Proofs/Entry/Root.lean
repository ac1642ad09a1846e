import SsrBuild.Proofs.Entry.PerRequest

/-!
Which constructions of the app are found. Only the first default export of a module is looked at, and
below it the constructions that are not below the list of parameters of what it exports
(`IsCandidate`). The first of them becomes a call if it stands outside of the parentheses (`IsRoot`).
A receiver stands beside the list in the tree and between its parentheses in the text, so a
construction in a receiver is a candidate as well; if it comes first it is lost with the parameters,
and the roots behind it stay as they are. Without a candidate the module stays as it is
(`perRequest_of_firstExport`). So roots of another default export are missed, as where overloads of a
function come before the function itself (`perRequest_overloadedModule`).
-/

set_option autoImplicit false

namespace SsrBuild

/-- No row before the first one that passes a test passes it. -/
theorem le_of_firstRow? {rows : List Row} {test : Nat → Row → Bool} {first index : Nat} {row : Row}
    (h : firstRow? rows test = some first) (hrow : rows[index]? = some row)
    (htest : test index row = true) : first ≤ index := by
  obtain ⟨entry, hfind, rfl⟩ := Option.map_eq_some_iff.mp h
  obtain ⟨-, place, hplace, hentry, hearlier⟩ := List.find?_eq_some_iff_getElem.mp hfind
  obtain ⟨hindex, hget⟩ := List.getElem?_eq_some_iff.mp hrow
  have hfirst : entry.2 = place := by
    rw [← hentry, List.getElem_zipIdx, Nat.zero_add]
  rw [hfirst]
  refine Nat.le_of_not_lt fun hlt ↦ ?_
  have hfails := hearlier index hlt
  rw [List.getElem_zipIdx, hget, Nat.zero_add, htest] at hfails
  cases hfails

/-- The first default export of a module. -/
def defaultExport? (rows : List Row) : Option Nat :=
  firstRow? rows fun _ row ↦ row.kind == .exportDefault

/-- A construction of the app below a default export that is neither the list of parameters of what
it exports nor below that list. -/
def IsCandidate (rows : List Row) (defaultExport index : Nat) : Prop :=
  ∃ row ∈ rows[index]?, row.kind = .newExpression ∧ row.name = some "Vue" ∧
    defaultExport ∈ ancestors rows index ∧
      ∀ list ∈ exportedParameters? rows defaultExport, list ≠ index ∧ list ∉ ancestors rows index

instance (rows : List Row) (defaultExport index : Nat) :
    Decidable (IsCandidate rows defaultExport index) :=
  inferInstanceAs (Decidable (∃ row ∈ rows[index]?, _))

/-- Does a node lie between the parentheses of the parameters of what is exported? -/
def IsAmongParameters (rows : List Row) (defaultExport index : Nat) : Prop :=
  ∃ row ∈ rows[index]?, ∃ list ∈ exportedParameters? rows defaultExport,
    ∃ listRow ∈ rows[list]?, listRow.span.covers row.span = true

instance (rows : List Row) (defaultExport index : Nat) :
    Decidable (IsAmongParameters rows defaultExport index) :=
  inferInstanceAs (Decidable (∃ row ∈ rows[index]?, _))

/-- A construction of the app below a default export that is not among the parameters of what it
exports, neither in the tree nor in the text. -/
def IsRoot (rows : List Row) (defaultExport index : Nat) : Prop :=
  IsCandidate rows defaultExport index ∧ ¬ IsAmongParameters rows defaultExport index

instance (rows : List Row) (defaultExport index : Nat) :
    Decidable (IsRoot rows defaultExport index) :=
  inferInstanceAs (Decidable (_ ∧ _))

/-- The candidates are what the search for a construction finds. -/
theorem construction?_eq (rows : List Row) (defaultExport : Nat) :
    construction? rows defaultExport (exportedParameters? rows defaultExport) =
      firstRow? rows fun index _ ↦ decide (IsCandidate rows defaultExport index) := by
  refine firstRow?_congr fun index row hrow ↦ ?_
  rw [Bool.eq_iff_iff, decide_eq_true_eq]
  simp only [IsCandidate, hrow, Option.mem_some_iff, exists_eq_left', Bool.and_eq_true, beq_iff_eq,
    decide_eq_true_eq, Option.all_eq_true, Bool.not_eq_true', Bool.or_eq_false_iff,
    beq_eq_false_iff_ne, decide_eq_false_iff_not, and_assoc]
  tauto

/-- A candidate is a row. -/
theorem IsCandidate.exists_row {rows : List Row} {defaultExport index : Nat}
    (h : IsCandidate rows defaultExport index) : ∃ row, rows[index]? = some row := by
  obtain ⟨row, hrow, -⟩ := h
  exact ⟨row, hrow⟩

/-- What is found is the first candidate. -/
theorem construction?_eq_some_iff {rows : List Row} {defaultExport first : Nat} :
    construction? rows defaultExport (exportedParameters? rows defaultExport) = some first ↔
      IsCandidate rows defaultExport first ∧
        ∀ other, IsCandidate rows defaultExport other → first ≤ other := by
  set isCandidate : Nat → Row → Bool := fun index _ ↦ decide (IsCandidate rows defaultExport index)
  rw [construction?_eq]
  have hfirst : ∀ {found}, firstRow? rows isCandidate = some found →
      IsCandidate rows defaultExport found ∧
        ∀ other, IsCandidate rows defaultExport other → found ≤ other := by
    intro found hfound
    obtain ⟨row, -, htest⟩ := exists_of_firstRow? hfound
    refine ⟨of_decide_eq_true htest, fun other hother ↦ ?_⟩
    obtain ⟨otherRow, hotherRow⟩ := hother.exists_row
    exact le_of_firstRow? hfound hotherRow (decide_eq_true hother)
  constructor
  · exact hfirst
  · rintro ⟨hcandidate, hleast⟩
    obtain ⟨row, hrow⟩ := hcandidate.exists_row
    have htest : isCandidate first row = true := decide_eq_true hcandidate
    obtain ⟨found, hfound⟩ := exists_firstRow? hrow htest
    obtain ⟨hother, hle⟩ := hfirst hfound
    obtain rfl := Nat.le_antisymm (hle first hcandidate) (hleast found hother)
    exact hfound

/-- Where there is no candidate, none is found. -/
theorem construction?_eq_none {rows : List Row} {defaultExport : Nat}
    (h : ∀ index, ¬ IsCandidate rows defaultExport index) :
    construction? rows defaultExport (exportedParameters? rows defaultExport) = none :=
  Option.eq_none_iff_forall_ne_some.mpr fun index hfound ↦
    h index (construction?_eq_some_iff.mp hfound).1

/-- Whether a candidate is the first one is seen from the rows. -/
theorem isLeast_of_forall_lt {rows : List Row} {defaultExport first : Nat}
    (h : ∀ other < rows.length, IsCandidate rows defaultExport other → first ≤ other) :
    ∀ other, IsCandidate rows defaultExport other → first ≤ other := by
  intro other hother
  obtain ⟨row, hrow⟩ := hother.exists_row
  exact h other (List.getElem?_eq_some_iff.mp hrow).1 hother

namespace Entry

variable {dialect : Grammar.Dialect} {source : List Char} {document : Document}

/-- The edit of the parameters takes back that of a construction if it is among these. -/
theorem takesBack_iff {rows : List Row} {defaultExport construction : Nat} {row : Row}
    (hrow : rows[construction]? = some row) {edit : Edit}
    (hedit : Site.parametersEdit? source rows
      ⟨construction, exportedParameters? rows defaultExport⟩ = some edit) (text : List Char) :
    edit.takesBack ⟨row.span, text⟩ = true ↔
      IsAmongParameters rows defaultExport construction := by
  obtain ⟨list, listRow, hlist, hlistRow, hspan⟩ := Site.span_of_parametersEdit? hedit
  simp only at hlist
  simp only [Edit.takesBack, IsAmongParameters, hspan, hrow, hlist, hlistRow, Option.mem_some_iff,
    exists_eq_left']

/-- Only the first default export of a module is looked at, and below it the first candidate, where
the spans of that, of its first argument and of the list of parameters go forward. If it is a root it
becomes a call with the options that are written and the context, and no more than the parameters are
replaced besides. If it is among the parameters, which is where it stands in a receiver, only these
are replaced, whatever other constructions there are. If there is no candidate, the module stays as it
is, whatever its other default exports have. -/
theorem perRequest_of_firstExport (hparse : Document.parse 0 dialect source = .ok document)
    {defaultExport : Nat} (hexport : defaultExport? document.rows = some defaultExport) :
    (∀ site : Site, site.parameters = exportedParameters? document.rows defaultExport →
      IsCandidate document.rows defaultExport site.construction →
      (∀ other, IsCandidate document.rows defaultExport other → site.construction ≤ other) →
      site.GoesForward document.rows →
        ∃ row options, document.rows[site.construction]? = some row ∧
          writtenOptions? source row = some options ∧
          (IsRoot document.rows defaultExport site.construction →
            perRequest dialect source = .ok (importLine ++ substitute
              (⟨row.span, "initApp(".toList ++ options ++ ", context)".toList⟩ ::
                (site.parametersEdit? source document.rows).toList) 0 source)) ∧
          (IsAmongParameters document.rows defaultExport site.construction →
            ∃ edit, site.parametersEdit? source document.rows = some edit ∧
              perRequest dialect source = .ok (importLine ++ substitute [edit] 0 source))) ∧
    ((∀ index, ¬ IsCandidate document.rows defaultExport index) →
      perRequest dialect source = .ok source) := by
  have hfresh := Document.isFresh_of_parse hparse
  have hrun := perRequest_of_parse hparse
  have hsites := site?_of_some hexport
  refine ⟨?_, fun hnone ↦ ?_⟩
  · rintro ⟨first, -⟩ rfl hcandidate hleast hforward
    have hfound := construction?_eq_some_iff.mpr ⟨hcandidate, hleast⟩
    have hsite : site? document.rows =
        some ⟨first, exportedParameters? document.rows defaultExport⟩ := by
      rw [hsites, hfound, Option.map_some]
    obtain ⟨edits, hedits, hrewrite⟩ :=
      rewriteAt_eq hfresh hsite hforward (isClear_of_site? hparse hsite)
    rw [Document.source_of_parse hparse] at hedits hrewrite
    obtain ⟨hboth, row, options, hrow, hoptions, rfl⟩ := of_edits? hedits
    have htaken := @takesBack_iff source _ defaultExport _ _ hrow
    rw [hsite] at hrun
    refine ⟨row, options, hrow, hoptions, fun hroot ↦ ?_, fun hamong ↦ ?_⟩
    · rw [hrun]
      refine hrewrite.trans ?_
      cases hedit : Site.parametersEdit? source document.rows
          ⟨first, exportedParameters? document.rows defaultExport⟩ with
      | none => rfl
      | some edit =>
        have hkept := fun text ↦ Bool.eq_false_iff.mpr (mt (htaken hedit text).mp hroot.2)
        simp [survivors, hkept]
    · obtain ⟨-, -, list, hlist, -⟩ := id hamong
      rw [Option.mem_def.mp hlist, Option.isSome_some] at hboth
      obtain ⟨edit, hedit⟩ := Option.isSome_iff_exists.mp hboth
      rw [← Option.mem_def.mp hlist] at hedit
      have htakes := fun text ↦ (htaken hedit text).mpr hamong
      refine ⟨edit, hedit, hrun.trans (hrewrite.trans ?_)⟩
      simp [hedit, survivors, htakes]
  · rw [hrun, hsites, construction?_eq_none hnone, Option.map_none]

/-- A module that exports a function, and an interface that is merged with it. -/
def mergedModule : Document :=
  ⟨0, "export default function f() { return new Vue(o) }\nexport default interface f {}".toList,
    [⟨.program, ⟨0, 79⟩, none, 14, none, [], false⟩,
      ⟨.exportDefault, ⟨0, 49⟩, some 0, 10, none, [], false⟩,
      ⟨.function, ⟨15, 49⟩, some 1, 10, none, [], false⟩,
      ⟨.identifier, ⟨24, 25⟩, some 2, 4, some "f", [], false⟩,
      ⟨.formalParameters, ⟨25, 27⟩, some 2, 5, none, [], false⟩,
      ⟨.other, ⟨28, 49⟩, some 2, 10, none, [], false⟩,
      ⟨.other, ⟨30, 47⟩, some 5, 10, none, [], false⟩,
      ⟨.newExpression, ⟨37, 47⟩, some 6, 10, some "Vue", [⟨45, 46⟩], false⟩,
      ⟨.identifier, ⟨41, 44⟩, some 7, 9, some "Vue", [], false⟩,
      ⟨.identifier, ⟨45, 46⟩, some 7, 10, some "o", [], false⟩,
      ⟨.exportDefault, ⟨50, 79⟩, some 0, 14, none, [], false⟩,
      ⟨.other, ⟨65, 79⟩, some 10, 14, none, [], false⟩,
      ⟨.identifier, ⟨75, 76⟩, some 11, 13, some "f", [], false⟩,
      ⟨.other, ⟨77, 79⟩, some 11, 14, none, [], false⟩], []⟩

/-- A module whose receiver has a type that builds an app, before the app itself. -/
def builtReceiverModule : Document :=
  ⟨0, "export default function f(this: { [new Vue({}).x]: any }) { return new Vue({}) }".toList,
    [⟨.program, ⟨0, 80⟩, none, 21, none, [], false⟩,
      ⟨.exportDefault, ⟨0, 80⟩, some 0, 21, none, [], false⟩,
      ⟨.function, ⟨15, 80⟩, some 1, 21, none, [], false⟩,
      ⟨.identifier, ⟨24, 25⟩, some 2, 4, some "f", [], false⟩,
      ⟨.other, ⟨26, 56⟩, some 2, 15, none, [], false⟩,
      ⟨.other, ⟨30, 56⟩, some 4, 15, none, [], false⟩,
      ⟨.other, ⟨32, 56⟩, some 5, 15, none, [], false⟩,
      ⟨.other, ⟨34, 54⟩, some 6, 15, none, [], false⟩,
      ⟨.other, ⟨35, 48⟩, some 7, 13, none, [], false⟩,
      ⟨.newExpression, ⟨35, 46⟩, some 8, 12, some "Vue", [⟨43, 45⟩], false⟩,
      ⟨.identifier, ⟨39, 42⟩, some 9, 11, some "Vue", [], false⟩,
      ⟨.objectExpression, ⟨43, 45⟩, some 9, 12, none, [], false⟩,
      ⟨.other, ⟨47, 48⟩, some 8, 13, none, [], false⟩,
      ⟨.other, ⟨49, 54⟩, some 7, 15, none, [], false⟩,
      ⟨.other, ⟨51, 54⟩, some 13, 15, none, [], false⟩,
      ⟨.formalParameters, ⟨25, 57⟩, some 2, 16, none, [], false⟩,
      ⟨.other, ⟨58, 80⟩, some 2, 21, none, [], false⟩,
      ⟨.other, ⟨60, 78⟩, some 16, 21, none, [], false⟩,
      ⟨.newExpression, ⟨67, 78⟩, some 17, 21, some "Vue", [⟨75, 77⟩], false⟩,
      ⟨.identifier, ⟨71, 74⟩, some 18, 20, some "Vue", [], false⟩,
      ⟨.objectExpression, ⟨75, 77⟩, some 18, 21, none, [], false⟩], []⟩

/-- In the first module the construction becomes a call. In the second one only the parameters are
replaced, and the root of the module stays. -/
theorem perRequest_mergedModule :
    perRequest ⟨true, true, false⟩ mergedModule.source = .ok (importLine ++
      ("export default function f(context) { return initApp(o, context) }\n" ++
        "export default interface f {}").toList) ∧
    IsRoot builtReceiverModule.rows 1 18 ∧
    perRequest ⟨true, true, false⟩ builtReceiverModule.source = .ok (importLine ++
      "export default function f(context) { return new Vue({}) }".toList) := by
  refine ⟨?_, by decide +kernel, ?_⟩
  · have hparse : Document.parse 0 ⟨true, true, false⟩ mergedModule.source = .ok mergedModule := by
      decide +kernel
    have hexport : defaultExport? mergedModule.rows = some 1 := by decide +kernel
    have hforward : Site.GoesForward mergedModule.rows ⟨7, some 4⟩ := by
      constructor <;> decide +kernel
    obtain ⟨row, options, hrow, hoptions, hrewritten, -⟩ :=
      (perRequest_of_firstExport hparse hexport).1 ⟨7, some 4⟩ (by decide +kernel)
        (by decide +kernel) (isLeast_of_forall_lt (by decide +kernel)) hforward
    obtain rfl := Option.some.inj hrow
    have hwritten : writtenOptions? mergedModule.source
        ⟨.newExpression, ⟨37, 47⟩, some 6, 10, some "Vue", [⟨45, 46⟩], false⟩ =
          some "o".toList := by decide +kernel
    obtain rfl := Option.some.inj (hwritten.symm.trans hoptions)
    rw [hrewritten (by decide +kernel)]
    decide +kernel
  · have hparse : Document.parse 0 ⟨true, true, false⟩ builtReceiverModule.source =
        .ok builtReceiverModule := by decide +kernel
    have hexport : defaultExport? builtReceiverModule.rows = some 1 := by decide +kernel
    have hforward : Site.GoesForward builtReceiverModule.rows ⟨9, some 15⟩ := by
      constructor <;> decide +kernel
    obtain ⟨-, -, -, -, -, hamong⟩ :=
      (perRequest_of_firstExport hparse hexport).1 ⟨9, some 15⟩ (by decide +kernel)
        (by decide +kernel) (isLeast_of_forall_lt (by decide +kernel)) hforward
    obtain ⟨edit, hedit, hrewritten⟩ := hamong (by decide +kernel)
    have hcontext : Site.parametersEdit? builtReceiverModule.source builtReceiverModule.rows
        ⟨9, some 15⟩ = some ⟨⟨25, 57⟩, "(context)".toList⟩ := by decide +kernel
    obtain rfl := Option.some.inj (hcontext.symm.trans hedit)
    rw [hrewritten]
    decide +kernel

/-- A module that exports a function with an overload before it. -/
def overloadedModule : Document :=
  ⟨0, ("export default function f(): any;\n" ++
      "export default function f() { return new Vue({}) }").toList,
    [⟨.program, ⟨0, 84⟩, none, 16, none, [], false⟩,
      ⟨.exportDefault, ⟨0, 33⟩, some 0, 7, none, [], false⟩,
      ⟨.function, ⟨15, 33⟩, some 1, 7, none, [], false⟩,
      ⟨.identifier, ⟨24, 25⟩, some 2, 4, some "f", [], false⟩,
      ⟨.formalParameters, ⟨25, 27⟩, some 2, 5, none, [], false⟩,
      ⟨.other, ⟨27, 32⟩, some 2, 7, none, [], false⟩,
      ⟨.other, ⟨29, 32⟩, some 5, 7, none, [], false⟩,
      ⟨.exportDefault, ⟨34, 84⟩, some 0, 16, none, [], false⟩,
      ⟨.function, ⟨49, 84⟩, some 7, 16, none, [], false⟩,
      ⟨.identifier, ⟨58, 59⟩, some 8, 10, some "f", [], false⟩,
      ⟨.formalParameters, ⟨59, 61⟩, some 8, 11, none, [], false⟩,
      ⟨.other, ⟨62, 84⟩, some 8, 16, none, [], false⟩,
      ⟨.other, ⟨64, 82⟩, some 11, 16, none, [], false⟩,
      ⟨.newExpression, ⟨71, 82⟩, some 12, 16, some "Vue", [⟨79, 81⟩], false⟩,
      ⟨.identifier, ⟨75, 78⟩, some 13, 15, some "Vue", [], false⟩,
      ⟨.objectExpression, ⟨79, 81⟩, some 13, 16, none, [], false⟩], []⟩

/-- It stays as it is, though its second default export has a root: the first one has none. -/
theorem perRequest_overloadedModule :
    Document.parse 0 ⟨true, true, false⟩ overloadedModule.source = .ok overloadedModule ∧
    defaultExport? overloadedModule.rows = some 1 ∧
    (∃ row ∈ overloadedModule.rows[7]?, row.kind = .exportDefault) ∧
    IsRoot overloadedModule.rows 7 13 ∧
    perRequest ⟨true, true, false⟩ overloadedModule.source = .ok overloadedModule.source := by
  refine ⟨?_, ?_, ?_, ?_, ?_⟩
  · decide +kernel
  · decide +kernel
  · decide +kernel
  · decide +kernel
  · decide +kernel

end Entry

end SsrBuild
